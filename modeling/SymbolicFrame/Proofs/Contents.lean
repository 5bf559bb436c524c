import SymbolicFrame.Edit.Perform

/-!
# What a frame shows, and what an edit does to it

The contents of a frame are its live regions as lists, without the dead slots and without whether
a list of monitors was made. On contents an edit is two plain functions. Its verdict says whether
it is done and what it answers, or why it stops; its change says what it leaves when it is done.
Nothing is changed before the verdict, no slot is addressed through an offset, and no step is
outside its bounds, save for parameters whose widths add up to more than a word.

`Edit.perform` is shown elsewhere to be these two functions on the contents of its frame.
-/

namespace SymbolicFrame

/-- What a frame shows. -/
structure Contents where
  /-- The local slots, from local zero up. -/
  locals : List Slot
  /-- The live stack slots, from the bottom up. -/
  stack : List Slot
  /-- The most slots that the operand stack may take. -/
  maxStack : Nat
  /-- Scope of the method being decoded. -/
  scope : Scope
  /-- The monitors held, outermost first. -/
  monitors : List Value
  /-- Kind checks are relaxed, for good. -/
  relaxed : Bool
  /-- Checks that edits make. -/
  policy : Policy
  deriving DecidableEq

/-- What a frame shows. -/
def Frame.contents (frame : Frame) : Contents :=
  ⟨frame.buffer.locals, frame.buffer.stack, frame.maxStack, frame.scope, frame.locks,
    frame.relaxed, frame.policy⟩

namespace Frame

variable (frame : Frame)

@[simp]
theorem contents_locals : frame.contents.locals = frame.buffer.locals := rfl

@[simp]
theorem contents_stack : frame.contents.stack = frame.buffer.stack := rfl

@[simp]
theorem contents_maxStack : frame.contents.maxStack = frame.maxStack := rfl

@[simp]
theorem contents_scope : frame.contents.scope = frame.scope := rfl

@[simp]
theorem contents_monitors : frame.contents.monitors = frame.locks := rfl

@[simp]
theorem contents_relaxed : frame.contents.relaxed = frame.relaxed := rfl

@[simp]
theorem contents_policy : frame.contents.policy = frame.policy := rfl

end Frame

namespace Contents

/-- What a fresh frame shows. -/
def blank (scope : Scope) (maxLocals maxStack : Nat) (policy : Policy) : Contents :=
  ⟨List.replicate maxLocals none, [], maxStack, scope, [], false, policy⟩

/-- What a copy of some parts shows. -/
def kept (contents : Contents) (parts : Parts) : Contents :=
  { contents with
    locals := if parts.locals then contents.locals else List.replicate contents.locals.length none
    stack := if parts.stack then contents.stack else []
    monitors := if parts.monitors then contents.monitors else [] }

end Contents

/-- A slot of a region, empty beyond it. -/
def slotAt (slots : List Slot) (index : Nat) : Slot := slots.getD index none

/-- A slot is what is found in its place, if anything is. -/
theorem slotAt_eq (slots : List Slot) (index : Nat) :
    slotAt slots index = slots[index]?.getD none := List.getD_eq_getElem?_getD

/-- A slot that lies in a region is found there. -/
theorem getElem?_eq_slotAt {slots : List Slot} {index : Nat} (inside : index < slots.length) :
    slots[index]? = some (slotAt slots index) := by
  rw [slotAt_eq, List.getElem?_eq_getElem inside, Option.getD_some]

/-- The slots that a value takes under a kind: its own, and an empty one above it if the kind is
wide. -/
def Kind.slots (kind : Kind) (value : Value) : List Slot :=
  some value :: if kind.isWide then [none] else []

/-- Locals after emptying a wide value right below one of them, whose second slot that one is. -/
def emptiedBelow (locals : List Slot) (index : Nat) : List Slot :=
  if 0 < index ∧ (slotAt locals (index - 1)).holdsWide = true then locals.set (index - 1) none
  else locals

/-- Locals after writing the slots of a value. -/
def written (locals : List Slot) (index : Nat) (kind : Kind) (value : Value) : List Slot :=
  if kind.isWide then (locals.set index (some value)).set (index + 1) none
  else locals.set index (some value)

/-- Locals after storing a value of a kind. -/
def stored (locals : List Slot) (index : Nat) (kind : Kind) (value : Value) : List Slot :=
  written (emptiedBelow locals index) index kind value

/-- Locals after storing parameters one after the other from a local on, each under its own
kind. -/
def storedFrom (locals : List Slot) (index : Nat) : List Value → List Slot
  | [] => locals
  | parameter :: rest =>
    storedFrom (stored locals index parameter.kind parameter)
      (index + parameter.kind.slotWidth) rest

/-- Emptying a wide value keeps the number of locals. -/
@[simp]
theorem length_emptiedBelow (locals : List Slot) (index : Nat) :
    (emptiedBelow locals index).length = locals.length := by
  unfold emptiedBelow
  split
  · exact List.length_set
  · rfl

/-- Writing a value keeps the number of locals. -/
@[simp]
theorem length_written (locals : List Slot) (index : Nat) (kind : Kind) (value : Value) :
    (written locals index kind value).length = locals.length := by
  unfold written
  split <;> simp

/-- Storing a value keeps the number of locals. -/
@[simp]
theorem length_stored (locals : List Slot) (index : Nat) (kind : Kind) (value : Value) :
    (stored locals index kind value).length = locals.length := by
  rw [stored, length_written, length_emptiedBelow]

/-- Storing parameters keeps the number of locals. -/
@[simp]
theorem length_storedFrom (locals : List Slot) (index : Nat) (parameters : List Value) :
    (storedFrom locals index parameters).length = locals.length := by
  induction parameters generalizing locals index with
  | nil => rfl
  | cons parameter rest ih => rw [storedFrom, ih, length_stored]

/-! ## Verdicts -/

section Verdicts

variable {α : Type}

/-- An edit is refused. -/
def refused (cause : FrameError) : Except Stop α := .error (.refusal cause)

/-- Whether a policy lets values of a kind be held. -/
def Policy.holds (policy : Policy) (kind : Kind) : Except Stop Unit :=
  if kind = .void then refused .voidKind
  else if kind.isWordLike = true ∧ policy.allowWordKinds = false then refused (.wordKind kind)
  else .ok ()

/-- Whether so many locals have the given ones among them. The last of these is named if not. -/
def within (maxLocals index width : Nat) : Except Stop Unit :=
  if index + width ≤ maxLocals then .ok ()
  else refused (.localIndexOutOfRange
    (min (index + (max width 1 - 1)) Word.largest.toNat) maxLocals)

/-- The number of locals that parameters take from a local on, if a policy lets each of them be
held. -/
def Policy.parametersEnd (policy : Policy) (index : Nat) : List Value → Except Stop Nat
  | [] => .ok index
  | parameter :: rest =>
    match policy.holds parameter.kind with
    | .error stop => .error stop
    | .ok () =>
      if index + parameter.kind.slotWidth < Word.limit then
        policy.parametersEnd (index + parameter.kind.slotWidth) rest
      else .error .breach

namespace Contents

/-- Whether a value may stand where one of a kind is asked for. -/
def accepts (contents : Contents) (kind : Kind) (value : Value) : Except Stop Unit :=
  if value.kind = kind ∨ contents.relaxed = true ∨ contents.policy.checkKinds = false then .ok ()
  else refused (.kindMismatch kind value.kind)

/-- Whether a value of a kind may be pushed. -/
def pushes (contents : Contents) (kind : Kind) (value : Value) : Except Stop Unit := do
  contents.policy.holds kind
  contents.accepts kind value
  if contents.maxStack < contents.stack.length + kind.slotWidth then
    refused (.stackOverflow contents.maxStack)
  else .ok ()

/-- Whether any slot may be pushed. -/
def pushesRaw (contents : Contents) : Except Stop Unit :=
  if contents.maxStack ≤ contents.stack.length then refused (.stackOverflow contents.maxStack)
  else .ok ()

/-- The value that popping a kind gives. -/
def popped (contents : Contents) (kind : Kind) : Except Stop Value :=
  let low := contents.stack.length - kind.slotWidth
  if kind = .void then refused .voidKind
  else if contents.stack.length < kind.slotWidth then refused .emptyStack
  else if kind.isWide = true ∧ (slotAt contents.stack (low + 1)).isSome = true then
    refused (.corruptHighWord (contents.locals.length + low + 1))
  else match slotAt contents.stack low with
    | none => refused (.missingValue (contents.locals.length + low))
    | some value => do
      contents.accepts kind value
      return value

/-- The slot on top of the stack. -/
def poppedRaw (contents : Contents) : Except Stop Slot :=
  if contents.stack.length = 0 then refused .emptyStack
  else .ok (slotAt contents.stack (contents.stack.length - 1))

/-- The value that loading a kind from a local gives. -/
def loaded (contents : Contents) (index : Nat) (kind : Kind) : Except Stop Value :=
  if kind = .void then refused .voidKind
  else do
    within contents.locals.length index kind.slotWidth
    match slotAt contents.locals index with
    | none => refused (.missingValue index)
    | some value =>
      if kind.isWide = true ∧ (slotAt contents.locals (index + 1)).isSome = true then
        refused (.corruptHighWord (index + 1))
      else do
        contents.accepts kind value
        return value

/-- The arguments that a number of stack slots hold. -/
def arguments (contents : Contents) (size : Nat) : Except Stop (List Value) :=
  let base := contents.stack.length - size
  if contents.stack.length < size then refused .emptyStack
  else match EditM.windowValues base false (contents.stack.drop base) with
    | .ok values => .ok values
    | .error index => refused (.missingValue (contents.locals.length + index))

/-- Whether the stack may be cut down to a size. -/
def cuts (contents : Contents) (size : Nat) : Except Stop Unit :=
  if contents.stack.length < size then
    refused (.truncateAboveStack size contents.stack.length)
  else if 0 < size ∧ size < contents.stack.length ∧
      (slotAt contents.stack (size - 1)).holdsWide = true ∧
      slotAt contents.stack size = none then
    refused (.splitsWideValue size)
  else .ok ()

/-- Whether a value of a kind may be stored in a local. -/
def stores (contents : Contents) (index : Nat) (kind : Kind) (value : Value) :
    Except Stop Unit := do
  contents.policy.holds kind
  contents.accepts kind value
  within contents.locals.length index kind.slotWidth

/-- Whether parameters may be stored from local zero on. -/
def storesParameters (contents : Contents) (parameters : List Value) : Except Stop Unit := do
  let width ← contents.policy.parametersEnd 0 parameters
  within contents.locals.length 0 width

/-- Whether the locals of another frame may be taken over. -/
def takesLocals (contents source : Contents) : Except Stop Unit :=
  if source.locals.length ≠ contents.locals.length then
    refused (.localsMismatch contents.locals.length source.locals.length)
  else .ok ()

/-- Whether the stack of another frame may be taken over. -/
def takesStack (contents source : Contents) : Except Stop Unit :=
  if contents.maxStack < source.stack.length then refused (.stackOverflow contents.maxStack)
  else .ok ()

/-- The monitor to be released. -/
def released (contents : Contents) : Except Stop Value :=
  match contents.monitors.getLast? with
  | none => refused .noLockHeld
  | some object => .ok object

/-- The answer of an edit that gives nothing back. -/
def done : Except Stop Unit → Except Stop Answer := (· >>= fun _ => .ok .done)

/-- The answer of an edit that gives a value back. -/
def given : Except Stop Value → Except Stop Answer := (· >>= fun value => .ok (.slot (some value)))

/-- What an edit answers, or why it stops. -/
def verdict (contents : Contents) : Edit Contents → Except Stop Answer
  | .push kind value => done (contents.pushes kind value)
  | .pop kind => given (contents.popped kind)
  | .pushRaw _ => done contents.pushesRaw
  | .popRaw => contents.poppedRaw >>= fun slot => .ok (.slot slot)
  | .popArguments size => contents.arguments size.toNat >>= fun values => .ok (.values values)
  | .truncateStack size => done (contents.cuts size.toNat)
  | .clearStack | .clearLocals | .replaceMonitors _ => .ok .done
  | .loadLocal index kind => given (contents.loaded index.toNat kind)
  | .storeLocal index kind value => done (contents.stores index.toNat kind value)
  | .invalidateLocal index => done (within contents.locals.length index.toNat 1)
  | .storeParameters parameters => done (contents.storesParameters parameters)
  | .replaceLocals source => done (contents.takesLocals source)
  | .replaceStack source => done (contents.takesStack source)
  | .lock _ object _ => done (contents.accepts .object object)
  | .unlock => given contents.released

end Contents
end Verdicts

/-! ## Changes -/

/-- What an edit leaves when it is done. -/
def Contents.change (contents : Contents) : Edit Contents → Contents
  | .push kind value =>
    { contents with
      stack := contents.stack ++ kind.slots value
      relaxed := contents.relaxed || kind.isWordLike }
  | .pop kind =>
    { contents with stack := contents.stack.take (contents.stack.length - kind.slotWidth) }
  | .pushRaw slot => { contents with stack := contents.stack ++ [slot] }
  | .popRaw => { contents with stack := contents.stack.take (contents.stack.length - 1) }
  | .popArguments size =>
    { contents with stack := contents.stack.take (contents.stack.length - size.toNat) }
  | .truncateStack size => { contents with stack := contents.stack.take size.toNat }
  | .clearStack => { contents with stack := [] }
  | .loadLocal _ _ => contents
  | .storeLocal index kind value =>
    { contents with locals := stored contents.locals index.toNat kind value }
  | .invalidateLocal index => { contents with locals := contents.locals.set index.toNat none }
  | .clearLocals => { contents with locals := List.replicate contents.locals.length none }
  | .storeParameters parameters =>
    { contents with locals := storedFrom contents.locals 0 parameters }
  | .replaceLocals source =>
    { contents with
      locals := source.locals
      relaxed := contents.relaxed || source.relaxed }
  | .replaceStack source =>
    { contents with
      stack := source.stack
      relaxed := contents.relaxed || source.relaxed }
  | .replaceMonitors source => { contents with monitors := source.monitors }
  | .lock _ object _ => { contents with monitors := contents.monitors ++ [object] }
  | .unlock => { contents with monitors := contents.monitors.dropLast }

/-- No edit changes the policy. -/
@[simp]
theorem Contents.policy_change (contents : Contents) (edit : Edit Contents) :
    (contents.change edit).policy = contents.policy := by
  cases edit <;> rfl

namespace Edit

variable {Source Target : Type}

/-- An edit with its source seen in another way. -/
def map (view : Source → Target) : Edit Source → Edit Target
  | push kind value => push kind value
  | pop kind => pop kind
  | pushRaw slot => pushRaw slot
  | popRaw => popRaw
  | popArguments size => popArguments size
  | truncateStack size => truncateStack size
  | clearStack => clearStack
  | loadLocal index kind => loadLocal index kind
  | storeLocal index kind value => storeLocal index kind value
  | invalidateLocal index => invalidateLocal index
  | clearLocals => clearLocals
  | storeParameters parameters => storeParameters parameters
  | replaceLocals source => replaceLocals (view source)
  | replaceStack source => replaceStack (view source)
  | replaceMonitors source => replaceMonitors (view source)
  | lock scope object total => lock scope object total
  | unlock => unlock

/-- The frame that an edit takes over a part of. -/
def source? : Edit Source → Option Source
  | replaceLocals source | replaceStack source | replaceMonitors source => some source
  | push _ _ | pop _ | pushRaw _ | popRaw | popArguments _ | truncateStack _ | clearStack
  | loadLocal _ _ | storeLocal _ _ _ | invalidateLocal _ | clearLocals | storeParameters _
  | lock _ _ _ | unlock => none

/-- The source of an edit seen in another way is its source, seen so. -/
@[simp]
theorem source?_map (view : Source → Target) (edit : Edit Source) :
    (edit.map view).source? = edit.source?.map view := by
  cases edit <;> rfl

/-- The lock records after an edit that is done. -/
def reported (edit : Edit Source) (reservations : Reservations) : Reservations :=
  match edit with
  | lock scope _ total => reservations.raise scope total
  | _ => reservations

/-- The log records of an edit that is done, given the frame before it. -/
def records (edit : Edit Frame) (frame : Frame) (reservations : Reservations) : List Event :=
  match edit with
  | push kind _ =>
    if kind.isWordLike && !frame.relaxed then [.relaxing kind frame.scope] else []
  | replaceLocals source => [.replacingLocals frame source]
  | replaceStack source => [.replacingStack frame source]
  | lock scope _ total => reservations.eventsOf scope total
  | _ => []

end Edit

namespace Stop

/-- The log records of an edit that stops. Refusals that well-formed code may meet are not
recorded. -/
def records : Stop → List Event
  | refusal .voidKind | refusal (.kindMismatch _ _) | refusal (.wordKind _) | breach => []
  | refusal cause => [.fault cause]

/-- The outcome of an edit that stops. -/
def outcome : Stop → Outcome
  | refusal cause => .refusal cause
  | breach => .breach

/-- Stops with the same outcome are the same. -/
theorem outcome_inj {first second : Stop} (same : first.outcome = second.outcome) :
    first = second := by
  cases first <;> cases second <;> cases same <;> rfl

end Stop
end SymbolicFrame
