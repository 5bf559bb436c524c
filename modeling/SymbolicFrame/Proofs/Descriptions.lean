import SymbolicFrame.Proofs.Causes
import SymbolicFrame.Proofs.Windows

/-!
# What refusals say about the frame

The cause of a refusal names slots, sizes and kinds. A refused edit leaves the frame as it was, so
all of this can be looked up in the frame that it leaves: the slot that should hold a value is
there and empty, the one above a wide value is there and filled, a bound is that of the frame and
the request exceeds it. Slots are counted over the locals and the live stack together, stack slots
from the bottom of the stack, and locals by the last one that was asked for. Whatever the edit
counted in, the readers of the frame find there what the cause says.

The slots of the frame may be of any making, and its kinds may be checked or not.
-/

namespace SymbolicFrame

/-! ## What readers find -/

/-- A reader finds a slot at a place among the locals and the live stack. -/
def Frame.Finds (frame : Frame) (place : Nat) (slot : Slot) : Prop :=
  ∃ index : UInt64, index.toNat = place ∧ place < frame.valuesSize ∧ frame.valueAt index = slot

/-- A reader finds a slot at a place of the live stack, counted from the bottom. -/
def Frame.FindsOnStack (frame : Frame) (place : Nat) (slot : Slot) : Prop :=
  ∃ index : UInt64, index.toNat = place ∧ frame.stackAt index = .ok slot

namespace Frame.Fits

variable {frame : Frame} {place index : Nat}

/-- A local or a live stack slot is found at its place. -/
theorem finds (fits : frame.Fits)
    (live : place < frame.contents.locals.length + frame.contents.stack.length) :
    frame.Finds place (slotAt (frame.contents.locals ++ frame.contents.stack) place) := by
  have sizes := fits.sizes
  rw [fits.length_locals, fits.length_stack] at live
  have word : place.toUInt64.toNat = place := Word.toNat_toUInt64 (by omega)
  refine ⟨place.toUInt64, word, live, ?_⟩
  rw [fits.valueAt_eq, word]

/-- A local is found at its own index. -/
theorem finds_local (fits : frame.Fits) (inside : index < frame.contents.locals.length) :
    frame.Finds index (slotAt frame.contents.locals index) := by
  have found := fits.finds (Nat.lt_add_right _ inside)
  rwa [slotAt_eq, List.getElem?_append_left inside, ← slotAt_eq] at found

/-- A live stack slot is found above the locals. -/
theorem finds_stack (fits : frame.Fits) (inside : index < frame.contents.stack.length) :
    frame.Finds (frame.contents.locals.length + index) (slotAt frame.contents.stack index) := by
  have found := fits.finds (Nat.add_lt_add_left inside _)
  rwa [slotAt_eq, List.getElem?_append_right (Nat.le_add_right _ _), Nat.add_sub_cancel_left,
    ← slotAt_eq] at found

/-- A live stack slot is found at its place on the stack. -/
theorem findsOnStack (fits : frame.Fits) (inside : index < frame.contents.stack.length) :
    frame.FindsOnStack index (slotAt frame.contents.stack index) := by
  have sizes := fits.sizes
  have length := fits.length_stack
  have word : index.toUInt64.toNat = index := Word.toNat_toUInt64 (by omega)
  refine ⟨_, word, ?_⟩
  rw [fits.stackAt_eq, word, getElem?_eq_slotAt inside]

end Frame.Fits

/-! ## What edits ask for -/

namespace Edit

/-- The kinds that an edit asks for, or of which the values are that it is to store. -/
def kinds {Source : Type} : Edit Source → List Kind
  | push kind _ | pop kind | loadLocal _ kind | storeLocal _ kind _ => [kind]
  | storeParameters parameters => parameters.map (·.kind)
  | lock _ _ _ => [.object]
  | pushRaw _ | popRaw | popArguments _ | truncateStack _ | clearStack | invalidateLocal _
  | clearLocals | replaceLocals _ | replaceStack _ | replaceMonitors _ | unlock => []

/-- How many slots an edit is to take off the stack and give back. -/
def slotsOff {Source : Type} : Edit Source → Nat
  | pop kind => kind.slotWidth
  | popRaw => 1
  | popArguments size => size.toNat
  | push _ _ | pushRaw _ | truncateStack _ | clearStack | loadLocal _ _ | storeLocal _ _ _
  | invalidateLocal _ | clearLocals | storeParameters _ | replaceLocals _ | replaceStack _
  | replaceMonitors _ | lock _ _ _ | unlock => 0

/-- How many slots the stack would come to have by what an edit puts there. -/
def heightAfter (edit : Edit Frame) (frame : Frame) : Nat :=
  match edit with
  | push kind _ => frame.stackSize + kind.slotWidth
  | pushRaw _ => frame.stackSize + 1
  | replaceStack source => source.stackSize
  | pop _ | popRaw | popArguments _ | truncateStack _ | clearStack | loadLocal _ _
  | storeLocal _ _ _ | invalidateLocal _ | clearLocals | storeParameters _ | replaceLocals _
  | replaceMonitors _ | lock _ _ _ | unlock => frame.stackSize

/-- An edit is to cut the stack down to a size. -/
def CutsTo {Source : Type} (edit : Edit Source) (size : Nat) : Prop :=
  ∃ asked : UInt64, edit = truncateStack asked ∧ asked.toNat = size

/-- An edit asks for a kind where a value is, given with the edit or found in the frame. -/
inductive Weighs (frame : Frame) : Edit Frame → Kind → Value → Prop where
  /-- The value to be pushed. -/
  | push (kind : Kind) (value : Value) : Weighs frame (.push kind value) kind value
  /-- The value that lies as many slots below the top of the stack as its kind takes. -/
  | pop {kind : Kind} {value : Value}
    (found : frame.Finds (frame.maxLocals + (frame.stackSize - kind.slotWidth)) (some value)) :
    Weighs frame (.pop kind) kind value
  /-- The value in the local. -/
  | loadLocal {index : UInt64} (kind : Kind) {value : Value}
    (found : frame.Finds index.toNat (some value)) : Weighs frame (.loadLocal index kind) kind value
  /-- The value to be stored. -/
  | storeLocal (index : UInt64) (kind : Kind) (value : Value) :
    Weighs frame (.storeLocal index kind value) kind value
  /-- The object of which the monitor is to be acquired. -/
  | lock (scope : Scope) (object : Value) (total : UInt64) :
    Weighs frame (.lock scope object total) .object object

end Edit

/-- What a cause says is so of a frame that refuses an edit. -/
def FrameError.Describes (edit : Edit Frame) (frame : Frame) : FrameError → Prop
  | voidKind => .void ∈ edit.kinds
  | kindMismatch expected found =>
    frame.policy.checkKinds = true ∧ frame.relaxed = false ∧ found ≠ expected ∧
      ∃ value, edit.Weighs frame expected value ∧ value.kind = found
  | wordKind kind =>
    kind ∈ edit.kinds ∧ kind.isWordLike = true ∧ frame.policy.allowWordKinds = false
  | stackOverflow maxStack => maxStack = frame.maxStack ∧ maxStack < edit.heightAfter frame
  | emptyStack => frame.stackSize < edit.slotsOff
  | missingValue slot => frame.Finds slot none
  | corruptHighWord slot => ∃ value, frame.Finds slot (some value)
  | stackIndexOutOfRange _ _ => False
  | localIndexOutOfRange index maxLocals => maxLocals = frame.maxLocals ∧ maxLocals ≤ index
  | truncateAboveStack size stackSize =>
    edit.CutsTo size ∧ stackSize = frame.stackSize ∧ stackSize < size
  | splitsWideValue size =>
    edit.CutsTo size ∧ 0 < size ∧ size < frame.stackSize ∧
      (∃ wide, frame.FindsOnStack (size - 1) (some wide) ∧ wide.kind.isWide = true) ∧
      frame.FindsOnStack size none
  | localsMismatch expected found =>
    expected = frame.maxLocals ∧ found ≠ expected ∧
      ∃ source, edit = .replaceLocals source ∧ source.maxLocals = found
  | noLockHeld => frame.locks = []

/-! ## Causes of verdicts -/

namespace Edit

/-- A verdict on an edit is stopped for a cause that describes the frame, if for any. -/
def Tells (edit : Edit Frame) (frame : Frame) : Stop → Prop
  | .refusal cause => cause.Describes edit frame
  | .breach => True

variable {edit : Edit Frame} {frame : Frame}

/-- A kind that may not be held is one that was asked for. -/
theorem tells_holds {kind : Kind} (asked : kind ∈ edit.kinds) :
    Stops (edit.Tells frame) (frame.policy.holds kind) := by
  refine .guard (fun isVoid => ?_) fun _ => .guard (fun barred => ?_) fun _ => stops_ok ()
  · rw [isVoid] at asked
    exact asked
  · exact ⟨asked, barred⟩

/-- A value that is not accepted is of another kind than the one asked for. -/
theorem tells_accepts {kind : Kind} {value : Value} (weighs : edit.Weighs frame kind value) :
    Stops (edit.Tells frame) (frame.contents.accepts kind value) := by
  unfold Contents.accepts
  split
  · exact stops_ok ()
  · rename_i barred
    refine stops_refused ⟨?_, ?_, ?_, value, weighs, rfl⟩
    · exact eq_true_of_ne_false fun trusting => barred (.inr (.inr trusting))
    · exact eq_false_of_ne_true fun relaxed => barred (.inr (.inl relaxed))
    · exact fun same => barred (.inl same)

/-- The last of locals that are not all there lies beyond the locals. -/
theorem tells_within (fits : frame.Fits) (index width : Nat) :
    Stops (edit.Tells frame) (within frame.contents.locals.length index width) := by
  have sizes := fits.sizes
  have length := fits.length_locals
  have top : Word.largest.toNat + 1 = Word.limit := by decide
  unfold within
  split
  · exact stops_ok ()
  · exact stops_refused ⟨length, by omega⟩

/-- Parameters are stopped for a kind among theirs. -/
theorem tells_parametersEnd {parameters : List Value} (index : Nat)
    (asked : ∀ parameter ∈ parameters, parameter.kind ∈ edit.kinds) :
    Stops (edit.Tells frame) (frame.policy.parametersEnd index parameters) := by
  induction parameters generalizing index with
  | nil => exact stops_ok index
  | cons parameter rest ih =>
    obtain ⟨first, others⟩ := List.forall_mem_cons.1 asked
    unfold Policy.parametersEnd
    split
    · rename_i stop barred
      intro cause same
      cases same
      exact tells_holds first stop barred
    · split
      · exact ih _ others
      · intro cause same
        cases same
        trivial

/-- A pop is refused for what lies at the places that it looks at. -/
theorem tells_popped (fits : frame.Fits) (kind : Kind) :
    Stops ((Edit.pop kind).Tells frame) (frame.contents.popped kind) := by
  have length := fits.length_stack
  have positive := mt kind.slotWidth_eq_zero_iff.1
  unfold Contents.popped
  refine .guard (fun isVoid => ?_) fun solid => .guard (fun few => ?_) fun enough => ?_
  · exact List.mem_singleton.2 isVoid.symm
  · rw [length] at few
    exact few
  have width := positive solid
  have low := fits.finds_stack (by omega :
    frame.contents.stack.length - kind.slotWidth < frame.contents.stack.length)
  refine .guard (fun corrupt => ?_) fun _ => ?_
  · have two := kind.isWide_iff.1 corrupt.1
    have high := fits.finds_stack (by omega :
      frame.contents.stack.length - kind.slotWidth + 1 < frame.contents.stack.length)
    obtain ⟨value, filled⟩ := Option.isSome_iff_exists.1 corrupt.2
    rw [filled] at high
    exact ⟨value, high⟩
  split
  · rename_i empty
    rw [empty] at low
    exact stops_refused low
  · rename_i value filled
    rw [filled, length, fits.length_locals] at low
    exact .bind (tells_accepts (.pop low)) fun _ => stops_ok value

/-- A load is refused for what lies at the places that it looks at. -/
theorem tells_loaded (fits : frame.Fits) (index : UInt64) (kind : Kind) :
    Stops ((Edit.loadLocal index kind).Tells frame)
      (frame.contents.loaded index.toNat kind) := by
  have positive := mt kind.slotWidth_eq_zero_iff.1
  unfold Contents.loaded
  refine .guard (fun isVoid => ?_) fun solid => ?_
  · exact List.mem_singleton.2 isVoid.symm
  refine .after (tells_within fits index.toNat kind.slotWidth) fun _ passes => ?_
  have inside := within_iff.1 passes
  have width := positive solid
  have low := fits.finds_local (by omega : index.toNat < frame.contents.locals.length)
  split
  · rename_i empty
    rw [empty] at low
    exact stops_refused low
  · rename_i value filled
    rw [filled] at low
    refine .guard (fun corrupt => ?_) fun _ => ?_
    · have two := kind.isWide_iff.1 corrupt.1
      have high := fits.finds_local (by omega :
        index.toNat + 1 < frame.contents.locals.length)
      obtain ⟨above, held⟩ := Option.isSome_iff_exists.1 corrupt.2
      rw [held] at high
      exact ⟨above, high⟩
    · exact .bind (tells_accepts (.loadLocal kind low)) fun _ => stops_ok value

/-- Arguments are refused for the lowest stray slot of their window. -/
theorem tells_arguments (fits : frame.Fits) (size : UInt64) :
    Stops ((popArguments size).Tells frame) (frame.contents.arguments size.toNat) := by
  by_cases few : frame.contents.stack.length < size.toNat
  · have refuses : frame.contents.arguments size.toNat = refused .emptyStack := if_pos few
    rw [refuses]
    rw [fits.length_stack] at few
    exact stops_refused few
  rcases Contents.arguments_cases (Nat.not_lt.1 few) with ⟨gives, -⟩ | ⟨place, refuses, lowest⟩
  · rw [gives]
    exact stops_ok _
  · -- The stray slot is counted from the base of the window, and the base from that of the stack.
    have inside := lowest.stray.lt_length
    have empty := lowest.stray.slotAt_eq
    rw [List.length_drop] at inside
    rw [slotAt_eq, List.getElem?_drop, ← slotAt_eq] at empty
    have found := fits.finds_stack (by omega :
      frame.contents.stack.length - size.toNat + place < frame.contents.stack.length)
    rw [empty] at found
    rw [refuses]
    exact stops_refused found

/-- A cut is refused for a size above the stack, or for the two slots that it would part. -/
theorem tells_cuts (fits : frame.Fits) (size : UInt64) :
    Stops ((truncateStack size).Tells frame) (frame.contents.cuts size.toNat) := by
  have length := fits.length_stack
  unfold Contents.cuts
  refine .guard (fun above => ?_) fun _ => .guard (fun splits => ?_) fun _ => stops_ok ()
  · exact ⟨⟨size, rfl, rfl⟩, length, above⟩
  · obtain ⟨positive, inside, wide, empty⟩ := splits
    have low := fits.findsOnStack (by omega : size.toNat - 1 < frame.contents.stack.length)
    have high := fits.findsOnStack inside
    rw [empty] at high
    rw [length] at inside
    cases held : slotAt frame.contents.stack (size.toNat - 1) with
    | none =>
      rw [held] at wide
      cases wide
    | some value =>
      rw [held] at wide low
      exact ⟨⟨size, rfl, rfl⟩, positive, inside, ⟨value, low, wide⟩, high⟩

/-- What stops the verdict on an edit describes the frame. -/
theorem tells_verdict (edit : Edit Frame) (fits : frame.Fits)
    (sourceFits : ∀ source, edit.source? = some source → source.Fits) :
    Stops (edit.Tells frame) (frame.contents.verdict (edit.map Frame.contents)) := by
  have done {check : Except Stop Unit} (stops : Stops (edit.Tells frame) check) :
      Stops (edit.Tells frame) (Contents.done check) := stops.bind fun _ => stops_ok _
  have given {value : Except Stop Value} (stops : Stops (edit.Tells frame) value) :
      Stops (edit.Tells frame) (Contents.given value) := stops.bind fun _ => stops_ok _
  have length := fits.length_stack
  cases edit with
  | push kind value =>
    have asked : kind ∈ (push kind value : Edit Frame).kinds := List.mem_singleton.2 rfl
    refine done (.bind (tells_holds asked) fun _ => .bind (tells_accepts (.push kind value))
      fun _ => .guard (fun full => ?_) fun _ => stops_ok ())
    rw [length] at full
    exact ⟨rfl, full⟩
  | pop kind => exact given (tells_popped fits kind)
  | pushRaw slot =>
    refine done (.guard (fun full => ?_) fun _ => stops_ok ())
    rw [length] at full
    exact ⟨rfl, Nat.lt_succ_of_le full⟩
  | popRaw =>
    refine .bind (.guard (fun nothing => ?_) fun _ => stops_ok _) fun _ => stops_ok _
    rw [length] at nothing
    exact Nat.lt_one_iff.2 nothing
  | popArguments size => exact .bind (tells_arguments fits size) fun _ => stops_ok _
  | truncateStack size => exact done (tells_cuts fits size)
  | clearStack | clearLocals | replaceMonitors => exact stops_ok _
  | loadLocal index kind => exact given (tells_loaded fits index kind)
  | storeLocal index kind value =>
    have asked : kind ∈ (storeLocal index kind value : Edit Frame).kinds :=
      List.mem_singleton.2 rfl
    exact done (.bind (tells_holds asked) fun _ =>
      .bind (tells_accepts (.storeLocal index kind value)) fun _ => tells_within fits _ _)
  | invalidateLocal index => exact done (tells_within fits index.toNat 1)
  | storeParameters parameters =>
    refine done (.bind (tells_parametersEnd 0 fun parameter member => ?_) fun width =>
      tells_within fits 0 width)
    exact List.mem_map_of_mem member
  | replaceLocals source =>
    refine done (.guard (fun differs => ?_) fun _ => stops_ok ())
    have sourceLength := (sourceFits source rfl).length_locals
    rw [fits.length_locals, sourceLength] at differs
    refine ⟨fits.length_locals, ?_, source, rfl, sourceLength.symm⟩
    rwa [fits.length_locals, sourceLength]
  | replaceStack source =>
    refine done (.guard (fun full => ?_) fun _ => stops_ok ())
    rw [Frame.contents_maxStack, (sourceFits source rfl).length_stack] at full
    exact ⟨rfl, full⟩
  | lock scope object total => exact done (tells_accepts (.lock scope object total))
  | unlock =>
    refine given ?_
    unfold Contents.released
    split
    · rename_i nothing
      exact stops_refused (List.getLast?_eq_none_iff.1 nothing)
    · exact stops_ok _

/-- Whatever a refusal says is so of the frame that it leaves, which is the frame from before: the
slot that it names is a local or a live stack slot and is empty or filled as the cause has it, a
bound is that of the frame and is exceeded, a kind was asked for, and kinds are compared where they
are checked. -/
theorem describes_of_refusal (fits : frame.Fits)
    (sourceFits : ∀ source, edit.source? = some source → source.Fits)
    (reservations : Reservations) {cause : FrameError}
    (refused : (edit.perform frame reservations).outcome = .refusal cause) :
    (edit.perform frame reservations).frame = frame ∧
      cause.Describes edit (edit.perform frame reservations).frame := by
  have verdict := (outcome_eq_refusal_iff fits sourceFits reservations).1 refused
  rw [perform_of_error fits sourceFits reservations verdict]
  exact ⟨rfl, tells_verdict edit fits sourceFits (.refusal cause) verdict⟩

/-- On the stack is a wide value with its second slot, below one that has lost it to another value.
-/
theorem describes_of_refusal_on_raw_stack :
    let scope := Scope.root ⟨some 0, 0⟩ "A.b()V"
    let wide : Value := ⟨0, 0, .long, ""⟩
    let small : Value := ⟨0, 1, .int, ""⟩
    let frame : Frame :=
      ⟨⟨2, 4, #[none, none, some wide, none, some wide, some small]⟩, scope, Monitors.empty, true,
        Policy.standard⟩
    let outcome := fun edit : Edit Frame => (edit.perform frame Reservations.empty).outcome
    let last : UInt64 := 18446744073709551615
    frame.Fits ∧
      outcome (pop .long) = .refusal (.corruptHighWord 5) ∧
      (∃ value, frame.Finds 5 (some value)) ∧
      outcome (popArguments 3) = .refusal (.missingValue 3) ∧ frame.Finds 3 none ∧
      outcome (truncateStack 1) = .refusal (.splitsWideValue 1) ∧
      frame.FindsOnStack 1 none ∧
      outcome (storeLocal last .long wide) = .refusal (.localIndexOutOfRange last.toNat 2) ∧
      2 ≤ last.toNat := by
  intro scope wide small frame outcome last
  have fits : frame.Fits := ⟨⟨by decide, by decide⟩, by decide⟩
  have described (edit : Edit Frame) (cause : FrameError) (noSource : edit.source? = none)
      (refused : outcome edit = .refusal cause) : cause.Describes edit frame := by
    obtain ⟨unchanged, describes⟩ :=
      describes_of_refusal fits (sources_of_none noSource) Reservations.empty refused
    rwa [unchanged] at describes
  have corrupt : outcome (pop .long) = .refusal (.corruptHighWord 5) := by decide
  have missing : outcome (popArguments 3) = .refusal (.missingValue 3) := by decide
  have splits : outcome (truncateStack 1) = .refusal (.splitsWideValue 1) := by decide
  have beyond : outcome (storeLocal last .long wide) =
      .refusal (.localIndexOutOfRange last.toNat 2) := by decide
  exact ⟨fits, corrupt, described _ _ rfl corrupt, missing, described _ _ rfl missing, splits,
    (described _ _ rfl splits).2.2.2.2, beyond, (described _ _ rfl beyond).2⟩

end Edit
end SymbolicFrame
