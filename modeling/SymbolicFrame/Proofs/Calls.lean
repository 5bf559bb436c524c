import SymbolicFrame.Proofs.Histories
import SymbolicFrame.Proofs.Parameters

/-!
# Calls of inlined methods

To inline a call, its arguments are pushed one by one, popped together, and stored as the parameters
of a frame at the entry of the callee. The widths of the arguments are counted at each of these
places, and they agree. The caller may be in any mode, with any slots on its stack, and is as it was
once the arguments are popped. The callee has each argument in the local that its width and the
widths before it lead to, and has nothing else.
-/

namespace SymbolicFrame

/-! ## Verdicts on arguments -/

namespace Contents

variable {contents : Contents} {policy : Policy} {arguments : List Value}

/-- Arguments that lie on top of other slots are read as such. -/
theorem arguments_of_stack {below : List Slot} (solid : Solid arguments)
    (stack : contents.stack = below ++ blocks arguments) :
    contents.arguments (widths arguments) = .ok arguments := by
  have length : contents.stack.length = below.length + widths arguments := by
    rw [stack, List.length_append, length_blocks solid]
  unfold Contents.arguments
  rw [length, if_neg (by omega), Nat.add_sub_cancel, stack, List.drop_left,
    windowValues_blocks _ solid]

/-- Fresh contents under a policy that allows every kind take solid parameters if they have the
locals for them. The last local that is missing is named otherwise. -/
theorem verdict_entry (scope : Scope) {maxLocals : Nat} (maxStack : Nat)
    (allows : policy.allowWordKinds = true) (solid : Solid arguments)
    (small : widths arguments < Word.limit) :
    (blank scope maxLocals maxStack policy).verdict (.storeParameters arguments) =
      if widths arguments ≤ maxLocals then .ok .done
      else refused (.localIndexOutOfRange (widths arguments - 1) maxLocals) := by
  let entered := blank scope maxLocals maxStack policy
  have length : entered.locals.length = maxLocals := List.length_replicate
  have noObjection : entered.policy.firstObjection? arguments = none :=
    Policy.firstObjection?_eq_none_iff.2 ⟨solid, fun _ _ _ => allows⟩
  have verdict : entered.verdict (.storeParameters arguments) = _ := verdict_storeParameters small
  rw [noObjection, length] at verdict
  exact verdict

/-- Fresh contents have the parameters side by side in their first locals. -/
theorem locals_entry (scope : Scope) {maxLocals : Nat} (maxStack : Nat) (solid : Solid arguments)
    (enough : widths arguments ≤ maxLocals) :
    ((blank scope maxLocals maxStack policy).change (.storeParameters arguments)).locals =
      blocks arguments ++ List.replicate (maxLocals - widths arguments) none := by
  have room : widths arguments ≤ (List.replicate maxLocals (none : Slot)).length := by
    rw [List.length_replicate]
    exact enough
  have stored := storedFrom_zero solid room
  rw [List.drop_replicate] at stored
  exact stored

end Contents

/-! ## The caller -/

namespace Edit

/-- Push values one after the other, each under its own kind. -/
def pushAll {Source : Type} (values : List Value) : List (Edit Source) :=
  values.map fun value => push value.kind value

/-- Push the arguments of a call and pop them together. -/
def passing {Source : Type} (arguments : List Value) : List (Edit Source) :=
  pushAll arguments ++ [popArguments (widths arguments).toUInt64]

/-- Passing arguments takes over no part of another frame. -/
theorem source?_of_mem_passing {Source : Type} {arguments : List Value} :
    ∀ edit ∈ (passing arguments : List (Edit Source)), edit.source? = none := by
  intro edit member
  rcases List.mem_append.1 member with pushed | popped
  · obtain ⟨argument, -, rfl⟩ := List.mem_map.1 pushed
    rfl
  · rw [List.mem_singleton.1 popped]
    rfl

/-- Passing arguments names no sources, so it is the same however these are seen. -/
theorem map_passing {Source Target : Type} (view : Source → Target) (arguments : List Value) :
    (passing arguments).map (map view) = passing arguments := by
  simp only [passing, pushAll, List.map_append, List.map_map, Function.comp_def, List.map_cons,
    List.map_nil, map]

end Edit

namespace Contents

variable {arguments : List Value}

/-- Arguments that may be held and that there is room for come to lie on top of the stack. -/
theorem runsTo_pushAll (contents : Contents)
    (held : ∀ argument ∈ arguments, contents.policy.holds argument.kind = .ok ())
    (room : contents.stack.length + widths arguments ≤ contents.maxStack) :
    contents.RunsTo (Edit.pushAll arguments) (arguments.map fun _ => .done)
      { contents with
        stack := contents.stack ++ blocks arguments
        relaxed :=
          contents.relaxed || arguments.any fun argument => argument.kind.isWordLike } := by
  induction arguments generalizing contents with
  | nil =>
    rw [blocks_nil, List.append_nil, List.any_nil, Bool.or_false]
    exact .nil contents
  | cons argument rest ih =>
    obtain ⟨holds, othersHeld⟩ := List.forall_mem_cons.1 held
    rw [widths_cons] at room
    have solid := Policy.holds_iff.1 holds
    have passes : contents.pushes argument.kind argument = .ok () :=
      pushes_iff.2 ⟨solid, accepts_iff.2 (.inl rfl), by omega⟩
    -- The others are pushed under the same policy, with less room by the width of the first.
    have roomLeft : (contents.stack ++ argument.kind.slots argument).length + widths rest ≤
        contents.maxStack := by
      rw [List.length_append, Kind.length_slots solid.1]
      omega
    have later := ih (contents.change (.push argument.kind argument)) othersHeld roomLeft
    simp only [change, List.append_assoc, Bool.or_assoc] at later
    rw [blocks_cons, List.any_cons]
    exact .cons (congrArg done passes) later

/-- Arguments that were passed are given back in order, and only the mode may have changed. -/
theorem runsTo_passing (contents : Contents) (solid : Solid arguments)
    (small : widths arguments < Word.limit)
    (held : ∀ argument ∈ arguments, contents.policy.holds argument.kind = .ok ())
    (room : contents.stack.length + widths arguments ≤ contents.maxStack) :
    contents.RunsTo (Edit.passing arguments)
      (arguments.map (fun _ => .done) ++ [.values arguments])
      { contents with
        relaxed :=
          contents.relaxed || arguments.any fun argument => argument.kind.isWordLike } := by
  let size := (widths arguments).toUInt64
  let after : Contents :=
    { contents with
      stack := contents.stack ++ blocks arguments
      relaxed := contents.relaxed || arguments.any fun argument => argument.kind.isWordLike }
  have pushed : contents.RunsTo (Edit.pushAll arguments) _ after :=
    contents.runsTo_pushAll held room
  have word : size.toNat = widths arguments := Word.toNat_toUInt64 small
  have gives : after.arguments size.toNat = .ok arguments := by
    rw [word]
    exact arguments_of_stack solid rfl
  have accepted : after.verdict (.popArguments size) = .ok (.values arguments) :=
    congrArg (· >>= fun values => Except.ok (Answer.values values)) gives
  have restored : after.stack.take (after.stack.length - size.toNat) = contents.stack := by
    rw [word, List.length_append, length_blocks solid, Nat.add_sub_cancel, List.take_left]
  have popped := Contents.RunsTo.cons accepted (.nil _)
  rw [change, restored] at popped
  exact pushed.append popped

end Contents

namespace Edit

variable {frame : Frame} {arguments : List Value}

/-- Arguments that were passed are given back in order, and the caller is as it was, but for its
mode. -/
theorem performAll_passing (fits : frame.Fits) (solid : Solid arguments)
    (held : ∀ argument ∈ arguments, frame.policy.holds argument.kind = .ok ())
    (room : frame.stackSize + widths arguments ≤ frame.maxStack) (reservations : Reservations) :
    let run := performAll (passing arguments) frame reservations
    run.outcomes = arguments.map (fun _ => .answer .done) ++ [.answer (.values arguments)] ∧
      run.frame.Fits ∧ run.frame.contents = { frame.contents with
        relaxed := frame.relaxed || arguments.any fun argument => argument.kind.isWordLike } := by
  have sizes := fits.sizes
  have enough : frame.contents.stack.length + widths arguments ≤ frame.contents.maxStack := by
    rw [fits.length_stack]
    exact room
  have runsTo := frame.contents.runsTo_passing solid (by omega) held enough
  have sourcesFit : ∀ edit ∈ (passing arguments : List (Edit Frame)), ∀ source,
      edit.source? = some source → source.Fits :=
    fun edit member => sources_of_none (source?_of_mem_passing edit member)
  rw [← map_passing Frame.contents] at runsTo
  obtain ⟨outcomes, runFits, shows⟩ := performAll_of_runsTo fits sourcesFit runsTo reservations
  rw [List.map_append, List.map_map] at outcomes
  exact ⟨outcomes, runFits, shows⟩

end Edit

/-! ## The callee -/

/-- Each of some parameters can be loaded from the local that the widths before it lead to, every
other local is empty, and so is the rest of the frame. -/
structure Frame.HoldsJust (frame : Frame) (parameters : List Value) : Prop where
  /-- Each parameter is loaded under its own kind. -/
  loads : ∀ before value after, parameters = before ++ value :: after → ∀ reservations,
    ((Edit.loadLocal (widths before).toUInt64 value.kind).perform frame reservations).outcome =
      .answer (.slot (some value))
  /-- Second slots of wide parameters and locals behind all parameters are empty. -/
  empty : ∀ index : UInt64, index.toNat < frame.maxLocals →
    (∀ before value after, parameters = before ++ value :: after →
      index.toNat ≠ widths before) → frame.localAt index = .ok none
  /-- The stack is empty. -/
  stackSize_eq : frame.stackSize = 0
  /-- No monitor is held. -/
  locks_eq : frame.locks = []
  /-- Checks are not relaxed. -/
  strict : frame.relaxed = false

/-- In between parameters that lie side by side in the first locals, and behind them, locals are
empty. -/
theorem getElem?_between {parameters : List Value} (solid : Solid parameters) {empties : Nat}
    {index : Nat} (inside : index < widths parameters + empties)
    (isOther : ∀ before value after, parameters = before ++ value :: after →
      index ≠ widths before) :
    (blocks parameters ++ List.replicate empties none)[index]? = some none := by
  have length := length_blocks solid
  by_cases behind : widths parameters ≤ index
  · rw [List.getElem?_append_right (by omega), List.getElem?_replicate, if_pos (by omega)]
  · have among : index < (blocks parameters).length := by omega
    rw [List.getElem?_append_left among, getElem?_eq_slotAt among]
    -- A border below the last one is the local of a parameter, so this is a second slot.
    rcases border_or_inside solid (Nat.le_of_not_le behind) with
      ⟨low, high, rfl, border⟩ | ⟨low, wide, high, rfl, isWide, isInside⟩
    · cases high with
      | nil =>
        rw [List.append_nil, border] at behind
        exact absurd (Nat.le_refl _) behind
      | cons value high => exact absurd border.symm (isOther low value high rfl)
    · rw [isInside, slotAt_inside (solid_append.1 solid).1 isWide high]

/-- A frame holds just the parameters that lie side by side in its first locals, if it shows nothing
else. -/
theorem Frame.holdsJust_of_contents {frame : Frame} {parameters : List Value} (fits : frame.Fits)
    (solid : Solid parameters) {empties : Nat}
    (locals : frame.contents.locals = blocks parameters ++ List.replicate empties none)
    (stack : frame.contents.stack = []) (monitors : frame.contents.monitors = [])
    (strict : frame.contents.relaxed = false) : frame.HoldsJust parameters := by
  have length : frame.maxLocals = widths parameters + empties := by
    rw [← fits.length_locals, locals, List.length_append, length_blocks solid,
      List.length_replicate]
  refine ⟨?_, ?_, ?_, monitors, strict⟩
  · intro before value after split reservations
    exact Edit.loadLocal_of_blocks fits solid locals split reservations
  · intro index inside isOther
    rw [fits.localAt_eq, locals, getElem?_between solid (by omega) isOther]
  · rw [← fits.length_stack, stack]
    rfl

namespace Session

variable {arguments : List Value}

/-- A frame can be entered with solid parameters when it has the locals for them, and then holds
just these. Otherwise the last local that is missing is named. -/
theorem entry_of_solid (session : Session) (scope : Scope) (solid : Solid arguments)
    (small : widths arguments < Word.limit) {maxLocals maxStack : Nat}
    (countable : Frame.Countable maxLocals maxStack) :
    let entered := session.entry scope maxLocals maxStack arguments
    if widths arguments ≤ maxLocals then
      entered.outcome = .answer .done ∧ entered.frame.maxLocals = maxLocals ∧
        entered.frame.HoldsJust arguments
    else entered.outcome = .refusal (.localIndexOutOfRange (widths arguments - 1) maxLocals) := by
  intro entered
  let fresh := Frame.fresh scope maxLocals maxStack session.policy
  let blank := Contents.blank scope maxLocals maxStack session.policy
  let edit : Edit Frame := .storeParameters arguments
  have freshFits : fresh.Fits := Frame.fits_fresh scope session.policy countable
  have freshShows : fresh.contents = blank := Frame.contents_fresh scope _ _ session.policy
  have verdict : blank.verdict (edit.map Frame.contents) = _ :=
    Contents.verdict_entry scope maxStack rfl solid small
  rw [← freshShows] at verdict
  by_cases enough : widths arguments ≤ maxLocals
  · rw [if_pos enough] at verdict ⊢
    obtain ⟨outcome, enteredFits, shows⟩ := Edit.done_of_ok edit freshFits
      (Edit.sources_of_none rfl) session.reservations verdict
    change entered.frame.contents = fresh.contents.change (.storeParameters arguments) at shows
    rw [freshShows] at shows
    have locals : (blank.change (.storeParameters arguments)).locals = _ :=
      Contents.locals_entry scope maxStack solid enough
    rw [← shows] at locals
    have count : entered.frame.maxLocals = maxLocals := by
      have length := enteredFits.length_locals
      change entered.frame.contents.locals.length = entered.frame.maxLocals at length
      rw [← length, locals, List.length_append, length_blocks solid, List.length_replicate]
      omega
    exact ⟨outcome, count, Frame.holdsJust_of_contents enteredFits solid locals
      (congrArg Contents.stack shows) (congrArg Contents.monitors shows)
      (congrArg Contents.relaxed shows)⟩
  · rw [if_neg enough] at verdict ⊢
    have refused := Edit.perform_of_error freshFits (Edit.sources_of_none rfl)
      session.reservations verdict
    exact congrArg Performed.outcome refused

/-- A step that enters a method puts the frame under its name, or is refused and changes nothing. -/
theorem step_enter_of_solid (session : Session) (name : String) (scope : Scope)
    (solid : Solid arguments) (small : widths arguments < Word.limit)
    {maxLocals maxStack : UInt64} (countable : Frame.Countable maxLocals.toNat maxStack.toNat) :
    let entered := session.entry scope maxLocals.toNat maxStack.toNat arguments
    let turn := session.step (.enter name scope maxLocals maxStack arguments)
    if widths arguments ≤ maxLocals.toNat then
      turn.reply = .answer .done ∧ turn.session.holding? name = some (.builder entered.frame)
    else turn.reply = .refusal (.localIndexOutOfRange (widths arguments - 1) maxLocals.toNat) ∧
      turn.session = session := by
  intro entered turn
  have entry := session.entry_of_solid scope solid small countable
  change if _ then entered.outcome = _ ∧ _ else entered.outcome = _ at entry
  by_cases enough : widths arguments ≤ maxLocals.toNat
  · rw [if_pos enough] at entry ⊢
    have taken : turn = ⟨.answer .done, _, session.hold name (.builder entered.frame)⟩ :=
      step_enter_of_answer name countable entry.1
    rw [taken]
    exact ⟨rfl, (holding?_hold session name name _).trans (if_pos rfl)⟩
  · rw [if_neg enough] at entry ⊢
    let stop : Stop := .refusal (.localIndexOutOfRange (widths arguments - 1) maxLocals.toNat)
    have taken : turn = ⟨stop.outcome.reply, _, session⟩ := step_enter_of_stop name countable entry
    rw [taken]
    exact ⟨rfl, rfl⟩

/-- Arguments survive a call. A caller in any state that may hold them and has the room for them
pushes each under its own kind, pops all of them together in order, and reads as before, whatever
lies on its stack. Entering the callee with them takes as many locals as their widths, or is refused
with the last local that is missing and makes no frame. The frame entered holds just the
arguments. A step that enters the callee puts this frame under its name, or leaves the session as it
was, as it does when the slots of the callee cannot be counted. -/
theorem arguments_survive_call {caller : Frame} (fits : caller.Fits) (solid : Solid arguments)
    (allowed : ∀ argument ∈ arguments, argument.kind.isWordLike = true →
      caller.policy.allowWordKinds = true)
    (room : caller.stackSize + widths arguments ≤ caller.maxStack) (session : Session)
    (scope : Scope) :
    let run := Edit.performAll (Edit.passing arguments) caller session.reservations
    (run.outcomes = arguments.map (fun _ => .answer .done) ++ [.answer (.values arguments)] ∧
      run.frame.stackSize = caller.stackSize ∧
      (∀ index, run.frame.stackAt index = caller.stackAt index) ∧
      (∀ index, run.frame.localAt index = caller.localAt index) ∧
      run.frame.locks = caller.locks) ∧
    (∀ maxLocals maxStack, Frame.Countable maxLocals maxStack →
      let entered := session.entry scope maxLocals maxStack arguments
      if widths arguments ≤ maxLocals then
        entered.outcome = .answer .done ∧ entered.frame.maxLocals = maxLocals ∧
          entered.frame.HoldsJust arguments
      else entered.outcome =
        .refusal (.localIndexOutOfRange (widths arguments - 1) maxLocals)) ∧
    ∀ (name : String) (maxLocals maxStack : UInt64),
      let entered := session.entry scope maxLocals.toNat maxStack.toNat arguments
      let turn := session.step (.enter name scope maxLocals maxStack arguments)
      if Frame.Countable maxLocals.toNat maxStack.toNat then
        if widths arguments ≤ maxLocals.toNat then
          turn.reply = .answer .done ∧ turn.session.holding? name = some (.builder entered.frame)
        else turn.reply =
            .refusal (.localIndexOutOfRange (widths arguments - 1) maxLocals.toNat) ∧
          turn.session = session
      else turn.reply = .breach ∧ turn.session = session := by
  intro run
  have held : ∀ argument ∈ arguments, caller.policy.holds argument.kind = .ok () :=
    fun argument member =>
      Policy.holds_iff.2 ⟨solid argument member, allowed argument member⟩
  obtain ⟨outcomes, runFits, shows⟩ :=
    Edit.performAll_passing fits solid held room session.reservations
  have readers := Frame.readers_eq_of_mode runFits fits shows
  have small : widths arguments < Word.limit := by
    have sizes := fits.sizes
    omega
  refine ⟨⟨outcomes, readers⟩, fun _ _ => session.entry_of_solid scope solid small, ?_⟩
  intro name maxLocals maxStack entered turn
  split
  · rename_i countable
    exact session.step_enter_of_solid name scope solid small countable
  · rename_i many
    have same : turn = session.uncountable := session.step_enter_of_uncountable name many
    rw [same]
    exact ⟨rfl, rfl⟩

/-- A caller that only raw pushes could have left pushes a word, a wide value and an object, on top
of a wide value without its second slot. A callee with three locals cannot take them, and one with
five has its last local left empty. -/
theorem arguments_survive_call_on_raw_stack :
    let scope := Scope.root ⟨some 0, 0⟩ "A.b()V"
    let callee := Scope.inlined ⟨some 0, 1⟩ "C.d(IJ)V" scope
    let object : Value := ⟨0, 0, .object, ""⟩
    let wide : Value := ⟨0, 1, .long, ""⟩
    let word : Value := ⟨0, 2, .word, ""⟩
    let caller : Frame :=
      ⟨⟨1, 2, #[some wide, none, some wide, none, none, none, none]⟩, scope, ⟨some [object]⟩,
        false, Policy.standard⟩
    let arguments := [word, wide, object]
    let run := Edit.performAll (Edit.passing arguments) caller Reservations.empty
    let session := initial false
    let entered := session.entry callee 5 0 arguments
    caller.Fits ∧ Solid arguments ∧ caller.stackSize + widths arguments = caller.maxStack ∧
      run.outcomes = [.done, .done, .done, .values arguments].map .answer ∧
      (∀ index, run.frame.stackAt index = caller.stackAt index) ∧
      (session.entry callee 3 0 arguments).outcome = .refusal (.localIndexOutOfRange 3 3) ∧
      entered.outcome = .answer .done ∧ entered.frame.HoldsJust arguments ∧
      (session.step (.enter "c" callee 3 0 arguments)).session = session := by
  intro scope callee object wide word caller arguments run session entered
  have fits : caller.Fits := ⟨⟨by decide, by decide⟩, by decide⟩
  have solid : Solid arguments := by decide
  have allowed : ∀ argument ∈ arguments, argument.kind.isWordLike = true →
      caller.policy.allowWordKinds = true := fun _ _ _ => rfl
  have room : caller.stackSize + widths arguments ≤ caller.maxStack := by decide
  obtain ⟨⟨outcomes, -, readStack, -⟩, entry, step⟩ :=
    arguments_survive_call fits solid allowed room session callee
  have refused := entry 3 0 (by decide)
  have accepted := entry 5 0 (by decide)
  have unchanged := step "c" 3 0
  rw [if_pos (by decide)] at accepted unchanged
  rw [if_neg (by decide)] at refused unchanged
  exact ⟨fits, solid, by decide, outcomes, readStack, refused, accepted.1, accepted.2.2,
    unchanged.2⟩

end Session
end SymbolicFrame
