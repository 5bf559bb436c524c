import SymbolicFrame.Proofs.Atomicity
import SymbolicFrame.Proofs.Equality
import SymbolicFrame.Proofs.Runs
import SymbolicFrame.Proofs.Relaxation
import SymbolicFrame.Proofs.LastWriter
import SymbolicFrame.Proofs.WithinBounds

/-!
# The part of a frame that an edit touches

Locals and stack lie side by side in one array, and monitors lie apart. Every edit works on one of
these three regions, or on none if it only reads. What it leaves is the same outside its region,
whether it was done or refused, and the scope, the policy and the sizes of the frame stay too.

Edits of the stack do not look outside their region either. Two frames with the same stack, whose
locals and monitors may differ, give the same outcome and have the same stack afterwards.

A store into a local touches the locals of its value, and the one right below them if a wide value
was there.
-/

namespace SymbolicFrame

/-! ## Regions -/

/-- The parts of a frame that edits work on. -/
inductive Region where
  /-- The local variables. -/
  | locals
  /-- The live stack. -/
  | stack
  /-- The monitors held. -/
  | monitors
  deriving DecidableEq

namespace Edit

variable {Source Target : Type}

/-- The region that an edit works on, if it does not only read. -/
def region? : Edit Source → Option Region
  | push _ _ | pop _ | pushRaw _ | popRaw | popArguments _ | truncateStack _ | clearStack
  | replaceStack _ => some .stack
  | storeLocal _ _ _ | invalidateLocal _ | clearLocals | storeParameters _ | replaceLocals _ =>
    some .locals
  | replaceMonitors _ | lock _ _ _ | unlock => some .monitors
  | loadLocal _ _ => none

/-- An edit may relax the kind checks of a frame. -/
def mayRelax : Edit Source → Bool
  | push _ _ | replaceLocals _ | replaceStack _ => true
  | pop _ | pushRaw _ | popRaw | popArguments _ | truncateStack _ | clearStack | loadLocal _ _
  | storeLocal _ _ _ | invalidateLocal _ | clearLocals | storeParameters _ | replaceMonitors _
  | lock _ _ _ | unlock => false

/-- An edit works on its region however its source is seen. -/
@[simp]
theorem region?_map (view : Source → Target) (edit : Edit Source) :
    (edit.map view).region? = edit.region? := by
  cases edit <;> rfl

/-- An edit may relax kind checks however its source is seen. -/
@[simp]
theorem mayRelax_map (view : Source → Target) (edit : Edit Source) :
    (edit.map view).mayRelax = edit.mayRelax := by
  cases edit <;> rfl

end Edit

/-- A frame is the same as another one outside a region. -/
structure Frame.SameOutside (region? : Option Region) (frame after : Frame) : Prop where
  /-- The scope is the same. -/
  scope : after.scope = frame.scope
  /-- The policy is the same. -/
  policy : after.policy = frame.policy
  /-- There are as many locals. -/
  maxLocals : after.maxLocals = frame.maxLocals
  /-- The stack may take as many slots. -/
  maxStack : after.maxStack = frame.maxStack
  /-- The locals read the same, unless they are the region. -/
  locals : region? ≠ some .locals → ∀ index, after.localAt index = frame.localAt index
  /-- The stack is as high, unless it is the region. -/
  stackSize : region? ≠ some .stack → after.stackSize = frame.stackSize
  /-- The stack slots read the same, unless they are the region. -/
  stack : region? ≠ some .stack → ∀ index, after.stackAt index = frame.stackAt index
  /-- Even the dead slots are the same, unless the region is one of slots. -/
  slots : region? ≠ some .locals → region? ≠ some .stack → after.buffer = frame.buffer
  /-- The monitors are the same, unless they are the region. -/
  monitors : region? ≠ some .monitors → after.monitors = frame.monitors

/-- Contents differ in nothing that lies on the stack or bounds it: in the locals but not in how
many they are, in the monitors and in the scope. -/
structure Contents.SameStack (left right : Contents) : Prop where
  /-- There are as many locals. -/
  locals : left.locals.length = right.locals.length
  /-- The stack is the same. -/
  stack : left.stack = right.stack
  /-- The stack may take as many slots. -/
  maxStack : left.maxStack = right.maxStack
  /-- The mode is the same. -/
  relaxed : left.relaxed = right.relaxed
  /-- The policy is the same. -/
  policy : left.policy = right.policy

/-- A local holds a wide value. -/
def Frame.HoldsWideAt (frame : Frame) (index : UInt64) : Prop :=
  ∃ value, frame.localAt index = .ok (some value) ∧ value.kind.isWide = true

/-! ## Steps that keep the monitors -/

namespace EditM

variable {α : Type}

theorem slotless_monitors : Slotless Frame.monitors := fun _ _ _ => rfl

/-- Recording the refusal of a step keeps what the step keeps. -/
theorem Keeps.faulting {γ : Type} {view : Frame → γ} {step : EditM α} (keeps : Keeps view step) :
    Keeps view (faulting step) := by
  intro editor
  have kept := keeps editor
  unfold EditM.faulting
  split
  · rename_i cause stopped ran
    rw [ran] at kept
    exact kept
  · exact kept

/-- Changing the mode keeps the monitors. -/
theorem keeps_mode (mode : Frame → Bool) :
    Keeps Frame.monitors (changeFrame fun frame => { frame with relaxed := mode frame }) :=
  fun _ => rfl

theorem keeps_setDepth (depth : Nat) : Keeps Frame.monitors (setDepth depth) :=
  looks_frame.keeps.bind fun _ =>
    (keeps_changeBuffer slotless_monitors (·.withDepth depth) fun _ => rfl).ite looks_breach.keeps

theorem keeps_emptyLocals : Keeps Frame.monitors emptyLocals :=
  looks_frame.keeps.bind fun _ =>
    (keeps_changeBuffer slotless_monitors Buffer.clearLocals fun _ => rfl).ite looks_breach.keeps

theorem keeps_takeLocals (source : Buffer) : Keeps Frame.monitors (takeLocals source) :=
  looks_frame.keeps.bind fun _ =>
    (keeps_changeBuffer slotless_monitors (·.withLocalsOf source) fun _ => rfl).ite
      looks_breach.keeps

theorem keeps_takeStack (source : Buffer) : Keeps Frame.monitors (takeStack source) :=
  looks_frame.keeps.bind fun _ =>
    (keeps_changeBuffer slotless_monitors (·.withStackOf source) fun _ => rfl).ite
      looks_breach.keeps

theorem keeps_pushSlot (slot : Slot) : Keeps Frame.monitors (pushSlot slot) := by
  unfold pushSlot
  refine looks_frame.keeps.bind fun held => Keeps.guard (looks_refuse _) ?_
  refine (looks_sum _ _).keeps.bind fun place => ?_
  refine (keeps_putSlot slotless_monitors _ _).bind fun _ => ?_
  exact (looks_sum _ _).keeps.bind fun _ => keeps_setDepth _

theorem keeps_popSlot : Keeps Frame.monitors popSlot := by
  unfold popSlot
  refine looks_frame.keeps.bind fun held => Keeps.guard (looks_refuse _) ?_
  refine (looks_difference _ _).keeps.bind fun top => (looks_readStack _).keeps.bind fun slot => ?_
  exact (keeps_setDepth _).bind fun _ => (looks_pure _).keeps

theorem keeps_push (kind : Kind) (value : Value) : Keeps Frame.monitors (push kind value) := by
  unfold push
  refine (looks_checkStorable _).keeps.bind fun _ => (looks_checkKind _ _).keeps.bind fun _ => ?_
  refine looks_frame.keeps.bind fun held => (looks_sum _ _).keeps.bind fun needed => ?_
  refine Keeps.guard (looks_fault _) ((keeps_pushSlot _).bind fun _ => ?_)
  have relaxes : Keeps Frame.monitors (if kind.isWordLike = true then relax kind else pure ()) := by
    refine Keeps.ite (looks_frame.keeps.bind fun held => ?_) (looks_pure _).keeps
    exact (looks_pure _).keeps.ite ((looks_record _).keeps.bind fun _ => keeps_mode _)
  exact ((keeps_pushSlot _).bind fun _ => relaxes).ite relaxes

theorem keeps_pop (kind : Kind) : Keeps Frame.monitors (pop kind) := by
  unfold pop
  refine Keeps.guard (looks_refuse _) (looks_frame.keeps.bind fun held => ?_)
  refine Keeps.guard (looks_fault _) ((looks_difference _ _).keeps.bind fun low => ?_)
  extract_lets takes
  have keeps : Keeps Frame.monitors (takes ()) := by
    refine (looks_readStack _).keeps.bind fun slot => ?_
    cases slot with
    | none => exact ((looks_sum _ _).bind fun _ => looks_fault _).keeps
    | some value =>
      refine (looks_checkKind _ _).keeps.bind fun _ => ?_
      exact (keeps_setDepth _).bind fun _ => (looks_pure _).keeps
  refine Keeps.ite ((looks_sum _ _).keeps.bind fun high => ?_) keeps
  refine (looks_readStack _).keeps.bind fun slot => Keeps.ite ?_ keeps
  exact (looks_sum _ _).keeps.bind fun _ => (looks_sum _ _).keeps.bind fun _ =>
    (looks_fault _).keeps.bind fun _ => keeps

theorem keeps_popArguments (size : UInt64) : Keeps Frame.monitors (popArguments size) := by
  unfold popArguments
  refine looks_frame.keeps.bind fun held => Keeps.guard (looks_fault _) ?_
  refine (looks_difference _ _).keeps.bind fun base => ?_
  refine looks_readWholeStack.keeps.bind fun slots => ?_
  split
  · exact (keeps_setDepth _).bind fun _ => (looks_pure _).keeps
  · exact ((looks_sum _ _).bind fun _ => looks_fault _).keeps

theorem keeps_truncateStack (size : UInt64) : Keeps Frame.monitors (truncateStack size) := by
  unfold truncateStack
  refine looks_frame.keeps.bind fun held => Keeps.guard (looks_fault _) ?_
  have keeps := keeps_setDepth size.toNat
  extract_lets cut
  refine Keeps.ite ((looks_difference _ _).keeps.bind fun _ => ?_) keeps
  refine (looks_readStack _).keeps.bind fun below => (looks_readStack _).keeps.bind fun above => ?_
  exact Keeps.guard (looks_fault _) keeps

theorem keeps_storeFrom (index : Nat) (parameters : List Value) :
    Keeps Frame.monitors (storeFrom index parameters) := by
  induction parameters generalizing index with
  | nil => exact (looks_pure _).keeps
  | cons parameter rest ih =>
    exact (keeps_storeLocal slotless_monitors _ _ _).bind fun _ =>
      (looks_sum _ _).keeps.bind fun _ => ih _

theorem keeps_storeParameters (parameters : List Value) :
    Keeps Frame.monitors (storeParameters parameters) :=
  (looks_parametersEnd _ _).keeps.bind fun _ =>
    (looks_checkLocalRange _ _).keeps.bind fun _ => keeps_storeFrom _ _

theorem keeps_replaceLocals (source : Frame) : Keeps Frame.monitors (replaceLocals source) := by
  unfold replaceLocals
  refine looks_frame.keeps.bind fun held => Keeps.guard (looks_fault _) ?_
  refine (looks_record _).keeps.bind fun _ => ?_
  exact (keeps_takeLocals _).bind fun _ => keeps_mode _

theorem keeps_replaceStack (source : Frame) : Keeps Frame.monitors (replaceStack source) := by
  unfold replaceStack
  refine looks_frame.keeps.bind fun held => Keeps.guard (looks_fault _) ?_
  refine (looks_record _).keeps.bind fun _ => ?_
  exact (keeps_takeStack _).bind fun _ => keeps_mode _

end EditM

namespace Edit

variable {edit : Edit Frame} {frame : Frame}

/-- An edit leaves the frame of the editor that its steps leave. -/
theorem frame_eq_left (edit : Edit Frame) (frame : Frame) (reservations : Reservations) :
    (edit.perform frame reservations).frame =
      (EditM.left (edit.steps ⟨frame, reservations, []⟩)).frame := by
  unfold perform
  cases edit.steps ⟨frame, reservations, []⟩ with
  | ok answer editor => rfl
  | error stop editor => cases stop <;> rfl

/-- Edits of slots keep the monitors, even whether a list of them was made. -/
theorem keepsMonitors_steps (outside : edit.region? ≠ some .monitors) :
    EditM.Keeps Frame.monitors edit.steps := by
  have answers {α : Type} (answer : α) : EditM.Keeps Frame.monitors (pure answer : EditM α) :=
    (EditM.looks_pure answer).keeps
  cases edit with
  | push kind value => exact (EditM.keeps_push kind value).bind fun _ => answers _
  | pop kind => exact (EditM.keeps_pop kind).bind fun _ => answers _
  | pushRaw slot => exact (EditM.keeps_pushSlot slot).faulting.bind fun _ => answers _
  | popRaw => exact EditM.keeps_popSlot.faulting.bind fun _ => answers _
  | popArguments size => exact (EditM.keeps_popArguments size).bind fun _ => answers _
  | truncateStack size => exact (EditM.keeps_truncateStack size).bind fun _ => answers _
  | clearStack => exact (EditM.keeps_setDepth 0).bind fun _ => answers _
  | loadLocal index kind => exact (EditM.looks_loadLocal index kind).keeps.bind fun _ => answers _
  | storeLocal index kind value =>
    exact (EditM.keeps_storeLocal EditM.slotless_monitors index kind value).bind fun _ => answers _
  | invalidateLocal index =>
    exact ((EditM.looks_checkLocalRange index 1).keeps.bind fun _ =>
      EditM.keeps_writeLocal EditM.slotless_monitors _ _).bind fun _ => answers _
  | clearLocals => exact EditM.keeps_emptyLocals.bind fun _ => answers _
  | storeParameters parameters =>
    exact (EditM.keeps_storeParameters parameters).bind fun _ => answers _
  | replaceLocals source => exact (EditM.keeps_replaceLocals source).bind fun _ => answers _
  | replaceStack source => exact (EditM.keeps_replaceStack source).bind fun _ => answers _
  | replaceMonitors | lock | unlock => exact absurd rfl outside

/-- An edit of slots keeps the monitors, whether it is done or refused. -/
theorem monitors_perform (outside : edit.region? ≠ some .monitors) (frame : Frame)
    (reservations : Reservations) :
    (edit.perform frame reservations).frame.monitors = frame.monitors := by
  rw [frame_eq_left]
  exact keepsMonitors_steps outside _

/-- Loads and edits of monitors keep all the slots, even the dead ones. -/
theorem keepsBuffer_steps (notLocals : edit.region? ≠ some .locals)
    (notStack : edit.region? ≠ some .stack) : EditM.Keeps Frame.buffer edit.steps := by
  have answers {α : Type} (answer : α) : EditM.Keeps Frame.buffer (pure answer : EditM α) :=
    (EditM.looks_pure answer).keeps
  have changes (change : Frame → Monitors) : EditM.Keeps Frame.buffer
      (EditM.changeFrame fun frame => { frame with monitors := change frame }) := fun _ => rfl
  cases edit with
  | loadLocal index kind => exact (EditM.looks_loadLocal index kind).keeps.bind fun _ => answers _
  | replaceMonitors source => exact (changes _).bind fun _ => answers _
  | lock scope object total =>
    have reports : EditM.Keeps Frame.buffer (EditM.report scope total) := fun _ => rfl
    exact ((EditM.looks_checkKind .object object).keeps.bind fun _ =>
      (changes _).bind fun _ => reports).bind fun _ => answers _
  | unlock =>
    refine EditM.Keeps.bind (EditM.looks_frame.keeps.bind fun held => ?_) fun _ => answers _
    split
    · exact (changes _).bind fun _ => answers _
    · exact (EditM.looks_fault _).keeps
  | push | pop | pushRaw | popRaw | popArguments | truncateStack | clearStack | replaceStack =>
    exact absurd rfl notStack
  | storeLocal | invalidateLocal | clearLocals | storeParameters | replaceLocals =>
    exact absurd rfl notLocals

end Edit

/-! ## Contents outside a region -/

/-- Contents are the same as others outside a region. -/
structure Contents.SameOutside (region? : Option Region) (contents after : Contents) : Prop where
  /-- The scope is the same. -/
  scope : after.scope = contents.scope
  /-- The policy is the same. -/
  policy : after.policy = contents.policy
  /-- There are as many locals, and the stack may take as many slots. -/
  sizes : after.sizes = contents.sizes
  /-- The locals are the same, unless they are the region. -/
  locals : region? ≠ some .locals → after.locals = contents.locals
  /-- The stack is the same, unless it is the region. -/
  stack : region? ≠ some .stack → after.stack = contents.stack

namespace Contents

variable {contents : Contents} {edit : Edit Contents}

/-- Edits of other regions keep the locals. -/
theorem change_locals (outside : edit.region? ≠ some .locals) :
    (contents.change edit).locals = contents.locals := by
  cases edit <;> first | rfl | exact absurd rfl outside

/-- Edits of other regions keep the stack. -/
theorem change_stack (outside : edit.region? ≠ some .stack) :
    (contents.change edit).stack = contents.stack := by
  cases edit <;> first | rfl | exact absurd rfl outside

/-- No edit changes the scope. -/
theorem change_scope (contents : Contents) (edit : Edit Contents) :
    (contents.change edit).scope = contents.scope := by
  cases edit <;> rfl

/-- An edit that is done leaves contents as they were outside its region. -/
theorem sameOutside_change {answer : Answer} (accepted : contents.verdict edit = .ok answer) :
    contents.SameOutside edit.region? (contents.change edit) :=
  ⟨contents.change_scope edit, contents.policy_change edit, sizes_change accepted, change_locals,
    change_stack⟩

/-- No edit changes how many slots the stack may take. -/
theorem change_maxStack (contents : Contents) (edit : Edit Contents) :
    (contents.change edit).maxStack = contents.maxStack := by
  cases edit <;> rfl

/-- Only some edits relax kind checks. -/
theorem relaxedBy_of_mayRelax (steady : edit.mayRelax = false) : relaxedBy edit = false := by
  cases edit <;> first | rfl | cases steady

namespace SameStack

variable {left right : Contents}

/-- Contents with the same stack accept the same values. -/
theorem accepts_eq (same : left.SameStack right) (kind : Kind) (value : Value) :
    left.accepts kind value = right.accepts kind value := by
  unfold accepts
  rw [same.relaxed, same.policy]

/-- Edits of the stack end in one way on contents with the same stack. -/
theorem verdict_eq (same : left.SameStack right) (onStack : edit.region? = some .stack) :
    left.verdict edit = right.verdict edit := by
  cases edit with
  | push kind value =>
    simp only [verdict, pushes, same.accepts_eq, same.policy, same.maxStack, same.stack]
  | pop kind => simp only [verdict, popped, same.accepts_eq, same.stack, same.locals]
  | pushRaw slot => simp only [verdict, pushesRaw, same.maxStack, same.stack]
  | popRaw => simp only [verdict, poppedRaw, same.stack]
  | popArguments size => simp only [verdict, arguments, same.stack, same.locals]
  | truncateStack size => simp only [verdict, cuts, same.stack]
  | clearStack => rfl
  | replaceStack source => simp only [verdict, takesStack, same.maxStack]
  | storeLocal | invalidateLocal | clearLocals | storeParameters | replaceLocals | loadLocal
  | replaceMonitors | lock | unlock => cases onStack

/-- Edits of the stack leave the same stack on contents with the same stack. -/
theorem change (same : left.SameStack right) (onStack : edit.region? = some .stack) :
    (left.change edit).SameStack (right.change edit) := by
  have notLocals : edit.region? ≠ some .locals := by
    rw [onStack]
    decide
  have stack : (left.change edit).stack = (right.change edit).stack := by
    cases edit with
    | push | pop | pushRaw | popRaw | popArguments | truncateStack | clearStack | replaceStack =>
      simp only [Contents.change, same.stack]
    | storeLocal | invalidateLocal | clearLocals | storeParameters | replaceLocals | loadLocal
    | replaceMonitors | lock | unlock => cases onStack
  have maxStack : (left.change edit).maxStack = (right.change edit).maxStack := by
    rw [change_maxStack, change_maxStack, same.maxStack]
  refine ⟨?_, stack, maxStack, ?_, ?_⟩
  · rw [change_locals notLocals, change_locals notLocals, same.locals]
  · rw [relaxed_change, relaxed_change, same.relaxed]
  · rw [policy_change, policy_change, same.policy]

end SameStack
end Contents

namespace Edit

variable {edit : Edit Frame} {frame other : Frame}

/-- An edit leaves the frame as it was outside its region, whether it is done or not. -/
theorem sameOutside_perform (edit : Edit Frame) (fits : frame.Fits)
    (sourceFits : ∀ source, edit.source? = some source → source.Fits)
    (reservations : Reservations) :
    frame.SameOutside edit.region? (edit.perform frame reservations).frame := by
  -- Contents do not tell dead slots, or whether a list of monitors was made: these two are followed
  -- through the steps of the edit, and all that readers answer is told by the contents.
  have monitors (outside : edit.region? ≠ some .monitors) :
      (edit.perform frame reservations).frame.monitors = frame.monitors :=
    monitors_perform outside frame reservations
  have slots (notLocals : edit.region? ≠ some .locals) (notStack : edit.region? ≠ some .stack) :
      (edit.perform frame reservations).frame.buffer = frame.buffer := by
    rw [frame_eq_left]
    exact keepsBuffer_steps notLocals notStack _
  obtain ⟨afterFits, whence⟩ := frame_of_perform fits sourceFits reservations
  generalize (edit.perform frame reservations).frame = after at *
  have shown : frame.contents.SameOutside edit.region? after.contents := by
    rcases whence with ⟨answer, accepted, same⟩ | unchanged
    · rw [same, ← region?_map Frame.contents edit]
      exact Contents.sameOutside_change accepted
    · rw [unchanged]
      exact ⟨rfl, rfl, rfl, fun _ => rfl, fun _ => rfl⟩
  have maxLocals : after.maxLocals = frame.maxLocals := by
    rw [← afterFits.length_locals, ← fits.length_locals]
    exact congrArg Prod.fst shown.sizes
  have locals (outside : edit.region? ≠ some .locals) :
      ∀ index, after.localAt index = frame.localAt index :=
    (afterFits.localAt_congr fits (shown.locals outside)).2
  have stack (outside : edit.region? ≠ some .stack) :=
    afterFits.stackAt_congr fits (shown.stack outside)
  exact ⟨shown.scope, shown.policy, maxLocals, congrArg Prod.snd shown.sizes, locals,
    fun outside => (stack outside).1, fun outside => (stack outside).2, slots, monitors⟩

/-- Edits that cannot relax kind checks keep the mode. -/
theorem relaxed_perform (fits : frame.Fits)
    (sourceFits : ∀ source, edit.source? = some source → source.Fits)
    (reservations : Reservations) (steady : edit.mayRelax = false) :
    (edit.perform frame reservations).frame.relaxed = frame.relaxed := by
  obtain ⟨-, ⟨answer, accepted, same⟩ | unchanged⟩ := frame_of_perform fits sourceFits reservations
  · have mode := congrArg Contents.relaxed same
    rw [← mayRelax_map Frame.contents edit] at steady
    rw [Contents.relaxed_change, Contents.relaxedBy_of_mayRelax steady, Bool.or_false] at mode
    exact mode
  · rw [unchanged]

/-- An edit of the stack ends in one way on frames with the same stack, and leaves them with the
same stack. -/
theorem sameStack_perform (fits : frame.Fits) (otherFits : other.Fits)
    (sourceFits : ∀ source, edit.source? = some source → source.Fits)
    (onStack : edit.region? = some .stack) (same : frame.contents.SameStack other.contents)
    (reservations reported : Reservations) :
    let performed := edit.perform frame reservations
    let elsewhere := edit.perform other reported
    performed.outcome = elsewhere.outcome ∧
      performed.frame.contents.SameStack elsewhere.frame.contents := by
  intro performed elsewhere
  rw [← region?_map Frame.contents edit] at onStack
  have verdicts := same.verdict_eq onStack
  cases accepted : frame.contents.verdict (edit.map Frame.contents) with
  | ok answer =>
    rw [accepted] at verdicts
    obtain ⟨outcome, -, shows⟩ := edit.done_of_ok fits sourceFits reservations accepted
    obtain ⟨otherOutcome, -, otherShows⟩ :=
      edit.done_of_ok otherFits sourceFits reported verdicts.symm
    refine ⟨outcome.trans otherOutcome.symm, ?_⟩
    have changed := same.change onStack
    rwa [← shows, ← otherShows] at changed
  | error stop =>
    rw [accepted] at verdicts
    have stopped : performed = _ := perform_of_error fits sourceFits reservations accepted
    have otherStopped : elsewhere = _ :=
      perform_of_error otherFits sourceFits reported verdicts.symm
    rw [stopped, otherStopped]
    exact ⟨rfl, same⟩

/-- A local of a frame that fits holds a wide value when one is found among the locals. -/
theorem holdsWideAt_iff (fits : frame.Fits) (index : UInt64) :
    frame.HoldsWideAt index ↔ ∃ wide, frame.contents.locals[index.toNat]? = some (some wide) ∧
      wide.kind.isWide = true := by
  unfold Frame.HoldsWideAt
  rw [fits.localAt_eq]
  cases frame.contents.locals[index.toNat]? with
  | none => exact ⟨fun ⟨_, found, _⟩ => (nomatch found), fun ⟨_, found, _⟩ => (nomatch found)⟩
  | some slot => simp only [Except.ok.injEq, Option.some.injEq]

/-- A store leaves the locals apart from those of its value as they were, but for a wide value right
below them, which is emptied. -/
theorem storeLocal_apart (fits : frame.Fits) {index : UInt64} {kind : Kind} {value : Value}
    {reservations : Reservations}
    (done : (storeLocal index kind value).Succeeds frame reservations) {place : UInt64}
    (apart : place.toNat < index.toNat ∨ index.toNat + kind.slotWidth ≤ place.toNat) :
    let after := ((storeLocal index kind value).perform frame reservations).frame
    let clobbered := place.toNat + 1 = index.toNat ∧ frame.HoldsWideAt place
    (clobbered → after.localAt place = .ok none) ∧
      (¬ clobbered → after.localAt place = frame.localAt place) := by
  intro after clobbered
  have sources : ∀ source : Frame, (storeLocal index kind value).source? = some source →
      source.Fits := sources_of_none rfl
  obtain ⟨answer, accepted⟩ := (succeeds_iff fits sources reservations).1 done
  obtain ⟨-, afterFits, shows⟩ := done_of_ok _ fits sources reservations accepted
  -- Under the kind that takes no slot, the local stored into would itself count as apart.
  have solid : kind ≠ .void := by
    obtain ⟨held, -⟩ := both_pass.1 (Contents.done_iff.1 ⟨answer, accepted⟩)
    exact (Policy.holds_iff.1 held).1
  have width := kind.slotWidth_eq_zero_iff
  have locals : after.contents.locals =
      stored frame.contents.locals index.toNat kind value := congrArg Contents.locals shows
  have maxLocals : after.maxLocals = frame.maxLocals := by
    rw [← afterFits.length_locals, locals, length_stored, fits.length_locals]
  constructor
  · rintro ⟨below, wide⟩
    have emptied : (stored frame.contents.locals index.toNat kind value)[place.toNat]? =
        some none := by
      rw [← below]
      exact LocalWrite.stored_below ((holdsWideAt_iff fits place).1 wide)
    rw [afterFits.localAt_eq, locals, emptied]
  · intro spared
    have kept : (stored frame.contents.locals index.toNat kind value)[place.toNat]? =
        frame.contents.locals[place.toNat]? := by
      refine LocalWrite.stored_apart ?_ ?_ ?_
      · rintro same
        exact solid (width.1 (by omega))
      · rintro ⟨wide, above⟩
        have two := kind.isWide_iff.1 wide
        omega
      · rintro ⟨below, wide⟩
        exact spared ⟨below.symm, (holdsWideAt_iff fits place).2 wide⟩
    rw [afterFits.localAt_eq, fits.localAt_eq, locals, kept, maxLocals]

/-- An edit, done or refused, leaves everything outside its region as it was, and the mode too
unless it is one that may relax kind checks. An edit of the stack ends in one way on all frames with
the same stack, and leaves them with the same stack. A store that is done leaves the locals apart
from those of its value as they were, but for a wide value right below them, which is emptied. -/
theorem touches_only_region (edit : Edit Frame) (fits : frame.Fits)
    (sourceFits : ∀ source, edit.source? = some source → source.Fits)
    (reservations : Reservations) :
    let performed := edit.perform frame reservations
    frame.SameOutside edit.region? performed.frame ∧
      (edit.mayRelax = false → performed.frame.relaxed = frame.relaxed) ∧
      (edit.region? = some .stack → ∀ (other : Frame) (reported : Reservations), other.Fits →
        frame.contents.SameStack other.contents →
        let elsewhere := edit.perform other reported
        performed.outcome = elsewhere.outcome ∧
          performed.frame.contents.SameStack elsewhere.frame.contents) ∧
      (∀ index kind value, edit = storeLocal index kind value →
        edit.Succeeds frame reservations → ∀ place : UInt64,
        place.toNat < index.toNat ∨ index.toNat + kind.slotWidth ≤ place.toNat →
        let clobbered := place.toNat + 1 = index.toNat ∧ frame.HoldsWideAt place
        (clobbered → performed.frame.localAt place = .ok none) ∧
          (¬ clobbered → performed.frame.localAt place = frame.localAt place)) := by
  intro performed
  refine ⟨sameOutside_perform edit fits sourceFits reservations,
    relaxed_perform fits sourceFits reservations, ?_, ?_⟩
  · intro onStack other reported otherFits same
    exact sameStack_perform fits otherFits sourceFits onStack same reservations reported
  · rintro index kind value rfl done place apart
    exact storeLocal_apart fits done apart

/-- Wide values lie in both locals, the last one right below the stack. Another frame has the same
stack above other locals, and holds a monitor. -/
theorem touches_only_region_beside_straddling_local :
    let scope := Scope.root ⟨some 0, 0⟩ "A.b()V"
    let wide : Value := ⟨0, 0, .long, ""⟩
    let small : Value := ⟨0, 1, .int, ""⟩
    let object : Value := ⟨0, 2, .object, ""⟩
    let frame : Frame :=
      ⟨⟨2, 1, #[some wide, some wide, none, none]⟩, scope, Monitors.empty, true, Policy.standard⟩
    let other : Frame :=
      ⟨⟨2, 1, #[none, some small, none, none]⟩, scope, ⟨some [object]⟩, true, Policy.standard⟩
    let pushed := (push .int wide).perform frame Reservations.empty
    let elsewhere := (push .int wide).perform other Reservations.empty
    let stored := (storeLocal 1 .int small).perform frame Reservations.empty
    frame.Fits ∧ other.Fits ∧ pushed.outcome = .answer .done ∧
      pushed.outcome = elsewhere.outcome ∧
      pushed.frame.contents.stack = elsewhere.frame.contents.stack ∧
      (∀ index, pushed.frame.localAt index = frame.localAt index) ∧
      elsewhere.frame.monitors = ⟨some [object]⟩ ∧
      stored.outcome = .answer .done ∧ stored.frame.localAt 0 = .ok none ∧
      (∀ index, stored.frame.stackAt index = frame.stackAt index) := by
  intro scope wide small object frame other pushed elsewhere stored
  have fits : frame.Fits := ⟨⟨by decide, by decide⟩, by decide⟩
  have otherFits : other.Fits := ⟨⟨by decide, by decide⟩, by decide⟩
  have sameStack : frame.contents.SameStack other.contents := ⟨by decide, by decide, rfl, rfl, rfl⟩
  obtain ⟨outside, -, runs, -⟩ := touches_only_region (push .int wide) fits
    (sources_of_none rfl) Reservations.empty
  obtain ⟨otherOutside, -⟩ := touches_only_region (push .int wide) otherFits
    (sources_of_none rfl) Reservations.empty
  obtain ⟨storedOutside, -, -, stores⟩ := touches_only_region (storeLocal 1 .int small) fits
    (sources_of_none rfl) Reservations.empty
  obtain ⟨outcomes, after⟩ := runs rfl other Reservations.empty otherFits sameStack
  have done : stored.outcome = .answer .done := by decide
  have below := stores 1 .int small rfl ⟨_, done⟩ 0 (.inl (by decide))
  have clobbered : frame.HoldsWideAt 0 := ⟨wide, rfl, rfl⟩
  exact ⟨fits, otherFits, by decide, outcomes, after.stack, outside.locals (by decide),
    otherOutside.monitors (by decide), done, below.1 ⟨by decide, clobbered⟩,
    storedOutside.stack (by decide)⟩

end Edit
end SymbolicFrame
