import SymbolicFrame.Proofs.Lineage
import SymbolicFrame.Proofs.Causes

/-!
# Frames within their bounds

The slots of a frame are found by offsets into one array. The sizes of a frame stay what they were
when it was made, the live stack stays within its size, and so whatever a reader looks at lies
within the array. An edit checks first and writes then: once the checks of a push or of parameters
have passed, none of the single pushes or stores that follow can fail. Partial copies are made by
the same moves of regions as the edits that take over slots, and these moves are within their
bounds as well. No step of a session uses anything outside its bounds, as long as the parameters
that it stores may fit in memory.
-/

namespace SymbolicFrame

/-! ## Reading -/

/-- Whatever the readers of a frame look at lies within its array, at places that are words. -/
structure Frame.ReadsWithin (frame : Frame) : Prop where
  /-- The array holds the locals and the whole stack. -/
  size_eq : frame.buffer.slots.size = frame.maxLocals + frame.maxStack
  /-- The live stack lies within the stack. -/
  depth_le : frame.stackSize ≤ frame.maxStack
  /-- The sizes add up to a word. -/
  countable : frame.maxLocals + frame.maxStack < Word.limit
  /-- The locals and the live stack end within the array, one after the other. -/
  regions : frame.maxLocals ≤ frame.valuesSize ∧ frame.valuesSize ≤ frame.buffer.slots.size
  /-- A local is found within the array. -/
  locals : ∀ index : UInt64, index.toNat < frame.maxLocals →
    ∃ slot, frame.buffer.slots[index.toNat]? = some slot ∧ frame.localAt index = .ok slot
  /-- A live stack slot is found within the array. -/
  stack : ∀ index : UInt64, index.toNat < frame.stackSize →
    ∃ slot, frame.buffer.slots[frame.maxLocals + index.toNat]? = some slot ∧
      frame.stackAt index = .ok slot
  /-- A slot of the two regions is found within the array. -/
  values : ∀ index : UInt64, index.toNat < frame.valuesSize →
    frame.buffer.slots[index.toNat]? = some (frame.valueAt index)
  /-- No other local is looked at. -/
  noLocal : ∀ index : UInt64, frame.maxLocals ≤ index.toNat →
    frame.localAt index = .error (.localIndexOutOfRange index.toNat frame.maxLocals)
  /-- No other stack slot is looked at. -/
  noStack : ∀ index : UInt64, frame.stackSize ≤ index.toNat →
    frame.stackAt index = .error (.stackIndexOutOfRange index.toNat frame.stackSize)

/-- A slot within an array is there, and is the one that a reader with a default gives. -/
private theorem found_of_lt {slots : Array Slot} {place : Nat} (inside : place < slots.size) :
    slots[place]? = some (slots.getD place none) := by
  rw [Array.getD_eq_getD_getElem?, Array.getElem?_eq_getElem inside, Option.getD_some]

/-- The readers of a frame that fits stay within its array. -/
theorem Frame.Fits.readsWithin {frame : Frame} (fits : frame.Fits) : frame.ReadsWithin := by
  have ⟨depth, size, countable⟩ := fits.sizes
  have locals : frame.maxLocals ≤ frame.valuesSize := Nat.le_add_right _ _
  have values : frame.valuesSize ≤ frame.buffer.slots.size := fits.formed.valuesSize_le
  have live : frame.valuesSize = frame.maxLocals + frame.stackSize := rfl
  refine ⟨size, depth, by omega, ⟨locals, values⟩, ?_, ?_, ?_, ?_, ?_⟩
  · intro index inside
    exact ⟨_, found_of_lt (by omega), if_pos inside⟩
  · intro index inside
    exact ⟨_, found_of_lt (by omega), if_pos inside⟩
  · intro index inside
    have reads : frame.valueAt index = frame.buffer.slots.getD index.toNat none := if_pos inside
    rw [reads]
    exact found_of_lt (by omega)
  · intro index outside
    exact if_neg (Nat.not_lt.2 outside)
  · intro index outside
    exact if_neg (Nat.not_lt.2 outside)

/-! ## Writing after the checks -/

namespace EditM

/-- What a push looks at before it writes. -/
def pushChecks (kind : Kind) (value : Value) : EditM Unit := do
  checkStorable kind
  checkKind kind value
  let held ← frame
  let needed ← sum held.stackSize kind.slotWidth
  if held.maxStack < needed then fault (.stackOverflow held.maxStack)

/-- What a push writes once it has looked: single slots, and the mode. -/
def pushWrites (kind : Kind) (value : Value) : EditM Unit := do
  pushSlot (some value)
  if kind.isWide then pushSlot none
  if kind.isWordLike then relax kind

/-- What storing parameters looks at before anything is stored. -/
def parametersChecks (parameters : List Value) : EditM Unit := do
  let width ← parametersEnd 0 parameters
  checkLocalRange 0 width.toUInt64

/-- A push looks first and writes then. -/
theorem push_eq (kind : Kind) (value : Value) :
    push kind value = pushChecks kind value >>= fun _ => pushWrites kind value := by
  simp only [push, pushChecks, pushWrites, bind_assoc]
  refine bind_congr fun _ => bind_congr fun _ => bind_congr fun held => bind_congr fun needed => ?_
  by_cases full : held.maxStack < needed
  · rw [if_pos full, if_pos full]
  · rw [if_neg full, if_neg full, pure_bind]

/-- Parameters are checked first and stored then. -/
theorem storeParameters_eq (parameters : List Value) :
    storeParameters parameters =
      parametersChecks parameters >>= fun _ => storeFrom 0 parameters := by
  simp only [storeParameters, parametersChecks, bind_assoc]

variable {editor checked : Editor}

/-- A step that only looks is done where its verdict is an answer, and leaves the editor. -/
theorem eq_of_hear_ok {α : Type} {verdict : Except Stop α} {answer : α}
    (ran : editor.hear verdict = .ok answer checked) : verdict = .ok answer ∧ checked = editor := by
  cases verdict with
  | ok found =>
    cases ran
    exact ⟨rfl, rfl⟩
  | error stop => cases ran

/-- Once the checks of a push have passed, its verdict is that it is done, and nothing has been
written. -/
theorem pushes_of_checks {kind : Kind} {value : Value} (fits : editor.frame.Fits)
    (passed : pushChecks kind value editor = .ok () checked) :
    editor.frame.contents.pushes kind value = .ok () ∧ checked = editor := by
  obtain ⟨_, _, storable, kinds⟩ := bind_eq_ok passed
  rw [checkStorable_run] at storable
  obtain ⟨held, rfl⟩ := eq_of_hear_ok storable
  obtain ⟨_, _, sameKind, sizes⟩ := bind_eq_ok kinds
  rw [checkKind_run] at sameKind
  obtain ⟨accepted, rfl⟩ := eq_of_hear_ok sameKind
  rw [frame_bind] at sizes
  obtain ⟨_, _, summed, room⟩ := bind_eq_ok sizes
  obtain ⟨rfl, rfl⟩ := sum_eq_ok summed
  split at room
  · cases room
  · rename_i enough
    cases room
    rw [Contents.pushes_iff, ← Policy.holds_iff, fits.length_stack]
    exact ⟨⟨held, accepted, Nat.not_lt.1 enough⟩, rfl⟩

/-- Once the checks of a push have passed, every slot is pushed, and that ends the push. -/
theorem pushWrites_done {kind : Kind} {value : Value} (fits : editor.frame.Fits)
    (passed : pushChecks kind value editor = .ok () checked) :
    ∃ final, pushWrites kind value checked = .ok () final ∧
      push kind value editor = .ok () final := by
  obtain ⟨pushes, same⟩ := pushes_of_checks fits passed
  have settles := settles_push fits kind value
  rw [pushes] at settles
  obtain ⟨after, ran, -, -⟩ := settles
  have written := ran
  rw [push_eq, bind_ok passed] at written
  exact ⟨_, written, ran⟩

/-- Once parameters have passed the checks, every one of them is stored, and no more is done. -/
theorem storeFrom_done {parameters : List Value} (fits : editor.frame.Fits)
    (passed : parametersChecks parameters editor = .ok () checked) :
    ∃ final, storeFrom 0 parameters checked = .ok () final ∧
      storeParameters parameters editor = .ok () final := by
  rw [storeParameters_eq, bind_ok passed]
  obtain ⟨width, _, measured, ranged⟩ := bind_eq_ok passed
  rw [parametersEnd_run] at measured
  obtain ⟨measured, rfl⟩ := eq_of_hear_ok measured
  rw [checkLocalRange_within fits] at ranged
  obtain ⟨inside, rfl⟩ := eq_of_hear_ok ranged
  have bounds := Policy.parametersEnd_bounds measured (by decide)
  have word : width.toUInt64.toNat = width := Word.toNat_toUInt64 bounds.2
  have low := within_iff.1 inside
  rw [fits.length_locals, word] at low
  obtain ⟨after, stored, -, -⟩ := turns_storeFrom fits measured (by decide) (by omega)
  exact ⟨_, stored, stored⟩

end EditM

/-! ## Copying parts -/

/-- The moves of regions by which a partial copy is made, each of which checks its bounds. -/
def Frame.copySteps (frame : Frame) (parts : Parts) : EditM Unit := do
  if parts.locals then EditM.takeLocals frame.buffer
  if parts.stack then EditM.takeStack frame.buffer

/-- A partial copy is made within bounds. -/
theorem Frame.Fits.copySteps_run {frame : Frame} (fits : frame.Fits) (parts : Parts)
    (reservations : Reservations) (log : List Event) :
    let blank := Frame.fresh frame.scope frame.maxLocals frame.maxStack frame.policy
    frame.copySteps parts ⟨blank, reservations, log⟩ =
      .ok () ⟨{ blank with buffer := (frame.copyParts parts).buffer }, reservations, log⟩ := by
  intro blank
  have ⟨depth, size, _⟩ := fits.sizes
  have formed : blank.buffer.WellFormed := Buffer.wellFormed_fresh _ _
  have maxStack : blank.buffer.maxStack = frame.maxStack := Buffer.maxStack_fresh _ _
  have locals : EditM.takeLocals frame.buffer ⟨blank, reservations, log⟩ =
      .ok () ⟨{ blank with buffer := blank.buffer.withLocalsOf frame.buffer },
        reservations, log⟩ := by
    unfold EditM.takeLocals
    rw [EditM.frame_bind, if_pos ⟨rfl, fits.formed.maxLocals_le, formed.maxLocals_le⟩]
    rfl
  have stack {buffer : Buffer} (formed : buffer.WellFormed)
      (sameLocals : buffer.maxLocals = frame.maxLocals)
      (sameStack : buffer.maxStack = frame.maxStack) :
      EditM.takeStack frame.buffer ⟨{ blank with buffer := buffer }, reservations, log⟩ =
        .ok () ⟨{ blank with buffer := buffer.withStackOf frame.buffer }, reservations, log⟩ := by
    have total := formed.size_eq
    have live : frame.buffer.depth = frame.stackSize := rfl
    have room : frame.buffer.depth ≤ buffer.maxStack := by omega
    have inside : buffer.maxLocals + frame.buffer.depth ≤ buffer.slots.size := by omega
    unfold EditM.takeStack
    rw [EditM.frame_bind]
    dsimp only
    rw [if_pos ⟨room, fits.formed.valuesSize_le, inside⟩]
    rfl
  have localsFormed := formed.withLocalsOf fits.formed rfl
  have localsMaxStack := Buffer.maxStack_withLocalsOf formed fits.formed rfl
  unfold Frame.copySteps Frame.copyParts
  cases parts.locals with
  | true =>
    cases parts.stack with
    | true =>
      have taken := stack localsFormed rfl (localsMaxStack.trans maxStack)
      exact (EditM.bind_ok locals).trans taken
    | false => exact (EditM.bind_ok locals).trans rfl
  | false =>
    cases parts.stack with
    | true => exact stack formed rfl maxStack
    | false => rfl

/-- Whatever is written to a frame, or to a copy of it, once the checks have passed lies within
bounds. -/
structure Frame.WritesWithin (frame : Frame) : Prop where
  /-- A push whose checks have passed puts down its slots. -/
  pushes : ∀ (kind : Kind) (value : Value) (editor checked : Editor), editor.frame = frame →
    EditM.pushChecks kind value editor = .ok () checked →
      ∃ final, EditM.pushWrites kind value checked = .ok () final ∧
        EditM.push kind value editor = .ok () final
  /-- Parameters whose checks have passed are all stored. -/
  stores : ∀ (parameters : List Value) (editor checked : Editor), editor.frame = frame →
    EditM.parametersChecks parameters editor = .ok () checked →
      ∃ final, EditM.storeFrom 0 parameters checked = .ok () final ∧
        EditM.storeParameters parameters editor = .ok () final
  /-- A partial copy is made by moves within bounds. -/
  copies : ∀ (parts : Parts) (reservations : Reservations) (log : List Event),
    let blank := Frame.fresh frame.scope frame.maxLocals frame.maxStack frame.policy
    frame.copySteps parts ⟨blank, reservations, log⟩ =
      .ok () ⟨{ blank with buffer := (frame.copyParts parts).buffer }, reservations, log⟩

/-- Whatever is written to a frame that fits, once the checks have passed, lies within bounds. -/
theorem Frame.Fits.writesWithin {frame : Frame} (fits : frame.Fits) : frame.WritesWithin where
  pushes kind value editor checked same passed := by
    subst same
    exact EditM.pushWrites_done fits passed
  stores parameters editor checked same passed := by
    subst same
    exact EditM.storeFrom_done fits passed
  copies parts reservations log := fits.copySteps_run parts reservations log

/-! ## Sizes -/

/-- The sizes of contents: how many locals they have, and how many stack slots they may have. -/
def Contents.sizes (contents : Contents) : Nat × Nat :=
  (contents.locals.length, contents.maxStack)

namespace Contents

variable {contents : Contents}

/-- Copies of any parts keep the sizes. -/
theorem sizes_kept (contents : Contents) (parts : Parts) :
    (contents.kept parts).sizes = contents.sizes := by
  unfold sizes kept
  split <;> simp

/-- Edits that are done keep the sizes. -/
theorem sizes_change {edit : Edit Contents} {answer : Answer}
    (accepted : contents.verdict edit = .ok answer) :
    (contents.change edit).sizes = contents.sizes := by
  cases edit with
  | replaceLocals source =>
    have taken := done_iff.1 ⟨answer, accepted⟩
    have same := unless_pass.1 taken
    simp only [sizes, change, Decidable.not_not.1 same]
  | storeLocal | invalidateLocal | clearLocals | storeParameters => simp [sizes, change]
  | push | pop | pushRaw | popRaw | popArguments | truncateStack | clearStack | loadLocal
  | replaceStack | replaceMonitors | lock | unlock => rfl

end Contents

/-- The name of a frame that a step makes, and the sizes that it is asked for. -/
def Step.creates? : Step → Option (String × UInt64 × UInt64)
  | .create name _ maxLocals maxStack _ | .enter name _ maxLocals maxStack _ =>
    some (name, maxLocals, maxStack)
  | .addGraph | .useGraph _ | .addValue _ _ | .addScope _ _ | .detachedScope _ _ _ | .report _ _
  | .snapshot _ _ | .freeze _ _ | .duplicate _ _ | .thaw _ _ | .copyParts _ _ _ | .edit _ _ => none

namespace Session

variable {session : Session} {step : Step} {name : String} {after : Frame}

/-- The step makes a frame of the sizes under the name. -/
def Makes (maxLocals maxStack : Nat) (session : Session) (step : Step) (name : String) : Prop :=
  ∃ askedLocals askedStack : UInt64, step.creates? = some (name, askedLocals, askedStack) ∧
    (session.step step).reply.isAnswer = true ∧
    maxLocals = askedLocals.toNat ∧ maxStack = askedStack.toNat

/-- What goes on keeps its sizes. -/
theorem Becomes.sizes_eq {contents turned : Contents}
    (becomes : session.Becomes step name contents turned) : turned.sizes = contents.sizes := by
  cases becomes with
  | same => rfl
  | kept parts => exact contents.sizes_kept parts
  | changed _ _ accepted => exact Contents.sizes_change accepted

/-- A frame that was made has the sizes that were asked for. -/
theorem sizes_of_makes {maxLocals maxStack : Nat} (fits : session.Every Frame.Fits)
    (found : (session.step step).session.frame? name = some after)
    (makes : session.Makes maxLocals maxStack step name) :
    after.contents.sizes = (maxLocals, maxStack) := by
  obtain ⟨askedLocals, askedStack, creates, done, rfl, rfl⟩ := makes
  obtain ⟨-, whence⟩ := whence_of_step fits found
  generalize after.contents = contents at whence
  cases whence with
  | stayed alone =>
    have replaced : name ∈ step.replaces := by
      cases step <;> cases creates <;> exact List.mem_singleton.2 rfl
    exact absurd replaced (alone done).1
  | created =>
    cases creates
    simp [Contents.sizes, Contents.blank]
  | entered =>
    cases creates
    simp [Contents.sizes, Contents.blank, Contents.change]
  | copied copies => cases step <;> cases copies <;> cases creates
  | edited => cases creates

/-- A frame after a step was made by it, or goes on from a frame of its sizes. -/
theorem makes_or_continues (fits : session.Every Frame.Fits)
    (found : (session.step step).session.frame? name = some after) :
    session.Makes after.contents.locals.length after.contents.maxStack step name ∨
      ∃ source frame, session.Continues step source name ∧
        session.frame? source = some frame ∧ frame.contents.sizes = after.contents.sizes := by
  obtain ⟨-, whence⟩ := whence_of_step fits found
  generalize after.contents = contents at whence
  cases whence with
  | stayed alone held => exact .inr ⟨name, _, .kept fun done => (alone done).1, held, rfl⟩
  | @created name scope maxLocals maxStack policy done =>
    exact .inl ⟨maxLocals, maxStack, rfl, done, by simp [Contents.blank], rfl⟩
  | @entered name scope maxLocals maxStack parameters answer done accepted =>
    refine .inl ⟨maxLocals, maxStack, rfl, done, ?_, rfl⟩
    simp [Contents.change, Contents.blank]
  | copied copies done held =>
    exact .inr ⟨_, _, .copied copies done, held, (Contents.sizes_kept _ _).symm⟩
  | edited isBuilder resolves accepted reply =>
    exact .inr ⟨name, _, .kept fun _ => List.not_mem_nil, frame?_of_builder? isBuilder,
      (Contents.sizes_change accepted).symm⟩

/-- The sizes of a frame are traced from where it was made, along whatever it goes on as. -/
theorem sizes_traced (maxLocals maxStack : Nat) :
    Traced Continues (Makes maxLocals maxStack)
      (fun frame => frame.contents.sizes = (maxLocals, maxStack)) where
  starts fits continues found := by
    obtain ⟨frame, held, -⟩ := continues.becomes fits found
    exact ⟨frame, held⟩
  step_iff fits found := by
    constructor
    · intro sizes
      rcases makes_or_continues fits found with makes | ⟨source, frame, continues, held, same⟩
      · cases sizes
        exact .inl makes
      · exact .inr ⟨source, frame, continues, held, same.trans sizes⟩
    · rintro (makes | ⟨source, frame, continues, held, sizes⟩)
      · exact sizes_of_makes fits found makes
      · obtain ⟨before, isBefore, becomes⟩ := continues.becomes fits found
        cases isBefore.symm.trans held
        exact becomes.sizes_eq.trans sizes

/-! ## Every session -/

/-- Whatever the frames of a session read and write lies within their bounds. Their arrays hold
exactly the locals and the stack, of the sizes that were asked for where the frame was made that
they go on from. Once its checks have passed, a push puts down every slot, and parameters are all
stored. A step that asks for no more than may fit in memory, such as slots of sixteen-bit sizes and
fewer than `parameterLimit` parameters, uses nothing outside its bounds, and no step is refused for
a stack slot that it missed. -/
theorem runs_within_bounds (trusted : Bool) (steps : List Step) :
    (∀ name frame, ((initial trusted).run steps).frame? name = some frame →
      frame.ReadsWithin ∧ frame.WritesWithin ∧
        ∃ before step rest middle, steps = before ++ step :: rest ∧
          ((initial trusted).run before).Makes frame.maxLocals frame.maxStack step middle ∧
          (((initial trusted).run before).step step).session.Leads Continues rest middle name) ∧
      ∀ step : Step, step.FitsMemory →
        (((initial trusted).run steps).step step).reply ≠ .breach ∧
          ∀ index stackSize, (((initial trusted).run steps).step step).reply ≠
            .refusal (.stackIndexOutOfRange index stackSize) := by
  have fits := every_fits trusted steps
  constructor
  · intro name frame found
    have frameFits := fits name frame found
    have sizes : frame.contents.sizes = (frame.maxLocals, frame.maxStack) :=
      Prod.ext frameFits.length_locals rfl
    exact ⟨frameFits.readsWithin, frameFits.writesWithin,
      ((sizes_traced frame.maxLocals frame.maxStack).initial_iff found).1 sizes⟩
  · intro step room
    exact ⟨not_breach_of_fitsMemory fits room, not_stackIndexOutOfRange fits⟩

/-- A stack is taken over by a frame of another size, and a copy without locals takes raw slots on
top of it. More arguments than there are slots are asked for, and more parameters than locals. -/
theorem runs_within_bounds_spliced :
    let scope := Scope.root ⟨some 0, 0⟩ "A.b()V"
    let long : Value := ⟨0, 0, .long, ""⟩
    let steps : List Step :=
      [.create "a" scope 2 3 Policy.standard, .create "b" scope 0 2 Policy.standard,
        .edit "b" (.push .long long), .edit "a" (.replaceStack "b"),
        .edit "b" (.truncateStack 1), .copyParts "a" "c" ⟨false, true, false⟩,
        .edit "c" (.pushRaw (some long)), .edit "c" (.popArguments Word.largest)]
    let step : Step := .edit "c" (.storeParameters [long, long])
    ∃ frame, ((initial false).run steps).frame? "c" = some frame ∧ frame.stackSize = 3 ∧
      (frame.ReadsWithin ∧ frame.WritesWithin ∧
        ∃ before step rest middle, steps = before ++ step :: rest ∧
          ((initial false).run before).Makes frame.maxLocals frame.maxStack step middle ∧
          (((initial false).run before).step step).session.Leads Continues rest middle "c") ∧
      step.FitsMemory ∧ (((initial false).run steps).step step).reply ≠ .breach := by
  intro scope long steps step
  let frame : Frame :=
    ⟨⟨2, 3, #[none, none, some long, none, some long]⟩, scope, ⟨none⟩, false, Policy.standard⟩
  have found : ((initial false).run steps).frame? "c" = some frame := by decide
  have room : step.FitsMemory := by
    change 2 < parameterLimit
    decide
  have within := runs_within_bounds false steps
  exact ⟨frame, found, rfl, within.1 "c" frame found, room, (within.2 step room).1⟩

end Session
end SymbolicFrame
