import SymbolicFrame.Proofs.Policies

/-!
# Equal frames cannot be told apart

Frames that fit and show the same contents stay so under every edit, with the same outcomes and
the same log, and under every copy. So a run of steps gives the same replies, the same log and
the same texts whichever of two equal frames it starts with, and ends in equal frames. What lies
above the live stack and whether an empty list of monitors was made have no say in it.
-/

namespace SymbolicFrame

/-- Two frames fit and show the same. -/
structure Frame.Alike (left right : Frame) : Prop where
  /-- The first frame fits. -/
  leftFits : left.Fits
  /-- The second frame fits. -/
  rightFits : right.Fits
  /-- The frames show the same. -/
  contents_eq : left.contents = right.contents

namespace Frame.Alike

variable {left right : Frame}

/-- Frames that are alike are equal. -/
theorem agrees (alike : left.Alike right) : left.agrees right = true :=
  (agrees_iff_contents alike.leftFits alike.rightFits).2 alike.contents_eq

/-- Frames that are alike are written alike. -/
theorem render_eq (alike : left.Alike right) : left.render = right.render :=
  render_eq_of_contents alike.contents_eq

end Frame.Alike

/-- Frames are alike when they are so under one policy. -/
theorem Frame.alike_eq : Frame.Alike = Frame.AlikeUnder Eq := by
  funext left right
  apply propext
  constructor
  · intro alike
    have policies : left.policy = right.policy := congrArg Contents.policy alike.contents_eq
    have same : right.contents = left.contents.under right.policy := by
      rw [← policies]
      exact alike.contents_eq.symm
    exact ⟨alike.leftFits, alike.rightFits, policies, same⟩
  · intro alike
    have same : left.contents = right.contents := by
      rw [alike.contents_eq, ← alike.related]
      rfl
    exact ⟨alike.leftFits, alike.rightFits, same⟩

/-- Copies of the same parts of frames that are alike are alike. -/
theorem Frame.Alike.copyParts {left right : Frame} (alike : left.Alike right) (parts : Parts) :
    (left.copyParts parts).Alike (right.copyParts parts) := by
  rw [Frame.alike_eq] at alike ⊢
  exact alike.copyParts parts

/-- Edits whose sources are alike come to the same end on frames that are alike, and leave frames
that are alike. -/
theorem Edit.Related.perform_alike {left right : Edit Frame} {frame other : Frame}
    (related : Edit.Related Frame.Alike left right) (frames : frame.Alike other)
    (reservations : Reservations) :
    Performed.Related Frame.Alike (left.perform frame reservations)
      (right.perform other reservations) := by
  rw [Frame.alike_eq] at related frames ⊢
  apply related.perform frames
  rw [← frames.related]
  rfl

/-! ## Runs -/

namespace Session

/-- What a run shows: the reply to each of its steps, with the lines that the step writes to the
log. -/
def transcript : Session → List Step → List (Reply × List String)
  | _, [] => []
  | session, step :: rest =>
    let turn := session.step step
    (turn.reply, turn.log.map Event.render) :: turn.session.transcript rest

/-- The start of a run shows the start of what the run shows. -/
theorem transcript_take (session : Session) (steps : List Step) (count : Nat) :
    session.transcript (steps.take count) = (session.transcript steps).take count := by
  induction steps generalizing session count with
  | nil =>
    rw [List.take_nil, transcript, List.take_nil]
  | cons step rest ih =>
    cases count with
    | zero => rfl
    | succ count =>
      rw [List.take_succ_cons, transcript, transcript, List.take_succ_cons, ih]

variable {first second : Session}

/-- Two runs show the same if they start with related turns and show the same after them. -/
theorem transcript_cons {R : Frame → Frame → Prop} {step other : Step} {rest others : List Step}
    (turn : Turn.Related R (first.step step) (second.step other))
    (later : (first.step step).session.transcript rest =
      (second.step other).session.transcript others) :
    first.transcript (step :: rest) = second.transcript (other :: others) := by
  rw [transcript, transcript, turn.reply_eq, turn.lines_eq, later]

/-- Sessions whose frames are alike take the same turn, and their frames are alike after it. -/
theorem step_alike (related : first.Related Frame.Alike second) (step : Step) :
    Turn.Related Frame.Alike (first.step step) (second.step step) :=
  related.step (fun fits => ⟨fits, fits, rfl⟩) Frame.Alike.render_eq
    (fun alike parts => alike.copyParts parts)
    fun _ _ _ frames sources => sources.perform_alike frames first.reservations

/-- Sessions whose frames are alike show the same in every run, and their frames are alike after
it. -/
theorem run_alike (related : first.Related Frame.Alike second) (steps : List Step) :
    first.transcript steps = second.transcript steps ∧
      (first.run steps).Related Frame.Alike (second.run steps) := by
  induction steps generalizing first second with
  | nil => exact ⟨rfl, related⟩
  | cons step rest ih =>
    have turn := step_alike related step
    have later := ih turn.sessions
    exact ⟨transcript_cons turn later.1, later.2⟩

end Session

namespace Frame

/-- Equality of frames is observational equivalence. Reachable frames are equal exactly when they
have the same scope, policy, mode and sizes, every index reads the same local and stack slot off
both, and both hold the same monitors. When they are, then in any session of reachable frames, and
under any name of it, every run of steps shows the same with either of them. It gives the same
replies and log lines step by step, ends with the same lock records, and leaves equal frames of
the same text under each name. Nothing is asked of the slots above the live stacks, or of whether
empty lists of monitors were made, and the diagnostic texts differ at most in that list. -/
theorem agrees_iff_indistinguishable {left right : Frame} (leftReachable : left.Reachable)
    (rightReachable : right.Reachable) :
    (left.agrees right = true ↔ left.scope = right.scope ∧ left.policy = right.policy ∧
      left.relaxed = right.relaxed ∧ left.maxLocals = right.maxLocals ∧
      left.maxStack = right.maxStack ∧ left.stackSize = right.stackSize ∧
      (∀ index, left.localAt index = right.localAt index) ∧
      (∀ index, left.stackAt index = right.stackAt index) ∧ left.locks = right.locks) ∧
    (left.agrees right = true →
      (∀ (before : Session) (name : String) (steps : List Step), before.Every Frame.Reachable →
        let first := before.hold name (.builder left)
        let second := before.hold name (.builder right)
        first.transcript steps = second.transcript steps ∧
          (first.run steps).reservations = (second.run steps).reservations ∧
          ∀ other, Option.Rel
            (fun frame copy => frame.agrees copy = true ∧ frame.render = copy.render)
            ((first.run steps).frame? other) ((second.run steps).frame? other)) ∧
      left.render = right.render ∧
      debug { left with monitors := right.monitors } = right.debug) := by
  have leftFits := leftReachable.fits
  have rightFits := rightReachable.fits
  have same_iff := agrees_iff_contents leftFits rightFits
  constructor
  · rw [same_iff]
    exact contents_eq_iff_readers leftFits rightFits
  · intro equal
    have same := same_iff.1 equal
    refine ⟨fun before name steps reachable => ?_, render_eq_of_contents same,
      debug_eq_of_contents same⟩
    intro first second
    have self : before.Related Frame.Alike before := by
      apply Session.related_self
      intro other frame found
      have fits := (reachable other frame found).fits
      exact ⟨fits, fits, rfl⟩
    have held : Holding.Related Frame.Alike (.builder left) (.builder right) :=
      .builder ⟨leftFits, rightFits, same⟩
    have start : first.Related Frame.Alike second := self.hold name held
    obtain ⟨shown, related⟩ := Session.run_alike start steps
    have reservations : (first.run steps).reservations = (second.run steps).reservations := by
      rw [related.others]
    refine ⟨shown, reservations, fun other => ?_⟩
    have frames := related.frame? other
    generalize (first.run steps).frame? other = found, (second.run steps).frame? other = copy
      at frames ⊢
    cases frames with
    | none => exact .none
    | some alike => exact .some ⟨alike.agrees, alike.render_eq⟩

/-- A frame with a dead slot and an emptied list of monitors is equal to a fresh one, reads like it
and behaves like it in every run. -/
theorem agrees_iff_indistinguishable_leftovers :
    let scope := Scope.root ⟨some 0, 0⟩ "A.b()V"
    let object : Value := ⟨0, 0, .object, ""⟩
    let used : Frame :=
      ⟨⟨1, 0, #[none, some object]⟩, scope, ⟨some []⟩, false, Policy.standard⟩
    let unused := Frame.fresh scope 1 1 Policy.standard
    used.Reachable ∧ unused.Reachable ∧ used ≠ unused ∧ used.agrees unused = true ∧
      (∀ index, used.stackAt index = unused.stackAt index) ∧
      ∀ steps, ((Session.initial false).hold "a" (.builder used)).transcript steps =
        ((Session.initial false).hold "a" (.builder unused)).transcript steps := by
  intro scope object used unused
  have usedReachable : used.Reachable :=
    ⟨false, [.create "a" scope 1 1 Policy.standard, .edit "a" (.push .object object),
      .edit "a" (.lock scope object 1), .edit "a" .unlock, .edit "a" .clearStack], "a", by decide⟩
  have unusedReachable : unused.Reachable :=
    ⟨false, [.create "a" scope 1 1 Policy.standard], "a", by decide⟩
  have equal : used.agrees unused = true := by decide
  obtain ⟨readers, runs⟩ := agrees_iff_indistinguishable usedReachable unusedReachable
  obtain ⟨-, -, -, -, -, -, -, readStack, -⟩ := readers.1 equal
  have shown (steps : List Step) :=
    ((runs equal).1 (Session.initial false) "a" steps (Session.every_initial false _)).1
  exact ⟨usedReachable, unusedReachable, by decide, equal, readStack, shown⟩

end Frame
end SymbolicFrame
