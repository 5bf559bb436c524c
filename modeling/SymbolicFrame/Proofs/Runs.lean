import SymbolicFrame.Proofs.Refinement

/-!
# Runs of edits on one frame

Edits performed one after the other on a frame, each on what the one before it left. A refused edit
does not end the run, since it leaves the frame as it was. A run of two lists of edits is the run of
the first and then that of the second, and a frame that fits does so after every run.

Where all edits of a run are done, the run can be told on contents: by the verdict on each edit,
made on what the changes before it left.
-/

namespace SymbolicFrame

/-- Edits that were performed one after the other, with what they left behind. -/
structure Edited where
  /-- How each edit ended, in order. -/
  outcomes : List Outcome
  /-- The frame after the last edit. -/
  frame : Frame
  /-- The lock records reported by then. -/
  reservations : Reservations

/-- An edit ended with an answer. -/
def Outcome.isAnswer : Outcome → Bool
  | .answer _ => true
  | .refusal _ | .breach => false

/-- An edit that ended with an answer gave some answer. -/
theorem Outcome.isAnswer_iff {outcome : Outcome} :
    outcome.isAnswer = true ↔ ∃ answer, outcome = .answer answer := by
  cases outcome with
  | answer answer => simp [isAnswer]
  | refusal cause => simp [isAnswer]
  | breach => simp [isAnswer]

/-- An edit that is stopped ends without an answer. -/
theorem Stop.isAnswer_outcome (stop : Stop) : stop.outcome.isAnswer = false := by
  cases stop <;> rfl

/-- Edits that are all done one after the other on contents, with what they answer and what they
leave. -/
inductive Contents.RunsTo : Contents → List (Edit Contents) → List Answer → Contents → Prop where
  /-- Nothing is done. -/
  | nil (contents : Contents) : RunsTo contents [] [] contents
  /-- An edit is done, and the others are on what it leaves. -/
  | cons {contents final : Contents} {edit : Edit Contents} {rest : List (Edit Contents)}
      {answer : Answer} {answers : List Answer} (accepted : contents.verdict edit = .ok answer)
      (later : RunsTo (contents.change edit) rest answers final) :
      RunsTo contents (edit :: rest) (answer :: answers) final

/-- Edits are done after others on what these leave. -/
theorem Contents.RunsTo.append {contents middle final : Contents}
    {first second : List (Edit Contents)} {start later : List Answer}
    (begins : contents.RunsTo first start middle) (ends : middle.RunsTo second later final) :
    contents.RunsTo (first ++ second) (start ++ later) final := by
  induction begins with
  | nil => exact ends
  | cons accepted _ ih => exact .cons accepted (ih ends)

namespace Edit

/-- Perform edits one after the other, whether or not they are refused. -/
def performAll : List (Edit Frame) → Frame → Reservations → Edited
  | [], frame, reservations => ⟨[], frame, reservations⟩
  | edit :: rest, frame, reservations =>
    let performed := edit.perform frame reservations
    let later := performAll rest performed.frame performed.reservations
    ⟨performed.outcome :: later.outcomes, later.frame, later.reservations⟩

/-- A run goes on from where the first of its edits left the frame. -/
theorem performAll_append (first second : List (Edit Frame)) (frame : Frame)
    (reservations : Reservations) :
    performAll (first ++ second) frame reservations =
      let start := performAll first frame reservations
      let later := performAll second start.frame start.reservations
      ⟨start.outcomes ++ later.outcomes, later.frame, later.reservations⟩ := by
  induction first generalizing frame reservations with
  | nil => rfl
  | cons edit rest ih =>
    rw [List.cons_append, performAll, ih]
    rfl

/-- Every edit of a run ends in one way. -/
@[simp]
theorem length_outcomes (edits : List (Edit Frame)) (frame : Frame) (reservations : Reservations) :
    (performAll edits frame reservations).outcomes.length = edits.length := by
  induction edits generalizing frame reservations with
  | nil => rfl
  | cons edit rest ih => exact congrArg Nat.succ (ih _ _)

/-- The edits of a run, each with how it ended. -/
def turns (edits : List (Edit Frame)) (frame : Frame) (reservations : Reservations) :
    List (Edit Frame × Outcome) :=
  edits.zip (performAll edits frame reservations).outcomes

/-- An edit of a run is performed on what the edits before it left. -/
theorem exists_of_turns_eq {edits : List (Edit Frame)} {frame : Frame}
    {reservations : Reservations} {before after : List (Edit Frame × Outcome)} {edit : Edit Frame}
    {outcome : Outcome}
    (split : turns edits frame reservations = before ++ (edit, outcome) :: after) :
    ∃ first rest, edits = first ++ edit :: rest ∧ before = turns first frame reservations ∧
      let start := performAll first frame reservations
      outcome = (edit.perform start.frame start.reservations).outcome := by
  induction edits generalizing frame reservations before with
  | nil => cases before <;> cases split
  | cons head others ih =>
    let performed := head.perform frame reservations
    change (head, performed.outcome) :: turns others performed.frame performed.reservations = _
      at split
    cases before with
    | nil =>
      cases split
      exact ⟨[], others, rfl, rfl, rfl⟩
    | cons turn earlier =>
      obtain ⟨isHead, later⟩ := List.cons_eq_cons.1 split
      obtain ⟨first, rest, rfl, rfl, ended⟩ := ih later
      exact ⟨head :: first, rest, rfl, by rw [← isHead]; rfl, ended⟩

/-- An edit that its verdict lets be done ends with the answer of the verdict, and leaves a frame
that fits and has the contents that the change gives. -/
theorem done_of_ok (edit : Edit Frame) {frame : Frame} {answer : Answer} (fits : frame.Fits)
    (sourceFits : ∀ source, edit.source? = some source → source.Fits)
    (reservations : Reservations)
    (accepted : frame.contents.verdict (edit.map Frame.contents) = .ok answer) :
    let performed := edit.perform frame reservations
    performed.outcome = .answer answer ∧ performed.frame.Fits ∧
      performed.frame.contents = frame.contents.change (edit.map Frame.contents) := by
  obtain ⟨after, performed, afterFits, same⟩ :=
    perform_of_ok fits sourceFits reservations accepted
  rw [performed]
  exact ⟨rfl, afterFits, same⟩

/-- A run of edits that are all done on the contents of a frame that fits gives their answers, and
leaves a frame that fits and has the contents that they leave. -/
theorem performAll_of_runsTo {edits : List (Edit Frame)} {frame : Frame} {final : Contents}
    {answers : List Answer} (fits : frame.Fits)
    (sourcesFit : ∀ edit ∈ edits, ∀ source, edit.source? = some source → source.Fits)
    (runsTo : frame.contents.RunsTo (edits.map (map Frame.contents)) answers final)
    (reservations : Reservations) :
    let run := performAll edits frame reservations
    run.outcomes = answers.map .answer ∧ run.frame.Fits ∧ run.frame.contents = final := by
  induction edits generalizing frame answers reservations with
  | nil =>
    cases runsTo
    exact ⟨rfl, fits, rfl⟩
  | cons edit rest ih =>
    obtain ⟨sourceFits, othersFit⟩ := List.forall_mem_cons.1 sourcesFit
    rw [List.map_cons] at runsTo
    cases runsTo with
    | cons accepted later =>
      obtain ⟨outcome, firstFits, shows⟩ := edit.done_of_ok fits sourceFits reservations accepted
      rw [← shows] at later
      obtain ⟨outcomes, laterFits, laterShows⟩ :=
        ih firstFits othersFit later (edit.perform frame reservations).reservations
      refine ⟨?_, laterFits, laterShows⟩
      rw [List.map_cons, ← outcomes, ← outcome]
      rfl

end Edit
end SymbolicFrame
