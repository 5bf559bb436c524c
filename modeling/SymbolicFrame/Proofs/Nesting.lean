import SymbolicFrame.Proofs.Blocks
import SymbolicFrame.Proofs.Verdicts
import SymbolicFrame.Proofs.Equality
import SymbolicFrame.Proofs.Runs

/-!
# Nested pushes and pops

Typed pushes and pops are nested when each pop names the kind of the push that it matches. In any
frame, a run of nested edits whose pushes are all done gives every value back to the pop that
matches its push, and leaves the frame as it was, but for the relaxed checks. A value accepted under
a kind is accepted under it later on, since checks are only ever relaxed; so it does not matter that
an edit in between relaxes them, or that the value is of another kind.
-/

namespace SymbolicFrame

/-! ## A push and its pop -/

namespace Contents

variable {contents later : Contents} {kind : Kind} {value : Value}

/-- A value stays accepted under a kind while checks are at most relaxed. -/
theorem accepts_of_relaxed (accepted : contents.accepts kind value = .ok ())
    (policy : later.policy = contents.policy)
    (relaxed : contents.relaxed = true → later.relaxed = true) :
    later.accepts kind value = .ok () := by
  rw [accepts_iff] at accepted ⊢
  rw [policy]
  rcases accepted with same | already | unchecked
  · exact .inl same
  · exact .inr (.inl (relaxed already))
  · exact .inr (.inr unchecked)

/-- What lies right above other slots, under a kind, is popped as that kind if it is accepted. -/
theorem popped_of_stack {below : List Slot} (solid : kind ≠ .void)
    (stack : contents.stack = below ++ kind.slots value)
    (accepted : contents.accepts kind value = .ok ()) :
    contents.popped kind = .ok value := by
  have length : contents.stack.length = below.length + kind.slotWidth := by
    rw [stack, List.length_append, Kind.length_slots solid]
  have lowest : slotAt contents.stack below.length = some value := by
    rw [stack, Kind.slots, slotAt_append_length]
  have clear : ¬ (kind.isWide = true ∧
      (slotAt contents.stack (below.length + 1)).isSome = true) := by
    rintro ⟨wide, filled⟩
    rw [stack, Kind.slots_of_wide wide, slotAt_append_length_succ] at filled
    cases filled
  unfold popped
  rw [if_neg solid, length, if_neg (by omega), Nat.add_sub_cancel, if_neg clear, lowest]
  change (contents.accepts kind value >>= fun _ => .ok value) = _
  rw [accepted]
  rfl

end Contents

namespace Edit

variable {kind : Kind} {value : Value} {frame later : Frame} {relaxed : Bool}

/-- A push that is done has passed its checks, and puts the slots of its value on the stack. -/
theorem push_done {reservations : Reservations} (fits : frame.Fits)
    (succeeds : (push kind value).Succeeds frame reservations) :
    let performed := (push kind value).perform frame reservations
    frame.contents.pushes kind value = .ok () ∧ performed.outcome = .answer .done ∧
      performed.frame.Fits ∧
      performed.frame.contents = frame.contents.change (.push kind value) := by
  have passes : frame.contents.pushes kind value = .ok () :=
    Contents.done_iff.1 ((succeeds_iff fits (sources_of_none rfl) reservations).1 succeeds)
  have accepted : frame.contents.verdict (.push kind value) = .ok .done :=
    congrArg Contents.done passes
  exact ⟨passes, done_of_ok (.push kind value) fits (sources_of_none rfl) reservations accepted⟩

/-- A pop takes off what a push put on, if nothing else has changed but that checks are relaxed. -/
theorem pop_of_push (fits : later.Fits) (passes : frame.contents.pushes kind value = .ok ())
    (shows : later.contents =
      { frame.contents.change (.push kind value) with relaxed := frame.relaxed || relaxed })
    (reservations : Reservations) :
    let performed := (pop kind).perform later reservations
    performed.outcome = .answer (.slot (some value)) ∧ performed.frame.Fits ∧
      performed.frame.contents = { frame.contents with relaxed := frame.relaxed || relaxed } := by
  obtain ⟨⟨solid, -⟩, accepted, -⟩ := Contents.pushes_iff.1 passes
  have stack : later.contents.stack = frame.contents.stack ++ kind.slots value := by
    rw [shows]
    rfl
  have stays : frame.contents.relaxed = true → later.contents.relaxed = true := by
    intro already
    rw [shows]
    change (frame.contents.relaxed || relaxed) = true
    rw [already, Bool.true_or]
  have stillAccepted : later.contents.accepts kind value = .ok () := by
    apply Contents.accepts_of_relaxed accepted _ stays
    rw [shows]
    rfl
  have verdict : later.contents.verdict (.pop kind) = .ok (.slot (some value)) :=
    congrArg Contents.given (Contents.popped_of_stack solid stack stillAccepted)
  have restored : later.contents.stack.take (later.contents.stack.length - kind.slotWidth) =
      frame.contents.stack := by
    rw [stack, List.length_append, Kind.length_slots solid, Nat.add_sub_cancel, List.take_left]
  obtain ⟨outcome, afterFits, same⟩ :=
    done_of_ok (.pop kind) fits (sources_of_none rfl) reservations verdict
  have shortened : ((pop kind).perform later reservations).frame.contents =
      later.contents.change (.pop kind) := same
  refine ⟨outcome, afterFits, ?_⟩
  rw [shortened, Contents.change, restored, shows]
  rfl

/-! ## Nested edits -/

/-- Typed pushes and pops that match each other, with what they answer when all of them are done.
A pop names the kind of the push that it matches and gives back the value of that push. -/
inductive Nested : List (Edit Frame) → List Answer → Prop where
  /-- Nothing is pushed or popped. -/
  | nil : Nested [] []
  /-- A push, what is nested above it, the pop that matches it, and what comes after. -/
  | around (kind : Kind) (value : Value) {inner rest : List (Edit Frame)}
      {innerAnswers restAnswers : List Answer} (above : Nested inner innerAnswers)
      (next : Nested rest restAnswers) :
      Nested (push kind value :: inner ++ pop kind :: rest)
        (.done :: innerAnswers ++ .slot (some value) :: restAnswers)

/-- The edit is a typed push. -/
def isPush {Source : Type} : Edit Source → Bool
  | push _ _ => true
  | _ => false

/-- The edit is a typed push of a word-like kind. -/
def pushesWord {Source : Type} : Edit Source → Bool
  | push kind _ => kind.isWordLike
  | _ => false

/-- Every typed push among edits is done. -/
def PushesDone (edits : List (Edit Frame)) (outcomes : List Outcome) : Prop :=
  ∀ turn ∈ edits.zip outcomes, turn.1.isPush = true → turn.2.isAnswer = true

instance (edits : List (Edit Frame)) (outcomes : List Outcome) :
    Decidable (PushesDone edits outcomes) :=
  inferInstanceAs (Decidable (∀ turn ∈ edits.zip outcomes,
    turn.1.isPush = true → turn.2.isAnswer = true))

/-- The pushes of a run are done if those of its first edit and of the others are. -/
theorem pushesDone_cons {edit : Edit Frame} {outcome : Outcome} {edits : List (Edit Frame)}
    {outcomes : List Outcome} : PushesDone (edit :: edits) (outcome :: outcomes) ↔
      (edit.isPush = true → outcome.isAnswer = true) ∧ PushesDone edits outcomes :=
  List.forall_mem_cons

/-- The pushes of a run are done if those of its two parts are. -/
theorem pushesDone_append {first second : List (Edit Frame)} {start later : List Outcome}
    (lengths : first.length = start.length) :
    PushesDone (first ++ second) (start ++ later) ↔
      PushesDone first start ∧ PushesDone second later := by
  unfold PushesDone
  rw [List.zip_append lengths, List.forall_mem_append]

/-- A run of nested edits whose pushes are all done answers what they promise, and only relaxes
the checks of the frame, if a word-like kind is pushed. -/
theorem Nested.performAll {edits : List (Edit Frame)} {answers : List Answer}
    (nested : Nested edits answers) {frame : Frame} (fits : frame.Fits)
    (reservations : Reservations)
    (pushed : PushesDone edits (performAll edits frame reservations).outcomes) :
    let run := Edit.performAll edits frame reservations
    run.outcomes = answers.map .answer ∧ run.frame.Fits ∧ run.frame.contents =
      { frame.contents with relaxed := frame.relaxed || edits.any pushesWord } := by
  induction nested generalizing frame reservations with
  | nil =>
    refine ⟨rfl, fits, ?_⟩
    rw [List.any_nil, Bool.or_false]
    rfl
  | @around kind value inner rest innerAnswers restAnswers above next innerRun restRun =>
    let first := (push kind value).perform frame reservations
    let middle := Edit.performAll inner first.frame first.reservations
    let last := (pop kind).perform middle.frame middle.reservations
    let final := Edit.performAll rest last.frame last.reservations
    have parts : Edit.performAll (push kind value :: inner ++ pop kind :: rest) frame reservations =
        ⟨first.outcome :: (middle.outcomes ++ last.outcome :: final.outcomes), final.frame,
          final.reservations⟩ := by
      rw [List.cons_append, Edit.performAll, performAll_append]
      rfl
    rw [parts] at pushed ⊢
    obtain ⟨firstDone, others⟩ := pushesDone_cons.1 pushed
    obtain ⟨innerDone, others⟩ := (pushesDone_append (length_outcomes ..).symm).1 others
    obtain ⟨-, restDone⟩ := pushesDone_cons.1 others
    obtain ⟨passes, firstOutcome, firstFits, firstShows⟩ :=
      push_done fits (Outcome.isAnswer_iff.1 (firstDone rfl))
    obtain ⟨innerOutcomes, middleFits, middleShows⟩ := innerRun firstFits _ innerDone
    -- Up to the mode, what is nested above the pushed value leaves it on top.
    have relaxes : first.frame.relaxed = (frame.relaxed || kind.isWordLike) :=
      congrArg Contents.relaxed firstShows
    have onTop : middle.frame.contents = { frame.contents.change (.push kind value) with
        relaxed := frame.relaxed || (kind.isWordLike || inner.any pushesWord) } := by
      rw [middleShows, relaxes, firstShows, Bool.or_assoc]
    obtain ⟨lastOutcome, lastFits, lastShows⟩ := pop_of_push middleFits passes onTop _
    obtain ⟨restOutcomes, finalFits, finalShows⟩ := restRun lastFits _ restDone
    have stays : last.frame.relaxed =
        (frame.relaxed || (kind.isWordLike || inner.any pushesWord)) :=
      congrArg Contents.relaxed lastShows
    refine ⟨?_, finalFits, ?_⟩
    · simp [first, middle, last, final, firstOutcome, innerOutcomes, lastOutcome, restOutcomes]
    · rw [finalShows, stays, lastShows]
      simp [pushesWord, Bool.or_assoc]

/-- Some of the edits pushes a word-like kind. -/
theorem any_pushesWord_iff {edits : List (Edit Frame)} : edits.any pushesWord = true ↔
    ∃ kind value, push kind value ∈ edits ∧ (kind = .word ∨ kind = .jsr) := by
  rw [List.any_eq_true]
  constructor
  · rintro ⟨edit, member, pushes⟩
    cases edit with
    | push kind value => exact ⟨kind, value, member, kind.isWordLike_iff.1 pushes⟩
    | _ => cases pushes
  · rintro ⟨kind, value, member, wordLike⟩
    exact ⟨push kind value, member, kind.isWordLike_iff.2 wordLike⟩

/-- Nested pushes and pops cancel out in every frame, whatever its policy, its mode and the slots on
its stack. If every push of the run is done, then every pop is, and gives back the value of the
push that it matches, of whatever kind that value is. Afterwards the stack, the locals and the
monitors read as before, and checks are relaxed if they were before or a word-like kind was
pushed. -/
theorem nested_pushes_and_pops_cancel {edits : List (Edit Frame)} {answers : List Answer}
    (nested : Nested edits answers) {frame : Frame} (fits : frame.Fits)
    (reservations : Reservations)
    (pushed : PushesDone edits (performAll edits frame reservations).outcomes) :
    let run := performAll edits frame reservations
    run.outcomes = answers.map .answer ∧
      run.frame.stackSize = frame.stackSize ∧
      (∀ index, run.frame.stackAt index = frame.stackAt index) ∧
      (∀ index, run.frame.localAt index = frame.localAt index) ∧
      run.frame.locks = frame.locks ∧
      (run.frame.relaxed = true ↔ frame.relaxed = true ∨
        ∃ kind value, push kind value ∈ edits ∧ (kind = .word ∨ kind = .jsr)) := by
  intro run
  obtain ⟨outcomes, runFits, shows⟩ := nested.performAll fits reservations pushed
  have relaxed : run.frame.relaxed = (frame.relaxed || edits.any pushesWord) :=
    congrArg Contents.relaxed shows
  obtain ⟨stackSize, readStack, readLocals, locks⟩ := Frame.readers_eq_of_mode runFits fits shows
  refine ⟨outcomes, stackSize, readStack, readLocals, locks, ?_⟩
  rw [relaxed, Bool.or_eq_true, any_pushesWord_iff]

/-- On a stack that no typed edits could have left, an integer is popped after checks were relaxed
above it, and one pushed as a wide value comes off as such. -/
theorem nested_pushes_and_pops_cancel_mixed :
    let scope := Scope.root ⟨some 0, 0⟩ "A.b()V"
    let narrow : Value := ⟨0, 0, .int, ""⟩
    let wide : Value := ⟨0, 1, .long, ""⟩
    let word : Value := ⟨0, 2, .word, ""⟩
    let frame : Frame :=
      ⟨⟨1, 2, #[some wide, none, some wide, none, none, none, none]⟩, scope, Monitors.empty, false,
        Policy.standard⟩
    let edits : List (Edit Frame) :=
      [.push .int narrow, .push .word word, .push .long narrow, .pop .long, .pop .word, .pop .int,
        .push .float wide, .pop .float]
    let run := performAll edits frame Reservations.empty
    frame.Fits ∧ PushesDone edits run.outcomes ∧
      run.outcomes = [.done, .done, .done, .slot (some narrow), .slot (some word),
        .slot (some narrow), .done, .slot (some wide)].map .answer ∧
      (∀ index, run.frame.stackAt index = frame.stackAt index) ∧ run.frame.relaxed = true := by
  intro scope narrow wide word frame edits run
  have fits : frame.Fits := ⟨⟨by decide, by decide⟩, by decide⟩
  have nested : Nested edits [.done, .done, .done, .slot (some narrow), .slot (some word),
      .slot (some narrow), .done, .slot (some wide)] :=
    .around .int narrow (.around .word word (.around .long narrow .nil .nil) .nil)
      (.around .float wide .nil .nil)
  have pushed : PushesDone edits run.outcomes := by decide
  obtain ⟨outcomes, -, readStack, -, -, relaxed⟩ :=
    nested_pushes_and_pops_cancel nested fits Reservations.empty pushed
  have wordPushed : push .word word ∈ edits := by simp [edits]
  exact ⟨fits, pushed, outcomes, readStack, relaxed.2 (.inr ⟨.word, word, wordPushed, .inl rfl⟩)⟩

end Edit
end SymbolicFrame
