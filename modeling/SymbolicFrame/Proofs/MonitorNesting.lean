import SymbolicFrame.Proofs.Footprints

/-!
# Nested monitors

Of all edits but the splice of monitors, only locks and unlocks that are done change which monitors
a frame holds, in every mode and under every policy. So what a frame holds after a run is told by
its turns, an acquired object being put innermost and a release taking the innermost one away. Where
the locks and unlocks that were done match like brackets, each unlock gives back the object of its
lock and the frame holds afterwards what it held before, whatever else was done or refused in
between. And a release is refused exactly when as many monitors were released as had been held at
first or acquired since, be it that no list of monitors was ever made or that it is empty again.
-/

namespace SymbolicFrame

namespace Edit

/-! ## Turns -/

/-- A turn acquired a monitor. -/
def acquires : Edit Frame × Outcome → Bool
  | (lock _ _ _, .answer _) => true
  | _ => false

/-- A turn released a monitor. -/
def releases : Edit Frame × Outcome → Bool
  | (unlock, .answer _) => true
  | _ => false

/-- The monitors held after a turn, given those held before it. -/
def heldAfter (held : List Value) : Edit Frame × Outcome → List Value
  | (lock _ object _, .answer _) => held ++ [object]
  | (unlock, .answer _) => held.dropLast
  | _ => held

/-- How a release ends, given the monitors held. -/
def releaseOutcome (held : List Value) : Outcome :=
  match held.getLast? with
  | some object => .answer (.slot (some object))
  | none => .refusal .noLockHeld

/-- The locks and unlocks of turns that were done match each other like brackets. -/
inductive Bracketed : List (Edit Frame × Outcome) → Prop where
  /-- Nothing was done. -/
  | nil : Bracketed []
  /-- No monitor was acquired or released in the first turn. -/
  | other (turn : Edit Frame × Outcome) {rest : List (Edit Frame × Outcome)}
      (acquiresNone : acquires turn = false) (releasesNone : releases turn = false)
      (next : Bracketed rest) : Bracketed (turn :: rest)
  /-- A lock, what was done while its monitor was held, the unlock that it matches, and what came
  after. -/
  | around (scope : Scope) (object : Value) (total : UInt64) (acquired released : Answer)
      {inner rest : List (Edit Frame × Outcome)} (within : Bracketed inner)
      (next : Bracketed rest) :
      Bracketed ((lock scope object total, .answer acquired) ::
        (inner ++ (unlock, .answer released) :: rest))

variable {edit : Edit Frame} {turn : Edit Frame × Outcome} {held : List Value}

/-- A turn on slots, or one that only reads, keeps the monitors held. -/
theorem heldAfter_of_outside (outside : edit.region? ≠ some .monitors) (outcome : Outcome) :
    heldAfter held (edit, outcome) = held := by
  cases edit <;> first | rfl | exact absurd rfl outside

/-- A turn that acquires and releases nothing keeps the monitors held. -/
theorem heldAfter_of_other (acquiresNone : acquires turn = false)
    (releasesNone : releases turn = false) : heldAfter held turn = held := by
  unfold heldAfter
  split
  · cases acquiresNone
  · cases releasesNone
  · rfl

/-- A release gives the innermost monitor. -/
theorem releaseOutcome_concat (held : List Value) (object : Value) :
    releaseOutcome (held ++ [object]) = .answer (.slot (some object)) := by
  rw [releaseOutcome, List.getLast?_concat]

/-- A release is refused exactly when no monitor is held. -/
theorem releaseOutcome_eq_refusal_iff :
    releaseOutcome held = .refusal .noLockHeld ↔ held = [] := by
  rw [← List.getLast?_eq_none_iff, releaseOutcome]
  split <;> simp_all

/-- Turns that match like brackets keep the monitors held. -/
theorem Bracketed.foldl_heldAfter {turns : List (Edit Frame × Outcome)}
    (bracketed : Bracketed turns) (held : List Value) : turns.foldl heldAfter held = held := by
  induction bracketed generalizing held with
  | nil => rfl
  | other turn acquiresNone releasesNone next ih =>
    rw [List.foldl_cons, heldAfter_of_other acquiresNone releasesNone, ih]
  | @around scope object total acquired released inner rest within next innerKeeps restKeeps =>
    have acquired : heldAfter held (lock scope object total, .answer acquired) =
        held ++ [object] := rfl
    have released : heldAfter (held ++ [object]) (unlock, .answer released) = held :=
      List.dropLast_concat
    -- The inner turns keep the object innermost, so it is what the unlock takes away.
    rw [List.foldl_cons, List.foldl_append, acquired, innerKeeps, List.foldl_cons, released,
      restKeeps]

/-- One more monitor is held after a turn that acquires one, and one less after a turn that releases
one, if releases end as the monitors held say. -/
theorem length_heldAfter (turn : Edit Frame × Outcome)
    (honest : turn.1 = unlock → turn.2 = releaseOutcome held) :
    (heldAfter held turn).length + (if releases turn then 1 else 0) =
      held.length + if acquires turn then 1 else 0 := by
  obtain ⟨edit, outcome⟩ := turn
  by_cases isUnlock : edit = unlock
  · subst isUnlock
    obtain rfl : outcome = releaseOutcome held := honest rfl
    -- A release of nothing is refused and does not count.
    rcases List.eq_nil_or_concat held with empty | ⟨rest, object, split⟩
    · subst empty
      rfl
    · rw [List.concat_eq_append] at split
      subst split
      rw [releaseOutcome_concat]
      simp [heldAfter, releases, acquires]
  · cases edit with
    | unlock => exact absurd rfl isUnlock
    | lock scope object total => cases outcome <;> simp [heldAfter, releases, acquires]
    | _ => rfl

/-! ## What an edit does to the monitors -/

/-- A lock that is done holds one more monitor, and one that is refused keeps those held. -/
theorem locks_lock (scope : Scope) (object : Value) (total : UInt64) (frame : Frame)
    (reservations : Reservations) :
    let performed := (lock scope object total).perform frame reservations
    performed.frame.locks = heldAfter frame.locks (lock scope object total, performed.outcome) := by
  have checked := EditM.checkKind_run .object object ⟨frame, reservations, []⟩
  unfold perform
  cases accepted : frame.contents.accepts .object object with
  | ok _ =>
    rw [accepted] at checked
    have ran : EditM.lock scope object total ⟨frame, reservations, []⟩ =
        .ok () ⟨{ frame with monitors := frame.monitors.push object },
          reservations.raise scope total, [] ++ reservations.eventsOf scope total⟩ :=
      EditM.bind_ok checked
    have ended : (lock scope object total).steps ⟨frame, reservations, []⟩ = _ := EditM.bind_ok ran
    rw [ended]
    rfl
  | error stop =>
    rw [accepted] at checked
    have ended : (lock scope object total).steps ⟨frame, reservations, []⟩ = _ :=
      EditM.bind_error (EditM.bind_error checked)
    rw [ended]
    cases stop <;> rfl

/-- An unlock ends as the monitors held say, and takes the innermost one away if there is one. -/
theorem unlock_turn (frame : Frame) (reservations : Reservations) :
    let performed := unlock.perform frame reservations
    performed.outcome = releaseOutcome frame.locks ∧
      performed.frame.locks = heldAfter frame.locks (unlock, performed.outcome) := by
  have looked : EditM.unlock ⟨frame, reservations, []⟩ = _ := EditM.frame_bind _ _
  unfold perform
  cases popped : frame.monitors.pop? with
  | none =>
    have none := (Monitors.pop?_eq_none_iff _).1 popped
    rw [popped] at looked
    have ended : unlock.steps ⟨frame, reservations, []⟩ = _ := EditM.bind_error looked
    rw [ended, Frame.locks, none]
    exact ⟨rfl, none⟩
  | some last =>
    obtain ⟨object, others⟩ := last
    obtain ⟨split, -⟩ := (Monitors.pop?_eq_some_iff _ _ _).1 popped
    rw [popped] at looked
    have ended : unlock.steps ⟨frame, reservations, []⟩ = _ := EditM.bind_ok looked
    rw [ended, Frame.locks, split, releaseOutcome_concat]
    exact ⟨rfl, List.dropLast_concat.symm⟩

/-- An edit that takes over no monitors leaves those held that its turn tells. -/
theorem locks_perform (own : ∀ source, edit ≠ replaceMonitors source) (frame : Frame)
    (reservations : Reservations) :
    let performed := edit.perform frame reservations
    performed.frame.locks = heldAfter frame.locks (edit, performed.outcome) := by
  intro performed
  by_cases onMonitors : edit.region? = some .monitors
  · cases edit with
    | replaceMonitors source => exact absurd rfl (own source)
    | lock scope object total => exact locks_lock scope object total frame reservations
    | unlock => exact (unlock_turn frame reservations).2
    | _ => cases onMonitors
  · rw [heldAfter_of_outside onMonitors]
    exact congrArg Monitors.toList (monitors_perform onMonitors frame reservations)

/-! ## Runs -/

section Runs

variable {edits : List (Edit Frame)} (own : ∀ edit ∈ edits, ∀ source, edit ≠ replaceMonitors source)
  (frame : Frame) (reservations : Reservations)

include own

/-- The monitors held after a run that takes over none are told by its turns. -/
theorem locks_performAll : (performAll edits frame reservations).frame.locks =
    (turns edits frame reservations).foldl heldAfter frame.locks := by
  induction edits generalizing frame reservations with
  | nil => rfl
  | cons edit rest ih =>
    obtain ⟨firstOwn, restOwn⟩ := List.forall_mem_cons.1 own
    let performed := edit.perform frame reservations
    have first : performed.frame.locks = heldAfter frame.locks (edit, performed.outcome) :=
      locks_perform firstOwn frame reservations
    have later := ih restOwn performed.frame performed.reservations
    rw [first] at later
    exact later

/-- The monitors held after a run that takes over none, and those released in it, are as many as
those held before it and those acquired in it. -/
theorem length_locks_performAll :
    (performAll edits frame reservations).frame.locks.length +
        (turns edits frame reservations).countP releases =
      frame.locks.length + (turns edits frame reservations).countP acquires := by
  induction edits generalizing frame reservations with
  | nil => rfl
  | cons edit rest ih =>
    obtain ⟨firstOwn, restOwn⟩ := List.forall_mem_cons.1 own
    let performed := edit.perform frame reservations
    have first : performed.frame.locks = heldAfter frame.locks (edit, performed.outcome) :=
      locks_perform firstOwn frame reservations
    have honest : edit = unlock → performed.outcome = releaseOutcome frame.locks := by
      rintro rfl
      exact (unlock_turn frame reservations).1
    have moved := length_heldAfter (edit, performed.outcome) honest
    have later := ih restOwn performed.frame performed.reservations
    rw [first] at later
    have taken : turns (edit :: rest) frame reservations =
        (edit, performed.outcome) :: turns rest performed.frame performed.reservations := rfl
    rw [taken, List.countP_cons, List.countP_cons]
    change (performAll rest performed.frame performed.reservations).frame.locks.length + _ = _
    omega

/-- An unlock in a run that takes over no monitors ends as the turns before it say. -/
theorem outcome_of_unlock {before after : List (Edit Frame × Outcome)} {outcome : Outcome}
    (split : turns edits frame reservations = before ++ (unlock, outcome) :: after) :
    outcome = releaseOutcome (before.foldl heldAfter frame.locks) ∧
      (before.foldl heldAfter frame.locks).length + before.countP releases =
        frame.locks.length + before.countP acquires := by
  obtain ⟨first, rest, rfl, rfl, ended⟩ := exists_of_turns_eq split
  have firstOwn : ∀ edit ∈ first, ∀ source, edit ≠ replaceMonitors source :=
    fun edit member => own edit (List.mem_append_left _ member)
  rw [← locks_performAll firstOwn, ended]
  exact ⟨(unlock_turn _ _).1, length_locks_performAll firstOwn frame reservations⟩

end Runs

/-- Monitors nest, in a run of any edits but splices of monitors, on a frame in any state. Where the
locks and unlocks that are done match like brackets, the frame holds the monitors from before at the
end. Whenever what lies between a lock and an unlock matches so, the unlock gives back the object of
the lock. An unlock is refused exactly if the monitors held at first and the locks done before it
are as many as the unlocks done before it. -/
theorem monitors_nest {edits : List (Edit Frame)}
    (own : ∀ edit ∈ edits, ∀ source, edit ≠ replaceMonitors source) (frame : Frame)
    (reservations : Reservations) :
    let run := performAll edits frame reservations
    let taken := turns edits frame reservations
    (Bracketed taken → run.frame.locks = frame.locks ∧ run.frame.locksSize = frame.locksSize ∧
      ∀ index, run.frame.lockAt index = frame.lockAt index) ∧
    (∀ before inner after scope object total acquired released,
      taken = before ++ (lock scope object total, .answer acquired) ::
        (inner ++ (unlock, .answer released) :: after) →
      Bracketed inner → released = .slot (some object)) ∧
    ∀ before after outcome, taken = before ++ (unlock, outcome) :: after →
      (outcome = .refusal .noLockHeld ↔
        frame.locksSize + before.countP acquires = before.countP releases) := by
  intro run taken
  refine ⟨?_, ?_, ?_⟩
  · intro bracketed
    have locks : run.frame.locks = frame.locks :=
      (locks_performAll own frame reservations).trans (bracketed.foldl_heldAfter frame.locks)
    exact ⟨locks, congrArg List.length locks, fun index => congrArg (·[index.toNat]?) locks⟩
  · intro before inner after scope object total acquired released split bracketed
    have place : taken = (before ++ (lock scope object total, .answer acquired) :: inner) ++
        (unlock, .answer released) :: after := by
      rw [split, List.append_assoc, List.cons_append]
    obtain ⟨outcome, -⟩ := outcome_of_unlock own frame reservations place
    rw [List.foldl_append, List.foldl_cons, bracketed.foldl_heldAfter] at outcome
    have given : Outcome.answer released = .answer (.slot (some object)) :=
      outcome.trans (releaseOutcome_concat _ object)
    exact Outcome.answer.inj given
  · intro before after outcome split
    obtain ⟨ended, counted⟩ := outcome_of_unlock own frame reservations split
    rw [ended, releaseOutcome_eq_refusal_iff, ← List.length_eq_zero_iff]
    change _ ↔ frame.locks.length + _ = _
    omega

/-- Two objects are locked, one in the other, on a frame that checks kinds and never made a list of
monitors. A release is refused before and after, a lock of an integer and a pop in between, and the
slots of a frame that holds a monitor itself are taken over. -/
theorem monitors_nest_among_refusals :
    let scope := Scope.root ⟨some 0, 0⟩ "A.b()V"
    let outer : Value := ⟨0, 0, .object, ""⟩
    let inner : Value := ⟨0, 1, .object, ""⟩
    let narrow : Value := ⟨0, 2, .int, ""⟩
    let frame : Frame :=
      ⟨⟨1, 1, #[none, some narrow, some narrow]⟩, scope, Monitors.empty, false, Policy.strict⟩
    let donor : Frame :=
      ⟨⟨1, 1, #[some outer, some inner, none]⟩, scope, ⟨some [inner]⟩, false, Policy.strict⟩
    let edits : List (Edit Frame) :=
      [.unlock, .lock scope outer 1, .lock scope narrow 2, .replaceStack donor,
        .lock scope inner 2, .replaceLocals donor, .pop .int, .unlock, .unlock, .unlock]
    let outcomes : List Outcome :=
      [.refusal .noLockHeld, .answer .done, .refusal (.kindMismatch .object .int), .answer .done,
        .answer .done, .answer .done, .refusal (.kindMismatch .int .object),
        .answer (.slot (some inner)), .answer (.slot (some outer))]
    let before := edits.dropLast.zip outcomes
    let run := performAll edits frame Reservations.empty
    let taken := turns edits frame Reservations.empty
    (∀ edit ∈ edits, ∀ source, edit ≠ replaceMonitors source) ∧
      taken = before ++ [(unlock, .refusal .noLockHeld)] ∧ Bracketed taken ∧
      run.frame.locks = frame.locks ∧ before.countP releases = 2 ∧
      frame.locksSize + before.countP acquires = before.countP releases := by
  intro scope outer inner narrow frame donor edits outcomes before run taken
  have own : ∀ edit ∈ edits, ∀ source, edit ≠ replaceMonitors source := by simp [edits]
  have ended : run.outcomes = outcomes ++ [.refusal .noLockHeld] := by decide
  have split : taken = before ++ [(unlock, .refusal .noLockHeld)] := congrArg edits.zip ended
  have bracketed : Bracketed taken := by
    rw [split]
    exact .other (unlock, .refusal .noLockHeld) rfl rfl
      (.around scope outer 1 .done (.slot (some outer))
        (.other (lock scope narrow 2, .refusal (.kindMismatch .object .int)) rfl rfl
          (.other (replaceStack donor, .answer .done) rfl rfl
            (.around scope inner 2 .done (.slot (some inner))
              (.other (replaceLocals donor, .answer .done) rfl rfl
                (.other (pop .int, .refusal (.kindMismatch .int .object)) rfl rfl .nil))
              .nil)))
        (.other (unlock, .refusal .noLockHeld) rfl rfl .nil))
  obtain ⟨keeps, -, refused⟩ := monitors_nest own frame Reservations.empty
  exact ⟨own, split, bracketed, (keeps bracketed).1, rfl, (refused before [] _ split).1 rfl⟩

end Edit
end SymbolicFrame
