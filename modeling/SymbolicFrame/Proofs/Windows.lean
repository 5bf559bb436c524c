import SymbolicFrame.Proofs.Blocks
import SymbolicFrame.Proofs.Equality
import SymbolicFrame.Proofs.Runs

/-!
# Windows of stack slots

Arguments are read from a window of slots at the top of the stack, which may have been put there in
any way. The reading goes up slot by slot and remembers whether the last one held a wide value. What
it ends with is told by the slots alone. An empty slot is the second one of a wide value if such a
value lies right below it in the window, and strays otherwise. A window without a stray slot gives
the values in it from the bottom up, and any other is refused for its lowest stray slot.
-/

namespace SymbolicFrame

/-- An empty slot of a window with no wide value right below it in the window. -/
def Stray (window : List Slot) (place : Nat) : Prop :=
  window[place]? = some none ∧
    ¬ (0 < place ∧ (slotAt window (place - 1)).holdsWide = true)

instance (window : List Slot) (place : Nat) : Decidable (Stray window place) :=
  inferInstanceAs (Decidable (_ ∧ _))

/-- The lowest stray slot of a window. -/
structure LowestStray (window : List Slot) (place : Nat) : Prop where
  /-- The slot is one. -/
  stray : Stray window place
  /-- No slot below it is. -/
  lowest : ∀ lower, lower < place → ¬ Stray window lower

section Slots

variable {window rest : List Slot} {below slot : Slot} {place : Nat}

/-- A stray slot is found empty. -/
theorem Stray.slotAt_eq (stray : Stray window place) : slotAt window place = none := by
  rw [SymbolicFrame.slotAt_eq, stray.1, Option.getD_some]

/-- A stray slot lies in the window. -/
theorem Stray.lt_length (stray : Stray window place) : place < window.length :=
  (List.getElem?_eq_some_iff.1 stray.1).1

/-- A window has one lowest stray slot at most. -/
theorem LowestStray.unique {other : Nat} (first : LowestStray window place)
    (second : LowestStray window other) : place = other :=
  Nat.le_antisymm (Nat.not_lt.1 fun isLower => first.lowest other isLower second.stray)
    (Nat.not_lt.1 fun isLower => second.lowest place isLower first.stray)

/-- The slot that lies below a window decides whether the first one strays, if that is empty. -/
theorem stray_one_iff :
    Stray (below :: slot :: rest) 1 ↔ slot = none ∧ below.holdsWide = false := by
  simp [Stray, slotAt]

/-- The slot that lies below a window has no say over any slot but the first. -/
theorem stray_succ_succ_iff : Stray (below :: window) (place + 2) ↔ Stray window (place + 1) := by
  simp [Stray, slotAt]

/-- An empty slot below a window has no say at all. -/
theorem stray_none_succ_iff : Stray (none :: window) (place + 1) ↔ Stray window place := by
  cases place with
  | zero => simp [Stray, slotAt, Slot.holdsWide]
  | succ place => exact stray_succ_succ_iff

namespace EditM

/-- The reading of a window goes on above a slot that does not stray. -/
theorem windowValues_cons (start : Nat)
    (passes : ¬ (slot = none ∧ below.holdsWide = false)) :
    windowValues start below.holdsWide (slot :: rest) =
      (windowValues (start + 1) slot.holdsWide rest).map (heldIn [slot] ++ ·) := by
  cases slot with
  | none =>
    have wide : below.holdsWide = true := eq_true_of_ne_false fun narrow => passes ⟨rfl, narrow⟩
    rw [windowValues, if_pos wide]
    change windowValues (start + 1) false rest = (windowValues (start + 1) false rest).map id
    cases windowValues (start + 1) false rest <;> rfl
  | some value =>
    change (windowValues (start + 1) value.kind.isWide rest >>= fun values =>
      pure (value :: values)) = (windowValues (start + 1) value.kind.isWide rest).map (value :: ·)
    cases windowValues (start + 1) value.kind.isWide rest <;> rfl

/-- A window above a slot is read to its end and gives its values if no slot of it strays, and is
read up to its lowest stray slot otherwise. -/
theorem windowValues_above (start : Nat) (below : Slot) (window : List Slot) :
    (windowValues start below.holdsWide window = .ok (heldIn window) ∧
        ∀ place, ¬ Stray (below :: window) (place + 1)) ∨
      ∃ place, windowValues start below.holdsWide window = .error (start + place) ∧
        Stray (below :: window) (place + 1) ∧
        ∀ lower, lower < place → ¬ Stray (below :: window) (lower + 1) := by
  -- What the reading remembers of a slot is whether a wide value lies below the rest.
  induction window generalizing start below with
  | nil =>
    refine .inl ⟨rfl, fun place stray => ?_⟩
    have inside := stray.lt_length
    simp at inside
  | cons slot rest ih =>
    by_cases first : slot = none ∧ below.holdsWide = false
    · obtain ⟨rfl, narrow⟩ := first
      refine .inr ⟨0, ?_, stray_one_iff.2 ⟨rfl, narrow⟩, fun lower impossible => ?_⟩
      · rw [windowValues, narrow]
        rfl
      · exact absurd impossible (Nat.not_lt_zero lower)
    have notFirst : ¬ Stray (below :: slot :: rest) 1 := mt stray_one_iff.1 first
    rw [windowValues_cons start first]
    rcases ih (start + 1) slot with ⟨reads, noStray⟩ | ⟨place, ends, stray, lowest⟩
    · refine .inl ⟨?_, fun place => ?_⟩
      · rw [reads]
        exact congrArg Except.ok (List.filterMap_append (l := [slot])).symm
      · cases place with
        | zero => exact notFirst
        | succ place => exact mt stray_succ_succ_iff.1 (noStray place)
    · refine .inr ⟨place + 1, ?_, stray_succ_succ_iff.2 stray, fun lower isLower => ?_⟩
      · rw [ends]
        exact congrArg Except.error (by omega)
      · cases lower with
        | zero => exact notFirst
        | succ lower =>
          exact mt stray_succ_succ_iff.1 (lowest lower (Nat.lt_of_succ_lt_succ isLower))

/-- A window is read to its end and gives its values if no slot of it strays, and is read up to its
lowest stray slot otherwise. -/
theorem windowValues_cases (start : Nat) (window : List Slot) :
    (windowValues start false window = .ok (heldIn window) ∧ ∀ place, ¬ Stray window place) ∨
      ∃ place, windowValues start false window = .error (start + place) ∧
        LowestStray window place := by
  rcases windowValues_above start none window with ⟨reads, noStray⟩ | ⟨place, ends, stray, lowest⟩
  · exact .inl ⟨reads, fun place => mt stray_none_succ_iff.2 (noStray place)⟩
  · exact .inr ⟨place, ends, stray_none_succ_iff.1 stray,
      fun lower isLower => mt stray_none_succ_iff.2 (lowest lower isLower)⟩

end EditM

end Slots

/-! ## Arguments -/

/-- Arguments in a window that the stack has the slots for are the values in it if no slot of it
strays, and are refused for the lowest one otherwise. -/
theorem Contents.arguments_cases {contents : Contents} {size : Nat}
    (enough : size ≤ contents.stack.length) :
    let base := contents.stack.length - size
    let window := contents.stack.drop base
    (contents.arguments size = .ok (heldIn window) ∧ ∀ place, ¬ Stray window place) ∨
      ∃ place, contents.arguments size =
          refused (.missingValue (contents.locals.length + (base + place))) ∧
        LowestStray window place := by
  dsimp only
  unfold arguments
  rw [if_neg (Nat.not_lt.2 enough)]
  rcases EditM.windowValues_cases (contents.stack.length - size)
      (contents.stack.drop (contents.stack.length - size)) with
    ⟨reads, noStray⟩ | ⟨place, ends, lowest⟩
  · rw [reads]
    exact .inl ⟨rfl, noStray⟩
  · rw [ends]
    exact .inr ⟨place, rfl, lowest⟩

namespace Edit

variable {frame : Frame} {size : UInt64}

/-- More arguments than there are slots are refused for that. -/
theorem popArguments_of_few (fits : frame.Fits) (few : frame.stackSize < size.toNat)
    (reservations : Reservations) :
    ((popArguments size).perform frame reservations).outcome = .refusal .emptyStack := by
  rw [← fits.length_stack] at few
  have refuses : frame.contents.arguments size.toNat = refused .emptyStack := if_pos few
  exact (outcome_eq_refusal_iff fits (sources_of_none rfl) reservations).2
    (congrArg (· >>= fun values => Except.ok (Answer.values values)) refuses)

/-- Arguments in a window that the stack has the slots for are given if no slot of it strays, and
are refused for the lowest one otherwise. -/
theorem popArguments_of_window (fits : frame.Fits) (enough : size.toNat ≤ frame.stackSize)
    (reservations : Reservations) :
    let performed := (popArguments size).perform frame reservations
    let base := frame.stackSize - size.toNat
    let window := frame.buffer.stack.drop base
    (performed.outcome = .answer (.values (heldIn window)) ∧
        performed.frame.stackSize + size.toNat = frame.stackSize ∧
        performed.frame.buffer.stack = frame.buffer.stack.take base ∧
        ∀ place, ¬ Stray window place) ∨
      ∃ place, LowestStray window place ∧
        performed.outcome = .refusal (.missingValue (frame.maxLocals + (base + place))) := by
  intro performed base window
  have sources : ∀ source : Frame, (popArguments size).source? = some source → source.Fits :=
    sources_of_none rfl
  have length : frame.buffer.stack.length = frame.stackSize := fits.length_stack
  have within : size.toNat ≤ frame.contents.stack.length := by rwa [fits.length_stack]
  have reading := Contents.arguments_cases within
  rw [fits.length_locals, fits.length_stack] at reading
  rcases reading with ⟨gives, noStray⟩ | ⟨place, refuses, lowest⟩
  · obtain ⟨outcome, afterFits, shows⟩ := done_of_ok (popArguments size) fits sources reservations
      (congrArg (· >>= fun values => Except.ok (Answer.values values)) gives)
    have stack : performed.frame.buffer.stack =
        frame.buffer.stack.take (frame.buffer.stack.length - size.toNat) :=
      congrArg Contents.stack shows
    rw [length] at stack
    have stackSize : performed.frame.stackSize = base := by
      have count : performed.frame.buffer.stack.length = performed.frame.stackSize :=
        afterFits.length_stack
      rw [← count, stack, List.length_take, length]
      exact Nat.min_eq_left (Nat.sub_le _ _)
    refine .inl ⟨outcome, ?_, stack, noStray⟩
    rw [stackSize]
    exact Nat.sub_add_cancel enough
  · have outcome := (outcome_eq_refusal_iff fits sources reservations).2
      (congrArg (· >>= fun values => Except.ok (Answer.values values)) refuses)
    exact .inr ⟨place, lowest, outcome⟩

/-- Arguments are popped from a stack that may have been filled in any way. It has too few slots, or
the ones asked for are a window at its top. If no slot of the window strays, the values in it are
given from the bottom up, and what is left of the stack is what lies below. Otherwise the pop is
refused, and its cause names the lowest stray slot, counted over the locals and the stack. -/
theorem popArguments_iff_none_stray (fits : frame.Fits) (size : UInt64)
    (reservations : Reservations) :
    let performed := (popArguments size).perform frame reservations
    let base := frame.stackSize - size.toNat
    let window := frame.buffer.stack.drop base
    (performed.outcome = .refusal .emptyStack ↔ frame.stackSize < size.toNat) ∧
      (size.toNat ≤ frame.stackSize →
        window.length = size.toNat ∧
        ((∃ answer, performed.outcome = .answer answer) ↔ ∀ place, ¬ Stray window place) ∧
        ((∀ place, ¬ Stray window place) →
          performed.outcome = .answer (.values (heldIn window)) ∧
          performed.frame.stackSize + size.toNat = frame.stackSize ∧
          performed.frame.buffer.stack = frame.buffer.stack.take base) ∧
        ((∃ place, Stray window place) → ∃ place, LowestStray window place ∧
          performed.outcome = .refusal (.missingValue (frame.maxLocals + (base + place))))) := by
  intro performed base window
  have length : frame.buffer.stack.length = frame.stackSize := fits.length_stack
  have ofWindow (enough : size.toNat ≤ frame.stackSize) :=
    popArguments_of_window fits enough reservations
  refine ⟨⟨fun refused => ?_, fun few => popArguments_of_few fits few reservations⟩,
    fun enough => ⟨?_, ?_⟩⟩
  · refine Nat.not_le.1 fun enough => ?_
    rcases ofWindow enough with ⟨outcome, -⟩ | ⟨place, -, outcome⟩
    · cases refused.symm.trans outcome
    · cases refused.symm.trans outcome
  · rw [List.length_drop, length]
    exact Nat.sub_sub_self enough
  rcases ofWindow enough with ⟨outcome, stackSize, stack, noStray⟩ | ⟨place, lowest, outcome⟩
  · exact ⟨iff_of_true ⟨_, outcome⟩ noStray, fun _ => ⟨outcome, stackSize, stack⟩,
      fun ⟨place, stray⟩ => absurd stray (noStray place)⟩
  · have strays : ¬ ∀ place, ¬ Stray window place := fun noStray => noStray place lowest.stray
    have notDone : ¬ ∃ answer, performed.outcome = .answer answer := by
      rintro ⟨answer, done⟩
      cases done.symm.trans outcome
    exact ⟨iff_of_false notDone strays, fun noStray => absurd noStray strays,
      fun _ => ⟨place, lowest, outcome⟩⟩

/-- A stack with two empty slots above a wide value, and with a value above another wide one. -/
theorem popArguments_iff_none_stray_on_raw_stack :
    let scope := Scope.root ⟨some 0, 0⟩ "A.b()V"
    let wide : Value := ⟨0, 0, .long, ""⟩
    let small : Value := ⟨0, 1, .int, ""⟩
    let frame : Frame :=
      ⟨⟨1, 5, #[none, some wide, none, none, some wide, some small]⟩, scope, Monitors.empty, true,
        Policy.standard⟩
    let pop := fun size => ((popArguments size).perform frame Reservations.empty).outcome
    frame.Fits ∧ pop 6 = .refusal .emptyStack ∧ pop 5 = .refusal (.missingValue 3) ∧
      pop 3 = .refusal (.missingValue 3) ∧ pop 2 = .answer (.values [wide, small]) := by
  intro scope wide small frame pop
  have fits : frame.Fits := ⟨⟨by decide, by decide⟩, by decide⟩
  have few := (popArguments_iff_none_stray fits 6 Reservations.empty).1.2 (by decide)
  have noStray (place : Nat) : ¬ Stray [some wide, some small] place := by
    have inside : ∀ place, place < 2 → ¬ Stray [some wide, some small] place := by decide
    exact fun stray => inside place stray.lt_length stray
  have gives := ((popArguments_iff_none_stray fits 2 Reservations.empty).2 (by decide)).2.2.1
    noStray
  have lowestOfFive : LowestStray [some wide, none, none, some wide, some small] 2 :=
    ⟨by decide, by decide⟩
  have lowestOfThree : LowestStray [none, some wide, some small] 0 := ⟨by decide, by decide⟩
  obtain ⟨place, lowest, ofFive⟩ :=
    ((popArguments_iff_none_stray fits 5 Reservations.empty).2 (by decide)).2.2.2
      ⟨2, lowestOfFive.stray⟩
  obtain ⟨other, otherLowest, ofThree⟩ :=
    ((popArguments_iff_none_stray fits 3 Reservations.empty).2 (by decide)).2.2.2
      ⟨0, lowestOfThree.stray⟩
  cases lowestOfFive.unique lowest
  cases lowestOfThree.unique otherLowest
  exact ⟨fits, few, ofFive, ofThree, gives.1⟩

end Edit
end SymbolicFrame
