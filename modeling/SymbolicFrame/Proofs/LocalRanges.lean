import SymbolicFrame.Proofs.Causes
import SymbolicFrame.Proofs.Views

/-!
# How far locals are asked for

An edit of a local is asked for an index that may be any word, and the value may take the next local
as well. Whether all of these are locals is decided as in the natural numbers: near the largest word
neither the check nor the index that a refusal names wraps around. The check is made once and is all
that the rest of an edit relies on. A store looks at the local below, and wide values take the local
above, without another check; these indices are words again, and what they lead to are locals. To
read a local that is not there would be refused like the check, and to write to it, or to take a sum
or difference that is no word, would be a breach: once the check has passed an edit ends in neither.
-/

namespace SymbolicFrame

namespace Frame

variable {frame : Frame} {index : UInt64} {width : Nat}

/-- The local below an index, if there is one, and the locals from the index on, so many of them.
They are found by sums and differences of words that do not wrap. -/
structure Spans (frame : Frame) (index : UInt64) (width : Nat) : Prop where
  /-- The local below the index. -/
  below : 0 < index → (index - 1).toNat + 1 = index.toNat ∧
    ∃ slot, frame.localAt (index - 1) = .ok slot
  /-- The locals from the index on. -/
  above : ∀ offset < width, (index + offset.toUInt64).toNat = index.toNat + offset ∧
    ∃ slot, frame.localAt (index + offset.toUInt64) = .ok slot

/-- Locals that end within a frame that fits are found without wrapping. -/
theorem Fits.spans (fits : frame.Fits) (inside : index.toNat + width ≤ frame.maxLocals) :
    frame.Spans index width := by
  have sizes := fits.sizes
  constructor
  case below =>
    intro isAbove
    have higher : 0 < index.toNat := UInt64.lt_iff_toNat_lt.1 isAbove
    have ordered : 1 ≤ index := by
      rw [UInt64.le_iff_toNat_le, UInt64.toNat_one]
      exact higher
    have difference : (index - 1).toNat = index.toNat - 1 := UInt64.toNat_sub_of_le _ _ ordered
    exact ⟨by omega, _, localAt_eq_valueAt (by omega)⟩
  case above =>
    intro offset within
    have word : offset.toUInt64.toNat = offset := Word.toNat_toUInt64 (by omega)
    have sum : (index + offset.toUInt64).toNat = index.toNat + offset := by
      rw [Word.toNat_add_of_fits (by omega), word]
    exact ⟨sum, _, localAt_eq_valueAt (by omega)⟩

end Frame

/-- What may stop an edit once its locals were checked: neither the locals nor a use outside
bounds. -/
def Stop.PastLocals : Stop → Prop
  | .refusal (.localIndexOutOfRange _ _) | .breach => False
  | .refusal .voidKind | .refusal (.kindMismatch _ _) | .refusal (.wordKind _)
  | .refusal (.stackOverflow _) | .refusal .emptyStack | .refusal (.missingValue _)
  | .refusal (.corruptHighWord _) | .refusal (.stackIndexOutOfRange _ _)
  | .refusal (.truncateAboveStack _ _) | .refusal (.splitsWideValue _)
  | .refusal (.localsMismatch _ _) | .refusal .noLockHeld => True

namespace Contents

variable {contents : Contents} {kind : Kind} {value : Value}

/-- A value is refused for its kind alone. -/
theorem pastLocals_accepts : Stops Stop.PastLocals (contents.accepts kind value) :=
  .ite (stops_ok ()) (stops_refused trivial)

end Contents

namespace Edit

variable {edit : Edit Frame} {frame : Frame} {index : UInt64} {width : Nat}

/-- An edit asks a frame for so many locals from an index on, and checks that they are all there
without wrapping. -/
structure ChecksLocals (edit : Edit Frame) (frame : Frame) (index : UInt64) (width : Nat) :
    Prop where
  /-- The edit is refused for its locals if and only if they end above those of the frame. -/
  refused_iff : ∀ reservations : Reservations,
    (∃ last maxLocals,
      (edit.perform frame reservations).outcome = .refusal (.localIndexOutOfRange last maxLocals)) ↔
        frame.maxLocals < index.toNat + width
  /-- The refusal names the last local asked for, or the largest word if that is beyond it, and how
  many locals there are. The local named is none of them. -/
  names_last : ∀ (reservations : Reservations) (last maxLocals : Nat),
    (edit.perform frame reservations).outcome = .refusal (.localIndexOutOfRange last maxLocals) →
      last = min (index.toNat + width - 1) Word.largest.toNat ∧ maxLocals = frame.maxLocals ∧
        frame.maxLocals ≤ last
  /-- Whatever is written to is a local, and whatever index is computed is a word. -/
  bounded : ∀ reservations : Reservations, (edit.perform frame reservations).outcome ≠ .breach
  /-- If the check passes, the local below and all that were asked for are there. -/
  spans : index.toNat + width ≤ frame.maxLocals → frame.Spans index width

/-- Locals that end above those of the frame are refused, and the last of them is named. -/
theorem ChecksLocals.outcome_eq (checks : edit.ChecksLocals frame index width)
    (outside : frame.maxLocals < index.toNat + width) (reservations : Reservations) :
    (edit.perform frame reservations).outcome =
      .refusal (.localIndexOutOfRange (min (index.toNat + width - 1) Word.largest.toNat)
        frame.maxLocals) := by
  obtain ⟨last, maxLocals, ended⟩ := (checks.refused_iff reservations).2 outside
  obtain ⟨rfl, rfl, -⟩ := checks.names_last reservations last maxLocals ended
  exact ended

/-- An edit checks its locals without wrapping if its verdict compares them in the natural numbers
first, and stops for something else after that. -/
theorem checksLocals_of_verdict (fits : frame.Fits) (noSource : edit.source? = none)
    (positive : 0 < width) {rest : Except Stop Answer}
    (verdict : frame.contents.verdict (edit.map Frame.contents) =
      within frame.contents.locals.length index.toNat width >>= fun _ => rest)
    (past : Stops Stop.PastLocals rest) : edit.ChecksLocals frame index width := by
  have sizes := fits.sizes
  have top : Word.largest.toNat + 1 = Word.limit := by decide
  have sources := sources_of_none noSource
  rw [fits.length_locals] at verdict
  have refuses (outside : frame.maxLocals < index.toNat + width) (reservations : Reservations) :
      (edit.perform frame reservations).outcome =
        .refusal (.localIndexOutOfRange (min (index.toNat + width - 1) Word.largest.toNat)
          frame.maxLocals) := by
    have reach : index.toNat + (max width 1 - 1) = index.toNat + width - 1 := by omega
    rw [within, if_neg (Nat.not_le.2 outside), reach] at verdict
    exact (outcome_eq_refusal_iff fits sources reservations).2 verdict
  have passes (inside : index.toNat + width ≤ frame.maxLocals) (reservations : Reservations)
      (stop : Stop) (ended : (edit.perform frame reservations).outcome = stop.outcome) :
      stop.PastLocals := by
    refine past stop ?_
    rw [← (outcome_eq_stop_iff fits sources reservations).1 ended, verdict, within_iff.2 inside]
    rfl
  have outside_of_refusal (reservations : Reservations) (last maxLocals : Nat)
      (ended : (edit.perform frame reservations).outcome =
        .refusal (.localIndexOutOfRange last maxLocals)) :
      frame.maxLocals < index.toNat + width :=
    Nat.not_le.1 fun inside =>
      passes inside reservations (.refusal (.localIndexOutOfRange last maxLocals)) ended
  constructor
  case refused_iff =>
    intro reservations
    constructor
    · rintro ⟨last, maxLocals, ended⟩
      exact outside_of_refusal reservations last maxLocals ended
    · exact fun outside => ⟨_, _, refuses outside reservations⟩
  case names_last =>
    intro reservations last maxLocals ended
    have outside := outside_of_refusal reservations last maxLocals ended
    rw [refuses outside reservations] at ended
    cases ended
    exact ⟨rfl, rfl, by omega⟩
  case bounded =>
    intro reservations breached
    rcases Nat.lt_or_ge frame.maxLocals (index.toNat + width) with outside | inside
    · rw [refuses outside reservations] at breached
      cases breached
    · exact passes inside reservations .breach breached
  case spans => exact fits.spans

/-- Loads of any kind that values may have, stores of a value that is accepted under a kind that may
be held, and the emptying of a local check the locals that they ask for, at any index whatever. They
are refused for them exactly if the locals end above those of the frame, and name the last of them.
Otherwise every local that they go on to look at is there. -/
theorem local_ranges_exact (fits : frame.Fits) (index : UInt64) :
    (∀ kind : Kind, kind ≠ .void →
      (Edit.loadLocal index kind).ChecksLocals frame index kind.slotWidth) ∧
    (∀ (kind : Kind) (value : Value), kind ≠ .void →
      (kind.isWordLike = true → frame.policy.allowWordKinds = true) →
      (value.kind = kind ∨ frame.relaxed = true ∨ frame.policy.checkKinds = false) →
      (Edit.storeLocal index kind value).ChecksLocals frame index kind.slotWidth) ∧
    (Edit.invalidateLocal index).ChecksLocals frame index 1 := by
  have positive {kind : Kind} (solid : kind ≠ .void) : 0 < kind.slotWidth :=
    Nat.pos_of_ne_zero (mt kind.slotWidth_eq_zero_iff.1 solid)
  refine ⟨fun kind solid => ?_, fun kind value solid allowed accepted => ?_, ?_⟩
  · -- The kind is compared after the locals are checked, so a load asks for no accepted value.
    refine checksLocals_of_verdict fits rfl (positive solid)
      ((congrArg Contents.given (if_neg solid)).trans (bind_assoc _ _ _)) ?_
    refine .bind ?_ fun value => stops_ok _
    split
    · exact stops_refused trivial
    · exact .ite (stops_refused trivial)
        (.bind Contents.pastLocals_accepts fun _ => stops_ok _)
  · have holds := Policy.holds_iff.2 ⟨solid, allowed⟩
    have accepts : frame.contents.accepts kind value = .ok () := Contents.accepts_iff.2 accepted
    have checked : frame.contents.stores index.toNat kind value =
        within frame.contents.locals.length index.toNat kind.slotWidth := by
      rw [Contents.stores, Frame.contents_policy, holds, accepts]
      rfl
    exact checksLocals_of_verdict fits rfl (positive solid) (congrArg Contents.done checked)
      (stops_ok _)
  · exact checksLocals_of_verdict fits rfl Nat.one_pos rfl (stops_ok _)

/-- Locals are asked for at either end of the words, and at the ends of frames with two locals and
with none. -/
theorem local_ranges_exact_at_ends :
    let scope := Scope.root ⟨some 0, 0⟩ "A.b()V"
    let wide : Value := ⟨0, 0, .long, ""⟩
    let frame : Frame := ⟨⟨2, 0, #[some wide, none]⟩, scope, ⟨none⟩, false, Policy.strict⟩
    let bare : Frame := ⟨⟨0, 1, #[some wide]⟩, scope, ⟨none⟩, false, Policy.strict⟩
    let outcome (edit : Edit Frame) (frame : Frame) : Outcome :=
      (edit.perform frame Reservations.empty).outcome
    let refusal (last maxLocals : Nat) : Outcome :=
      .refusal (.localIndexOutOfRange last maxLocals)
    frame.Fits ∧ bare.Fits ∧
      outcome (.loadLocal 0xffffffffffffffff .int) frame = refusal 0xffffffffffffffff 2 ∧
      outcome (.loadLocal 0xffffffffffffffff .long) frame = refusal 0xffffffffffffffff 2 ∧
      outcome (.storeLocal 0xfffffffffffffffe .long wide) frame = refusal 0xffffffffffffffff 2 ∧
      outcome (.storeLocal 1 .long wide) frame = refusal 2 2 ∧
      outcome (.invalidateLocal 0) bare = refusal 0 0 ∧
      frame.Spans 0 2 ∧ frame.Spans 1 1 := by
  intro scope wide frame bare outcome refusal
  have fits : frame.Fits := ⟨⟨by decide, by decide⟩, by decide⟩
  have bareFits : bare.Fits := ⟨⟨by decide, by decide⟩, by decide⟩
  have loads (index : UInt64) := (local_ranges_exact fits index).1
  have stores (index : UInt64) :=
    (local_ranges_exact fits index).2.1 .long wide (by decide) (by decide) (.inl rfl)
  have none := (local_ranges_exact bareFits 0).2.2
  exact ⟨fits, bareFits, (loads _ .int (by decide)).outcome_eq (by decide) _,
    (loads _ .long (by decide)).outcome_eq (by decide) _, (stores _).outcome_eq (by decide) _,
    (stores _).outcome_eq (by decide) _, none.outcome_eq (by decide) _,
    (loads 0 .long (by decide)).spans (by decide), (loads 1 .int (by decide)).spans (by decide)⟩

end Edit
end SymbolicFrame
