/-!
# Machine words as indices and sizes

Indices, sizes and totals that enter an edit are 64-bit words. A sum of two words either fits in
a word or is refused, and a capped sum stays at the largest word. The lemmas state both in the
natural numbers, where no sum wraps.
-/

namespace SymbolicFrame.Word

/-- The number of distinct words: a size below it fits in one. -/
def limit : Nat := 0x10000000000000000

/-- The largest word. -/
def largest : UInt64 := 0xffffffffffffffff

/-- The sum of two words, if it fits in a word. -/
def add? (left right : UInt64) : Option UInt64 :=
  if left.toNat + right.toNat < limit then some (left + right) else none

/-- The sum of two words, or the largest word if the sum does not fit. -/
def addCapped (left right : UInt64) : UInt64 := (add? left right).getD largest

/-- A size below the limit is that of its word. -/
theorem toNat_toUInt64 {size : Nat} (fits : size < limit) : size.toUInt64.toNat = size :=
  Nat.mod_eq_of_lt fits

/-- A sum below the limit does not wrap. -/
theorem toNat_add_of_fits {left right : UInt64} (fits : left.toNat + right.toNat < limit) :
    (left + right).toNat = left.toNat + right.toNat := by
  rw [UInt64.toNat_add]
  exact Nat.mod_eq_of_lt fits

/-- A sum that fits is the sum in the natural numbers. -/
theorem add?_eq_some_iff (left right total : UInt64) :
    add? left right = some total ↔ left.toNat + right.toNat = total.toNat := by
  unfold add?
  constructor
  · intro found
    split at found
    · rename_i fits
      cases found
      rw [toNat_add_of_fits fits]
    · contradiction
  · intro sameSum
    have bound : total.toNat < limit := total.toNat_lt
    have fits : left.toNat + right.toNat < limit := by omega
    rw [if_pos fits]
    congr 1
    apply UInt64.toNat.inj
    rw [toNat_add_of_fits fits, sameSum]

/-- A sum is refused exactly when it needs more than a word. -/
theorem add?_eq_none_iff (left right : UInt64) :
    add? left right = none ↔ limit ≤ left.toNat + right.toNat := by
  simp [add?]

/-- A capped sum is the smaller of the sum and the largest word. -/
theorem toNat_addCapped (left right : UInt64) :
    (addCapped left right).toNat = min (left.toNat + right.toNat) largest.toNat := by
  have top : largest.toNat + 1 = limit := by decide
  unfold addCapped
  cases found : add? left right with
  | some total =>
    have sameSum := (add?_eq_some_iff left right total).1 found
    have bound : total.toNat < limit := total.toNat_lt
    rw [Option.getD_some]
    omega
  | none =>
    have exceeds := (add?_eq_none_iff left right).1 found
    rw [Option.getD_none]
    omega

/-- The larger of two words is the larger of the two numbers. -/
theorem toNat_max (left right : UInt64) :
    (max left right).toNat = max left.toNat right.toNat := by
  change (if left ≤ right then right else left).toNat = _
  split
  · rename_i ordered
    exact (Nat.max_eq_right (UInt64.le_iff_toNat_le.1 ordered)).symm
  · rename_i reversed
    rw [UInt64.le_iff_toNat_le] at reversed
    exact (Nat.max_eq_left (Nat.le_of_not_le reversed)).symm

/-- The larger of two words stays within a bound when both do. -/
theorem max_le_iff {left right bound : UInt64} :
    max left right ≤ bound ↔ left ≤ bound ∧ right ≤ bound := by
  simp only [UInt64.le_iff_toNat_le, toNat_max, Nat.max_le]

end SymbolicFrame.Word
