import SymbolicFrame.Scope

/-!
# Lock records reserved for scopes

An activation of a scope needs a lock record for every monitor that may be held at once. Frames
report such totals, in any order, and a scope remembers the largest: a report that is not larger
changes nothing (`least_raise`).
-/

namespace SymbolicFrame

/-- The largest total reported for each scope; later entries come first. -/
structure Reservations where
  /-- Scopes with the totals they were raised to. -/
  entries : List (Scope × UInt64)
  deriving DecidableEq

namespace Reservations

/-- No total has been reported for any scope. -/
def empty : Reservations := ⟨[]⟩

/-- The number of lock records that a scope needs at least, by the reports so far. -/
def least (reservations : Reservations) (scope : Scope) : UInt64 :=
  match reservations.entries.find? fun entry => entry.1 = scope with
  | some entry => entry.2
  | none => 0

/-- Report a total for a scope. -/
def raise (reservations : Reservations) (scope : Scope) (total : UInt64) : Reservations :=
  if reservations.least scope < total then ⟨(scope, total) :: reservations.entries⟩
  else reservations

/-- Nothing is needed before the first report. -/
@[simp]
theorem least_empty (scope : Scope) : empty.least scope = 0 := rfl

/-- A report raises its own scope to the larger of the two totals, and no other scope. -/
theorem least_raise (reservations : Reservations) (scope other : Scope) (total : UInt64) :
    (reservations.raise scope total).least other =
      if other = scope ∧ reservations.least scope < total then total
      else reservations.least other := by
  unfold raise
  split
  · rename_i larger
    by_cases same : other = scope
    · rw [if_pos ⟨same, larger⟩]
      simp [least, same]
    · rw [if_neg fun both => same both.1]
      simp [least, Ne.symm same]
  · rename_i notLarger
    rw [if_neg fun both => notLarger both.2]

end Reservations
end SymbolicFrame
