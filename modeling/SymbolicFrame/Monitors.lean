import SymbolicFrame.Value
import SymbolicFrame.FrameError
import SymbolicFrame.Diagnostic

/-!
# Held monitors

The monitors held at a point of a method, in the order in which they were acquired. Most methods
never acquire one, so a list is only made at the first; once made it stays, even when it is empty
again. Equality looks at the monitors held and not at whether a list was made.
-/

namespace SymbolicFrame

/-- The monitors held, outermost first. -/
structure Monitors where
  /-- The list of monitors, once one was made. -/
  held : Option (List Value)
  deriving DecidableEq

namespace Monitors

/-- No monitor is held, and none ever was. -/
def empty : Monitors := ⟨none⟩

/-- The monitors held, outermost first. -/
def toList (monitors : Monitors) : List Value := monitors.held.getD []

/-- A monitor was held at some time, here or in the frame this was copied from. -/
def isAllocated (monitors : Monitors) : Bool := monitors.held.isSome

/-- How many monitors are held. -/
def size (monitors : Monitors) : Nat := monitors.toList.length

/-- The monitor at a depth, counted from the outermost. -/
def get? (monitors : Monitors) (index : Nat) : Option Value := monitors.toList[index]?

/-- Hold one more monitor. -/
def push (monitors : Monitors) (object : Value) : Monitors :=
  ⟨some (monitors.toList ++ [object])⟩

/-- Release the monitor acquired last. -/
def pop? (monitors : Monitors) : Option (Value × Monitors) :=
  monitors.toList.getLast?.map fun object => (object, ⟨some monitors.toList.dropLast⟩)

/-- Two lists of monitors are equal when they hold the same monitors in the same order. -/
def agrees (left right : Monitors) : Bool := left.toList == right.toList

/-- The diagnostic text of held monitors tells an unmade list from an empty one. -/
def debug (monitors : Monitors) : String :=
  Diagnostic.record "LockStack"
    [("held", Diagnostic.optional
      (monitors.held.map fun held => Diagnostic.list (held.map Value.render)))]

/-- No monitor is held at first. -/
@[simp]
theorem toList_empty : empty.toList = [] := rfl

/-- The list of a monitor list that was made. -/
@[simp]
theorem toList_mk_some (held : List Value) : toList ⟨some held⟩ = held := rfl

/-- A monitor acquired is the innermost one. -/
@[simp]
theorem toList_push (monitors : Monitors) (object : Value) :
    (monitors.push object).toList = monitors.toList ++ [object] := rfl

/-- The monitor acquired last is the one released, and the others stay. -/
theorem pop?_eq_some_iff (monitors rest : Monitors) (object : Value) :
    monitors.pop? = some (object, rest) ↔
      monitors.toList = rest.toList ++ [object] ∧ rest.isAllocated = true := by
  constructor
  · intro found
    obtain ⟨last, isLast, same⟩ := Option.map_eq_some_iff.1 found
    cases same
    obtain ⟨others, split⟩ := List.getLast?_eq_some_iff.1 isLast
    exact ⟨by rw [toList_mk_some, split, List.dropLast_concat], rfl⟩
  · rintro ⟨same, made⟩
    obtain ⟨held⟩ := rest
    cases held with
    | none => cases made
    | some held => simp only [pop?, same, toList_mk_some, List.getLast?_concat,
        List.dropLast_concat, Option.map_some]

/-- No monitor can be released exactly when none is held. -/
theorem pop?_eq_none_iff (monitors : Monitors) :
    monitors.pop? = none ↔ monitors.toList = [] := by
  simp [pop?]

end Monitors
end SymbolicFrame
