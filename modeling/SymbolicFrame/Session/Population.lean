import SymbolicFrame.Frame.Text

/-!
# Named frames

A population keeps frames under names. A name holds a frame that may be edited or one that is
frozen; a new frame under an old name replaces what the name held.
-/

namespace SymbolicFrame

/-- What a name holds: a frame that may be edited, or a frozen one. -/
inductive Holding where
  /-- A frame that may be edited. -/
  | builder (frame : Frame)
  /-- A frame that stays as it is. -/
  | frozen (frame : Frame)
  deriving DecidableEq

namespace Holding

/-- The frame held, frozen or not. -/
def frame : Holding → Frame
  | builder frame | frozen frame => frame

/-- The frame held, if it may be edited. -/
def builder? : Holding → Option Frame
  | builder frame => some frame
  | frozen _ => none

/-- The frame held, if it is frozen. -/
def frozen? : Holding → Option Frame
  | builder _ => none
  | frozen frame => some frame

/-- The diagnostic text of what a name holds tells whether it may be edited. -/
def debug : Holding → String
  | builder frame => Diagnostic.record "FrameStateBuilder" [("frame", frame.debug)]
  | frozen frame => Diagnostic.record "FrameState" [("frame", frame.debug)]

end Holding

/-- Frames under their names. -/
structure Population where
  /-- Names with what they hold; a name occurs at most once. -/
  entries : List (String × Holding)

namespace Population

/-- No name holds anything. -/
def empty : Population := ⟨[]⟩

/-- What a name holds. -/
def get? (population : Population) (name : String) : Option Holding :=
  (population.entries.find? fun entry => entry.1 = name).map Prod.snd

/-- Make a name hold nothing. -/
def erase (population : Population) (name : String) : Population :=
  ⟨population.entries.filter fun entry => entry.1 ≠ name⟩

/-- Make a name hold a frame, in place of what it held. -/
def insert (population : Population) (name : String) (holding : Holding) : Population :=
  ⟨(name, holding) :: (population.erase name).entries⟩

/-- No name holds anything at first. -/
@[simp]
theorem get?_empty (name : String) : empty.get? name = none := rfl

/-- A name erased holds nothing, and every other name holds what it held. -/
theorem get?_erase (population : Population) (name other : String) :
    (population.erase name).get? other =
      if other = name then none else population.get? other := by
  unfold get? erase
  rw [List.find?_filter]
  by_cases same : other = name
  · subst same
    simp
  · rw [if_neg same]
    congr 2
    funext entry
    by_cases isOther : entry.1 = other
    · simp [isOther, same]
    · simp [isOther]

/-- A name holds what was put under it last, and every other name holds what it held. -/
theorem get?_insert (population : Population) (name other : String) (holding : Holding) :
    (population.insert name holding).get? other =
      if other = name then some holding else population.get? other := by
  by_cases same : other = name
  · simp [get?, insert, same]
  · have others := get?_erase population name other
    rw [if_neg same] at others ⊢
    rw [← others]
    simp [get?, insert, Ne.symm same]

end Population
end SymbolicFrame
