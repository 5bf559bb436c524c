import SymbolicFrame.Kind

/-!
# Values and slots

A value is a node of a graph. Its graph and its position there identify it; its kind and label
come with it. Two values may be written alike and still differ, when they are nodes of different
graphs. A slot of a frame holds a value or nothing.
-/

namespace SymbolicFrame

/-- A node of a graph, as a frame holds it. -/
structure Value where
  /-- Number of the graph the node belongs to. -/
  graph : Nat
  /-- Position of the node among the values of its graph. -/
  index : Nat
  /-- Kind of the value that the node produces. -/
  kind : Kind
  /-- Free description of the node, for readers only. -/
  label : String
  deriving DecidableEq

/-- A value is written as the letter of its kind, its position and, if it has one, its label. -/
def Value.render (value : Value) : String :=
  value.kind.letter.toString ++ value.index.repr ++
    if value.label.isEmpty then "" else "(" ++ value.label ++ ")"

/-- A place in a frame: a value, or nothing. -/
abbrev Slot := Option Value

namespace Slot

/-- The kind of the value in a slot. -/
def kind? (slot : Slot) : Option Kind := slot.map (·.kind)

/-- The slot holds a value that takes two slots. -/
def holdsWide : Slot → Bool
  | some value => value.kind.isWide
  | none => false

/-- An empty slot is written as an underscore. -/
def render : Slot → String
  | some value => value.render
  | none => "_"

end Slot
end SymbolicFrame
