/-!
# Kinds of values

A frame holds values of eight kinds. A kind decides how many slots a value takes, whether the
bytecode machine itself knows such values, and how the kind is written. A wide value takes two
slots, its own and an empty one right above it; a value of kind `void` takes none and is never
held.
-/

namespace SymbolicFrame

/-- What a value is, as far as a frame cares. -/
inductive Kind where
  /-- Integers, and the narrower kinds that are computed with as integers. -/
  | int
  /-- Wide integers. -/
  | long
  /-- Floating-point numbers. -/
  | float
  /-- Wide floating-point numbers. -/
  | double
  /-- References to objects. -/
  | object
  /-- Raw machine words. -/
  | word
  /-- Return addresses of bytecode subroutines. -/
  | jsr
  /-- No value at all. -/
  | void
  deriving DecidableEq

namespace Kind

/-- Every kind, in the order in which they are listed. -/
def all : List Kind := [int, long, float, double, object, word, jsr, void]

/-- The list of all kinds leaves none out. -/
theorem mem_all (kind : Kind) : kind ∈ all := by cases kind <;> decide

/-- How many slots a value of the kind takes. -/
def slotWidth : Kind → Nat
  | long | double => 2
  | void => 0
  | int | float | object | word | jsr => 1

/-- Wide kinds take two slots. -/
def isWide (kind : Kind) : Bool := kind.slotWidth == 2

/-- Word-like kinds escape the kind checks of the bytecode machine. -/
def isWordLike : Kind → Bool
  | word | jsr => true
  | int | long | float | double | object | void => false

/-- Kinds of the values that bytecode itself computes with. -/
def isBytecode : Kind → Bool
  | word | void => false
  | int | long | float | double | object | jsr => true

/-- The kind of no value. -/
def isVoid (kind : Kind) : Bool := kind == void

/-- The name of a kind in messages. -/
def name : Kind → String
  | int => "int"
  | long => "long"
  | float => "float"
  | double => "double"
  | object => "object"
  | word => "word"
  | jsr => "jsr"
  | void => "void"

/-- The name of a kind with a capital, for diagnostic text. -/
def title : Kind → String
  | int => "Int"
  | long => "Long"
  | float => "Float"
  | double => "Double"
  | object => "Object"
  | word => "Word"
  | jsr => "Jsr"
  | void => "Void"

/-- The letter that opens the text of a value of the kind. -/
def letter : Kind → Char
  | int => 'i'
  | long => 'j'
  | float => 'f'
  | double => 'd'
  | object => 'a'
  | word => 'w'
  | jsr => 'r'
  | void => 'v'

/-- The kind of a name, if it is the name of one. -/
def ofName? (text : String) : Option Kind := all.find? fun kind => kind.name == text

/-- Every kind is found under its own name. -/
theorem ofName?_name (kind : Kind) : ofName? kind.name = some kind := by cases kind <;> decide

/-- Distinct kinds open their values with distinct letters. -/
theorem letter_inj {left right : Kind} (same : left.letter = right.letter) : left = right := by
  revert same
  cases left <;> cases right <;> decide

/-- A kind is wide exactly when its values take two slots. -/
theorem isWide_iff (kind : Kind) : kind.isWide = true ↔ kind.slotWidth = 2 := by
  simp [isWide]

/-- The word-like kinds are those of machine words and of return addresses. -/
theorem isWordLike_iff (kind : Kind) : kind.isWordLike = true ↔ kind = word ∨ kind = jsr := by
  cases kind <;> decide

/-- No value takes more than two slots. -/
theorem slotWidth_le_two (kind : Kind) : kind.slotWidth ≤ 2 := by cases kind <;> decide

/-- Only `void` takes no slot. -/
theorem slotWidth_eq_zero_iff (kind : Kind) : kind.slotWidth = 0 ↔ kind = void := by
  cases kind <;> decide

end Kind
end SymbolicFrame
