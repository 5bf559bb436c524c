import SymbolicFrame.Kind

/-!
# Causes of refusal

An edit that is refused says why. Each cause carries what its message names; slots are counted
over the locals followed by the operand stack.
-/

namespace SymbolicFrame

/-- Why an edit of a frame, or a read from it, was refused. -/
inductive FrameError where
  /-- The kind of no value was asked for or given. -/
  | voidKind
  /-- A value of one kind was needed, and one of another was there. -/
  | kindMismatch (expected found : Kind)
  /-- The policy of the frame refuses values of a word-like kind. -/
  | wordKind (kind : Kind)
  /-- The operand stack has no room for what was to be put on it. -/
  | stackOverflow (maxStack : Nat)
  /-- The operand stack holds fewer slots than were to be taken off it. -/
  | emptyStack
  /-- A slot that should hold a value is empty. -/
  | missingValue (slot : Nat)
  /-- The slot above a wide value is not empty. -/
  | corruptHighWord (slot : Nat)
  /-- No stack slot has the index. -/
  | stackIndexOutOfRange (index stackSize : Nat)
  /-- No local has the index. -/
  | localIndexOutOfRange (index maxLocals : Nat)
  /-- The stack was to be cut down to more than it holds. -/
  | truncateAboveStack (size stackSize : Nat)
  /-- The stack was to be cut between the two slots of a wide value. -/
  | splitsWideValue (size : Nat)
  /-- The locals of a frame with another number of locals were to be taken over. -/
  | localsMismatch (expected found : Nat)
  /-- A monitor was to be released, and none was held. -/
  | noLockHeld
  deriving DecidableEq

namespace FrameError

/-- The message of a cause. -/
def message : FrameError → String
  | voidKind => "cannot push or store a value of kind void"
  | kindMismatch expected found =>
    "expected a value of kind " ++ expected.name ++ ", but found " ++ found.name
  | wordKind kind => "values of kind " ++ kind.name ++ " are not allowed in this frame"
  | stackOverflow maxStack => "operand stack overflow (max stack is " ++ maxStack.repr ++ ")"
  | emptyStack => "operand stack is empty"
  | missingValue slot => "slot " ++ slot.repr ++ " does not hold a value"
  | corruptHighWord slot =>
    "slot " ++ slot.repr ++ " should be the empty high word of a wide value"
  | stackIndexOutOfRange index stackSize =>
    "stack slot " ++ index.repr ++ " is out of range (stack size is " ++ stackSize.repr ++ ")"
  | localIndexOutOfRange index maxLocals =>
    "local " ++ index.repr ++ " is out of range (max locals is " ++ maxLocals.repr ++ ")"
  | truncateAboveStack size stackSize =>
    "cannot truncate a stack of size " ++ stackSize.repr ++ " to size " ++ size.repr
  | splitsWideValue size =>
    "truncating the stack to size " ++ size.repr ++ " would split a wide value"
  | localsMismatch expected found =>
    "expected " ++ expected.repr ++ " locals, but found " ++ found.repr
  | noLockHeld => "no monitor is held"

end FrameError
end SymbolicFrame
