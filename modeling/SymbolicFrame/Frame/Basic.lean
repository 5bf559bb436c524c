import SymbolicFrame.Buffer.Basic
import SymbolicFrame.Monitors
import SymbolicFrame.Policy
import SymbolicFrame.Scope
import SymbolicFrame.Word

/-!
# Frames

A frame is what a method holds at one point of its bytecode: local variables and operand stack,
the scope being decoded, the monitors held, and whether its kind checks are relaxed because a
word-like value was once pushed onto it or onto a frame it took slots from. Here are the readers
of a frame, the two ways of comparing frames, and partial copies; edits are elsewhere.
-/

namespace SymbolicFrame

/-- The state of a method at one point of its bytecode. -/
structure Frame where
  /-- Local variables and operand stack. -/
  buffer : Buffer
  /-- Scope of the method being decoded. -/
  scope : Scope
  /-- Monitors held. -/
  monitors : Monitors
  /-- Kind checks are relaxed, for good. -/
  relaxed : Bool
  /-- Checks that edits make. -/
  policy : Policy
  deriving DecidableEq

/-- Which parts of a frame a copy keeps. -/
structure Parts where
  /-- Keep the local variables. -/
  locals : Bool
  /-- Keep the operand stack. -/
  stack : Bool
  /-- Keep the monitors held. -/
  monitors : Bool
  deriving DecidableEq

namespace Parts

/-- Keep everything. -/
def all : Parts := ⟨true, true, true⟩

/-- Keep what both keep. -/
def inter (left right : Parts) : Parts :=
  ⟨left.locals && right.locals, left.stack && right.stack, left.monitors && right.monitors⟩

/-- The bits of a set of parts: one for the locals, two for the stack, four for the monitors. -/
def bits (parts : Parts) : Nat :=
  (if parts.locals then 1 else 0) + (if parts.stack then 2 else 0) +
    if parts.monitors then 4 else 0

/-- The set of parts with the given bits, if no other bit is among them. -/
def ofBits? (bits : Nat) : Option Parts :=
  if bits < 8 then some ⟨bits.testBit 0, bits.testBit 1, bits.testBit 2⟩ else none

/-- The diagnostic text of a set of parts names them. -/
def debug (parts : Parts) : String :=
  let names := (if parts.locals then ["LOCALS"] else []) ++
    (if parts.stack then ["STACK"] else []) ++ if parts.monitors then ["LOCKS"] else []
  if names.isEmpty then "(empty)" else String.intercalate " | " names

/-- A set of parts is found under its own bits. -/
theorem ofBits?_bits (parts : Parts) : ofBits? parts.bits = some parts := by
  obtain ⟨locals, stack, monitors⟩ := parts
  cases locals <;> cases stack <;> cases monitors <;> decide

end Parts

namespace Frame

/-- A frame with every slot empty and no monitor held. -/
def fresh (scope : Scope) (maxLocals maxStack : Nat) (policy : Policy) : Frame :=
  ⟨Buffer.fresh maxLocals maxStack, scope, Monitors.empty, false, policy⟩

/-- The slots of a frame of these sizes, and two more above them, can be counted in a word. -/
def Countable (maxLocals maxStack : Nat) : Prop := maxLocals + maxStack + 2 < Word.limit

instance (maxLocals maxStack : Nat) : Decidable (Countable maxLocals maxStack) :=
  inferInstanceAs (Decidable (maxLocals + maxStack + 2 < Word.limit))

/-- Bytecode gives sizes of sixteen bits, and these can always be counted. -/
example : Countable 65535 65535 := by decide

/-- The number of local variables. -/
def maxLocals (frame : Frame) : Nat := frame.buffer.maxLocals

/-- The most slots that the operand stack may take. -/
def maxStack (frame : Frame) : Nat := frame.buffer.maxStack

/-- The number of slots on the operand stack; wide values count twice. -/
def stackSize (frame : Frame) : Nat := frame.buffer.depth

/-- The number of locals and live stack slots. -/
def valuesSize (frame : Frame) : Nat := frame.buffer.valuesSize

/-- The slot of a local variable. -/
def localAt (frame : Frame) (index : UInt64) : Except FrameError Slot :=
  frame.buffer.localAt index.toNat

/-- A slot of the operand stack, counted from the bottom. -/
def stackAt (frame : Frame) (index : UInt64) : Except FrameError Slot :=
  frame.buffer.stackAt index.toNat

/-- A slot of the locals followed by the operand stack, empty beyond them. -/
def valueAt (frame : Frame) (index : UInt64) : Slot := frame.buffer.valueAt index.toNat

/-- The locals that hold a value, with their index and kind. -/
def locals (frame : Frame) : List (Nat × Kind × Value) := frame.buffer.filledLocals

/-- The values on the operand stack, with their index from the bottom and their kind. -/
def stack (frame : Frame) : List (Nat × Kind × Value) := frame.buffer.filledStack

/-- The monitors held, outermost first. -/
def locks (frame : Frame) : List Value := frame.monitors.toList

/-- How many monitors are held. -/
def locksSize (frame : Frame) : Nat := frame.monitors.size

/-- The monitor at a depth, counted from the outermost. -/
def lockAt (frame : Frame) (index : UInt64) : Option Value := frame.monitors.get? index.toNat

/-- Every value the frame keeps alive: locals, then stack, then monitors. -/
def liveValues (frame : Frame) : List Value :=
  (frame.locals ++ frame.stack).map (fun entry => entry.2.2) ++ frame.locks

/-- Two frames are equal when their live slots, sizes, scopes, monitors, modes and policies are;
dead slots do not count, and neither does whether an empty list of monitors was ever made. -/
def agrees (left right : Frame) : Bool :=
  left.buffer.agrees right.buffer && left.scope == right.scope &&
    left.monitors.agrees right.monitors && left.relaxed == right.relaxed &&
    left.policy == right.policy

/-- Two frames are compatible when both may reach one program point: they have one shape and the
same kinds on the stack. Locals may differ, for a merge can give up those that do. -/
def isCompatible (left right : Frame) : Bool :=
  left.maxLocals == right.maxLocals && left.maxStack == right.maxStack &&
    left.stackSize == right.stackSize && left.locksSize == right.locksSize &&
    left.buffer.stack.map Slot.kind? == right.buffer.stack.map Slot.kind?

/-- A copy of some parts of a frame. What is left out is empty in the copy; the copy is relaxed
if the frame is, whatever it keeps. -/
def copyParts (frame : Frame) (parts : Parts) : Frame :=
  let blank := fresh frame.scope frame.maxLocals frame.maxStack frame.policy
  let withLocals :=
    if parts.locals then blank.buffer.withLocalsOf frame.buffer else blank.buffer
  { blank with
    relaxed := frame.relaxed
    buffer := if parts.stack then withLocals.withStackOf frame.buffer else withLocals
    monitors := if parts.monitors then frame.monitors else blank.monitors }

end Frame
end SymbolicFrame
