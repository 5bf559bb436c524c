import SymbolicFrame.Value
import SymbolicFrame.FrameError
import SymbolicFrame.Diagnostic

/-!
# Slots of a frame

The slots of a frame lie in one flat array: the local variables first, the operand stack after
them. The depth says how many stack slots are live. Slots above the depth keep what was last
written to them; no reader looks at them, and equality ignores them. `locals` and `stack` are the
two live regions as lists, and every other reader is a view of these two.
-/

namespace SymbolicFrame

/-- Local variables and operand stack in one array of slots. -/
structure Buffer where
  /-- Number of local variables. -/
  maxLocals : Nat
  /-- Number of live stack slots. -/
  depth : Nat
  /-- The locals, the live stack and the dead slots above it. -/
  slots : Array Slot
  deriving DecidableEq

namespace Buffer

/-- A buffer of the given sizes with every slot empty. -/
def fresh (maxLocals maxStack : Nat) : Buffer :=
  ⟨maxLocals, 0, Array.replicate (maxLocals + maxStack) none⟩

/-- The number of stack slots, live or dead. -/
def maxStack (buffer : Buffer) : Nat := buffer.slots.size - buffer.maxLocals

/-- The number of slots that are locals or live stack. -/
def valuesSize (buffer : Buffer) : Nat := buffer.maxLocals + buffer.depth

/-- The slots fit their sizes: the locals lie within the array, and so does the live stack. -/
structure WellFormed (buffer : Buffer) : Prop where
  /-- The array holds the locals and the whole stack. -/
  size_eq : buffer.slots.size = buffer.maxLocals + buffer.maxStack
  /-- The live stack lies within the stack. -/
  depth_le : buffer.depth ≤ buffer.maxStack

/-- The local slots, from local zero up. -/
def locals (buffer : Buffer) : List Slot := (buffer.slots.extract 0 buffer.maxLocals).toList

/-- The live stack slots, from the bottom up. -/
def stack (buffer : Buffer) : List Slot :=
  (buffer.slots.extract buffer.maxLocals buffer.valuesSize).toList

/-- The slot of a local variable. -/
def localAt (buffer : Buffer) (index : Nat) : Except FrameError Slot :=
  if index < buffer.maxLocals then .ok (buffer.slots.getD index none)
  else .error (.localIndexOutOfRange index buffer.maxLocals)

/-- A live stack slot, counted from the bottom. -/
def stackAt (buffer : Buffer) (index : Nat) : Except FrameError Slot :=
  if index < buffer.depth then .ok (buffer.slots.getD (buffer.maxLocals + index) none)
  else .error (.stackIndexOutOfRange index buffer.depth)

/-- A slot of the locals followed by the live stack, empty beyond them. -/
def valueAt (buffer : Buffer) (index : Nat) : Slot :=
  if index < buffer.valuesSize then buffer.slots.getD index none else none

/-- The filled slots of a region with their index and kind, in order. -/
def filled (slots : List Slot) : List (Nat × Kind × Value) :=
  slots.zipIdx.filterMap fun entry => entry.1.map fun value => (entry.2, value.kind, value)

/-- The locals that hold a value, with their index and kind. -/
def filledLocals (buffer : Buffer) : List (Nat × Kind × Value) := filled buffer.locals

/-- The values on the stack, with their index from the bottom and their kind. -/
def filledStack (buffer : Buffer) : List (Nat × Kind × Value) := filled buffer.stack

/-- Write a slot, whichever region it lies in. -/
def put (buffer : Buffer) (index : Nat) (slot : Slot) : Buffer :=
  { buffer with slots := buffer.slots.setIfInBounds index slot }

/-- Move the top of the stack, leaving every slot as it is. -/
def withDepth (buffer : Buffer) (depth : Nat) : Buffer := { buffer with depth := depth }

/-- Empty every local. -/
def clearLocals (buffer : Buffer) : Buffer :=
  { buffer with
    slots := Array.replicate buffer.maxLocals none ++
      buffer.slots.extract buffer.maxLocals buffer.slots.size }

/-- Take over the locals of a buffer with as many of them. -/
def withLocalsOf (buffer source : Buffer) : Buffer :=
  { buffer with
    slots := source.slots.extract 0 source.maxLocals ++
      buffer.slots.extract buffer.maxLocals buffer.slots.size }

/-- Take over the live stack of a buffer whose stack fits in this one. -/
def withStackOf (buffer source : Buffer) : Buffer :=
  { buffer with
    depth := source.depth
    slots := buffer.slots.extract 0 buffer.maxLocals ++
      source.slots.extract source.maxLocals source.valuesSize ++
      buffer.slots.extract (buffer.maxLocals + source.depth) buffer.slots.size }

/-- Two buffers are equal when their sizes, their locals and their live stacks are. -/
def agrees (left right : Buffer) : Bool :=
  left.maxLocals == right.maxLocals && left.maxStack == right.maxStack &&
    left.depth == right.depth &&
    left.slots.extract 0 left.valuesSize == right.slots.extract 0 right.valuesSize

/-- The diagnostic text of a buffer shows its two live regions. -/
def debug (buffer : Buffer) : String :=
  let region (slots : List Slot) :=
    Diagnostic.list (slots.map fun slot => Diagnostic.optional (slot.map Value.render))
  Diagnostic.record "FrameBuffer"
    [("locals", region buffer.locals), ("stack", region buffer.stack),
      ("max_stack", buffer.maxStack.repr)]

end Buffer
end SymbolicFrame
