import SymbolicFrame.Edit.Editor

/-!
# Edits of the operand stack

Typed edits put values on the stack and take them off under the rules of their kinds: a wide value
lies below an empty slot, and both come and go together. Raw edits move single slots and look at
nothing. Arguments are taken off as a group and come back in the order in which they were pushed.
-/

namespace SymbolicFrame.EditM

/-- Push a value of a kind, with an empty slot above it if the kind is wide. -/
def push (kind : Kind) (value : Value) : EditM Unit := do
  checkStorable kind
  checkKind kind value
  let held ← frame
  let needed ← sum held.stackSize kind.slotWidth
  if held.maxStack < needed then fault (.stackOverflow held.maxStack)
  pushSlot (some value)
  if kind.isWide then pushSlot none
  if kind.isWordLike then relax kind

/-- Pop a value of a kind, with the empty slot above it if the kind is wide. -/
def pop (kind : Kind) : EditM Value := do
  if kind.isVoid then refuse .voidKind
  let held ← frame
  if held.stackSize < kind.slotWidth then fault .emptyStack
  let low ← difference held.stackSize kind.slotWidth
  if kind.isWide then
    let high ← sum low 1
    if (← readStack high).isSome then
      fault (.corruptHighWord (← sum (← sum held.maxLocals low) 1))
  match ← readStack low with
  | some value =>
    checkKind kind value
    setDepth low
    return value
  | none => fault (.missingValue (← sum held.maxLocals low))

/-- Push a slot and look at nothing but the room for it. -/
def pushRaw (slot : Slot) : EditM Unit := faulting (pushSlot slot)

/-- Pop a slot, whatever it is. -/
def popRaw : EditM Slot := faulting popSlot

/-- The values in a window of stack slots, read from the bottom up. An empty slot is passed over
right after a wide value; any other one ends the reading, and its place in the window is given. -/
def windowValues (place : Nat) (afterWide : Bool) : List Slot → Except Nat (List Value)
  | [] => .ok []
  | some value :: rest => do
    let values ← windowValues (place + 1) value.kind.isWide rest
    return value :: values
  | none :: rest => if afterWide then windowValues (place + 1) false rest else .error place

/-- Pop the arguments of a call that take a given number of slots. -/
def popArguments (size : UInt64) : EditM (List Value) := do
  let held ← frame
  if held.stackSize < size.toNat then fault .emptyStack
  let base ← difference held.stackSize size.toNat
  match windowValues base false ((← readWholeStack).drop base) with
  | .ok values =>
    setDepth base
    return values
  | .error index => fault (.missingValue (← sum held.maxLocals index))

/-- Cut the stack down to a given number of slots, unless that splits a wide value. -/
def truncateStack (size : UInt64) : EditM Unit := do
  let held ← frame
  if held.stackSize < size.toNat then fault (.truncateAboveStack size.toNat held.stackSize)
  if 0 < size.toNat && size.toNat < held.stackSize then
    let below ← readStack (← difference size.toNat 1)
    let above ← readStack size.toNat
    if Slot.holdsWide below && above.isNone then fault (.splitsWideValue size.toNat)
  setDepth size.toNat

/-- Drop everything on the stack. -/
def clearStack : EditM Unit := setDepth 0

end SymbolicFrame.EditM
