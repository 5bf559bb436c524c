import SymbolicFrame.Event
import SymbolicFrame.Word

/-!
# Editing a frame

An editor holds the frame being edited, the lock records reported so far and the log. An editing
step changes the editor in place: when it stops, what it did before it stopped stays done, so that
an edit which must leave the frame alone when it is refused has to check before it changes.

A step stops for one of two reasons. A refusal names its cause and is part of what an edit may
answer. A breach is a use of the slots outside their bounds, a broken assumption of a step on its
caller, or a size that is no machine word; no edit of a well-formed frame ends in one.
-/

namespace SymbolicFrame

/-- Why an editing step stopped. -/
inductive Stop where
  /-- The edit is refused. -/
  | refusal (cause : FrameError)
  /-- A slot, a size or a step was used outside its bounds. -/
  | breach
  deriving DecidableEq

/-- A frame being edited, with what its edits report. -/
structure Editor where
  /-- The frame being edited. -/
  frame : Frame
  /-- Lock records reported for scopes. -/
  reservations : Reservations
  /-- Log records, oldest first. -/
  log : List Event

/-- Editing steps: they change an editor and may stop. -/
abbrev EditM := EStateM Stop Editor

namespace EditM

variable {α : Type}

/-- The frame being edited. -/
def frame : EditM Frame := return (← get).frame

/-- Change the frame being edited. -/
def changeFrame (change : Frame → Frame) : EditM Unit :=
  modify fun editor => { editor with frame := change editor.frame }

/-- Change the slots of the frame being edited. -/
def changeBuffer (change : Buffer → Buffer) : EditM Unit :=
  changeFrame fun frame => { frame with buffer := change frame.buffer }

/-- Write a log record. -/
def record (event : Event) : EditM Unit :=
  modify fun editor => { editor with log := editor.log ++ [event] }

/-- Refuse an edit without a log record. -/
def refuse (cause : FrameError) : EditM α := throw (.refusal cause)

/-- Refuse an edit as a fault of the frame, which the log records. -/
def fault (cause : FrameError) : EditM α := do
  record (.fault cause)
  refuse cause

/-- Stop for a use outside bounds. -/
def breach : EditM α := throw .breach

/-- Record the refusal of a step as a fault of the frame. -/
def faulting (step : EditM α) : EditM α := fun editor =>
  match step editor with
  | .error (.refusal cause) stopped => fault cause stopped
  | result => result

/-- The sum of two sizes, which has to be a machine word. -/
def sum (left right : Nat) : EditM Nat :=
  if left + right < Word.limit then pure (left + right) else breach

/-- The difference of two sizes, which must not be negative. -/
def difference (left right : Nat) : EditM Nat :=
  if right ≤ left then pure (left - right) else breach

/-- Write the slot at a place of the array, which has to lie within it. -/
def putSlot (place : Nat) (slot : Slot) : EditM Unit := do
  if place < (← frame).buffer.slots.size then changeBuffer (·.put place slot) else breach

/-- Read the slot at a place of the array, which has to lie within it. -/
def readSlot (place : Nat) : EditM Slot := do
  match (← frame).buffer.slots[place]? with
  | some slot => return slot
  | none => breach

/-- Read a live stack slot, counted from the bottom. -/
def readStack (index : Nat) : EditM Slot := do
  let held ← frame
  if held.stackSize ≤ index then refuse (.stackIndexOutOfRange index held.stackSize)
  readSlot (← sum held.maxLocals index)

/-- Read the live stack, which has to lie within the array. -/
def readWholeStack : EditM (List Slot) := do
  let held ← frame
  if held.valuesSize ≤ held.buffer.slots.size then return held.buffer.stack else breach

/-- Read the slot of a local. -/
def readLocal (index : Nat) : EditM Slot := do
  let held ← frame
  if held.maxLocals ≤ index then refuse (.localIndexOutOfRange index held.maxLocals)
  readSlot index

/-- Write the slot of a local, which the caller has made sure of. -/
def writeLocal (index : Nat) (slot : Slot) : EditM Unit := do
  if index < (← frame).maxLocals then putSlot index slot else breach

/-- Move the top of the stack to a depth that the caller has made sure of. -/
def setDepth (depth : Nat) : EditM Unit := do
  if depth ≤ (← frame).maxStack then changeBuffer (·.withDepth depth) else breach

/-- Empty every local; they have to lie within the array. -/
def emptyLocals : EditM Unit := do
  let held ← frame
  if held.maxLocals ≤ held.buffer.slots.size then changeBuffer Buffer.clearLocals else breach

/-- Take over the locals of a buffer that the caller knows to have as many. -/
def takeLocals (source : Buffer) : EditM Unit := do
  let held ← frame
  if source.maxLocals = held.maxLocals ∧ source.maxLocals ≤ source.slots.size ∧
      held.maxLocals ≤ held.buffer.slots.size then
    changeBuffer (·.withLocalsOf source)
  else breach

/-- Take over the live stack of a buffer that the caller knows to fit. -/
def takeStack (source : Buffer) : EditM Unit := do
  let held ← frame
  if source.depth ≤ held.maxStack ∧ source.valuesSize ≤ source.slots.size ∧
      held.maxLocals + source.depth ≤ held.buffer.slots.size then
    changeBuffer (·.withStackOf source)
  else breach

/-- Put a slot on top of the stack, if there is room. -/
def pushSlot (slot : Slot) : EditM Unit := do
  let held ← frame
  if held.maxStack ≤ held.stackSize then refuse (.stackOverflow held.maxStack)
  putSlot (← sum held.maxLocals held.stackSize) slot
  setDepth (← sum held.stackSize 1)

/-- Take the slot on top of the stack off it, if there is one. -/
def popSlot : EditM Slot := do
  let held ← frame
  if held.stackSize = 0 then refuse .emptyStack
  let top ← difference held.stackSize 1
  let slot ← readStack top
  setDepth top
  return slot

/-- Refuse a value of another kind than the one asked for, while kinds are checked. -/
def checkKind (expected : Kind) (value : Value) : EditM Unit := do
  let held ← frame
  unless value.kind = expected || held.relaxed || !held.policy.checkKinds do
    refuse (.kindMismatch expected value.kind)

/-- Refuse a kind whose values may not be held. -/
def checkStorable (kind : Kind) : EditM Unit := do
  if kind.isVoid then refuse .voidKind
  if kind.isWordLike && !(← frame).policy.allowWordKinds then refuse (.wordKind kind)

/-- Relax the kind checks of the frame for a pushed kind, unless they are relaxed already. -/
def relax (kind : Kind) : EditM Unit := do
  let held ← frame
  unless held.relaxed do
    record (.relaxing kind held.scope)
    changeFrame fun frame => { frame with relaxed := true }

/-- Take over the mode of a frame whose slots are taken over. -/
def inheritMode (source : Frame) : EditM Unit :=
  changeFrame fun frame => { frame with relaxed := frame.relaxed || source.relaxed }

/-- Report for a scope how many lock records it needs. -/
def report (scope : Scope) (total : UInt64) : EditM Unit :=
  modify fun editor =>
    { editor with
      reservations := editor.reservations.raise scope total
      log := editor.log ++ editor.reservations.eventsOf scope total }

end EditM
end SymbolicFrame
