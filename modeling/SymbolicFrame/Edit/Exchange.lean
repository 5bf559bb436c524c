import SymbolicFrame.Edit.Editor

/-!
# Splices and monitors

A splice takes over the locals, the stack or the monitors of another frame as they are. With slots
comes the mode: a frame that takes over slots of a relaxed frame is relaxed from then on. Acquiring
a monitor reports to a scope how many are held at once, which need not be the frame's own scope.
-/

namespace SymbolicFrame.EditM

/-- Take over the locals of a frame with as many of them. -/
def replaceLocals (source : Frame) : EditM Unit := do
  let held ← frame
  if source.maxLocals ≠ held.maxLocals then
    fault (.localsMismatch held.maxLocals source.maxLocals)
  record (.replacingLocals held source)
  takeLocals source.buffer
  inheritMode source

/-- Take over the stack of a frame, if it fits. -/
def replaceStack (source : Frame) : EditM Unit := do
  let held ← frame
  if held.maxStack < source.stackSize then fault (.stackOverflow held.maxStack)
  record (.replacingStack held source)
  takeStack source.buffer
  inheritMode source

/-- Take over the monitors of a frame. -/
def replaceMonitors (source : Frame) : EditM Unit :=
  changeFrame fun frame => { frame with monitors := source.monitors }

/-- Acquire the monitor of an object, and report for a scope how many are then held at once. -/
def lock (scope : Scope) (object : Value) (total : UInt64) : EditM Unit := do
  checkKind .object object
  changeFrame fun frame => { frame with monitors := frame.monitors.push object }
  report scope total

/-- Release the monitor acquired last. -/
def unlock : EditM Value := do
  match (← frame).monitors.pop? with
  | some (object, rest) =>
    changeFrame fun frame => { frame with monitors := rest }
    return object
  | none => fault .noLockHeld

end SymbolicFrame.EditM
