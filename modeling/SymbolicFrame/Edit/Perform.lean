import SymbolicFrame.Edit.Stack
import SymbolicFrame.Edit.Locals
import SymbolicFrame.Edit.Exchange

/-!
# Edits as data

Every edit of a frame as one type, so that runs of edits are lists and facts about runs are
inductions. An edit names its source frame in whatever way suits the reader: by name in a session,
as the frame itself when it is performed.
-/

namespace SymbolicFrame

/-- An edit of a frame, with sources of one type for the splices. -/
inductive Edit (Source : Type) where
  /-- Push a value of a kind. -/
  | push (kind : Kind) (value : Value)
  /-- Pop a value of a kind. -/
  | pop (kind : Kind)
  /-- Push a slot as it is. -/
  | pushRaw (slot : Slot)
  /-- Pop a slot as it is. -/
  | popRaw
  /-- Pop the arguments of a call. -/
  | popArguments (size : UInt64)
  /-- Cut the stack down. -/
  | truncateStack (size : UInt64)
  /-- Drop everything on the stack. -/
  | clearStack
  /-- Read a local. -/
  | loadLocal (index : UInt64) (kind : Kind)
  /-- Write a local. -/
  | storeLocal (index : UInt64) (kind : Kind) (value : Value)
  /-- Empty a local. -/
  | invalidateLocal (index : UInt64)
  /-- Empty every local. -/
  | clearLocals
  /-- Store parameters from local zero on. -/
  | storeParameters (parameters : List Value)
  /-- Take over the locals of a frame. -/
  | replaceLocals (source : Source)
  /-- Take over the stack of a frame. -/
  | replaceStack (source : Source)
  /-- Take over the monitors of a frame. -/
  | replaceMonitors (source : Source)
  /-- Acquire a monitor. -/
  | lock (scope : Scope) (object : Value) (total : UInt64)
  /-- Release a monitor. -/
  | unlock

/-- What an edit answers when it is not refused. -/
inductive Answer where
  /-- Nothing but that it was done. -/
  | done
  /-- A slot: a value, or nothing. -/
  | slot (slot : Slot)
  /-- Several values. -/
  | values (values : List Value)
  deriving DecidableEq

/-- How an edit ends. -/
inductive Outcome where
  /-- The edit was done. -/
  | answer (answer : Answer)
  /-- The edit was refused. -/
  | refusal (cause : FrameError)
  /-- The edit used something outside its bounds. -/
  | breach
  deriving DecidableEq

/-- An edit that came to its end, with what it left behind. -/
structure Performed where
  /-- How the edit ended. -/
  outcome : Outcome
  /-- The frame after the edit. -/
  frame : Frame
  /-- The lock records reported by then. -/
  reservations : Reservations
  /-- The log records of this edit, oldest first. -/
  log : List Event

namespace Edit

/-- Find the source of an edit, if it has one. -/
def resolve? {Name Source : Type} (find : Name → Option Source) :
    Edit Name → Option (Edit Source)
  | push kind value => some (push kind value)
  | pop kind => some (pop kind)
  | pushRaw slot => some (pushRaw slot)
  | popRaw => some popRaw
  | popArguments size => some (popArguments size)
  | truncateStack size => some (truncateStack size)
  | clearStack => some clearStack
  | loadLocal index kind => some (loadLocal index kind)
  | storeLocal index kind value => some (storeLocal index kind value)
  | invalidateLocal index => some (invalidateLocal index)
  | clearLocals => some clearLocals
  | storeParameters parameters => some (storeParameters parameters)
  | replaceLocals source => (find source).map replaceLocals
  | replaceStack source => (find source).map replaceStack
  | replaceMonitors source => (find source).map replaceMonitors
  | lock scope object total => some (lock scope object total)
  | unlock => some unlock

/-- The steps of an edit. -/
def steps : Edit Frame → EditM Answer
  | push kind value => do EditM.push kind value; return .done
  | pop kind => return .slot (some (← EditM.pop kind))
  | pushRaw slot => do EditM.pushRaw slot; return .done
  | popRaw => return .slot (← EditM.popRaw)
  | popArguments size => return .values (← EditM.popArguments size)
  | truncateStack size => do EditM.truncateStack size; return .done
  | clearStack => do EditM.clearStack; return .done
  | loadLocal index kind => return .slot (some (← EditM.loadLocal index kind))
  | storeLocal index kind value => do EditM.storeLocal index kind value; return .done
  | invalidateLocal index => do EditM.invalidateLocal index; return .done
  | clearLocals => do EditM.clearLocals; return .done
  | storeParameters parameters => do EditM.storeParameters parameters; return .done
  | replaceLocals source => do EditM.replaceLocals source; return .done
  | replaceStack source => do EditM.replaceStack source; return .done
  | replaceMonitors source => do EditM.replaceMonitors source; return .done
  | lock scope object total => do EditM.lock scope object total; return .done
  | unlock => return .slot (some (← EditM.unlock))

/-- Perform an edit on a frame, given the lock records reported before. -/
def perform (edit : Edit Frame) (frame : Frame) (reservations : Reservations) : Performed :=
  match edit.steps ⟨frame, reservations, []⟩ with
  | .ok answer editor => ⟨.answer answer, editor.frame, editor.reservations, editor.log⟩
  | .error (.refusal cause) editor =>
    ⟨.refusal cause, editor.frame, editor.reservations, editor.log⟩
  | .error .breach editor => ⟨.breach, editor.frame, editor.reservations, editor.log⟩

end Edit
end SymbolicFrame
