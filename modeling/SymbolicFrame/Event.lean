import SymbolicFrame.Frame.Text
import SymbolicFrame.Reservations

/-!
# Log records

What edits, freezes and reports of lock records write to the log, each with its level and text.
-/

namespace SymbolicFrame

/-- How grave a log record is. -/
inductive Level where
  /-- An edit was refused in a way that well-formed bytecode never meets. -/
  | error
  /-- A frame was frozen, or took over part of another. -/
  | debug
  /-- A frame or a scope changed for good. -/
  | trace
  deriving DecidableEq

/-- The name of a level. -/
def Level.name : Level → String
  | error => "ERROR"
  | debug => "DEBUG"
  | trace => "TRACE"

/-- Something that the log records. -/
inductive Event where
  /-- An edit was refused as a fault of the frame. -/
  | fault (cause : FrameError)
  /-- A frame was frozen. -/
  | freezing (frame : Frame)
  /-- A frame is about to take over the locals of another. -/
  | replacingLocals (frame source : Frame)
  /-- A frame is about to take over the stack of another. -/
  | replacingStack (frame source : Frame)
  /-- A word-like value was pushed onto a frame of the scope that was not relaxed before. -/
  | relaxing (kind : Kind) (scope : Scope)
  /-- A scope needs more lock records than were reported for it before. -/
  | needing (scope : Scope) (total previous : UInt64)

namespace Event

/-- The level of a log record. -/
def level : Event → Level
  | fault _ => .error
  | freezing _ | replacingLocals _ _ | replacingStack _ _ => .debug
  | relaxing _ _ | needing _ _ _ => .trace

/-- The text of a log record. -/
def message : Event → String
  | fault cause => "Frame state fault: " ++ cause.message
  | freezing frame => "Freezing " ++ frame.render
  | replacingLocals frame source =>
    "Replacing locals of " ++ frame.render ++ " with those of " ++ source.render
  | replacingStack frame source =>
    "Replacing stack of " ++ frame.render ++ " with that of " ++ source.render
  | relaxing kind scope =>
    "Pushed a " ++ kind.name ++ " value, relaxing kind checks in " ++ scope.render
  | needing scope total previous =>
    "Scope " ++ scope.name ++ " needs " ++ total.toNat.repr ++ " lock(s) (was " ++
      previous.toNat.repr ++ ")"

/-- A log record as one line: its level and its text. -/
def render (event : Event) : String := event.level.name ++ " " ++ event.message

end Event

/-- The log records of reporting a total for a scope: one if the scope needs more than before. -/
def Reservations.eventsOf (reservations : Reservations) (scope : Scope) (total : UInt64) :
    List Event :=
  if reservations.least scope < total then [.needing scope total (reservations.least scope)]
  else []

end SymbolicFrame
