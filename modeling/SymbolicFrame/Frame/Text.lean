import SymbolicFrame.Frame.Basic

/-!
# Texts of a frame

The text of a frame is its scope and a bracketed line of tokens, each after a space: the locals, a
bar, the live stack, then the monitors if any are held, and after the bracket the mark of a
relaxed frame. Diagnostic text names every field instead.
-/

namespace SymbolicFrame.Frame

/-- The tokens of a frame's text, from its opening bracket on. -/
def tokens (frame : Frame) : List String :=
  frame.buffer.locals.map Slot.render ++ ["|"] ++ frame.buffer.stack.map Slot.render ++
    (if frame.locks.isEmpty then [] else "|" :: "locks" :: frame.locks.map Value.render) ++ ["]"] ++
    if frame.relaxed then ["unsafe"] else []

/-- The text of a frame. -/
def render (frame : Frame) : String :=
  frame.scope.render ++ " [" ++ String.join (frame.tokens.map fun token => " " ++ token)

/-- The diagnostic text of a frame. -/
def debug (frame : Frame) : String :=
  Diagnostic.record "Frame"
    [("buffer", frame.buffer.debug), ("scope", frame.scope.render),
      ("locks", frame.monitors.debug), ("unsafe_mode", Diagnostic.flag frame.relaxed),
      ("settings", frame.policy.debug)]

end SymbolicFrame.Frame
