import SymbolicFrame.Diagnostic

/-!
# Checking policy of a frame

Two switches, fixed when a frame is made: whether the kind of a value is checked at all, and
whether values of word-like kinds may be held. Frames that are made without a policy have that of
the build.
-/

namespace SymbolicFrame

/-- Which checks the edits of a frame make. -/
structure Policy where
  /-- Refuse a value whose kind is not the one asked for. -/
  checkKinds : Bool
  /-- Accept values of word-like kinds. -/
  allowWordKinds : Bool
  deriving DecidableEq

namespace Policy

/-- Kinds are checked and word-like values accepted. -/
def standard : Policy := ⟨true, true⟩

/-- The policy of frames that are made without one: word-like values are accepted, and kinds are
checked unless the build trusts the code that uses it. -/
def ofBuild (trusted : Bool) : Policy := ⟨!trusted, true⟩

/-- Kinds are checked and word-like values refused. -/
def strict : Policy := ⟨true, false⟩

/-- The diagnostic text of a policy. -/
def debug (policy : Policy) : String :=
  Diagnostic.record "Settings"
    [("check_kinds", Diagnostic.flag policy.checkKinds),
      ("allow_word_kinds", Diagnostic.flag policy.allowWordKinds)]

end Policy
end SymbolicFrame
