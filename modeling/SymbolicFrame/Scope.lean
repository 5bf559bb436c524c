/-!
# Scopes

A scope is a method whose bytecode is being decoded: the method compiled, or one inlined into
another scope. It carries the chain of callers it is inlined into, and its level is the length of
that chain. A scope is identified by the graph it was added to, if any, and by its position there.
-/

namespace SymbolicFrame

/-- Where a scope was made, which identifies it. -/
structure ScopeKey where
  /-- Number of the graph the scope was added to, if it was added to one. -/
  graph : Option Nat
  /-- Position among the scopes of that graph, or among those of no graph. -/
  index : Nat
  deriving DecidableEq

/-- A method being decoded, with the chain of callers it is inlined into. -/
inductive Scope where
  /-- The method being compiled. -/
  | root (key : ScopeKey) (name : String)
  /-- A method inlined into a caller. -/
  | inlined (key : ScopeKey) (name : String) (caller : Scope)
  deriving DecidableEq

namespace Scope

/-- A scope under a caller, or a root scope without one. -/
def make (key : ScopeKey) (name : String) : Option Scope → Scope
  | none => root key name
  | some caller => inlined key name caller

/-- Where the scope was made. -/
def key : Scope → ScopeKey
  | root key _ => key
  | inlined key _ _ => key

/-- The name of the method. -/
def name : Scope → String
  | root _ name => name
  | inlined _ name _ => name

/-- The scope into which this one is inlined. -/
def caller? : Scope → Option Scope
  | root _ _ => none
  | inlined _ _ caller => some caller

/-- How deep the scope is inlined. -/
def level : Scope → Nat
  | root _ _ => 0
  | inlined _ _ caller => caller.level + 1

/-- A scope is written as its name and its level. -/
def render (scope : Scope) : String := scope.name ++ "@" ++ scope.level.repr

/-- A scope under a caller lies one level below it, and one without a caller at level zero. -/
theorem level_make (key : ScopeKey) (name : String) (caller : Option Scope) :
    (make key name caller).level = match caller with
      | none => 0
      | some scope => scope.level + 1 := by
  cases caller <;> rfl

end Scope
end SymbolicFrame
