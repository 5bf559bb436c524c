import SymbolicFrame.Session.Population
import SymbolicFrame.Reservations

/-!
# Sessions

A session holds graphs with their values and scopes, the lock records reported for scopes, and
named frames. Values and scopes are listed in the order in which they were made, whatever their
graph, and a handle is a place in that list; a graph is a number, and what belongs to it is what
was made while it was current. A session also knows the build that it runs in, which never changes.
-/

namespace SymbolicFrame

/-- Graphs, values, scopes and frames that belong together. -/
structure Session where
  /-- How many graphs there are; they are numbered from zero. -/
  graphs : Nat
  /-- The graph that new values and scopes belong to. -/
  current : Nat
  /-- Every value, in the order in which they were made. -/
  values : Array Value
  /-- Every scope of a graph, in the order in which they were made. -/
  scopes : Array Scope
  /-- How many scopes were made that belong to no graph. -/
  detached : Nat
  /-- Lock records reported for scopes. -/
  reservations : Reservations
  /-- Frames under their names. -/
  population : Population
  /-- The build trusts the code that uses it. -/
  trusted : Bool

namespace Session

/-- A session with one graph and nothing in it. -/
def initial (trusted : Bool) : Session :=
  ⟨1, 0, #[], #[], 0, Reservations.empty, Population.empty, trusted⟩

/-- The policy of frames that are made without one. -/
def policy (session : Session) : Policy := Policy.ofBuild session.trusted

/-- The values of a graph, in the order of their positions. -/
def valuesOf (session : Session) (graph : Nat) : List Value :=
  session.values.toList.filter fun value => value.graph = graph

/-- The scopes of a graph, in the order of their positions. -/
def scopesOf (session : Session) (graph : Nat) : List Scope :=
  session.scopes.toList.filter fun scope => scope.key.graph = some graph

/-- The most lock records that any scope of a graph needs. -/
def maxLocks (session : Session) (graph : Nat) : UInt64 :=
  ((session.scopesOf graph).map session.reservations.least).foldr max 0

/-- The handle of a value. -/
def handleOf? (session : Session) (value : Value) : Option Nat := session.values.idxOf? value

/-- The handle of a scope. -/
def scopeHandleOf? (session : Session) (scope : Scope) : Option Nat :=
  session.scopes.idxOf? scope

/-- What a name holds. -/
def holding? (session : Session) (name : String) : Option Holding := session.population.get? name

/-- The frame under a name, frozen or not. -/
def frame? (session : Session) (name : String) : Option Frame :=
  (session.holding? name).map Holding.frame

/-- The frame under a name, if it may be edited. -/
def builder? (session : Session) (name : String) : Option Frame :=
  (session.holding? name).bind Holding.builder?

/-- The frame under a name, if it is frozen. -/
def frozen? (session : Session) (name : String) : Option Frame :=
  (session.holding? name).bind Holding.frozen?

/-- Put a frame under a name. -/
def hold (session : Session) (name : String) (holding : Holding) : Session :=
  { session with population := session.population.insert name holding }

/-- Leave a name without a frame. -/
def drop (session : Session) (name : String) : Session :=
  { session with population := session.population.erase name }

end Session
end SymbolicFrame
