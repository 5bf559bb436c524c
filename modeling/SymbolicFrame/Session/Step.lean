import SymbolicFrame.Session.Basic
import SymbolicFrame.Edit.Perform

/-!
# Steps of a session

A step adds to the graphs of a session, makes a frame under a name, or edits one. It answers with
a reply and log records, and a step that is refused or unusable leaves every frame as it was. A
step is unusable when it names a graph or a frame that the session does not have, or edits a
frozen frame. A frame may be of any sizes whose slots can be counted; how much memory there is to
hold them is left out.
-/

namespace SymbolicFrame

/-- One step of a session. -/
inductive Step where
  /-- Add a graph and make it current. -/
  | addGraph
  /-- Make a graph current. -/
  | useGraph (graph : Nat)
  /-- Add a value to the current graph. -/
  | addValue (kind : Kind) (label : String)
  /-- Add a scope to the current graph, inlined into a caller if there is one. -/
  | addScope (name : String) (caller : Option Scope)
  /-- Make a scope that belongs to no graph, and report totals for it. -/
  | detachedScope (name : String) (caller : Option Scope) (totals : List UInt64)
  /-- Report a total for a scope. -/
  | report (scope : Scope) (total : UInt64)
  /-- Make a frame with every slot empty. -/
  | create (name : String) (scope : Scope) (maxLocals maxStack : UInt64) (policy : Policy)
  /-- Make the frame at the entry of a method, with its parameters in its first locals. -/
  | enter (name : String) (scope : Scope) (maxLocals maxStack : UInt64)
    (parameters : List Value)
  /-- Copy a frame that may be edited into a frozen one. -/
  | snapshot (source target : String)
  /-- Turn a frame that may be edited into a frozen one. -/
  | freeze (source target : String)
  /-- Copy a frozen frame. -/
  | duplicate (source target : String)
  /-- Copy a frame, frozen or not, into one that may be edited. -/
  | thaw (source target : String)
  /-- Copy some parts of a frame, frozen or not, into one that may be edited. -/
  | copyParts (source target : String) (parts : Parts)
  /-- Edit a frame. -/
  | edit (name : String) (edit : Edit String)

/-- What a step answers. -/
inductive Reply where
  /-- The step was done, with what an edit answers. -/
  | answer (answer : Answer)
  /-- The step was done, and made the thing of a number. -/
  | number (number : Nat)
  /-- The lock records that a scope needs from now on. -/
  | least (total : UInt64)
  /-- A scope that belongs to no graph, with what it needed at first and after each report. -/
  | detached (scope : Scope) (seen : List UInt64)
  /-- The step was refused. -/
  | refusal (cause : FrameError)
  /-- The step makes no sense in the session. -/
  | unusable
  /-- The step used something outside its bounds, or more slots than can be counted. -/
  | breach
  deriving DecidableEq

/-- The reply to an edit that came to its end. -/
def Outcome.reply : Outcome → Reply
  | .answer given => .answer given
  | .refusal cause => .refusal cause
  | .breach => .breach

/-- A step that came to its end. -/
structure Turn where
  /-- What the step answers. -/
  reply : Reply
  /-- The log records of the step, oldest first. -/
  log : List Event
  /-- The session after the step. -/
  session : Session

namespace Session

/-- Report totals for a scope one after the other, with what it needs after each. -/
def reportAll (scope : Scope) :
    List UInt64 → Reservations → List UInt64 × List Event × Reservations
  | [], reservations => ([], [], reservations)
  | total :: rest, reservations =>
    let raised := reservations.raise scope total
    let (seen, events, final) := reportAll scope rest raised
    (raised.least scope :: seen, reservations.eventsOf scope total ++ events, final)

/-- A frame at the entry of a method: fresh, made without a policy, with the parameters stored. -/
def entry (session : Session) (scope : Scope) (maxLocals maxStack : Nat)
    (parameters : List Value) : Performed :=
  (Edit.storeParameters parameters).perform
    (Frame.fresh scope maxLocals maxStack session.policy) session.reservations

/-- A step that is done, put something under a name and wrote nothing to the log. -/
def made (session : Session) (name : String) (holding : Holding) : Turn :=
  ⟨.answer .done, [], session.hold name holding⟩

/-- A step that makes no sense in the session. -/
def unusable (session : Session) : Turn := ⟨.unusable, [], session⟩

/-- A step that asks for more slots than can be counted. -/
def uncountable (session : Session) : Turn := ⟨.breach, [], session⟩

/-- Take a step. -/
def step (session : Session) : Step → Turn
  | .addGraph =>
    ⟨.number session.graphs, [],
      { session with graphs := session.graphs + 1, current := session.graphs }⟩
  | .useGraph graph =>
    if graph < session.graphs then ⟨.answer .done, [], { session with current := graph }⟩
    else session.unusable
  | .addValue kind label =>
    let index := (session.valuesOf session.current).length
    ⟨.number session.values.size, [],
      { session with values := session.values.push ⟨session.current, index, kind, label⟩ }⟩
  | .addScope name caller =>
    let key : ScopeKey := ⟨some session.current, (session.scopesOf session.current).length⟩
    ⟨.number session.scopes.size, [],
      { session with scopes := session.scopes.push (Scope.make key name caller) }⟩
  | .detachedScope name caller totals =>
    let scope := Scope.make ⟨none, session.detached⟩ name caller
    let (seen, events, reservations) := reportAll scope totals session.reservations
    ⟨.detached scope (session.reservations.least scope :: seen), events,
      { session with detached := session.detached + 1, reservations := reservations }⟩
  | .report scope total =>
    let raised := session.reservations.raise scope total
    ⟨.least (raised.least scope), session.reservations.eventsOf scope total,
      { session with reservations := raised }⟩
  | .create name scope maxLocals maxStack policy =>
    if Frame.Countable maxLocals.toNat maxStack.toNat then
      session.made name (.builder (Frame.fresh scope maxLocals.toNat maxStack.toNat policy))
    else session.uncountable
  | .enter name scope maxLocals maxStack parameters =>
    if Frame.Countable maxLocals.toNat maxStack.toNat then
      let entered := session.entry scope maxLocals.toNat maxStack.toNat parameters
      match entered.outcome with
      | .answer answer =>
        ⟨.answer answer, entered.log, session.hold name (.builder entered.frame)⟩
      | refused => ⟨refused.reply, entered.log, session⟩
    else session.uncountable
  | .snapshot source target =>
    match session.builder? source with
    | some frame => session.made target (.frozen frame)
    | none => session.unusable
  | .freeze source target =>
    match session.builder? source with
    | some frame =>
      ⟨.answer .done, [.freezing frame], (session.drop source).hold target (.frozen frame)⟩
    | none => session.unusable
  | .duplicate source target =>
    match session.frozen? source with
    | some frame => session.made target (.frozen frame)
    | none => session.unusable
  | .thaw source target =>
    match session.frame? source with
    | some frame => session.made target (.builder frame)
    | none => session.unusable
  | .copyParts source target parts =>
    match session.frame? source with
    | some frame => session.made target (.builder (frame.copyParts parts))
    | none => session.unusable
  | .edit name edit =>
    match session.builder? name, edit.resolve? session.frame? with
    | some frame, some edit =>
      let performed := edit.perform frame session.reservations
      ⟨performed.outcome.reply, performed.log,
        { session.hold name (.builder performed.frame) with
          reservations := performed.reservations }⟩
    | _, _ => session.unusable

/-- Take steps one after the other. -/
def run (session : Session) (steps : List Step) : Session :=
  steps.foldl (fun session step => (session.step step).session) session

end Session
end SymbolicFrame
