import SymbolicFrame.Session.Step
import SymbolicFrame.Proofs.Refinement

/-!
# Histories of a session

A session comes about by a run of steps from an initial one, in a build of either sort. Whatever it
holds under a name after a step was held before, is a fresh frame or one at the entry of a method, a
copy, or a frame that was edited. This is told once name by name (`Session.Whence`), for what
follows a frame from name to name, and once without names (`Session.Origin`), for what holds of
every frame. A property of contents that each of the origins keeps holds of every frame of a
session, and the rules that its steps follow can be used on the way. Every frame of a session fits,
which makes its edits what their verdicts and changes say.
-/

namespace SymbolicFrame

/-- The reply is an answer, which only a step that is done gives. -/
def Reply.isAnswer : Reply → Bool
  | .answer _ => true
  | .number _ | .least _ | .detached _ _ | .refusal _ | .unusable | .breach => false

namespace Stop

/-- The reply to an edit that stops is no answer. -/
theorem reply_isAnswer (stop : Stop) : stop.outcome.reply.isAnswer = false := by
  cases stop <;> rfl

/-- An answer is not the reply to an edit that stops. -/
theorem answer_ne_reply (answer : Answer) (stop : Stop) : .answer answer ≠ stop.outcome.reply := by
  cases stop <;> nofun

/-- A step that makes no sense in the session is not stopped. -/
theorem unusable_ne_reply (stop : Stop) : .unusable ≠ stop.outcome.reply := by
  cases stop <;> nofun

/-- Stops with the same reply are the same. -/
theorem reply_inj {first second : Stop} (same : first.outcome.reply = second.outcome.reply) :
    first = second := by
  cases first <;> cases second <;> cases same <;> rfl

end Stop

namespace Step

/-- The names under which a step, when it is done, leaves another frame than before, or none. -/
def replaces : Step → List String
  | create name _ _ _ _ | enter name _ _ _ _ => [name]
  | snapshot _ target | duplicate _ target | thaw _ target | copyParts _ target _ => [target]
  | freeze source target => [source, target]
  | addGraph | useGraph _ | addValue _ _ | addScope _ _ | detachedScope _ _ _ | report _ _
  | edit _ _ => []

/-- The name whose frame a step edits. -/
def edited? : Step → Option String
  | edit name _ => some name
  | addGraph | useGraph _ | addValue _ _ | addScope _ _ | detachedScope _ _ _ | report _ _
  | create _ _ _ _ _ | enter _ _ _ _ _ | snapshot _ _ | freeze _ _ | duplicate _ _ | thaw _ _
  | copyParts _ _ _ => none

/-- The name copied from and the name copied to, with the parts that the copy keeps. -/
def copies? : Step → Option (String × String × Parts)
  | snapshot source target | freeze source target | duplicate source target
  | thaw source target => some (source, target, Parts.all)
  | copyParts source target parts => some (source, target, parts)
  | addGraph | useGraph _ | addValue _ _ | addScope _ _ | detachedScope _ _ _ | report _ _
  | create _ _ _ _ _ | enter _ _ _ _ _ | edit _ _ => none

/-- A step that copies leaves another frame under the name copied to. -/
theorem mem_replaces_of_copies {step : Step} {source target : String} {parts : Parts}
    (copies : step.copies? = some (source, target, parts)) : target ∈ step.replaces := by
  cases step <;> cases copies <;> simp [replaces]

/-- A step that copies edits nothing. -/
theorem edited?_of_copies {step : Step} {copied : String × String × Parts}
    (copies : step.copies? = some copied) : step.edited? = none := by
  cases step with
  | edit => cases copies
  | addGraph | useGraph | addValue | addScope | detachedScope | report | create | enter
  | snapshot | freeze | duplicate | thaw | copyParts => rfl

end Step

namespace Session

/-- Each step of a run follows a rule, which may look at the session that the step is taken in. -/
def Follows (rule : Session → Step → Prop) : Session → List Step → Prop
  | _, [] => True
  | session, step :: rest => rule session step ∧ Follows rule (session.step step).session rest

instance Follows.decidable (rule : Session → Step → Prop)
    [decides : ∀ session step, Decidable (rule session step)] :
    (session : Session) → (steps : List Step) → Decidable (session.Follows rule steps)
  | _, [] => .isTrue trivial
  | session, step :: rest =>
    have := decides session step
    have := Follows.decidable rule (session.step step).session rest
    inferInstanceAs (Decidable (rule session step ∧ Follows rule (session.step step).session rest))

/-- Every frame that a session holds, frozen or not, has a property. -/
def Every (good : Frame → Prop) (session : Session) : Prop :=
  ∀ name frame, session.frame? name = some frame → good frame

variable {session : Session} {name : String} {frame : Frame}

/-! ## Looking names up -/

/-- A frame that may be edited is held. -/
theorem frame?_of_builder? (found : session.builder? name = some frame) :
    session.frame? name = some frame := by
  obtain ⟨holding, held, isBuilder⟩ := Option.bind_eq_some_iff.1 found
  rw [frame?, held, Option.map_some]
  cases holding with
  | builder frame => exact isBuilder
  | frozen frame => cases isBuilder

/-- A frozen frame is held. -/
theorem frame?_of_frozen? (found : session.frozen? name = some frame) :
    session.frame? name = some frame := by
  obtain ⟨holding, held, isFrozen⟩ := Option.bind_eq_some_iff.1 found
  rw [frame?, held, Option.map_some]
  cases holding with
  | builder frame => cases isFrozen
  | frozen frame => exact isFrozen

/-- A name holds what was put under it last, and every other name what it held. -/
theorem holding?_hold (session : Session) (name other : String) (holding : Holding) :
    (session.hold name holding).holding? other =
      if other = name then some holding else session.holding? other :=
  Population.get?_insert session.population name other holding

/-- A name left without a frame holds nothing, and every other name what it held. -/
theorem holding?_drop (session : Session) (name other : String) :
    (session.drop name).holding? other = if other = name then none else session.holding? other :=
  Population.get?_erase session.population name other

/-- The frame under a name once another was put under one. -/
theorem frame?_hold (session : Session) (name other : String) (holding : Holding) :
    (session.hold name holding).frame? other =
      if other = name then some holding.frame else session.frame? other := by
  rw [frame?, holding?_hold]
  split
  · rfl
  · rfl

/-- The frame under a name once one was left without. -/
theorem frame?_drop (session : Session) (name other : String) :
    (session.drop name).frame? other = if other = name then none else session.frame? other := by
  rw [frame?, holding?_drop]
  split
  · rfl
  · rfl

end Session

namespace Edit

variable {Name Source : Type} {find : Name → Option Source} {edit : Edit Name}

/-- The source of an edit that was found is one that its name stands for. -/
theorem found_of_resolve? {resolved : Edit Source} (resolves : edit.resolve? find = some resolved)
    {source : Source} (isSource : resolved.source? = some source) :
    ∃ name, edit.source? = some name ∧ find name = some source := by
  cases edit with
  | replaceLocals name | replaceStack name | replaceMonitors name =>
    obtain ⟨found, held, same⟩ := Option.map_eq_some_iff.1 resolves
    cases same
    cases isSource
    exact ⟨name, rfl, held⟩
  | push | pop | pushRaw | popRaw | popArguments | truncateStack | clearStack | loadLocal
  | storeLocal | invalidateLocal | clearLocals | storeParameters | lock | unlock =>
    cases resolves
    cases isSource

end Edit

namespace Session

variable {session : Session} {step : Step} {name : String} {frame : Frame}

/-! ## Where frames come from -/

/-- The ways in which contents come to be shown by the frame under a name after a step. -/
inductive Whence (session : Session) : Step → String → Contents → Prop where
  /-- The frame stood under the name before, and the step left it alone. -/
  | stayed {step : Step} {name : String} {frame : Frame}
      (alone : (session.step step).reply.isAnswer = true →
        name ∉ step.replaces ∧ step.edited? ≠ some name)
      (found : session.frame? name = some frame) : Whence session step name frame.contents
  /-- The frame is fresh. -/
  | created {name : String} {scope : Scope} {maxLocals maxStack : UInt64} {policy : Policy}
      (done : (session.step (.create name scope maxLocals maxStack policy)).reply.isAnswer = true) :
      Whence session (.create name scope maxLocals maxStack policy) name
        (Contents.blank scope maxLocals.toNat maxStack.toNat policy)
  /-- The frame is one at the entry of a method. -/
  | entered {name : String} {scope : Scope} {maxLocals maxStack : UInt64}
      {parameters : List Value} {answer : Answer}
      (done : (session.step (.enter name scope maxLocals maxStack parameters)).reply.isAnswer =
        true)
      (accepted : (Contents.blank scope maxLocals.toNat maxStack.toNat session.policy).verdict
        (.storeParameters parameters) = .ok answer) :
      Whence session (.enter name scope maxLocals maxStack parameters) name
        ((Contents.blank scope maxLocals.toNat maxStack.toNat session.policy).change
          (.storeParameters parameters))
  /-- The frame copies parts of one that was held before, or all of it. -/
  | copied {step : Step} {source target : String} {parts : Parts} {frame : Frame}
      (copies : step.copies? = some (source, target, parts))
      (done : (session.step step).reply.isAnswer = true)
      (found : session.frame? source = some frame) :
      Whence session step target (frame.contents.kept parts)
  /-- The frame was edited. -/
  | edited {name : String} {edit : Edit String} {frame : Frame} {resolved : Edit Frame}
      {answer : Answer} (found : session.builder? name = some frame)
      (resolves : edit.resolve? session.frame? = some resolved)
      (accepted : frame.contents.verdict (resolved.map Frame.contents) = .ok answer)
      (reply : (session.step (.edit name edit)).reply = .answer answer) :
      Whence session (.edit name edit) name (frame.contents.change (resolved.map Frame.contents))

/-- The sources of an edit fit if every frame of the session does. -/
theorem sources_fit (fits : session.Every Frame.Fits) {edit : Edit String} {resolved : Edit Frame}
    (resolves : edit.resolve? session.frame? = some resolved) (source : Frame)
    (isSource : resolved.source? = some source) : source.Fits := by
  obtain ⟨name, -, found⟩ := Edit.found_of_resolve? resolves isSource
  exact fits name source found

/-- The contents of the sources of an edit have a property if those of every frame do. -/
theorem every_source {good : Contents → Prop}
    (every : session.Every fun frame => good frame.contents) {edit : Edit String}
    {resolved : Edit Frame} (resolves : edit.resolve? session.frame? = some resolved)
    (source : Contents) (isSource : (resolved.map Frame.contents).source? = some source) :
    good source := by
  rw [Edit.source?_map] at isSource
  obtain ⟨held, isHeld, rfl⟩ := Option.map_eq_some_iff.1 isSource
  obtain ⟨name, -, found⟩ := Edit.found_of_resolve? resolves isHeld
  exact every name held found

/-- A frame at the entry of a method fits. -/
theorem fits_entry (session : Session) (scope : Scope) {maxLocals maxStack : Nat}
    (countable : Frame.Countable maxLocals maxStack) (parameters : List Value) :
    (session.entry scope maxLocals maxStack parameters).frame.Fits :=
  (Edit.frame_of_perform (Frame.fits_fresh scope session.policy countable)
    (Edit.sources_of_none rfl) session.reservations).1

/-- After a step, the frame under one name shows the kept parts of the frame that was under another,
and the other names hold what they held, save those that the step replaces. -/
def Copies (session : Session) (step : Step) (source target : String) (parts : Parts) : Prop :=
  ∃ frame copy : Frame, session.frame? source = some frame ∧ copy.Fits ∧
    copy.contents = frame.contents.kept parts ∧ (session.step step).reply = .answer .done ∧
    ∀ other, (session.step step).session.frame? other =
      if other = target then some copy
      else if other ∈ step.replaces then none else session.frame? other

/-- A turn that puts a copy under its target copies. -/
private theorem copies_of_turn {middle : Session} {source target : String} {parts : Parts}
    {holding : Holding} {log : List Event} (found : session.frame? source = some frame)
    (turn : session.step step = ⟨.answer .done, log, middle.hold target holding⟩)
    (copy : holding.frame.Fits ∧ holding.frame.contents = frame.contents.kept parts)
    (others : ∀ other, other ≠ target → middle.frame? other =
      if other ∈ step.replaces then none else session.frame? other) :
    session.Copies step source target parts := by
  refine ⟨frame, holding.frame, found, copy.1, copy.2, by rw [turn], fun other => ?_⟩
  rw [turn]
  change (middle.hold target holding).frame? other = _
  rw [frame?_hold]
  by_cases isTarget : other = target
  · rw [if_pos isTarget, if_pos isTarget]
  · rw [if_neg isTarget, if_neg isTarget, others other isTarget]

/-- A step that copies makes no sense in a session, or copies. -/
theorem copies_of_step (fits : session.Every Frame.Fits) {source target : String} {parts : Parts}
    (copies : step.copies? = some (source, target, parts)) :
    session.step step = session.unusable ∨ session.Copies step source target parts := by
  have alone (other : String) (isOther : other ≠ target) : session.frame? other =
      if other ∈ [target] then none else session.frame? other := by
    rw [if_neg (by simpa using isOther)]
  have whole {frame : Frame} (found : session.frame? source = some frame) :
      frame.Fits ∧ frame.contents = frame.contents.kept Parts.all :=
    ⟨fits source frame found, rfl⟩
  cases step with
  | snapshot =>
    cases copies
    cases isBuilder : session.builder? source with
    | none => exact .inl (by simp only [Session.step, isBuilder])
    | some frame =>
      have found := frame?_of_builder? isBuilder
      have turn : session.step (.snapshot source target) = session.made target (.frozen frame) := by
        simp only [Session.step, isBuilder]
      exact .inr (copies_of_turn found turn (whole found) alone)
  | freeze =>
    cases copies
    cases isBuilder : session.builder? source with
    | none => exact .inl (by simp only [Session.step, isBuilder])
    | some frame =>
      have found := frame?_of_builder? isBuilder
      have turn : session.step (.freeze source target) = ⟨.answer .done, [.freezing frame],
          (session.drop source).hold target (.frozen frame)⟩ := by
        simp only [Session.step, isBuilder]
      refine .inr (copies_of_turn found turn (whole found) fun other isOther => ?_)
      rw [frame?_drop]
      simp [Step.replaces, isOther]
  | duplicate =>
    cases copies
    cases isFrozen : session.frozen? source with
    | none => exact .inl (by simp only [Session.step, isFrozen])
    | some frame =>
      have found := frame?_of_frozen? isFrozen
      have turn : session.step (.duplicate source target) =
          session.made target (.frozen frame) := by
        simp only [Session.step, isFrozen]
      exact .inr (copies_of_turn found turn (whole found) alone)
  | thaw =>
    cases copies
    cases found : session.frame? source with
    | none => exact .inl (by simp only [Session.step, found])
    | some frame =>
      have turn : session.step (.thaw source target) = session.made target (.builder frame) := by
        simp only [Session.step, found]
      exact .inr (copies_of_turn found turn (whole found) alone)
  | copyParts =>
    cases copies
    cases found : session.frame? source with
    | none => exact .inl (by simp only [Session.step, found])
    | some frame =>
      have turn : session.step (.copyParts source target parts) =
          session.made target (.builder (frame.copyParts parts)) := by
        simp only [Session.step, found]
      exact .inr (copies_of_turn found turn ((fits source frame found).copyParts parts) alone)
  | addGraph | useGraph | addValue | addScope | detachedScope | report | create | enter | edit =>
    cases copies

section Making

variable {scope : Scope} {maxLocals maxStack : UInt64} {policy : Policy} {parameters : List Value}

/-- A step that makes a frame whose slots can be counted puts a fresh frame under its name. -/
theorem step_create (session : Session) (name : String)
    (countable : Frame.Countable maxLocals.toNat maxStack.toNat) :
    session.step (.create name scope maxLocals maxStack policy) =
      session.made name (.builder (Frame.fresh scope maxLocals.toNat maxStack.toNat policy)) :=
  if_pos countable

/-- A step that makes a frame whose slots cannot be counted makes none. -/
theorem step_create_of_uncountable (session : Session) (name : String)
    (many : ¬ Frame.Countable maxLocals.toNat maxStack.toNat) :
    session.step (.create name scope maxLocals maxStack policy) = session.uncountable :=
  if_neg many

/-- A step that enters a method puts the frame under its name if the parameters are stored. -/
theorem step_enter_of_answer {answer : Answer} (name : String)
    (countable : Frame.Countable maxLocals.toNat maxStack.toNat)
    (stored : (session.entry scope maxLocals.toNat maxStack.toNat parameters).outcome =
      .answer answer) :
    session.step (.enter name scope maxLocals maxStack parameters) =
      ⟨.answer answer, (session.entry scope maxLocals.toNat maxStack.toNat parameters).log,
        session.hold name
          (.builder (session.entry scope maxLocals.toNat maxStack.toNat parameters).frame)⟩ := by
  simp only [Session.step, if_pos countable, stored]

/-- A step that enters a method leaves the session alone if the parameters are not stored. -/
theorem step_enter_of_stop {stop : Stop} (name : String)
    (countable : Frame.Countable maxLocals.toNat maxStack.toNat)
    (stopped : (session.entry scope maxLocals.toNat maxStack.toNat parameters).outcome =
      stop.outcome) :
    session.step (.enter name scope maxLocals maxStack parameters) =
      ⟨stop.outcome.reply, (session.entry scope maxLocals.toNat maxStack.toNat parameters).log,
        session⟩ := by
  cases stop <;> simp only [Session.step, if_pos countable, stopped, Stop.outcome]

/-- A step that enters a method whose slots cannot be counted makes no frame. -/
theorem step_enter_of_uncountable (session : Session) (name : String)
    (many : ¬ Frame.Countable maxLocals.toNat maxStack.toNat) :
    session.step (.enter name scope maxLocals maxStack parameters) = session.uncountable :=
  if_neg many

end Making

/-- The ways in which a step that enters a method turns out. -/
inductive EnterTurn (session : Session) (name : String) (scope : Scope) (maxLocals maxStack : Nat)
    (parameters : List Value) (turn : Turn) : Prop where
  /-- The slots of the frame cannot be counted. -/
  | uncountable (many : ¬ Frame.Countable maxLocals maxStack) (same : turn = session.uncountable)
  /-- The parameters are not stored, and the session stays as it was. -/
  | stopped {stop : Stop}
      (stops : (Contents.blank scope maxLocals maxStack session.policy).verdict
        (.storeParameters parameters) = .error stop)
      (reply : turn.reply = stop.outcome.reply) (same : turn.session = session)
  /-- The parameters are stored, and only the frame under the name is another one. -/
  | done {after : Frame} {answer : Answer}
      (accepted : (Contents.blank scope maxLocals maxStack session.policy).verdict
        (.storeParameters parameters) = .ok answer)
      (reply : turn.reply = .answer answer) (afterFits : after.Fits)
      (shows : after.contents = (Contents.blank scope maxLocals maxStack session.policy).change
        (.storeParameters parameters))
      (others : ∀ other, turn.session.frame? other =
        if other = name then some after else session.frame? other)

/-- A step that enters a method turns out in one of the ways. -/
theorem turn_of_enter (session : Session) (name : String) (scope : Scope)
    (maxLocals maxStack : UInt64) (parameters : List Value) :
    session.EnterTurn name scope maxLocals.toNat maxStack.toNat parameters
      (session.step (.enter name scope maxLocals maxStack parameters)) := by
  by_cases many : ¬ Frame.Countable maxLocals.toNat maxStack.toNat
  · exact .uncountable many (session.step_enter_of_uncountable name many)
  have countable := Decidable.not_not.1 many
  let fresh := Frame.fresh scope maxLocals.toNat maxStack.toNat session.policy
  have freshFits : fresh.Fits := Frame.fits_fresh scope session.policy countable
  have freshShows : fresh.contents = Contents.blank scope _ _ session.policy :=
    Frame.contents_fresh scope _ _ session.policy
  let edit : Edit Frame := .storeParameters parameters
  cases accepted : fresh.contents.verdict (edit.map Frame.contents) with
  | error stop =>
    have ended : session.entry scope maxLocals.toNat maxStack.toNat parameters =
        ⟨stop.outcome, fresh, session.reservations, stop.records⟩ :=
      Edit.perform_of_error freshFits (Edit.sources_of_none rfl) session.reservations accepted
    have stopped : session.step (.enter name scope maxLocals maxStack parameters) =
        ⟨stop.outcome.reply, _, session⟩ :=
      step_enter_of_stop name countable (congrArg Performed.outcome ended)
    rw [freshShows] at accepted
    rw [stopped]
    exact .stopped accepted rfl rfl
  | ok answer =>
    obtain ⟨after, ended, afterFits, shows⟩ :=
      Edit.perform_of_ok freshFits (Edit.sources_of_none rfl) session.reservations accepted
    replace ended : session.entry scope maxLocals.toNat maxStack.toNat parameters = _ := ended
    have entered : session.step (.enter name scope maxLocals maxStack parameters) =
        ⟨.answer answer, _, session.hold name (.builder _)⟩ :=
      step_enter_of_answer name countable (congrArg Performed.outcome ended)
    rw [ended] at entered
    rw [freshShows] at accepted shows
    rw [entered]
    exact .done accepted rfl afterFits shows (frame?_hold session name · (.builder after))

/-- The ways in which a step that edits a frame turns out. -/
inductive EditTurn (session : Session) (name : String) (edit : Edit String) (turn : Turn) :
    Prop where
  /-- The name holds no frame that may be edited, or the source of the edit is not there. -/
  | unusable (same : turn = session.unusable)
  /-- The edit stops, and every name holds the frame that it held. -/
  | stopped {frame : Frame} {resolved : Edit Frame} {stop : Stop}
      (found : session.builder? name = some frame)
      (resolves : edit.resolve? session.frame? = some resolved)
      (stops : frame.contents.verdict (resolved.map Frame.contents) = .error stop)
      (reply : turn.reply = stop.outcome.reply)
      (same : ∀ other, turn.session.frame? other = session.frame? other)
  /-- The edit is done, and only the frame under the name is another one. -/
  | done {frame after : Frame} {resolved : Edit Frame} {answer : Answer}
      (found : session.builder? name = some frame)
      (resolves : edit.resolve? session.frame? = some resolved)
      (accepted : frame.contents.verdict (resolved.map Frame.contents) = .ok answer)
      (reply : turn.reply = .answer answer) (afterFits : after.Fits)
      (shows : after.contents = frame.contents.change (resolved.map Frame.contents))
      (others : ∀ other, turn.session.frame? other =
        if other = name then some after else session.frame? other)

/-- A step that edits a frame makes no sense in the session, or takes the turn of the edit
performed. -/
theorem step_edit (session : Session) (name : String) (edit : Edit String) :
    session.step (.edit name edit) = session.unusable ∨
      ∃ frame resolved, session.builder? name = some frame ∧
        edit.resolve? session.frame? = some resolved ∧
        session.step (.edit name edit) =
          let performed := resolved.perform frame session.reservations
          ⟨performed.outcome.reply, performed.log,
            { session.hold name (.builder performed.frame) with
              reservations := performed.reservations }⟩ := by
  cases found : session.builder? name with
  | none =>
    left
    simp only [Session.step, found]
  | some frame =>
    cases resolves : edit.resolve? session.frame? with
    | none =>
      left
      simp only [Session.step, found, resolves]
    | some resolved =>
      right
      exact ⟨frame, resolved, rfl, rfl, by simp only [Session.step, found, resolves]⟩

/-- A step that edits a frame turns out in one of the ways. -/
theorem turn_of_edit (fits : session.Every Frame.Fits) (name : String) (edit : Edit String) :
    session.EditTurn name edit (session.step (.edit name edit)) := by
  rcases session.step_edit name edit with turn | ⟨frame, resolved, found, resolves, turn⟩
  · exact .unusable turn
  have held := frame?_of_builder? found
  have frameFits := fits name frame held
  have sourceFits := sources_fit fits resolves
  rw [turn]
  cases accepted : frame.contents.verdict (resolved.map Frame.contents) with
  | error stop =>
    have ended := Edit.perform_of_error frameFits sourceFits session.reservations accepted
    dsimp only
    rw [ended]
    refine .stopped found resolves accepted rfl fun other => ?_
    refine (frame?_hold session name other (.builder frame)).trans ?_
    split
    · rename_i isName
      rw [isName, held]
      rfl
    · rfl
  | ok answer =>
    obtain ⟨after, ended, afterFits, shows⟩ :=
      Edit.perform_of_ok frameFits sourceFits session.reservations accepted
    dsimp only
    rw [ended]
    exact .done found resolves accepted rfl afterFits shows
      (frame?_hold session name · (.builder after))

/-- A step without an answer leaves every frame as it was. -/
theorem frame?_of_unanswered (fits : session.Every Frame.Fits)
    (unanswered : (session.step step).reply.isAnswer = false) (other : String) :
    (session.step step).session.frame? other = session.frame? other := by
  have copied {source target : String} {parts : Parts}
      (copies : step.copies? = some (source, target, parts)) :
      (session.step step).session.frame? other = session.frame? other := by
    rcases copies_of_step fits copies with turn | ⟨_, _, _, _, _, reply, _⟩
    · rw [turn]
      rfl
    · rw [reply] at unanswered
      cases unanswered
  cases step with
  | addGraph | addValue | addScope | detachedScope | report => rfl
  | useGraph graph =>
    dsimp only [Session.step]
    split
    · rfl
    · rfl
  | snapshot | freeze | duplicate | thaw | copyParts => exact copied rfl
  | create name scope maxLocals maxStack policy =>
    by_cases countable : Frame.Countable maxLocals.toNat maxStack.toNat
    · rw [session.step_create name countable] at unanswered
      cases unanswered
    · rw [session.step_create_of_uncountable name countable]
      rfl
  | enter name scope maxLocals maxStack parameters =>
    cases turn_of_enter session name scope maxLocals maxStack parameters with
    | uncountable _ same =>
      rw [same]
      rfl
    | stopped _ _ same => rw [same]
    | done _ reply =>
      rw [reply] at unanswered
      cases unanswered
  | edit name edit =>
    cases turn_of_edit fits name edit with
    | unusable same =>
      rw [same]
      rfl
    | stopped _ _ _ _ same => exact same other
    | done _ _ _ reply =>
      rw [reply] at unanswered
      cases unanswered

/-- Whatever is held under a name after a step fits and came about in one of the ways. -/
theorem whence_of_step (fits : session.Every Frame.Fits)
    (found : (session.step step).session.frame? name = some frame) :
    frame.Fits ∧ session.Whence step name frame.contents := by
  -- What stood under the name before, and was left alone.
  have stayed (alone : (session.step step).reply.isAnswer = true →
        name ∉ step.replaces ∧ step.edited? ≠ some name)
      (found : session.frame? name = some frame) :
      frame.Fits ∧ session.Whence step name frame.contents :=
    ⟨fits name frame found, .stayed alone found⟩
  have unanswered (noAnswer : (session.step step).reply.isAnswer = false) :
      frame.Fits ∧ session.Whence step name frame.contents := by
    rw [frame?_of_unanswered fits noAnswer] at found
    exact stayed (fun done => by rw [noAnswer] at done; cases done) found
  -- What the step put under a name, with the other names left alone.
  have put {target : String} {after : Frame} (afterFits : after.Fits)
      (whence : session.Whence step target after.contents)
      (others : ∀ other, (session.step step).session.frame? other =
        if other = target then some after else session.frame? other)
      (alone : name ≠ target → name ∉ step.replaces ∧ step.edited? ≠ some name) :
      frame.Fits ∧ session.Whence step name frame.contents := by
    rw [others] at found
    split at found
    · rename_i isTarget
      cases found
      rw [isTarget]
      exact ⟨afterFits, whence⟩
    · rename_i isOther
      exact stayed (fun _ => alone isOther) found
  have copied {source target : String} {parts : Parts}
      (copies : step.copies? = some (source, target, parts)) :
      frame.Fits ∧ session.Whence step name frame.contents := by
    rcases copies_of_step fits copies with
      turn | ⟨held, copy, isSource, copyFits, shows, reply, after⟩
    · exact unanswered (by rw [turn]; rfl)
    · rw [after] at found
      by_cases isTarget : name = target
      · rw [if_pos isTarget] at found
        cases found
        rw [shows, isTarget]
        exact ⟨copyFits, .copied copies (by rw [reply]; rfl) isSource⟩
      · rw [if_neg isTarget] at found
        by_cases isReplaced : name ∈ step.replaces
        · rw [if_pos isReplaced] at found
          cases found
        · rw [if_neg isReplaced] at found
          have notEdit : step.edited? ≠ some name := by
            rw [Step.edited?_of_copies copies]
            nofun
          exact stayed (fun _ => ⟨isReplaced, notEdit⟩) found
  cases step with
  | addGraph | addValue | addScope | detachedScope | report => exact unanswered rfl
  | useGraph graph =>
    refine stayed (fun _ => ⟨List.not_mem_nil, nofun⟩) ?_
    dsimp only [Session.step] at found
    split at found <;> exact found
  | snapshot | freeze | duplicate | thaw | copyParts => exact copied rfl
  | create target scope maxLocals maxStack policy =>
    by_cases countable : Frame.Countable maxLocals.toNat maxStack.toNat
    · let fresh := Frame.fresh scope maxLocals.toNat maxStack.toNat policy
      have turn : session.step (.create target scope maxLocals maxStack policy) =
          session.made target (.builder fresh) := session.step_create target countable
      have whence : session.Whence (.create target scope maxLocals maxStack policy) target
          fresh.contents := by
        rw [Frame.contents_fresh]
        exact .created (by rw [turn]; rfl)
      rw [turn] at put
      exact put (Frame.fits_fresh scope policy countable) whence (frame?_hold session target · _)
        fun isOther => ⟨by simpa [Step.replaces] using isOther, nofun⟩
    · exact unanswered (by rw [session.step_create_of_uncountable target countable]; rfl)
  | enter target scope maxLocals maxStack parameters =>
    cases turn_of_enter session target scope maxLocals maxStack parameters with
    | uncountable _ same => exact unanswered (by rw [same]; rfl)
    | stopped _ reply => exact unanswered (by rw [reply, Stop.reply_isAnswer])
    | done accepted reply afterFits shows others =>
      have whence : session.Whence (.enter target scope maxLocals maxStack parameters) target _ :=
        .entered (by rw [reply]; rfl) accepted
      rw [← shows] at whence
      exact put afterFits whence others
        fun isOther => ⟨by simpa [Step.replaces] using isOther, nofun⟩
  | edit target edit =>
    cases turn_of_edit fits target edit with
    | unusable same => exact unanswered (by rw [same]; rfl)
    | stopped _ _ _ reply => exact unanswered (by rw [reply, Stop.reply_isAnswer])
    | done isBuilder resolves accepted reply afterFits shows others =>
      have whence : session.Whence (.edit target edit) target _ :=
        .edited isBuilder resolves accepted reply
      rw [← shows] at whence
      exact put afterFits whence others
        fun isOther => ⟨List.not_mem_nil, fun same => isOther (Option.some.inj same).symm⟩

/-- The ways in which contents come to be shown by a frame that is held after a step. -/
inductive Origin (session : Session) : Step → Contents → Prop where
  /-- The frame was held before. -/
  | stayed {step : Step} {name : String} {frame : Frame}
      (found : session.frame? name = some frame) : Origin session step frame.contents
  /-- The frame is fresh. -/
  | created {name : String} {scope : Scope} {maxLocals maxStack : UInt64} {policy : Policy} :
      Origin session (.create name scope maxLocals maxStack policy)
        (Contents.blank scope maxLocals.toNat maxStack.toNat policy)
  /-- The frame is one at the entry of a method. -/
  | entered {name : String} {scope : Scope} {maxLocals maxStack : UInt64}
      {parameters : List Value} {answer : Answer}
      (accepted : (Contents.blank scope maxLocals.toNat maxStack.toNat session.policy).verdict
        (.storeParameters parameters) = .ok answer) :
      Origin session (.enter name scope maxLocals maxStack parameters)
        ((Contents.blank scope maxLocals.toNat maxStack.toNat session.policy).change
          (.storeParameters parameters))
  /-- The frame copies parts of one that was held before. -/
  | copied {source target : String} {parts : Parts} {frame : Frame}
      (found : session.frame? source = some frame) :
      Origin session (.copyParts source target parts) (frame.contents.kept parts)
  /-- The frame was edited. -/
  | edited {name : String} {edit : Edit String} {frame : Frame} {resolved : Edit Frame}
      {answer : Answer} (found : session.builder? name = some frame)
      (resolves : edit.resolve? session.frame? = some resolved)
      (accepted : frame.contents.verdict (resolved.map Frame.contents) = .ok answer) :
      Origin session (.edit name edit) (frame.contents.change (resolved.map Frame.contents))

/-- Whatever is held after a step fits and has one of the origins. -/
theorem origin_of_step (fits : session.Every Frame.Fits)
    (found : (session.step step).session.frame? name = some frame) :
    frame.Fits ∧ session.Origin step frame.contents := by
  obtain ⟨frameFits, whence⟩ := whence_of_step fits found
  refine ⟨frameFits, ?_⟩
  generalize frame.contents = contents at whence
  cases whence with
  | stayed _ held => exact .stayed held
  | created => exact .created
  | entered _ accepted => exact .entered accepted
  | edited isBuilder resolves accepted _ => exact .edited isBuilder resolves accepted
  | copied copies _ held =>
    cases step with
    | snapshot | freeze | duplicate | thaw =>
      cases copies
      exact .stayed held
    | copyParts =>
      cases copies
      exact .copied held
    | addGraph | useGraph | addValue | addScope | detachedScope | report | create | enter | edit =>
      cases copies

/-! ## What holds of every frame -/

/-- Every frame of a session fits after a run if it did before. -/
theorem every_fits_run (fits : session.Every Frame.Fits) (steps : List Step) :
    (session.run steps).Every Frame.Fits := by
  induction steps generalizing session with
  | nil => exact fits
  | cons step rest ih => exact ih fun _ _ found => (origin_of_step fits found).1

/-- An initial session holds no frame. -/
theorem every_initial (trusted : Bool) (good : Frame → Prop) : (initial trusted).Every good := nofun

/-- Every frame fits at every point of a session. -/
theorem every_fits (trusted : Bool) (steps : List Step) :
    ((initial trusted).run steps).Every Frame.Fits :=
  every_fits_run (every_initial trusted _) steps

/-- A property of contents that every origin keeps under a rule holds of every frame after a run
that follows the rule. -/
theorem every_run {rule : Session → Step → Prop} {good : Contents → Prop}
    (keeps : ∀ {session step contents}, (session.Every fun frame => good frame.contents) →
      rule session step → session.Origin step contents → good contents)
    (fits : session.Every Frame.Fits) (before : session.Every fun frame => good frame.contents)
    {steps : List Step} (follows : session.Follows rule steps) :
    (session.run steps).Every fun frame => good frame.contents := by
  induction steps generalizing session with
  | nil => exact before
  | cons step rest ih =>
    exact ih (fun _ _ found => (origin_of_step fits found).1)
      (fun _ _ found => keeps before follows.1 (origin_of_step fits found).2) follows.2

end Session

/-- A frame that some session comes to hold. -/
def Frame.Reachable (frame : Frame) : Prop :=
  ∃ trusted steps name, ((Session.initial trusted).run steps).frame? name = some frame

/-- Every reachable frame fits. -/
theorem Frame.Reachable.fits {frame : Frame} (reachable : frame.Reachable) : frame.Fits := by
  obtain ⟨trusted, steps, name, found⟩ := reachable
  exact Session.every_fits trusted steps name frame found

end SymbolicFrame
