import SymbolicFrame.Proofs.Histories

/-!
# Why edits stop

Not every cause stops every edit. Kinds are compared only where they are checked, so a frame that
is relaxed or that trusts its caller refuses no value for its kind. Edits look at no stack slot by
an index that was given to them, so none is ever missed. And an edit uses something outside its
bounds only when it stores so many parameters that their widths add up to more than a word, and a
step besides only when it makes a frame whose slots cannot be counted.
-/

namespace SymbolicFrame

/-! ## Causes of a verdict -/

section Stops

variable {α β : Type} {among : Stop → Prop}

/-- Whatever stops a verdict is among given causes. -/
def Stops (among : Stop → Prop) (verdict : Except Stop α) : Prop :=
  ∀ stop, verdict = .error stop → among stop

/-- A verdict with an answer is not stopped. -/
theorem stops_ok (answer : α) : Stops among (.ok answer) := nofun

/-- A refusal is stopped for its cause. -/
theorem stops_refused {cause : FrameError} (isAmong : among (.refusal cause)) :
    Stops among (refused cause : Except Stop α) := by
  intro stop same
  cases same
  exact isAmong

/-- What stops a sequence stops its first part or what follows. -/
theorem Stops.bind {verdict : Except Stop α} {next : α → Except Stop β}
    (first : Stops among verdict) (later : ∀ answer, Stops among (next answer)) :
    Stops among (verdict >>= next) := by
  intro stop stopped
  cases reached : verdict with
  | error cause =>
    rw [reached] at stopped
    cases stopped
    exact first stop reached
  | ok answer =>
    rw [reached] at stopped
    exact later answer stop stopped

/-- What stops a choice stops the branch that is taken. -/
theorem Stops.ite {condition : Prop} [Decidable condition] {yes no : Except Stop α}
    (left : Stops among yes) (right : Stops among no) :
    Stops among (if condition then yes else no) := by
  split
  · exact left
  · exact right

/-- What stops a part that goes on when its first part is done stops one of both. -/
theorem Stops.after {verdict : Except Stop α} {next : α → Except Stop β}
    (first : Stops among verdict)
    (later : ∀ answer, verdict = .ok answer → Stops among (next answer)) :
    Stops among (verdict >>= next) := by
  cases reached : verdict with
  | error stop =>
    rw [reached] at first
    intro cause stopped
    cases stopped
    exact first stop rfl
  | ok answer => exact later answer reached

/-- What stops a guarded part is the cause of the guard, or stops what the guard lets pass. -/
theorem Stops.guard {bad : Prop} [Decidable bad] {cause : FrameError} {rest : Except Stop α}
    (bars : bad → among (.refusal cause)) (passes : ¬ bad → Stops among rest) :
    Stops among (if bad then refused cause else rest) := by
  split
  · rename_i isBad
    exact stops_refused (bars isBad)
  · rename_i isGood
    exact passes isGood

end Stops

/-! ## Causes of the parts of an edit -/

/-- No list of this many parameters fits in memory. -/
def parameterLimit : Nat := 0x1000000000000000

/-- The parameters that an edit stores, if it stores some, may fit in memory. -/
def Edit.Short {Source : Type} : Edit Source → Prop
  | .storeParameters parameters => parameters.length < parameterLimit
  | .push _ _ | .pop _ | .pushRaw _ | .popRaw | .popArguments _ | .truncateStack _ | .clearStack
  | .loadLocal _ _ | .storeLocal _ _ _ | .invalidateLocal _ | .clearLocals | .replaceLocals _
  | .replaceStack _ | .replaceMonitors _ | .lock _ _ _ | .unlock => True

namespace Contents

/-- The causes for which contents may refuse an edit. -/
def MayRefuse (contents : Contents) : FrameError → Prop
  | .kindMismatch _ _ => contents.Checks
  | .stackIndexOutOfRange _ _ => False
  | .voidKind | .wordKind _ | .stackOverflow _ | .emptyStack | .missingValue _ | .corruptHighWord _
  | .localIndexOutOfRange _ _ | .truncateAboveStack _ _ | .splitsWideValue _ | .localsMismatch _ _
  | .noLockHeld => True

/-- What may stop an edit of contents. -/
def MayStop (contents : Contents) (edit : Edit Contents) : Stop → Prop
  | .refusal cause => contents.MayRefuse cause
  | .breach => ¬ edit.Short

variable {contents : Contents} {edit : Edit Contents}

/-- A kind that may not be held is refused for that. -/
theorem stops_holds (policy : Policy) (kind : Kind) :
    Stops (contents.MayStop edit) (policy.holds kind) :=
  .ite (stops_refused trivial) (.ite (stops_refused trivial) (stops_ok ()))

/-- Values are refused for their kinds only where these are checked. -/
theorem stops_accepts (kind : Kind) (value : Value) :
    Stops (contents.MayStop edit) (contents.accepts kind value) := by
  unfold accepts
  split
  · exact stops_ok ()
  · rename_i barred
    have checks : contents.Checks := by
      constructor
      · exact eq_true_of_ne_false fun trusting => barred (.inr (.inr trusting))
      · exact eq_false_of_ne_true fun relaxed => barred (.inr (.inl relaxed))
    exact stops_refused checks

/-- Locals that are not all there are refused for that. -/
theorem stops_within (maxLocals index width : Nat) :
    Stops (contents.MayStop edit) (within maxLocals index width) :=
  .ite (stops_ok ()) (stops_refused trivial)

/-- Parameters stop an edit for a kind that may not be held, or for their widths. -/
theorem stops_parametersEnd {parameters : List Value} (policy : Policy) {index : Nat}
    (bound : index + 2 * parameters.length < Word.limit ∨ ¬ edit.Short) :
    Stops (contents.MayStop edit) (policy.parametersEnd index parameters) := by
  induction parameters generalizing index with
  | nil => exact stops_ok index
  | cons parameter rest ih =>
    have width := parameter.kind.slotWidth_le_two
    unfold Policy.parametersEnd
    split
    · rename_i stop isBarred
      intro cause same
      cases same
      exact stops_holds policy parameter.kind stop isBarred
    · split
      · refine ih (bound.imp_left fun fits => ?_)
        rw [List.length_cons] at fits
        omega
      · intro cause same
        cases same
        rcases bound with bound | long
        · rw [List.length_cons] at bound
          omega
        · exact long

/-- Parameters that fit in memory have widths that add up to a word. -/
theorem stops_storesParameters (parameters : List Value) :
    Stops (contents.MayStop (.storeParameters parameters))
      (contents.storesParameters parameters) := by
  have bound : 0 + 2 * parameters.length < Word.limit ∨
      ¬ (Edit.storeParameters parameters : Edit Contents).Short := by
    unfold Edit.Short parameterLimit Word.limit
    omega
  exact .bind (stops_parametersEnd contents.policy bound) fun width => stops_within _ 0 width

/-- Popping a value is refused for what is on the stack, and for its kind. -/
theorem stops_popped (kind : Kind) : Stops (contents.MayStop edit) (contents.popped kind) := by
  unfold popped
  refine .ite (stops_refused trivial) (.ite (stops_refused trivial) ?_)
  refine .ite (stops_refused trivial) ?_
  split
  · exact stops_refused trivial
  · exact .bind (stops_accepts kind _) fun _ => stops_ok _

/-- Loading a value is refused for what is in the locals, and for its kind. -/
theorem stops_loaded (index : Nat) (kind : Kind) :
    Stops (contents.MayStop edit) (contents.loaded index kind) := by
  unfold loaded
  refine .ite (stops_refused trivial) (.bind (stops_within _ index _) fun _ => ?_)
  split
  · exact stops_refused trivial
  · exact .ite (stops_refused trivial) (.bind (stops_accepts kind _) fun _ => stops_ok _)

/-- Arguments are refused for what is on the stack. -/
theorem stops_arguments (size : Nat) :
    Stops (contents.MayStop edit) (contents.arguments size) := by
  unfold arguments
  refine .ite (stops_refused trivial) ?_
  split
  · exact stops_ok _
  · exact stops_refused trivial

/-- An edit of contents stops only for a cause that may stop it. -/
theorem stops_verdict (contents : Contents) (edit : Edit Contents) :
    Stops (contents.MayStop edit) (contents.verdict edit) := by
  have done {check : Except Stop Unit} (stops : Stops (contents.MayStop edit) check) :
      Stops (contents.MayStop edit) (Contents.done check) := stops.bind fun _ => stops_ok _
  have given {value : Except Stop Value} (stops : Stops (contents.MayStop edit) value) :
      Stops (contents.MayStop edit) (Contents.given value) := stops.bind fun _ => stops_ok _
  cases edit with
  | push kind value =>
    refine done (.bind (stops_holds _ kind) fun _ => .bind (stops_accepts kind value) fun _ => ?_)
    exact .ite (stops_refused trivial) (stops_ok ())
  | pop kind => exact given (stops_popped kind)
  | pushRaw slot => exact done (.ite (stops_refused trivial) (stops_ok ()))
  | popRaw =>
    exact .bind (.ite (stops_refused trivial) (stops_ok _)) fun _ => stops_ok _
  | popArguments size => exact .bind (stops_arguments size.toNat) fun _ => stops_ok _
  | truncateStack size =>
    exact done (.ite (stops_refused trivial) (.ite (stops_refused trivial) (stops_ok ())))
  | clearStack | clearLocals | replaceMonitors => exact stops_ok _
  | loadLocal index kind => exact given (stops_loaded index.toNat kind)
  | storeLocal index kind value =>
    exact done (.bind (stops_holds _ kind) fun _ => .bind (stops_accepts kind value) fun _ =>
      stops_within _ index.toNat _)
  | invalidateLocal index => exact done (stops_within _ index.toNat 1)
  | storeParameters parameters => exact done (stops_storesParameters parameters)
  | replaceLocals source => exact done (.ite (stops_refused trivial) (stops_ok ()))
  | replaceStack source => exact done (.ite (stops_refused trivial) (stops_ok ()))
  | lock scope object total => exact done (stops_accepts .object object)
  | unlock =>
    refine given ?_
    unfold released
    split
    · exact stops_refused trivial
    · exact stops_ok _

end Contents

/-! ## Causes of a step of a session -/

namespace Edit

variable {Name Source Target : Type}

/-- Seeing the source of an edit in another way leaves its parameters. -/
theorem short_map_iff (view : Source → Target) (edit : Edit Source) :
    (edit.map view).Short ↔ edit.Short := by
  cases edit <;> rfl

/-- Finding the source of an edit leaves its parameters. -/
theorem short_iff_of_resolve? {find : Name → Option Source} {edit : Edit Name}
    {resolved : Edit Source} (resolves : edit.resolve? find = some resolved) :
    resolved.Short ↔ edit.Short := by
  cases edit with
  | replaceLocals | replaceStack | replaceMonitors =>
    obtain ⟨source, -, rfl⟩ := Option.map_eq_some_iff.1 resolves
    rfl
  | push | pop | pushRaw | popRaw | popArguments | truncateStack | clearStack | loadLocal
  | storeLocal | invalidateLocal | clearLocals | storeParameters | lock | unlock =>
    cases resolves
    rfl

end Edit

/-- What a step asks for may fit in memory: the slots of the frame that it makes can be counted, and
it stores no more parameters than there is room for. -/
def Step.FitsMemory : Step → Prop
  | .create _ _ maxLocals maxStack _ => Frame.Countable maxLocals.toNat maxStack.toNat
  | .enter _ _ maxLocals maxStack parameters =>
    Frame.Countable maxLocals.toNat maxStack.toNat ∧ parameters.length < parameterLimit
  | .edit _ change => change.Short
  | .addGraph | .useGraph _ | .addValue _ _ | .addScope _ _ | .detachedScope _ _ _ | .report _ _
  | .snapshot _ _ | .freeze _ _ | .duplicate _ _ | .thaw _ _ | .copyParts _ _ _ => True

namespace Session

variable {session : Session} {step : Step} {name : String} {frame : Frame} {stop : Stop}

/-- A step that edits a frame is stopped for a cause that may stop the edit. -/
theorem mayStop_of_edit (fits : session.Every Frame.Fits) {edit : Edit String}
    (found : session.frame? name = some frame)
    (reply : (session.step (.edit name edit)).reply = stop.outcome.reply) :
    ∃ resolved, edit.resolve? session.frame? = some resolved ∧
      frame.contents.MayStop (resolved.map Frame.contents) stop := by
  cases turn_of_edit fits name edit with
  | unusable turn =>
    rw [turn] at reply
    exact absurd reply stop.unusable_ne_reply
  | @stopped held resolved cause isBuilder resolves stops ended =>
    have isHeld : some held = some frame := (frame?_of_builder? isBuilder).symm.trans found
    cases isHeld
    rw [← Stop.reply_inj (ended.symm.trans reply)]
    exact ⟨resolved, resolves, Contents.stops_verdict _ _ cause stops⟩
  | done _ _ _ ended => exact absurd (ended.symm.trans reply) (stop.answer_ne_reply _)

/-- A step is stopped for a cause that may stop some edit, whose parameters fit in memory if what
the step asks for does, or because it asks for more slots than can be counted. -/
theorem mayStop_of_step (fits : session.Every Frame.Fits)
    (reply : (session.step step).reply = stop.outcome.reply) :
    (∃ (contents : Contents) (edit : Edit Contents),
      contents.MayStop edit stop ∧ (step.FitsMemory → edit.Short)) ∨
      stop = .breach ∧ ¬ step.FitsMemory := by
  have copied {source target : String} {parts : Parts}
      (copies : step.copies? = some (source, target, parts)) :
      (∃ (contents : Contents) (edit : Edit Contents),
        contents.MayStop edit stop ∧ (step.FitsMemory → edit.Short)) ∨
        stop = .breach ∧ ¬ step.FitsMemory := by
    rcases copies_of_step fits copies with turn | ⟨_, _, _, _, _, done, _⟩
    · rw [turn] at reply
      exact absurd reply stop.unusable_ne_reply
    · exact absurd (done.symm.trans reply) (stop.answer_ne_reply _)
  cases step with
  | addGraph | addValue | addScope | detachedScope | report => cases stop <;> cases reply
  | useGraph graph =>
    dsimp only [Session.step] at reply
    split at reply
    · exact absurd reply (stop.answer_ne_reply _)
    · exact absurd reply stop.unusable_ne_reply
  | snapshot | freeze | duplicate | thaw | copyParts => exact copied rfl
  | create name scope maxLocals maxStack policy =>
    by_cases countable : Frame.Countable maxLocals.toNat maxStack.toNat
    · rw [session.step_create name countable] at reply
      exact absurd reply (stop.answer_ne_reply _)
    · rw [session.step_create_of_uncountable name countable] at reply
      have isBreach : Stop.breach = stop := Stop.reply_inj reply
      exact .inr ⟨isBreach.symm, countable⟩
  | enter name scope maxLocals maxStack parameters =>
    cases turn_of_enter session name scope maxLocals maxStack parameters with
    | uncountable many turn =>
      rw [turn] at reply
      have isBreach : Stop.breach = stop := Stop.reply_inj reply
      exact .inr ⟨isBreach.symm, fun room => many room.1⟩
    | @stopped cause stops ended =>
      rw [← Stop.reply_inj (ended.symm.trans reply)]
      exact .inl ⟨_, _, Contents.stops_verdict _ _ cause stops, And.right⟩
    | done _ ended => exact absurd (ended.symm.trans reply) (stop.answer_ne_reply _)
  | edit name edit =>
    cases turn_of_edit fits name edit with
    | unusable turn =>
      rw [turn] at reply
      exact absurd reply stop.unusable_ne_reply
    | stopped isBuilder =>
      obtain ⟨resolved, resolves, mayStop⟩ :=
        mayStop_of_edit fits (frame?_of_builder? isBuilder) reply
      refine .inl ⟨_, _, mayStop, fun room => ?_⟩
      rw [Edit.short_map_iff, Edit.short_iff_of_resolve? resolves]
      exact room
    | done _ _ _ ended => exact absurd (ended.symm.trans reply) (stop.answer_ne_reply _)

/-- A step that asks for no more than may fit in memory uses nothing outside its bounds. -/
theorem not_breach_of_fitsMemory (fits : session.Every Frame.Fits) (room : step.FitsMemory) :
    (session.step step).reply ≠ .breach := by
  intro reply
  have stopped : (session.step step).reply = Stop.breach.outcome.reply := reply
  rcases mayStop_of_step fits stopped with ⟨_, _, long, bound⟩ | ⟨-, noRoom⟩
  · exact long (bound room)
  · exact noRoom room

/-- No step misses a stack slot. -/
theorem not_stackIndexOutOfRange (fits : session.Every Frame.Fits) (index stackSize : Nat) :
    (session.step step).reply ≠ .refusal (.stackIndexOutOfRange index stackSize) := by
  intro reply
  have stopped : (session.step step).reply =
      (Stop.refusal (.stackIndexOutOfRange index stackSize)).outcome.reply := reply
  rcases mayStop_of_step fits stopped with ⟨_, _, impossible, -⟩ | ⟨isBreach, -⟩
  · exact impossible
  · cases isBreach

/-- A frame refuses a value for its kind only if it checks kinds and is not relaxed. -/
theorem checks_of_kindMismatch (fits : session.Every Frame.Fits) {edit : Edit String}
    (found : session.frame? name = some frame) {expected given : Kind}
    (reply : (session.step (.edit name edit)).reply = .refusal (.kindMismatch expected given)) :
    frame.contents.Checks := by
  let stop : Stop := .refusal (.kindMismatch expected given)
  have stopped : (session.step (.edit name edit)).reply = stop.outcome.reply := reply
  obtain ⟨_, _, checks⟩ := mayStop_of_edit fits found stopped
  exact checks

end Session
end SymbolicFrame
