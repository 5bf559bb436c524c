import SymbolicFrame.Proofs.Lineage
import SymbolicFrame.Proofs.Causes

/-!
# Where relaxed mode comes from

A frame is made with its kind checks in force. Pushing a machine word or a return address relaxes
them, and nothing else does on its own: copies of a relaxed frame are relaxed, whatever parts they
keep, and so is a frame that takes over slots of one. Relaxed mode is traced along these links, so
a frame is relaxed exactly when such a push stands at the head of a line of links that leads to it.
It never leaves that line again, and a relaxed frame refuses no value for its kind.
-/

namespace SymbolicFrame

namespace Contents

/-- What an edit does to the mode of contents, besides what they have already. -/
def relaxedBy : Edit Contents → Bool
  | .push kind _ => kind.isWordLike
  | .replaceLocals source | .replaceStack source => source.relaxed
  | .pop _ | .pushRaw _ | .popRaw | .popArguments _ | .truncateStack _ | .clearStack
  | .loadLocal _ _ | .storeLocal _ _ _ | .invalidateLocal _ | .clearLocals | .storeParameters _
  | .replaceMonitors _ | .lock _ _ _ | .unlock => false

/-- Contents are relaxed after an edit if they were before, or if the edit relaxes them. -/
theorem relaxed_change (contents : Contents) (edit : Edit Contents) :
    (contents.change edit).relaxed = (contents.relaxed || relaxedBy edit) := by
  cases edit <;> simp [change, relaxedBy]

end Contents

namespace Session

variable {session : Session} {step : Step} {source target name : String} {frame after : Frame}

/-- The step pushes a machine word or a return address onto the frame under the name. -/
def PushesWord (session : Session) (step : Step) (name : String) : Prop :=
  ∃ kind value, step = .edit name (.push kind value) ∧ (kind = .word ∨ kind = .jsr) ∧
    (session.step step).reply = .answer .done

/-! ## One step -/

/-- After an edit a frame is in the mode it was in, or is the edited one and in the mode that the
edit adds to its own. -/
theorem relaxed_of_edit (fits : session.Every Frame.Fits) {edit : Edit String}
    (found : (session.step (.edit target edit)).session.frame? name = some after) :
    ∃ frame, session.frame? name = some frame ∧
      (((session.step (.edit target edit)).reply.isAnswer = true → target ≠ name) ∧
          after.relaxed = frame.relaxed ∨
        ∃ resolved, edit.resolve? session.frame? = some resolved ∧
          after.relaxed = (frame.relaxed || Contents.relaxedBy (resolved.map Frame.contents))) := by
  obtain ⟨-, whence⟩ := whence_of_step fits found
  rw [← Frame.contents_relaxed]
  generalize after.contents = contents at whence
  cases whence with
  | stayed alone held =>
    exact ⟨_, held, .inl ⟨fun done same => (alone done).2 (congrArg some same), rfl⟩⟩
  | copied copies => cases copies
  | edited isBuilder resolves =>
    exact ⟨_, frame?_of_builder? isBuilder, .inr ⟨_, resolves, Contents.relaxed_change _ _⟩⟩

/-- An edit that is done adds its mode to that of the frame. -/
theorem relaxed_of_done (fits : session.Every Frame.Fits) {edit : Edit String}
    (done : (session.step (.edit target edit)).reply = .answer .done)
    (found : (session.step (.edit target edit)).session.frame? target = some after) :
    ∃ (frame : Frame) (resolved : Edit Frame), edit.resolve? session.frame? = some resolved ∧
      after.relaxed = (frame.relaxed || Contents.relaxedBy (resolved.map Frame.contents)) := by
  obtain ⟨frame, -, ⟨other, -⟩ | ⟨resolved, resolves, relaxed⟩⟩ := relaxed_of_edit fits found
  · exact absurd rfl (other (by rw [done]; rfl))
  · exact ⟨frame, resolved, resolves, relaxed⟩

/-- A machine word that was pushed relaxes the frame. -/
theorem relaxed_of_pushesWord (fits : session.Every Frame.Fits)
    (found : (session.step step).session.frame? name = some after)
    (pushes : session.PushesWord step name) : after.relaxed = true := by
  obtain ⟨kind, value, rfl, wordLike, reply⟩ := pushes
  obtain ⟨frame, resolved, resolves, relaxed⟩ := relaxed_of_done fits reply found
  cases resolves
  have relaxes : kind.isWordLike = true := kind.isWordLike_iff.2 wordLike
  rw [relaxed]
  simp [Edit.map, Contents.relaxedBy, relaxes]

/-- What a relaxed frame is passed on to is relaxed. -/
theorem relaxed_of_passesOn (fits : session.Every Frame.Fits)
    (passes : session.PassesOn step source target) (held : session.frame? source = some frame)
    (relaxed : frame.relaxed = true)
    (found : (session.step step).session.frame? target = some after) : after.relaxed = true := by
  cases passes with
  | continued continues =>
    obtain ⟨before, isBefore, becomes⟩ := continues.becomes fits found
    have same : some before = some frame := isBefore.symm.trans held
    cases same
    rw [← Frame.contents_relaxed] at relaxed ⊢
    generalize after.contents = contents at becomes
    cases becomes with
    | same => exact relaxed
    | kept parts => exact relaxed
    | changed => rw [Contents.relaxed_change, relaxed, Bool.true_or]
  | locals done | stack done =>
    obtain ⟨_, resolved, resolves, mode⟩ := relaxed_of_done fits done found
    simp only [Edit.resolve?, held, Option.map_some, Option.some.injEq] at resolves
    have relaxes : Contents.relaxedBy (resolved.map Frame.contents) = true := by
      rw [← resolves]
      exact relaxed
    rw [mode, relaxes, Bool.or_true]

/-- What is passed on comes from a frame. -/
theorem PassesOn.starts (fits : session.Every Frame.Fits)
    (passes : session.PassesOn step source target)
    (found : (session.step step).session.frame? target = some after) :
    ∃ frame, session.frame? source = some frame := by
  cases passes with
  | continued continues =>
    obtain ⟨frame, held, -⟩ := continues.becomes fits found
    exact ⟨frame, held⟩
  | locals done | stack done =>
    obtain ⟨_, _, resolves, -⟩ := relaxed_of_done fits done found
    obtain ⟨frame, held, -⟩ := Option.map_eq_some_iff.1 resolves
    exact ⟨frame, held⟩

/-- A frame that is relaxed after a step was relaxed by a push, or a relaxed frame was passed on to
it. -/
theorem relaxed_cases (fits : session.Every Frame.Fits)
    (found : (session.step step).session.frame? name = some after)
    (relaxed : after.relaxed = true) :
    session.PushesWord step name ∨ ∃ source frame, session.PassesOn step source name ∧
      session.frame? source = some frame ∧ frame.relaxed = true := by
  obtain ⟨-, whence⟩ := whence_of_step fits found
  rw [← Frame.contents_relaxed] at relaxed
  generalize after.contents = contents at whence relaxed
  cases whence with
  | stayed alone held =>
    exact .inr ⟨name, _, .continued (.kept fun done => (alone done).1), held, relaxed⟩
  | created => cases relaxed
  | entered => cases relaxed
  | copied copies done held => exact .inr ⟨_, _, .continued (.copied copies done), held, relaxed⟩
  | @edited _ edit frame resolved answer isBuilder resolves accepted reply =>
    have kept : session.PassesOn (.edit name edit) name name :=
      .continued (.kept fun _ => List.not_mem_nil)
    rw [Contents.relaxed_change, Bool.or_eq_true] at relaxed
    rcases relaxed with already | relaxes
    · exact .inr ⟨name, frame, kept, frame?_of_builder? isBuilder, already⟩
    · cases edit with
      | push kind value =>
        cases resolves
        rw [Contents.answer_of_done accepted] at reply
        exact .inl ⟨kind, value, rfl, kind.isWordLike_iff.1 relaxes, reply⟩
      | replaceLocals other =>
        obtain ⟨source, held, rfl⟩ := Option.map_eq_some_iff.1 resolves
        rw [Contents.answer_of_done accepted] at reply
        exact .inr ⟨other, source, .locals reply, held, relaxes⟩
      | replaceStack other =>
        obtain ⟨source, held, rfl⟩ := Option.map_eq_some_iff.1 resolves
        rw [Contents.answer_of_done accepted] at reply
        exact .inr ⟨other, source, .stack reply, held, relaxes⟩
      | replaceMonitors other =>
        obtain ⟨source, held, rfl⟩ := Option.map_eq_some_iff.1 resolves
        cases relaxes
      | pop | pushRaw | popRaw | popArguments | truncateStack | clearStack | loadLocal | storeLocal
      | invalidateLocal | clearLocals | storeParameters | lock | unlock =>
        cases resolves
        cases relaxes

/-- Relaxed mode is traced by what is passed on from the pushes of machine words. -/
theorem relaxed_traced : Traced PassesOn PushesWord (·.relaxed = true) where
  starts fits passes found := passes.starts fits found
  step_iff fits found := by
    constructor
    · exact relaxed_cases fits found
    · rintro (pushes | ⟨source, frame, passes, held, relaxed⟩)
      · exact relaxed_of_pushesWord fits found pushes
      · exact relaxed_of_passesOn fits passes held relaxed found

/-- A step that is not done, a slot pushed as it is and a value stored in a local leave the mode of
every frame as it was. -/
theorem relaxed_eq_of_unanswered_or_raw (fits : session.Every Frame.Fits)
    (held : session.frame? name = some frame)
    (found : (session.step step).session.frame? name = some after)
    (quiet : (session.step step).reply.isAnswer = false ∨
      (∃ target slot, step = .edit target (.pushRaw slot)) ∨
      ∃ target index kind value, step = .edit target (.storeLocal index kind value)) :
    after.relaxed = frame.relaxed := by
  have edited {target : String} {edit : Edit String} (isEdit : step = .edit target edit)
      (same : ∀ resolved, edit.resolve? session.frame? = some resolved →
        Contents.relaxedBy (resolved.map Frame.contents) = false) :
      after.relaxed = frame.relaxed := by
    subst isEdit
    obtain ⟨before, isBefore, modes⟩ := relaxed_of_edit fits found
    cases isBefore.symm.trans held
    rcases modes with ⟨-, mode⟩ | ⟨resolved, resolves, mode⟩
    · exact mode
    · rw [mode, same resolved resolves, Bool.or_false]
  rcases quiet with unanswered | ⟨target, slot, isEdit⟩ | ⟨target, index, kind, value, isEdit⟩
  · rw [frame?_of_unanswered fits unanswered, held] at found
    cases found
    rfl
  · refine edited isEdit fun resolved resolves => ?_
    cases resolves
    rfl
  · refine edited isEdit fun resolved resolves => ?_
    cases resolves
    rfl

/-! ## Along a run -/

/-- A frame of a session is relaxed exactly if an earlier step pushed a machine word or a return
address onto a frame from which it descends through states of a frame, copies of any parts, and
taken over locals or stacks. Whatever descends from a relaxed frame is relaxed, and refuses no value
for its kind. A step that is not done, a slot pushed as it is and a value stored in a local relax
no frame. -/
theorem relaxed_iff_descends_from_word_push {trusted : Bool} {steps : List Step} {name : String}
    {frame : Frame} (found : ((initial trusted).run steps).frame? name = some frame) :
    (frame.relaxed = true ↔ ∃ before step rest middle, steps = before ++ step :: rest ∧
        ((initial trusted).run before).PushesWord step middle ∧
        (((initial trusted).run before).step step).session.Leads PassesOn rest middle name) ∧
      (frame.relaxed = true → ∀ later target after,
        ((initial trusted).run steps).Leads PassesOn later name target →
        (((initial trusted).run steps).run later).frame? target = some after →
        after.relaxed = true ∧ ∀ edit expected given,
          ((((initial trusted).run steps).run later).step (.edit target edit)).reply ≠
            .refusal (.kindMismatch expected given)) ∧
      ∀ step after, (((initial trusted).run steps).step step).session.frame? name = some after →
        ((((initial trusted).run steps).step step).reply.isAnswer = false ∨
          (∃ target slot, step = .edit target (.pushRaw slot)) ∨
          ∃ target index kind value, step = .edit target (.storeLocal index kind value)) →
        after.relaxed = frame.relaxed := by
  have fits := every_fits trusted steps
  refine ⟨relaxed_traced.initial_iff found, fun relaxed later target after leads isAfter => ?_,
    fun step after isAfter quiet => relaxed_eq_of_unanswered_or_raw fits found isAfter quiet⟩
  have stays : after.relaxed = true :=
    (relaxed_traced.run_iff fits isAfter).2 (.inr ⟨name, frame, leads, found, relaxed⟩)
  refine ⟨stays, fun edit expected given reply => ?_⟩
  have checks := checks_of_kindMismatch (every_fits_run fits later) isAfter reply
  have unrelaxed : after.relaxed = false := checks.strict
  rw [stays] at unrelaxed
  cases unrelaxed

/-- A word is pushed onto a frame, of which a copy without any parts hands its empty locals on to a
third frame. That one takes an object for an integer, and owes its mode to the word. -/
theorem relaxed_iff_descends_from_word_push_spliced :
    let scope := Scope.root ⟨some 0, 0⟩ "A.b()V"
    let word : Value := ⟨0, 0, .word, ""⟩
    let object : Value := ⟨0, 1, .object, ""⟩
    let steps : List Step :=
      [.create "a" scope 1 1 Policy.standard, .create "c" scope 1 1 Policy.standard,
        .edit "c" (.push .int object), .edit "c" (.pushRaw (some word)), .edit "c" .clearStack,
        .edit "a" (.push .word word), .edit "a" (.push .word word),
        .copyParts "a" "b" ⟨false, false, false⟩, .create "a" scope 0 0 Policy.standard,
        .edit "c" (.replaceLocals "b"), .edit "c" (.push .int object)]
    ∃ frame, ((initial false).run steps).frame? "c" = some frame ∧
      frame.buffer.stack = [some object] ∧
      ∃ before step rest middle, steps = before ++ step :: rest ∧
        ((initial false).run before).PushesWord step middle ∧
        (((initial false).run before).step step).session.Leads PassesOn rest middle "c" := by
  intro scope word object steps
  let frame : Frame :=
    ⟨⟨1, 1, #[none, some object]⟩, scope, ⟨none⟩, true, Policy.standard⟩
  have found : ((initial false).run steps).frame? "c" = some frame := by decide
  exact ⟨frame, found, rfl, (relaxed_iff_descends_from_word_push found).1.1 rfl⟩

end Session
end SymbolicFrame
