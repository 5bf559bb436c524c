import SymbolicFrame.Proofs.Histories

/-!
# Lines of descent

A frame goes on under its own name through steps that leave it alone and through its edits, and
under other names through copies of any parts of it. A frame that takes over locals or a stack is
tied to the frame that they come from as well. Such links lead along a run from a frame to those
that descend from it. A mark of frames is traced by links if a frame has it after a step exactly
when the step brings it in, or some link of the step comes from a frame that had it. Then a frame
has the mark after a run exactly when some step brought it in at the head of a line of links that
leads to the frame.
-/

namespace SymbolicFrame.Session

/-- A frame goes on: the one under the first name before a step is, as itself or as a copy, the one
under the second name after it. -/
inductive Continues (session : Session) : Step → String → String → Prop where
  /-- The name keeps its frame, edited or not. -/
  | kept {step : Step} {name : String}
      (stays : (session.step step).reply.isAnswer = true → name ∉ step.replaces) :
      Continues session step name name
  /-- The frame is copied, whatever parts of it are kept. -/
  | copied {step : Step} {source target : String} {parts : Parts}
      (copies : step.copies? = some (source, target, parts))
      (done : (session.step step).reply.isAnswer = true) : Continues session step source target

/-- A frame goes on, or another one takes over slots of it. -/
inductive PassesOn (session : Session) : Step → String → String → Prop where
  /-- The frame goes on. -/
  | continued {step : Step} {source target : String}
      (continues : session.Continues step source target) : PassesOn session step source target
  /-- Its locals are taken over. -/
  | locals {source target : String}
      (done : (session.step (.edit target (.replaceLocals source))).reply = .answer .done) :
      PassesOn session (.edit target (.replaceLocals source)) source target
  /-- Its stack is taken over. -/
  | stack {source target : String}
      (done : (session.step (.edit target (.replaceStack source))).reply = .answer .done) :
      PassesOn session (.edit target (.replaceStack source)) source target

/-- Links lead from a name before a run to a name after it, one link for each step. -/
inductive Leads (link : Session → Step → String → String → Prop) :
    Session → List Step → String → String → Prop where
  /-- No step is taken. -/
  | here (session : Session) (name : String) : Leads link session [] name name
  /-- The links of the first step and of the others lead on from each other. -/
  | there {session : Session} {step : Step} {rest : List Step} {source middle target : String}
      (first : link session step source middle)
      (later : Leads link (session.step step).session rest middle target) :
      Leads link session (step :: rest) source target

variable {session : Session} {step : Step} {source target name : String} {after : Frame}

/-! ## One step -/

/-- The ways in which contents go on under a name through a step. -/
inductive Becomes (session : Session) (step : Step) (name : String) (contents : Contents) :
    Contents → Prop where
  /-- Nothing is done to them. -/
  | same : Becomes session step name contents contents
  /-- Parts of them are copied. -/
  | kept (parts : Parts) : Becomes session step name contents (contents.kept parts)
  /-- They are edited. -/
  | changed {edit : Edit String} {resolved : Edit Frame} {answer : Answer}
      (isEdit : step = .edit name edit) (resolves : edit.resolve? session.frame? = some resolved)
      (accepted : contents.verdict (resolved.map Frame.contents) = .ok answer) :
      Becomes session step name contents (contents.change (resolved.map Frame.contents))

/-- What goes on under a name was held before the step, and became what is held after it. -/
theorem Continues.becomes (continues : session.Continues step source target)
    (fits : session.Every Frame.Fits)
    (found : (session.step step).session.frame? target = some after) :
    ∃ frame, session.frame? source = some frame ∧
      session.Becomes step target frame.contents after.contents := by
  obtain ⟨-, whence⟩ := whence_of_step fits found
  generalize after.contents = contents at whence
  cases continues with
  | kept stays =>
    cases whence with
    | stayed _ found => exact ⟨_, found, .same⟩
    | created done | entered done => exact absurd (List.mem_singleton.2 rfl) (stays done)
    | copied copies done =>
      exact absurd (Step.mem_replaces_of_copies copies) (stays done)
    | edited isBuilder resolves accepted _ =>
      exact ⟨_, frame?_of_builder? isBuilder, .changed rfl resolves accepted⟩
  | copied copies done =>
    have replaced : target ∈ step.replaces := Step.mem_replaces_of_copies copies
    cases whence with
    | stayed alone => exact absurd replaced (alone done).1
    | created | entered | edited => cases copies
    | copied others _ found =>
      rw [copies] at others
      cases others
      exact ⟨_, found, .kept _⟩

/-! ## Marks along a run -/

/-- A mark is traced by links from the steps that bring it in: a link comes from a frame, and a
frame has the mark after a step if the step brought it in or a link comes from one that had it. -/
structure Traced (link : Session → Step → String → String → Prop)
    (brings : Session → Step → String → Prop) (mark : Frame → Prop) : Prop where
  /-- What a link leads to comes from a frame. -/
  starts {session : Session} {step : Step} {source target : String} {after : Frame}
    (fits : session.Every Frame.Fits) (linked : link session step source target)
    (found : (session.step step).session.frame? target = some after) :
    ∃ frame, session.frame? source = some frame
  /-- A mark after a step was brought in or was there before. -/
  step_iff {session : Session} {step : Step} {target : String} {after : Frame}
    (fits : session.Every Frame.Fits)
    (found : (session.step step).session.frame? target = some after) :
    mark after ↔ brings session step target ∨ ∃ source frame,
      link session step source target ∧ session.frame? source = some frame ∧ mark frame

section Marks

variable {link : Session → Step → String → String → Prop}
  {brings : Session → Step → String → Prop} {mark : Frame → Prop} {steps : List Step}

/-- What links lead to along a run comes from a frame. -/
theorem Leads.starts (traced : Traced link brings mark) (fits : session.Every Frame.Fits)
    (leads : session.Leads link steps source target)
    (found : (session.run steps).frame? target = some after) :
    ∃ frame, session.frame? source = some frame := by
  induction leads with
  | here => exact ⟨after, found⟩
  | there first _ ih =>
    obtain ⟨frame, isMiddle⟩ := ih (every_fits_run fits [_]) found
    exact traced.starts fits first isMiddle

/-- A frame has a mark after a run exactly if a step of the run brought it in at the head of links
that lead to the frame, or links lead to it from a frame that had the mark before the run. -/
theorem Traced.run_iff (traced : Traced link brings mark) (fits : session.Every Frame.Fits)
    (found : (session.run steps).frame? name = some after) :
    mark after ↔
      (∃ before step rest middle, steps = before ++ step :: rest ∧
        brings (session.run before) step middle ∧
        ((session.run before).step step).session.Leads link rest middle name) ∨
      ∃ source frame, session.Leads link steps source name ∧
        session.frame? source = some frame ∧ mark frame := by
  induction steps generalizing session with
  | nil =>
    constructor
    · intro marked
      exact .inr ⟨name, after, .here session name, found, marked⟩
    · rintro (⟨before, step, rest, middle, split, -, -⟩ | ⟨source, frame, leads, held, marked⟩)
      · simp at split
      · cases leads
        have same : some frame = some after := held.symm.trans found
        cases same
        exact marked
  | cons step rest ih =>
    have laterFits : (session.step step).session.Every Frame.Fits := every_fits_run fits [step]
    rw [ih laterFits found]
    constructor
    · rintro (⟨before, later, rest, middle, rfl, brought, leads⟩ |
        ⟨middle, frame, leads, held, marked⟩)
      · exact .inl ⟨step :: before, later, rest, middle, rfl, brought, leads⟩
      · rcases (traced.step_iff fits held).1 marked with brought | ⟨source, first, linked, isFirst,
          marked⟩
        · exact .inl ⟨[], step, rest, middle, rfl, brought, leads⟩
        · exact .inr ⟨source, first, .there linked leads, isFirst, marked⟩
    · rintro (⟨before, later, others, middle, split, brought, leads⟩ |
        ⟨source, first, leads, isFirst, marked⟩)
      · cases before with
        | nil =>
          cases split
          obtain ⟨frame, held⟩ := leads.starts traced laterFits found
          exact .inr ⟨middle, frame, leads, held, (traced.step_iff fits held).2 (.inl brought)⟩
        | cons _ before =>
          cases split
          exact .inl ⟨before, later, others, middle, rfl, brought, leads⟩
      · cases leads with
        | there linked leads =>
          obtain ⟨frame, held⟩ := leads.starts traced laterFits found
          exact .inr ⟨_, frame, leads, held,
            (traced.step_iff fits held).2 (.inr ⟨source, first, linked, isFirst, marked⟩)⟩

/-- A frame of a session has a mark exactly if some step brought it in at the head of links that
lead to the frame. -/
theorem Traced.initial_iff (traced : Traced link brings mark) {trusted : Bool}
    (found : ((initial trusted).run steps).frame? name = some after) :
    mark after ↔ ∃ before step rest middle, steps = before ++ step :: rest ∧
      brings ((initial trusted).run before) step middle ∧
      (((initial trusted).run before).step step).session.Leads link rest middle name := by
  rw [traced.run_iff (every_initial trusted _) found]
  constructor
  · rintro (brought | ⟨_, _, _, held, _⟩)
    · exact brought
    · cases held
  · exact .inl

end Marks

end SymbolicFrame.Session
