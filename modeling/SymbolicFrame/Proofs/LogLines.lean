import SymbolicFrame.Proofs.Equality
import SymbolicFrame.Proofs.Histories

/-!
# What edits write to the log

Whoever reads the log can tell from it how edits ended. A refusal that is a fault of the frame is
one line with its message, wherever in an edit it arises and however many steps it passes through on
its way out. Refusals over kinds, which well-formed code meets, leave no line, and neither does an
edit that is done, save for four: a push that relaxes a frame, an acquired monitor for which its
scope needs more lock records, and the two edits that take over the slots of another frame. Readers
write nothing even when they find nothing.
-/

namespace SymbolicFrame

/-- A cause is a fault of the frame unless it is about a kind. -/
def FrameError.isFault : FrameError → Bool
  | voidKind | kindMismatch _ _ | wordKind _ => false
  | stackOverflow _ | emptyStack | missingValue _ | corruptHighWord _ | stackIndexOutOfRange _ _
  | localIndexOutOfRange _ _ | truncateAboveStack _ _ | splitsWideValue _ | localsMismatch _ _
  | noLockHeld => true

/-! ## Lines of the log -/

/-- A log record as one line, told by what it records. -/
theorem Event.render_eq_line (event : Event) :
    event.render = match event with
      | fault cause => "ERROR Frame state fault: " ++ cause.message
      | freezing frame => "DEBUG Freezing " ++ frame.render
      | replacingLocals frame source =>
        "DEBUG Replacing locals of " ++ frame.render ++ " with those of " ++ source.render
      | replacingStack frame source =>
        "DEBUG Replacing stack of " ++ frame.render ++ " with that of " ++ source.render
      | relaxing kind scope =>
        "TRACE Pushed a " ++ kind.name ++ " value, relaxing kind checks in " ++ scope.render
      | needing scope total previous =>
        "TRACE Scope " ++ scope.name ++ " needs " ++ total.toNat.repr ++ " lock(s) (was " ++
          previous.toNat.repr ++ ")" := by
  -- The name of the level and the first words of the message run together.
  cases event with
  | fault | freezing | replacingLocals | replacingStack | relaxing | needing =>
    dsimp only [render, level, Level.name, message]
    simp only [← String.append_assoc]
    rfl

/-! ## Lines of edits -/

namespace Edit

/-- The lines that an edit writes when it is done, told by the frame before it and by what it
changed. -/
def lines (edit : Edit Frame) (frame : Frame) (reservations : Reservations)
    (performed : Performed) : List String :=
  match edit with
  | push kind _ =>
    if frame.relaxed = false ∧ performed.frame.relaxed = true then
      ["TRACE Pushed a " ++ kind.name ++ " value, relaxing kind checks in " ++ frame.scope.render]
    else []
  | replaceLocals source =>
    ["DEBUG Replacing locals of " ++ frame.render ++ " with those of " ++ source.render]
  | replaceStack source =>
    ["DEBUG Replacing stack of " ++ frame.render ++ " with that of " ++ source.render]
  | lock scope _ _ =>
    let before := reservations.least scope
    let after := performed.reservations.least scope
    if before < after then
      ["TRACE Scope " ++ scope.name ++ " needs " ++ after.toNat.repr ++ " lock(s) (was " ++
        before.toNat.repr ++ ")"]
    else []
  | pop _ | pushRaw _ | popRaw | popArguments _ | truncateStack _ | clearStack | loadLocal _ _
  | storeLocal _ _ _ | invalidateLocal _ | clearLocals | storeParameters _ | replaceMonitors _
  | unlock => []

/-- The log of an edit tells how it ended. -/
structure Logged (edit : Edit Frame) (frame : Frame) (reservations : Reservations)
    (performed : Performed) : Prop where
  /-- A refusal over a kind leaves no record. -/
  expected : ∀ cause, performed.outcome = .refusal cause → cause.isFault = false →
    performed.log = []
  /-- Any other refusal is one line with its message. -/
  fault : ∀ cause, performed.outcome = .refusal cause → cause.isFault = true →
    performed.log.map Event.render = ["ERROR Frame state fault: " ++ cause.message]
  /-- An edit that is done records no error. -/
  quiet : ∀ answer, performed.outcome = .answer answer →
    ∀ event ∈ performed.log, event.level ≠ .error
  /-- An edit that is done writes the lines that it changed something for, and no others. -/
  lines_eq : ∀ answer, performed.outcome = .answer answer →
    performed.log.map Event.render = edit.lines frame reservations performed

variable {edit : Edit Frame} {frame : Frame}

/-- The log of an edit that stops tells its cause. -/
theorem logged_of_stop (edit : Edit Frame) (frame : Frame) (reservations : Reservations)
    (stop : Stop) :
    edit.Logged frame reservations ⟨stop.outcome, frame, reservations, stop.records⟩ := by
  cases stop with
  | breach => exact ⟨nofun, nofun, nofun, nofun⟩
  | refusal cause =>
    have same {other : FrameError} (ended : Outcome.refusal cause = .refusal other) :
        other = cause := by
      cases ended
      rfl
    -- Which causes are recorded is decided cause by cause, and is the same in both places.
    refine ⟨fun other ended isExpected => ?_, fun other ended isFault => ?_, nofun, nofun⟩
    · rw [same ended] at isExpected
      cases cause with
      | voidKind | kindMismatch | wordKind => rfl
      | stackOverflow | emptyStack | missingValue | corruptHighWord | stackIndexOutOfRange
      | localIndexOutOfRange | truncateAboveStack | splitsWideValue | localsMismatch
      | noLockHeld => cases isExpected
    · rw [same ended] at isFault ⊢
      have recorded : (Stop.refusal cause).records = [.fault cause] := by
        cases cause with
        | voidKind | kindMismatch | wordKind => cases isFault
        | stackOverflow | emptyStack | missingValue | corruptHighWord | stackIndexOutOfRange
        | localIndexOutOfRange | truncateAboveStack | splitsWideValue | localsMismatch
        | noLockHeld => rfl
      change (Stop.refusal cause).records.map Event.render = _
      rw [recorded, List.map_singleton, Event.render_eq_line]

/-- An edit that is done records no error. -/
theorem level_of_records (reservations : Reservations) {event : Event}
    (recorded : event ∈ edit.records frame reservations) : event.level ≠ .error := by
  cases edit with
  | push kind value =>
    have single : event ∈ if kind.isWordLike && !frame.relaxed then
      [Event.relaxing kind frame.scope] else [] := recorded
    split at single
    · rw [List.mem_singleton.1 single]
      nofun
    · cases single
  | replaceLocals source =>
    rw [List.mem_singleton.1 recorded]
    nofun
  | replaceStack source =>
    rw [List.mem_singleton.1 recorded]
    nofun
  | lock scope object total =>
    have single : event ∈ reservations.eventsOf scope total := recorded
    unfold Reservations.eventsOf at single
    split at single
    · rw [List.mem_singleton.1 single]
      nofun
    · cases single
  | pop | pushRaw | popRaw | popArguments | truncateStack | clearStack | loadLocal | storeLocal
  | invalidateLocal | clearLocals | storeParameters | replaceMonitors | unlock => cases recorded

/-- The records of an edit that is done are the lines that it changed something for. -/
theorem render_records {after : Frame} (reservations : Reservations) {answer : Answer}
    (shows : after.contents = frame.contents.change (edit.map Frame.contents)) :
    (edit.records frame reservations).map Event.render = edit.lines frame reservations
      ⟨.answer answer, after, edit.reported reservations, edit.records frame reservations⟩ := by
  cases edit with
  | push kind value =>
    have relaxes : after.relaxed = (frame.relaxed || kind.isWordLike) :=
      congrArg Contents.relaxed shows
    have turned : (kind.isWordLike && !frame.relaxed) = true ↔
        frame.relaxed = false ∧ after.relaxed = true := by
      rw [relaxes]
      cases frame.relaxed <;> simp
    dsimp only [records, lines]
    simp only [turned]
    split
    · rw [List.map_singleton, Event.render_eq_line]
    · rfl
  | replaceLocals source =>
    change [(Event.replacingLocals frame source).render] = _
    rw [Event.render_eq_line]
    rfl
  | replaceStack source =>
    change [(Event.replacingStack frame source).render] = _
    rw [Event.render_eq_line]
    rfl
  | lock scope object total =>
    dsimp only [records, lines, reported, Reservations.eventsOf]
    by_cases rises : reservations.least scope < total
    · have raised : (reservations.raise scope total).least scope = total := by
        rw [Reservations.least_raise, if_pos ⟨rfl, rises⟩]
      rw [raised, if_pos rises, if_pos rises, List.map_singleton, Event.render_eq_line]
    · have kept : (reservations.raise scope total).least scope = reservations.least scope := by
        rw [Reservations.least_raise, if_neg fun both => rises both.2]
      rw [kept, if_neg rises, if_neg (UInt64.lt_irrefl _)]
      rfl
  | pop | pushRaw | popRaw | popArguments | truncateStack | clearStack | loadLocal | storeLocal
  | invalidateLocal | clearLocals | storeParameters | replaceMonitors | unlock => rfl

/-- The log of every edit tells how it ended. -/
theorem logged_of_perform (fits : frame.Fits)
    (sourceFits : ∀ source, edit.source? = some source → source.Fits)
    (reservations : Reservations) :
    edit.Logged frame reservations (edit.perform frame reservations) := by
  cases accepted : frame.contents.verdict (edit.map Frame.contents) with
  | error stop =>
    rw [perform_of_error fits sourceFits reservations accepted]
    exact logged_of_stop edit frame reservations stop
  | ok answer =>
    obtain ⟨after, performed, -, shows⟩ := perform_of_ok fits sourceFits reservations accepted
    rw [performed]
    exact ⟨nofun, nofun, fun _ _ _ recorded => level_of_records reservations recorded,
      fun _ _ => render_records reservations shows⟩

end Edit

/-! ## Readers -/

/-- A look at a frame as a step of editing it: it leaves the editor, and with it the log, as it
was. -/
def EditM.looking {α : Type} (look : Except FrameError α) : EditM α := fun editor =>
  match look with
  | .ok found => .ok found editor
  | .error cause => .error (.refusal cause) editor

namespace EditM

variable {editor : Editor}

/-- Reading a local only looks at the frame, whether or not there is such a local. -/
theorem readLocal_eq_looking (fits : editor.frame.Fits) (index : UInt64) :
    readLocal index.toNat editor = looking (editor.frame.localAt index) editor := by
  have length := fits.length_locals
  rw [fits.localAt_eq]
  by_cases inside : index.toNat < editor.frame.maxLocals
  · rw [readLocal_run fits inside, getElem?_eq_slotAt (by omega)]
    rfl
  · rw [List.getElem?_eq_none (by omega)]
    unfold readLocal
    rw [frame_bind, if_pos (by omega)]
    rfl

/-- Reading a stack slot only looks at the frame, whether or not there is such a slot. -/
theorem readStack_eq_looking (fits : editor.frame.Fits) (index : UInt64) :
    readStack index.toNat editor = looking (editor.frame.stackAt index) editor := by
  have length := fits.length_stack
  rw [fits.stackAt_eq]
  by_cases inside : index.toNat < editor.frame.stackSize
  · rw [readStack_run fits inside, getElem?_eq_slotAt (by omega)]
    rfl
  · rw [List.getElem?_eq_none (by omega)]
    unfold readStack
    rw [frame_bind, if_pos (by omega)]
    rfl

end EditM

namespace Session

/-- The log tells how every edit of a frame ended. A refusal over a kind leaves no record, and any
other refusal one line with its message. An edit that is done leaves one line if it takes over
the slots of another frame, with both frames as they were before, one if it is a push that relaxes
the frame, one if it acquires a monitor and raises what the scope needs, and none otherwise. The
same goes for the entry of a method. A freeze leaves one line. The two readers that edits use leave
the log alone even when there is no such slot, and every other reader is a function of the frame,
without a log that it could write to. -/
theorem log_tells_outcomes {edit : Edit Frame} {frame : Frame} (fits : frame.Fits)
    (sourceFits : ∀ source, edit.source? = some source → source.Fits)
    (reservations : Reservations) :
    edit.Logged frame reservations (edit.perform frame reservations) ∧
      (∀ (session : Session) scope maxLocals maxStack parameters,
        Frame.Countable maxLocals maxStack →
        (Edit.storeParameters parameters).Logged
          (Frame.fresh scope maxLocals maxStack session.policy) session.reservations
          (session.entry scope maxLocals maxStack parameters)) ∧
      (∀ (session : Session) source target, session.builder? source = some frame →
        (session.step (.freeze source target)).log.map Event.render =
          ["DEBUG Freezing " ++ frame.render]) ∧
      ∀ (index : UInt64) (log : List Event),
        let editor : Editor := ⟨frame, reservations, log⟩
        EditM.readLocal index.toNat editor = EditM.looking (frame.localAt index) editor ∧
          EditM.readStack index.toNat editor = EditM.looking (frame.stackAt index) editor := by
  refine ⟨Edit.logged_of_perform fits sourceFits reservations, ?_, ?_, ?_⟩
  · intro session scope maxLocals maxStack parameters countable
    exact Edit.logged_of_perform (Frame.fits_fresh scope session.policy countable)
      (Edit.sources_of_none rfl) session.reservations
  · intro session source target found
    have turn : (session.step (.freeze source target)).log = [.freezing frame] := by
      simp only [Session.step, found]
    rw [turn, List.map_singleton, Event.render_eq_line]
  · intro index log editor
    have editorFits : editor.frame.Fits := fits
    exact ⟨EditM.readLocal_eq_looking editorFits index, EditM.readStack_eq_looking editorFits index⟩

/-- A word relaxes a frame that accepts it, and is refused without a record by a frame that does
not. A pop from the empty stack is a fault. -/
theorem log_tells_outcomes_of_words :
    let scope := Scope.root ⟨some 0, 0⟩ "A.b()V"
    let word : Value := ⟨0, 0, .word, ""⟩
    let frame := Frame.fresh scope 0 1 Policy.standard
    let strict := Frame.fresh scope 0 1 Policy.strict
    let push : Edit Frame := .push .word word
    let pop : Edit Frame := .popRaw
    frame.Fits ∧ strict.Fits ∧
      (push.perform frame Reservations.empty).log.map Event.render =
        ["TRACE Pushed a word value, relaxing kind checks in A.b()V@0"] ∧
      (push.perform strict Reservations.empty).log = [] ∧
      (pop.perform frame Reservations.empty).log.map Event.render =
        ["ERROR Frame state fault: operand stack is empty"] := by
  intro scope word frame strict push pop
  have fits : frame.Fits := Frame.fits_fresh scope Policy.standard (by decide)
  have strictFits : strict.Fits := Frame.fits_fresh scope Policy.strict (by decide)
  have pushSources : ∀ source, push.source? = some source → source.Fits :=
    Edit.sources_of_none rfl
  have popSources : ∀ source, pop.source? = some source → source.Fits :=
    Edit.sources_of_none rfl
  have relaxes := (log_tells_outcomes fits pushSources Reservations.empty).1
  have refuses := (log_tells_outcomes strictFits pushSources Reservations.empty).1
  have faults := (log_tells_outcomes fits popSources Reservations.empty).1
  have lines : push.lines frame Reservations.empty (push.perform frame Reservations.empty) =
      ["TRACE Pushed a word value, relaxing kind checks in A.b()V@0"] := by decide
  exact ⟨fits, strictFits, (relaxes.lines_eq .done (by decide)).trans lines,
    refuses.expected (.wordKind .word) (by decide) rfl, faults.fault .emptyStack (by decide) rfl⟩

end Session
end SymbolicFrame
