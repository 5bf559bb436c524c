import SymbolicFrame.Proofs.Splices

/-!
# Partial copies

There are three ways to carry parts of a frame over: to copy all of it, to copy some parts, and to
splice them one by one into a fresh frame of the same sizes. They agree. A copy of all parts equals
the frame, a copy of some parts of a copy keeps what both keep, and a partial copy is the fresh
frame with the kept parts spliced in, in any order. Only the mode tells the last two apart: a copy
is relaxed if the frame is, whatever it keeps, and splices carry the mode over with slots only.
-/

namespace SymbolicFrame

/-- Whether a region is among the parts that are kept. -/
def Parts.keeps (parts : Parts) : Region → Bool
  | .locals => parts.locals
  | .stack => parts.stack
  | .monitors => parts.monitors

namespace Contents

variable {contents : Contents} {parts : Parts} {order : List Region}

/-- A copy of all parts shows everything. -/
theorem kept_all (contents : Contents) : contents.kept Parts.all = contents := rfl

/-- A copy of some parts of a copy shows the parts that both keep. -/
theorem kept_kept (contents : Contents) (first second : Parts) :
    (contents.kept first).kept second = contents.kept (first.inter second) := by
  obtain ⟨locals, stack, monitors⟩ := first
  obtain ⟨otherLocals, otherStack, otherMonitors⟩ := second
  have emptied : (if locals then contents.locals
      else List.replicate contents.locals.length none).length = contents.locals.length := by
    split
    · rfl
    · exact List.length_replicate
  simp only [kept, Parts.inter, emptied]
  cases otherLocals <;> cases otherStack <;> cases otherMonitors <;> simp

/-- Fresh contents with parts of others spliced in show what a copy of these parts does, but for the
mode, which comes with slots only. -/
theorem spliced_blank (keeps : ∀ region, region ∈ order ↔ parts.keeps region = true) :
    (blank contents.scope contents.locals.length contents.maxStack contents.policy).spliced
        (fun _ => contents) order =
      { contents.kept parts with
        relaxed := contents.relaxed && (parts.locals || parts.stack) } := by
  have mode : (false || (parts.locals && contents.relaxed) || (parts.stack && contents.relaxed)) =
      (contents.relaxed && (parts.locals || parts.stack)) := by
    cases contents.relaxed <;> simp
  simp only [spliced, keeps, blank, kept, Parts.keeps, Bool.decide_eq_true, mode]

end Contents

namespace Frame

variable {frame : Frame}

/-- A copy of all parts equals the frame. -/
theorem Fits.agrees_copyParts_all (fits : frame.Fits) :
    (frame.copyParts Parts.all).agrees frame = true := by
  obtain ⟨copyFits, shows⟩ := fits.copyParts Parts.all
  apply (agrees_iff_contents copyFits fits).2
  rw [shows, Contents.kept_all]

/-- A copy of some parts of a copy equals the copy of the parts that both keep. -/
theorem Fits.agrees_copyParts_copyParts (fits : frame.Fits) (first second : Parts) :
    ((frame.copyParts first).copyParts second).agrees
      (frame.copyParts (first.inter second)) = true := by
  obtain ⟨firstFits, firstShows⟩ := fits.copyParts first
  obtain ⟨secondFits, secondShows⟩ := firstFits.copyParts second
  obtain ⟨bothFit, bothShow⟩ := fits.copyParts (first.inter second)
  apply (agrees_iff_contents secondFits bothFit).2
  calc
    ((frame.copyParts first).copyParts second).contents =
        (frame.contents.kept first).kept second := by rw [secondShows, firstShows]
    _ = frame.contents.kept (first.inter second) := Contents.kept_kept _ first second
    _ = (frame.copyParts (first.inter second)).contents := bothShow.symm

end Frame

namespace Edit

variable {frame : Frame} {parts : Parts} {order : List Region}

/-- Parts of a frame are spliced into a fresh one, which then shows what a copy of them does, but
for the mode. -/
theorem performAll_splices_fresh (fits : frame.Fits)
    (keeps : ∀ region, region ∈ order ↔ parts.keeps region = true) (reservations : Reservations) :
    let fresh := Frame.fresh frame.scope frame.maxLocals frame.maxStack frame.policy
    let run := performAll (splices (fun _ => frame) order) fresh reservations
    run.outcomes = order.map (fun _ => .answer .done) ∧ run.frame.Fits ∧
      run.frame.contents =
        { frame.contents.kept parts with
          relaxed := frame.relaxed && (parts.locals || parts.stack) } := by
  intro fresh run
  have sizes := fits.sizes
  have freshFits : fresh.Fits := Frame.fits_fresh frame.scope frame.policy sizes.2.2
  have sameLocals : frame.maxLocals = fresh.maxLocals := rfl
  have room : frame.stackSize ≤ fresh.maxStack := by
    change frame.stackSize ≤ (Buffer.fresh frame.maxLocals frame.maxStack).maxStack
    rw [Buffer.maxStack_fresh]
    exact sizes.1
  have canTake := canTake_of_sizes freshFits (fun _ => fits) sameLocals room
  obtain ⟨outcomes, runFits, shows⟩ :=
    performAll_splices freshFits (fun _ => fits) canTake order reservations
  have blank : fresh.contents = Contents.blank frame.contents.scope frame.contents.locals.length
      frame.contents.maxStack frame.contents.policy := by
    rw [Frame.contents_fresh, fits.length_locals]
    rfl
  rw [blank, Contents.spliced_blank keeps] at shows
  exact ⟨outcomes, runFits, shows⟩

/-- Partial copies compose, and agree with splices. A copy of all parts equals the frame, whatever
lies above its stack, and a copy of some parts of a copy equals the copy of the parts that both
keep. The parts that a copy keeps can be spliced into a fresh frame with the scope, the policy and
the sizes of the frame, in any order, and the copy equals what this leaves, save for its mode, which
is always that of the frame. The modes are the same too, unless a relaxed frame gave neither its
locals nor its stack. -/
theorem partial_copies_compose (fits : frame.Fits) :
    (frame.copyParts Parts.all).agrees frame = true ∧
    (∀ first second, ((frame.copyParts first).copyParts second).agrees
      (frame.copyParts (first.inter second)) = true) ∧
    ∀ (parts : Parts) (order : List Region) (reservations : Reservations),
      (∀ region, region ∈ order ↔ parts.keeps region = true) →
      let fresh := Frame.fresh frame.scope frame.maxLocals frame.maxStack frame.policy
      let run := performAll (splices (fun _ => frame) order) fresh reservations
      let copy := frame.copyParts parts
      run.outcomes = order.map (fun _ => .answer .done) ∧ copy.relaxed = frame.relaxed ∧
        copy.agrees { run.frame with relaxed := frame.relaxed } = true ∧
        (copy.agrees run.frame = true ↔
          (frame.relaxed = true → parts.locals = true ∨ parts.stack = true)) := by
  refine ⟨fits.agrees_copyParts_all, fits.agrees_copyParts_copyParts, ?_⟩
  intro parts order reservations keeps fresh run copy
  obtain ⟨outcomes, runFits, shows⟩ := performAll_splices_fresh fits keeps reservations
  change run.frame.contents = _ at shows
  obtain ⟨copyFits, copyShows⟩ := fits.copyParts parts
  have inMode : Frame.contents { run.frame with relaxed := frame.relaxed } =
      frame.contents.kept parts := by
    change { run.frame.contents with relaxed := frame.relaxed } = _
    rw [shows]
    rfl
  have inModeFits : Frame.Fits { run.frame with relaxed := frame.relaxed } :=
    ⟨runFits.formed, runFits.countable⟩
  have modes : copy.contents = run.frame.contents ↔
      frame.relaxed = (frame.relaxed && (parts.locals || parts.stack)) := by
    rw [copyShows, shows]
    constructor
    · exact congrArg Contents.relaxed
    · intro same
      rw [← same]
      rfl
  refine ⟨outcomes, rfl, ?_, ?_⟩
  · apply (Frame.agrees_iff_contents copyFits inModeFits).2
    rw [copyShows, inMode]
  · rw [Frame.agrees_iff_contents copyFits runFits, modes]
    cases frame.relaxed <;> simp

/-- A relaxed frame with a dead slot and a list of monitors that is empty again. A copy of its stack
and monitors is told from a copy of its monitors alone by the mode that splices carry over. -/
theorem partial_copies_compose_relaxed :
    let scope := Scope.root ⟨some 0, 0⟩ "A.b()V"
    let word : Value := ⟨0, 0, .word, ""⟩
    let small : Value := ⟨0, 1, .int, ""⟩
    let frame : Frame :=
      ⟨⟨1, 1, #[some small, some word, some word]⟩, scope, ⟨some []⟩, true, Policy.standard⟩
    let fresh := Frame.fresh scope 1 2 Policy.standard
    let spliced := fun order =>
      (performAll (splices (fun _ => frame) order) fresh Reservations.empty).frame
    frame.Fits ∧ (frame.copyParts Parts.all).agrees frame = true ∧
      ((frame.copyParts ⟨true, true, false⟩).copyParts ⟨false, true, true⟩).agrees
        (frame.copyParts ⟨false, true, false⟩) = true ∧
      (frame.copyParts ⟨false, true, true⟩).agrees (spliced [.monitors, .stack, .monitors]) = true ∧
      (frame.copyParts ⟨false, false, true⟩).relaxed = true ∧
      ¬ (frame.copyParts ⟨false, false, true⟩).agrees (spliced [.monitors]) = true := by
  intro scope word small frame fresh spliced
  have fits : frame.Fits := ⟨⟨by decide, by decide⟩, by decide⟩
  obtain ⟨whole, both, splicing⟩ := partial_copies_compose fits
  have upper : ∀ region, region ∈ [Region.monitors, .stack, .monitors] ↔
      Parts.keeps ⟨false, true, true⟩ region = true := by
    intro region
    cases region <;> decide
  have last : ∀ region, region ∈ [Region.monitors] ↔
      Parts.keeps ⟨false, false, true⟩ region = true := by
    intro region
    cases region <;> decide
  obtain ⟨-, -, -, withSlots⟩ := splicing _ _ Reservations.empty upper
  obtain ⟨-, mode, -, withoutSlots⟩ := splicing _ _ Reservations.empty last
  exact ⟨fits, whole, both _ _, withSlots.2 (by decide), mode,
    fun same => absurd (withoutSlots.1 same rfl) (by decide)⟩

end Edit
end SymbolicFrame
