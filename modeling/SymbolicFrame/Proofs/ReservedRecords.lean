import SymbolicFrame.Proofs.Reports

/-!
# Lock records for every frame

A method is compiled with the lock records that its graph needs, and a frame of it must never hold
more monitors than that. Only acquiring a monitor reports to a scope. Copies, and frames that take
over the monitors of another, report nothing, even when the other one belongs to another scope. The
records suffice all the same. What a graph needs never falls, so monitors that once were covered by
a report stay covered wherever they are moved, as long as each acquisition reports at least what its
own frame holds.
-/

namespace SymbolicFrame

/-- An edit reports the same totals when its source is seen in another way. -/
@[simp]
theorem Edit.reports_map {Source Target : Type} (view : Source → Target) (edit : Edit Source) :
    (edit.map view).reports = edit.reports := by
  cases edit <;> rfl

namespace Contents

variable {contents : Contents}

/-- An edit that acquires no monitor leaves no more monitors than it found, in the frame or in its
source. -/
theorem length_monitors_change_le {edit : Edit Contents} {bound : Nat}
    (held : contents.monitors.length ≤ bound)
    (sources : ∀ source, edit.source? = some source → source.monitors.length ≤ bound)
    (silent : edit.reports = []) : (contents.change edit).monitors.length ≤ bound := by
  cases edit with
  | lock scope object total => cases silent
  | unlock =>
    have shorter : contents.monitors.dropLast.length ≤ contents.monitors.length :=
      (List.dropLast_sublist _).length_le
    exact shorter.trans held
  | replaceMonitors source => exact sources source rfl
  | push | pop | pushRaw | popRaw | popArguments | truncateStack | clearStack | loadLocal
  | storeLocal | invalidateLocal | clearLocals | storeParameters | replaceLocals
  | replaceStack => exact held

/-- A copy holds no more monitors than there were. -/
theorem length_monitors_kept_le (parts : Parts) :
    (contents.kept parts).monitors.length ≤ contents.monitors.length := by
  unfold kept
  dsimp only
  split
  · exact Nat.le_refl _
  · exact Nat.zero_le _

end Contents

namespace Session

variable {session : Session} {graph : Nat} {step : Step}

/-! ## What a graph needs never falls -/

/-- A graph needs as much as each of its scopes. -/
theorem least_le_maxLocks {scope : Scope} (belongs : scope ∈ session.scopesOf graph) :
    session.reservations.least scope ≤ session.maxLocks graph :=
  le_largest (List.mem_map_of_mem belongs)

/-- A step leaves a graph all of its scopes. -/
theorem mem_scopesOf_step {scope : Scope} (belongs : scope ∈ session.scopesOf graph) :
    scope ∈ (session.step step).session.scopesOf graph := by
  rw [scopesOf_step]
  exact List.mem_append_left _ belongs

/-- A step never lowers what a scope needs. -/
theorem least_le_step (fits : session.Every Frame.Fits) (step : Step) (scope : Scope) :
    session.reservations.least scope ≤ (session.step step).session.reservations.least scope := by
  rw [(told_of_step fits step).after_eq]
  exact session.reservations.least_le_raiseAll scope _

/-- A step never lowers what a graph needs. -/
theorem maxLocks_le_step (fits : session.Every Frame.Fits) (step : Step) :
    session.maxLocks graph ≤ (session.step step).session.maxLocks graph := by
  have bounded : ∀ total ∈ (session.scopesOf graph).map session.reservations.least,
      total ≤ (session.step step).session.maxLocks graph := by
    intro total given
    obtain ⟨scope, belongs, rfl⟩ := List.mem_map.1 given
    exact UInt64.le_trans (least_le_step fits step scope)
      (least_le_maxLocks (mem_scopesOf_step belongs))
  exact largest_le_iff.2 bounded

/-- A graph needs all that a step reports for its scopes from then on. -/
theorem report_le_maxLocks (fits : session.Every Frame.Fits) {report : Scope × UInt64}
    (belongs : report.1 ∈ session.scopesOf graph) (reported : report ∈ session.reports step) :
    report.2 ≤ (session.step step).session.maxLocks graph := by
  have needed : report.2 ≤ (session.step step).session.reservations.least report.1 := by
    let raised := session.reservations.raiseAll (session.reports step)
    have itself : raised.least report.1 ≤ raised.least report.1 := UInt64.le_rfl
    have bounds := (session.reservations.least_raiseAll_le_iff (session.reports step)).1 itself
    rw [(told_of_step fits step).after_eq]
    exact bounds.2 report.2 (mem_totalsFor.2 reported)
  exact UInt64.le_trans needed (least_le_maxLocks (mem_scopesOf_step belongs))

/-! ## Frames within what their graph needs -/

/-- A step that edits a frame and reports a total, which is one that acquires a monitor, reports it
for a scope of a graph, and the frame holds no more monitors than that from then on. -/
def ReportsHeld (graph : Nat) (session : Session) : Step → Prop
  | .edit name edit => ∀ report ∈ session.reports (.edit name edit),
      report.1 ∈ session.scopesOf graph ∧
        ∀ frame ∈ (session.step (.edit name edit)).session.frame? name,
          frame.locksSize ≤ report.2.toNat
  | _ => True

instance (graph : Nat) (session : Session) : DecidablePred (session.ReportsHeld graph) :=
  fun step => match step with
  | .edit name edit => inferInstanceAs (Decidable (∀ report ∈ session.reports (.edit name edit),
      report.1 ∈ session.scopesOf graph ∧
        ∀ frame ∈ (session.step (.edit name edit)).session.frame? name,
          frame.locksSize ≤ report.2.toNat))
  | .addGraph | .useGraph _ | .addValue _ _ | .addScope _ _ | .detachedScope _ _ _ | .report _ _
  | .create _ _ _ _ _ | .enter _ _ _ _ _ | .snapshot _ _ | .freeze _ _ | .duplicate _ _
  | .thaw _ _ | .copyParts _ _ _ => .isTrue trivial

/-- No frame holds more monitors than a graph needs lock records. -/
def Reserved (graph : Nat) (session : Session) : Prop :=
  session.Every fun frame => frame.locksSize ≤ (session.maxLocks graph).toNat

/-- Every frame stays within what a graph needs at a step that reports as many monitors as its frame
holds. -/
theorem reserved_step (fits : session.Every Frame.Fits) (reserved : session.Reserved graph)
    (covers : session.ReportsHeld graph step) : (session.step step).session.Reserved graph := by
  intro name frame found
  let most := ((session.step step).session.maxLocks graph).toNat
  have grows : (session.maxLocks graph).toNat ≤ most :=
    UInt64.le_iff_toNat_le.1 (maxLocks_le_step fits step)
  have before : session.Every fun frame => frame.contents.monitors.length ≤ most :=
    fun other held isHeld => (reserved other held isHeld).trans grows
  obtain ⟨-, whence⟩ := whence_of_step fits found
  change frame.contents.monitors.length ≤ most
  generalize shown : frame.contents = contents at whence
  cases whence with
  | stayed _ isHeld => exact before _ _ isHeld
  | created => exact Nat.zero_le _
  | entered => exact Nat.zero_le _
  | copied _ _ isHeld => exact (Contents.length_monitors_kept_le _).trans (before _ _ isHeld)
  | @edited _ edit original resolved _ isBuilder resolves _ reply =>
    have reported : session.reports (.edit name edit) = edit.reports :=
      if_pos (by rw [reply]; rfl)
    have sameReports : (resolved.map Frame.contents).reports = edit.reports := by
      rw [Edit.reports_map, Edit.reports_of_resolve? resolves]
    -- What is reported is a monitor acquired, which the rule covers; any other edit adds none.
    cases acquires : edit.reports with
    | nil =>
      rw [acquires] at sameReports
      exact Contents.length_monitors_change_le (before _ _ (frame?_of_builder? isBuilder))
        (every_source before resolves) sameReports
    | cons report rest =>
      have isReported : report ∈ session.reports (.edit name edit) := by
        rw [reported, acquires]
        exact List.mem_cons_self
      obtain ⟨belongs, covered⟩ := covers report isReported
      rw [← shown]
      exact (covered frame found).trans
        (UInt64.le_iff_toNat_le.1 (report_le_maxLocks fits belongs isReported))

/-- Every frame stays within what a graph needs in a run each step of which reports as many monitors
as its frame holds. -/
theorem reserved_run (fits : session.Every Frame.Fits) (reserved : session.Reserved graph)
    {steps : List Step} (follows : session.Follows (ReportsHeld graph) steps) :
    (session.run steps).Reserved graph := by
  induction steps generalizing session with
  | nil => exact reserved
  | cons step rest ih =>
    exact ih (every_fits_run fits [step]) (reserved_step fits reserved follows.1) follows.2

/-- In a session in which every monitor is acquired for a scope of one graph, with a report of at
least as many records as the frame holds monitors then, no frame ever holds more monitors than the
graph needs records. This goes for frozen frames, for partial copies and for frames that take over
the monitors of a frame of another scope. -/
theorem locksSize_le_maxLocks {trusted : Bool} {graph : Nat} {steps : List Step}
    (follows : (initial trusted).Follows (ReportsHeld graph) steps) {name : String} {frame : Frame}
    (found : ((initial trusted).run steps).frame? name = some frame) :
    frame.locksSize ≤ (((initial trusted).run steps).maxLocks graph).toNat :=
  reserved_run (every_initial trusted _) (every_initial trusted _) follows name frame found

/-- A frame of the callee takes over two monitors of a frame of the caller, which reported the first
for its own scope and the second for the callee's, and is copied in parts and frozen. Refused
acquisitions report what they like. -/
theorem locksSize_le_maxLocks_moved :
    let caller := Scope.root ⟨some 0, 0⟩ "A.b()V"
    let callee := Scope.inlined ⟨some 0, 1⟩ "C.d()V" caller
    let object : Value := ⟨0, 0, .object, ""⟩
    let narrow : Value := ⟨0, 1, .int, ""⟩
    let steps : List Step :=
      [.addScope "A.b()V" none, .addScope "C.d()V" (some caller),
        .create "a" caller 0 0 Policy.standard, .create "b" callee 1 1 Policy.standard,
        .edit "a" (.lock caller object 1), .edit "a" (.lock callee object 2),
        .edit "b" (.replaceMonitors "a"), .edit "a" .unlock, .edit "a" (.lock caller narrow 0),
        .copyParts "b" "c" ⟨false, true, true⟩, .freeze "c" "d"]
    let session := (initial false).run steps
    (initial false).Follows (ReportsHeld 0) steps ∧ session.maxLocks 0 = 2 ∧
      ∃ frame, session.frame? "d" = some frame ∧ frame.scope = callee ∧
        frame.locks = [object, object] ∧ frame.locksSize ≤ (session.maxLocks 0).toNat := by
  intro caller callee object narrow steps session
  have follows : (initial false).Follows (ReportsHeld 0) steps := by decide
  let frame : Frame :=
    ⟨⟨1, 0, #[none, none]⟩, callee, ⟨some [object, object]⟩, false, Policy.standard⟩
  have found : session.frame? "d" = some frame := by decide
  exact ⟨follows, by decide, frame, found, rfl, rfl, locksSize_le_maxLocks follows found⟩

end Session
end SymbolicFrame
