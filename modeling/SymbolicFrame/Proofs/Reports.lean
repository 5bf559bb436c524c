import Mathlib.Data.List.Infix
import SymbolicFrame.Proofs.Histories
import SymbolicFrame.Proofs.Runs

/-!
# Reports of lock records

Totals are reported for scopes by frames that acquire monitors, and directly. What a scope needs at
any point of a session is the largest total reported for it by then, whoever reported it and in
whatever order, and a graph needs the most that any scope added to it needs. Nothing else that is
done has a say: refused acquisitions, releases, copies and frames that are given up report nothing.
The log tells the same. Its records for one scope climb from zero to what the scope needs, each of
them from where the one before it ended.
-/

namespace SymbolicFrame

/-! ## Largest totals -/

/-- The largest of some totals, and zero if there are none. -/
def largest (totals : List UInt64) : UInt64 := totals.foldr max 0

/-- The totals that reports give for a scope, in order. -/
def totalsFor (scope : Scope) (reports : List (Scope × UInt64)) : List UInt64 :=
  reports.filterMap fun report => if report.1 = scope then some report.2 else none

variable {totals others : List UInt64} {total bound : UInt64} {scope : Scope}

/-- The largest total stays within a bound when all of them do. -/
theorem largest_le_iff : largest totals ≤ bound ↔ ∀ total ∈ totals, total ≤ bound := by
  induction totals with
  | nil => exact ⟨fun _ => List.forall_mem_nil _, fun _ => UInt64.zero_le⟩
  | cons total rest ih =>
    have first : largest (total :: rest) = max total (largest rest) := rfl
    rw [first, Word.max_le_iff, ih, List.forall_mem_cons]

/-- No total exceeds the largest. -/
theorem le_largest (given : total ∈ totals) : total ≤ largest totals :=
  largest_le_iff.1 UInt64.le_rfl total given

/-- Words within the same bounds are the same. -/
theorem eq_of_bounds {left right : UInt64} (same : ∀ bound, left ≤ bound ↔ right ≤ bound) :
    left = right :=
  UInt64.le_antisymm ((same right).2 UInt64.le_rfl) ((same left).1 UInt64.le_rfl)

/-- The same totals have the same largest one, whatever their order. -/
theorem largest_eq_of_mem_iff (same : ∀ total, total ∈ totals ↔ total ∈ others) :
    largest totals = largest others := by
  apply eq_of_bounds
  intro bound
  simp only [largest_le_iff, same]

/-- A total is among those for a scope when it was reported for it. -/
theorem mem_totalsFor {reports : List (Scope × UInt64)} :
    total ∈ totalsFor scope reports ↔ (scope, total) ∈ reports := by
  unfold totalsFor
  rw [List.mem_filterMap]
  constructor
  · rintro ⟨⟨named, given⟩, member, isTotal⟩
    dsimp only at isTotal
    split at isTotal
    · rename_i isScope
      cases isTotal
      rw [← isScope]
      exact member
    · cases isTotal
  · intro member
    exact ⟨(scope, total), member, if_pos rfl⟩

/-- The totals of reports one after the other. -/
theorem totalsFor_append (first second : List (Scope × UInt64)) :
    totalsFor scope (first ++ second) = totalsFor scope first ++ totalsFor scope second :=
  List.filterMap_append

/-- Totals reported for one scope are those for it. -/
theorem totalsFor_map_mk : totalsFor scope (totals.map (Prod.mk scope)) = totals := by
  simp [totalsFor]

/-! ## Reports one after the other -/

/-- The rises of a total from one height to another, each of which starts where the one before it
ended and ends above that. -/
inductive Climb : UInt64 → List (UInt64 × UInt64) → UInt64 → Prop where
  /-- The total has arrived. -/
  | done (height : UInt64) : Climb height [] height
  /-- The total rises, and goes on from there. -/
  | rise {low middle high : UInt64} {rest : List (UInt64 × UInt64)} (higher : low < middle)
      (later : Climb middle rest high) : Climb low ((low, middle) :: rest) high

/-- The rises that log records tell for a scope: what it needed before, and what it needs since. -/
def risesOf (scope : Scope) (events : List Event) : List (UInt64 × UInt64) :=
  events.filterMap fun event => match event with
    | .needing named total previous => if named = scope then some (previous, total) else none
    | .fault _ | .freezing _ | .replacingLocals _ _ | .replacingStack _ _ | .relaxing _ _ => none

/-- The rises that records tell one after the other. -/
@[simp]
theorem risesOf_append (scope : Scope) (first second : List Event) :
    risesOf scope (first ++ second) = risesOf scope first ++ risesOf scope second :=
  List.filterMap_append

namespace Reservations

/-- Report totals one after the other. -/
def raiseAll (reservations : Reservations) (reports : List (Scope × UInt64)) : Reservations :=
  reports.foldl (fun known report => known.raise report.1 report.2) reservations

/-- The log records of reporting totals one after the other. -/
def eventsOfAll : Reservations → List (Scope × UInt64) → List Event
  | _, [] => []
  | reservations, (scope, total) :: rest =>
    reservations.eventsOf scope total ++ (reservations.raise scope total).eventsOfAll rest

variable (reservations : Reservations)

/-- Reports go on from what the ones before them left. -/
theorem raiseAll_append (first second : List (Scope × UInt64)) :
    reservations.raiseAll (first ++ second) = (reservations.raiseAll first).raiseAll second :=
  List.foldl_append

/-- The records of reports go on from what the reports before them left. -/
theorem eventsOfAll_append (first second : List (Scope × UInt64)) :
    reservations.eventsOfAll (first ++ second) =
      reservations.eventsOfAll first ++ (reservations.raiseAll first).eventsOfAll second := by
  induction first generalizing reservations with
  | nil => rfl
  | cons report rest ih =>
    rw [List.cons_append, eventsOfAll, eventsOfAll, ih, List.append_assoc]
    rfl

/-- A scope stays within a bound at a report if it was within it and is not reported above it. -/
theorem least_raise_le_iff (named : Scope) :
    (reservations.raise named total).least scope ≤ bound ↔
      reservations.least scope ≤ bound ∧ (named = scope → total ≤ bound) := by
  rw [least_raise]
  by_cases isScope : scope = named
  · subst isScope
    simp only [true_and, forall_const]
    by_cases higher : reservations.least scope < total
    · rw [if_pos higher]
      exact ⟨fun within => ⟨UInt64.le_of_lt (UInt64.lt_of_lt_of_le higher within), within⟩,
        fun both => both.2⟩
    · rw [if_neg higher]
      have lower := UInt64.not_lt.1 higher
      exact ⟨fun within => ⟨within, UInt64.le_trans lower within⟩, fun both => both.1⟩
  · rw [if_neg fun both => isScope both.1]
    exact ⟨fun within => ⟨within, fun same => absurd same.symm isScope⟩, fun both => both.1⟩

/-- A scope stays within a bound at reports if it was within it and none for it is above it. -/
theorem least_raiseAll_le_iff (reports : List (Scope × UInt64)) :
    (reservations.raiseAll reports).least scope ≤ bound ↔
      reservations.least scope ≤ bound ∧ ∀ total ∈ totalsFor scope reports, total ≤ bound := by
  simp only [mem_totalsFor]
  induction reports generalizing reservations with
  | nil => simp [raiseAll]
  | cons report rest ih =>
    have goesOn : reservations.raiseAll (report :: rest) =
        (reservations.raise report.1 report.2).raiseAll rest := rfl
    rw [goesOn, ih, least_raise_le_iff, and_assoc]
    refine and_congr_right fun _ => ?_
    obtain ⟨named, total⟩ := report
    simp only [List.mem_cons, Prod.mk.injEq]
    constructor
    · rintro ⟨first, later⟩ given (⟨same, rfl⟩ | member)
      · exact first same.symm
      · exact later given member
    · intro all
      exact ⟨fun same => all total (.inl ⟨same.symm, rfl⟩),
        fun given member => all given (.inr member)⟩

/-- What a scope needs never falls. -/
theorem least_le_raiseAll (scope : Scope) (reports : List (Scope × UInt64)) :
    reservations.least scope ≤ (reservations.raiseAll reports).least scope :=
  ((reservations.least_raiseAll_le_iff reports).1 UInt64.le_rfl).1

/-- When nothing was reported before, a scope needs the largest total reported for it. -/
theorem least_empty_raiseAll (scope : Scope) (reports : List (Scope × UInt64)) :
    (empty.raiseAll reports).least scope = largest (totalsFor scope reports) := by
  apply eq_of_bounds
  intro bound
  rw [least_raiseAll_le_iff, largest_le_iff, least_empty]
  exact and_iff_right UInt64.zero_le

/-- The records of reports climb from what a scope needs before them to what it needs after. -/
theorem climb_eventsOfAll (scope : Scope) (reports : List (Scope × UInt64)) :
    Climb (reservations.least scope) (risesOf scope (reservations.eventsOfAll reports))
      ((reservations.raiseAll reports).least scope) := by
  induction reports generalizing reservations with
  | nil => exact .done _
  | cons report rest ih =>
    obtain ⟨named, total⟩ := report
    have later := ih (reservations.raise named total)
    rw [eventsOfAll, risesOf_append]
    -- The report is the next rise of the scope, or neither raises it nor is told for it.
    by_cases rises : scope = named ∧ reservations.least named < total
    · obtain ⟨rfl, higher⟩ := rises
      have told : risesOf scope (reservations.eventsOf scope total) =
          [(reservations.least scope, total)] := by
        rw [eventsOf, if_pos higher]
        simp [risesOf]
      have raised : (reservations.raise scope total).least scope = total := by
        rw [least_raise, if_pos ⟨rfl, higher⟩]
      rw [told]
      rw [raised] at later
      exact .rise higher later
    · have told : risesOf scope (reservations.eventsOf named total) = [] := by
        unfold eventsOf
        split
        · rename_i higher
          have isOther : named ≠ scope := fun same => rises ⟨same.symm, higher⟩
          simp [risesOf, isOther]
        · rfl
      have kept : (reservations.raise named total).least scope = reservations.least scope := by
        rw [least_raise, if_neg rises]
      rw [told]
      rw [kept] at later
      exact later

end Reservations

/-! ## What an edit reports -/

/-- Lock records and a log tell of reports: the records are raised by them, and the log tells the
rises of every scope. -/
structure Told (before : Reservations) (reports : List (Scope × UInt64)) (after : Reservations)
    (log : List Event) : Prop where
  /-- The lock records are raised by the reports. -/
  after_eq : after = before.raiseAll reports
  /-- The log tells the rises of every scope. -/
  rises_eq : ∀ scope, risesOf scope log = risesOf scope (before.eventsOfAll reports)

/-- What tells of reports one after the other tells of all of them. -/
theorem Told.append {before middle after : Reservations} {first second : List (Scope × UInt64)}
    {start rest : List Event} (begun : Told before first middle start)
    (goesOn : Told middle second after rest) :
    Told before (first ++ second) after (start ++ rest) := by
  have isMiddle := begun.after_eq
  subst isMiddle
  constructor
  · rw [Reservations.raiseAll_append]
    exact goesOn.after_eq
  · intro scope
    rw [risesOf_append, begun.rises_eq, goesOn.rises_eq, Reservations.eventsOfAll_append,
      risesOf_append]

/-- A stop tells no rises. -/
theorem risesOf_stop (scope : Scope) (stop : Stop) : risesOf scope stop.records = [] := by
  cases stop with
  | breach => rfl
  | refusal cause => cases cause <;> rfl

namespace Edit

variable {Name Source Target : Type}

/-- The total that an edit reports when it is done, for an acquired monitor. -/
def reports : Edit Source → List (Scope × UInt64)
  | lock scope _ total => [(scope, total)]
  | push _ _ | pop _ | pushRaw _ | popRaw | popArguments _ | truncateStack _ | clearStack
  | loadLocal _ _ | storeLocal _ _ _ | invalidateLocal _ | clearLocals | storeParameters _
  | replaceLocals _ | replaceStack _ | replaceMonitors _ | unlock => []

/-- Finding the source of an edit leaves what it reports. -/
theorem reports_of_resolve? {find : Name → Option Source} {edit : Edit Name}
    {resolved : Edit Source} (resolves : edit.resolve? find = some resolved) :
    resolved.reports = edit.reports := by
  cases edit with
  | replaceLocals | replaceStack | replaceMonitors =>
    obtain ⟨source, -, rfl⟩ := Option.map_eq_some_iff.1 resolves
    rfl
  | push | pop | pushRaw | popRaw | popArguments | truncateStack | clearStack | loadLocal
  | storeLocal | invalidateLocal | clearLocals | storeParameters | lock | unlock =>
    cases resolves
    rfl

/-- What an edit that is done leaves tells of its reports. -/
theorem told_of_done (edit : Edit Frame) (frame : Frame) (reservations : Reservations) :
    Told reservations edit.reports (edit.reported reservations)
      (edit.records frame reservations) := by
  cases edit with
  | lock scope object total =>
    have once : reservations.eventsOfAll [(scope, total)] =
        reservations.eventsOf scope total := List.append_nil _
    refine ⟨rfl, fun named => ?_⟩
    rw [reports, once]
    rfl
  | push kind value =>
    refine ⟨rfl, fun named => ?_⟩
    change risesOf named (if kind.isWordLike && !frame.relaxed then
      [.relaxing kind frame.scope] else []) = []
    split <;> rfl
  | pop | pushRaw | popRaw | popArguments | truncateStack | clearStack | loadLocal | storeLocal
  | invalidateLocal | clearLocals | storeParameters | replaceLocals | replaceStack
  | replaceMonitors | unlock => exact ⟨rfl, fun named => rfl⟩

/-- What an edit leaves tells of its reports if it is done, and of none otherwise. -/
theorem told_of_perform {edit : Edit Frame} {frame : Frame} (fits : frame.Fits)
    (sourceFits : ∀ source, edit.source? = some source → source.Fits)
    (reservations : Reservations) :
    let performed := edit.perform frame reservations
    Told reservations (if performed.outcome.isAnswer then edit.reports else [])
      performed.reservations performed.log := by
  intro performed
  cases accepted : frame.contents.verdict (edit.map Frame.contents) with
  | ok answer =>
    obtain ⟨after, ended, -⟩ := perform_of_ok fits sourceFits reservations accepted
    have isEnd : performed = _ := ended
    rw [isEnd]
    exact told_of_done edit frame reservations
  | error stop =>
    have isEnd : performed = _ := perform_of_error fits sourceFits reservations accepted
    rw [isEnd]
    dsimp only
    rw [stop.isAnswer_outcome]
    exact ⟨rfl, fun scope => risesOf_stop scope stop⟩

end Edit

/-- The reply to an edit is an answer if the edit ended with one. -/
theorem Outcome.isAnswer_reply (outcome : Outcome) : outcome.reply.isAnswer = outcome.isAnswer := by
  cases outcome <;> rfl

namespace Session

/-! ## What a run reports -/

/-- What the steps of a run give, in order. -/
def gather {α : Type} (gives : Session → Step → List α) : Session → List Step → List α
  | _, [] => []
  | session, step :: rest => gives session step ++ gather gives (session.step step).session rest

/-- The totals that a step reports for scopes, in order. -/
def reports (session : Session) (step : Step) : List (Scope × UInt64) :=
  match step with
  | .report scope total => [(scope, total)]
  | .detachedScope name caller totals =>
    totals.map (Prod.mk (Scope.make ⟨none, session.detached⟩ name caller))
  | .edit _ edit => if (session.step step).reply.isAnswer then edit.reports else []
  | .addGraph | .useGraph _ | .addValue _ _ | .addScope _ _ | .create _ _ _ _ _
  | .enter _ _ _ _ _ | .snapshot _ _ | .freeze _ _ | .duplicate _ _ | .thaw _ _
  | .copyParts _ _ _ => []

/-- The scope that a step adds to a graph, if it adds one to it. -/
def addedTo (graph : Nat) (session : Session) : Step → List Scope
  | .addScope name caller =>
    if session.current = graph then
      [Scope.make ⟨some graph, (session.scopesOf graph).length⟩ name caller]
    else []
  | .addGraph | .useGraph _ | .addValue _ _ | .detachedScope _ _ _ | .report _ _
  | .create _ _ _ _ _ | .enter _ _ _ _ _ | .snapshot _ _ | .freeze _ _ | .duplicate _ _
  | .thaw _ _ | .copyParts _ _ _ | .edit _ _ => []

variable {session : Session} {graph : Nat}

/-- Totals reported for a scope of no graph are reported one after the other, and what it needs is
seen after each. -/
theorem reportAll_eq (scope : Scope) (totals : List UInt64) (reservations : Reservations) :
    let given := totals.map (Prod.mk scope)
    let told := reportAll scope totals reservations
    reservations.least scope :: told.1 =
        totals.inits.map
          (fun start => (reservations.raiseAll (start.map (Prod.mk scope))).least scope) ∧
      told.2.1 = reservations.eventsOfAll given ∧ told.2.2 = reservations.raiseAll given := by
  induction totals generalizing reservations with
  | nil => exact ⟨rfl, rfl, rfl⟩
  | cons total rest ih =>
    obtain ⟨seen, events, final⟩ := ih (reservations.raise scope total)
    refine ⟨?_, ?_, ?_⟩
    · rw [List.inits, List.map_cons, List.map_map]
      exact congrArg (reservations.least scope :: ·) seen
    · exact congrArg (reservations.eventsOf scope total ++ ·) events
    · exact final

/-- The entry of a method tells of no report, whether or not the parameters are stored. -/
theorem rises_of_entry (session : Session) (scope : Scope) {maxLocals maxStack : Nat}
    (countable : Frame.Countable maxLocals maxStack) (parameters : List Value) (named : Scope) :
    risesOf named (session.entry scope maxLocals maxStack parameters).log = [] := by
  let fresh := Frame.fresh scope maxLocals maxStack session.policy
  let edit : Edit Frame := .storeParameters parameters
  let entered := edit.perform fresh session.reservations
  have freshFits : fresh.Fits := Frame.fits_fresh scope session.policy countable
  have told : Told session.reservations (if entered.outcome.isAnswer then edit.reports else [])
      entered.reservations entered.log :=
    Edit.told_of_perform freshFits (Edit.sources_of_none rfl) session.reservations
  have silent : (if entered.outcome.isAnswer then edit.reports else []) = [] := ite_self _
  rw [silent] at told
  exact told.rises_eq named

/-- What a step leaves tells of its reports. -/
theorem told_of_step (fits : session.Every Frame.Fits) (step : Step) :
    Told session.reservations (session.reports step) (session.step step).session.reservations
      (session.step step).log := by
  have nothing : Told session.reservations [] session.reservations [] := ⟨rfl, fun _ => rfl⟩
  cases step with
  | addGraph | addValue | addScope => exact nothing
  | useGraph | create =>
    dsimp only [Session.step, reports]
    split <;> exact nothing
  | snapshot | duplicate | thaw | copyParts =>
    dsimp only [Session.step, reports]
    split <;> exact nothing
  | freeze source target =>
    dsimp only [Session.step, reports]
    split
    · exact ⟨rfl, fun _ => rfl⟩
    · exact nothing
  | report scope total =>
    have once : session.reservations.eventsOfAll [(scope, total)] =
        session.reservations.eventsOf scope total := List.append_nil _
    refine ⟨rfl, fun named => ?_⟩
    rw [reports, once]
    rfl
  | detachedScope name caller totals =>
    have told := reportAll_eq (Scope.make ⟨none, session.detached⟩ name caller) totals
      session.reservations
    exact ⟨told.2.2, fun named => congrArg (risesOf named) told.2.1⟩
  | enter name scope maxLocals maxStack parameters =>
    dsimp only [Session.step, reports]
    split
    · rename_i countable
      have rises := session.rises_of_entry scope countable parameters
      split
      · exact ⟨rfl, rises⟩
      · exact ⟨rfl, rises⟩
    · exact nothing
  | edit name edit =>
    dsimp only [reports]
    rcases session.step_edit name edit with turn | ⟨frame, resolved, found, resolves, turn⟩
    · rw [turn]
      exact nothing
    · let performed := resolved.perform frame session.reservations
      have told : Told session.reservations
          (if performed.outcome.isAnswer then resolved.reports else []) performed.reservations
          performed.log :=
        Edit.told_of_perform (fits name frame (frame?_of_builder? found))
          (sources_fit fits resolves) session.reservations
      rw [turn]
      dsimp only
      rw [Outcome.isAnswer_reply, ← Edit.reports_of_resolve? resolves]
      exact told

/-- What a run leaves tells of all that it reports. -/
theorem told_of_run (fits : session.Every Frame.Fits) (steps : List Step) :
    Told session.reservations (session.gather reports steps) (session.run steps).reservations
      (session.gather (fun session step => (session.step step).log) steps) := by
  induction steps generalizing session with
  | nil => exact ⟨rfl, fun _ => rfl⟩
  | cons step rest ih => exact (told_of_step fits step).append (ih (every_fits_run fits [step]))

/-- A step leaves the scopes of a graph, and the one that it adds after them. -/
theorem scopesOf_step (step : Step) :
    (session.step step).session.scopesOf graph =
      session.scopesOf graph ++ session.addedTo graph step := by
  have kept {after : Session} (same : after.scopes = session.scopes) :
      after.scopesOf graph = session.scopesOf graph ++ [] := by
    rw [scopesOf, same, List.append_nil]
    rfl
  cases step with
  | addScope name caller =>
    let scope := Scope.make ⟨some session.current, (session.scopesOf session.current).length⟩ name
      caller
    have isKey : scope.key.graph = some session.current := by
      cases caller <;> rfl
    have after : (session.step (.addScope name caller)).session.scopesOf graph =
        (session.scopes.push scope).toList.filter fun scope => scope.key.graph = some graph := rfl
    -- The new scope belongs to the current graph, so it is last there and nowhere else.
    rw [after, Array.toList_push, List.filter_append]
    refine congrArg (session.scopesOf graph ++ ·) ?_
    dsimp only [addedTo]
    by_cases isCurrent : session.current = graph
    · subst isCurrent
      rw [if_pos rfl, List.filter_singleton, isKey]
      simp [scope]
    · rw [if_neg isCurrent, List.filter_singleton, isKey]
      simp [isCurrent]
  | addGraph | addValue | detachedScope | report => exact kept rfl
  | useGraph | create | snapshot | freeze | duplicate | thaw | copyParts | edit =>
    dsimp only [Session.step, addedTo]
    split <;> exact kept rfl
  | enter =>
    dsimp only [Session.step, addedTo]
    split
    · split <;> exact kept rfl
    · exact kept rfl

/-- The scopes of a graph after a run are those from before and the ones that the run adds to it. -/
theorem scopesOf_run (session : Session) (steps : List Step) :
    (session.run steps).scopesOf graph =
      session.scopesOf graph ++ session.gather (addedTo graph) steps := by
  induction steps generalizing session with
  | nil => exact (List.append_nil _).symm
  | cons step rest ih =>
    have later := ih (session.step step).session
    rw [scopesOf_step, List.append_assoc] at later
    exact later

/-! ## What scopes and graphs need -/

/-- What scopes need after a run is given by what the run reports. -/
theorem reservations_run (trusted : Bool) (steps : List Step) :
    ((initial trusted).run steps).reservations =
      Reservations.empty.raiseAll ((initial trusted).gather reports steps) :=
  (told_of_run (every_initial trusted _) steps).after_eq

/-- A scope needs the largest total that was reported for it. -/
theorem least_run (trusted : Bool) (steps : List Step) (scope : Scope) :
    ((initial trusted).run steps).reservations.least scope =
      largest (totalsFor scope ((initial trusted).gather reports steps)) := by
  rw [reservations_run, Reservations.least_empty_raiseAll]

/-- A graph needs the most that any scope needs that was added to it. -/
theorem maxLocks_run (trusted : Bool) (steps : List Step) (graph : Nat) :
    ((initial trusted).run steps).maxLocks graph =
      largest (((initial trusted).gather (addedTo graph) steps).map
        ((initial trusted).run steps).reservations.least) := by
  have scopes : ((initial trusted).run steps).scopesOf graph = _ :=
    scopesOf_run (initial trusted) steps
  have none : (initial trusted).scopesOf graph = [] := rfl
  rw [none, List.nil_append] at scopes
  rw [← scopes]
  rfl

/-- Runs that make the same reports, in whatever order, leave a scope with the same needs. -/
theorem least_eq_of_perm {trusted : Bool} {steps others : List Step}
    (same : ((initial trusted).gather reports others).Perm ((initial trusted).gather reports steps))
    (scope : Scope) :
    ((initial trusted).run others).reservations.least scope =
      ((initial trusted).run steps).reservations.least scope := by
  rw [least_run, least_run]
  apply largest_eq_of_mem_iff
  intro total
  rw [mem_totalsFor, mem_totalsFor]
  exact same.mem_iff

/-- Runs that make the same reports and add the same scopes to a graph, in whatever order, leave it
with the same needs. -/
theorem maxLocks_eq_of_perm {trusted : Bool} {steps others : List Step}
    (same : ((initial trusted).gather reports others).Perm ((initial trusted).gather reports steps))
    (sameScopes : ((initial trusted).gather (addedTo graph) others).Perm
      ((initial trusted).gather (addedTo graph) steps)) :
    ((initial trusted).run others).maxLocks graph =
      ((initial trusted).run steps).maxLocks graph := by
  have sameLeast := funext (least_eq_of_perm same)
  rw [maxLocks_run, maxLocks_run, sameLeast]
  apply largest_eq_of_mem_iff
  intro total
  exact (sameScopes.map _).mem_iff

/-- What a scope of no graph needs is seen at first and after each of its reports. -/
theorem reply_detachedScope (trusted : Bool) (steps : List Step) (name : String)
    (caller : Option Scope) (totals : List UInt64) :
    let session := (initial trusted).run steps
    let scope := Scope.make ⟨none, session.detached⟩ name caller
    (session.step (.detachedScope name caller totals)).reply =
      .detached scope (totals.inits.map fun given =>
        largest (totalsFor scope ((initial trusted).gather reports steps) ++ given)) := by
  intro session scope
  have seen := (reportAll_eq scope totals session.reservations).1
  have known : session.reservations =
      Reservations.empty.raiseAll ((initial trusted).gather reports steps) :=
    reservations_run trusted steps
  refine congrArg (Reply.detached scope) (seen.trans (List.map_congr_left fun given _ => ?_))
  rw [known, ← Reservations.raiseAll_append, Reservations.least_empty_raiseAll, totalsFor_append,
    totalsFor_map_mk]

/-- The log records of a run for a scope climb from zero to what the scope needs. -/
theorem climb_run (trusted : Bool) (steps : List Step) (scope : Scope) :
    Climb 0
      (risesOf scope ((initial trusted).gather (fun session step => (session.step step).log) steps))
      (((initial trusted).run steps).reservations.least scope) := by
  have told : Told Reservations.empty ((initial trusted).gather reports steps)
      ((initial trusted).run steps).reservations _ := told_of_run (every_initial trusted _) steps
  rw [told.rises_eq scope, told.after_eq]
  exact Reservations.climb_eventsOfAll Reservations.empty scope _

/-- At any point of any session, a scope needs the largest total reported for it by then, zero if
there is none, and a graph the most that any scope added to it needs. Acquired monitors, direct
reports and those made for a scope of no graph are all that counts, and their order does not: two
runs that make the same reports in any order leave every scope with the same needs, and so every
graph to which they add the same scopes. What a scope of no graph needs is seen at first and after
each of its reports. The log records for a scope climb from zero to what it needs. -/
theorem least_eq_largest_report (trusted : Bool) (steps : List Step) :
    let start := initial trusted
    let session := start.run steps
    let reported := start.gather reports steps
    (∀ scope, session.reservations.least scope = largest (totalsFor scope reported)) ∧
      (∀ graph, session.maxLocks graph = largest ((start.gather (addedTo graph) steps).map
        fun scope => largest (totalsFor scope reported))) ∧
      (∀ others, (start.gather reports others).Perm reported →
        (∀ scope, (start.run others).reservations.least scope =
          session.reservations.least scope) ∧
        ∀ graph, (start.gather (addedTo graph) others).Perm (start.gather (addedTo graph) steps) →
          (start.run others).maxLocks graph = session.maxLocks graph) ∧
      (∀ name caller totals,
        let scope := Scope.make ⟨none, session.detached⟩ name caller
        (session.step (.detachedScope name caller totals)).reply =
          .detached scope (totals.inits.map fun given =>
            largest (totalsFor scope reported ++ given))) ∧
      ∀ scope, Climb 0
        (risesOf scope (start.gather (fun session step => (session.step step).log) steps))
        (session.reservations.least scope) := by
  intro start session reported
  have least : session.reservations.least = fun scope => largest (totalsFor scope reported) :=
    funext (least_run trusted steps)
  refine ⟨least_run trusted steps, fun graph => ?_, fun others same => ?_,
    reply_detachedScope trusted steps, climb_run trusted steps⟩
  · rw [← least]
    exact maxLocks_run trusted steps graph
  · exact ⟨least_eq_of_perm same, fun graph sameScopes => maxLocks_eq_of_perm same sameScopes⟩

/-- Two runs make the same three reports in opposite orders, from frames of different scopes. One of
them also refuses to acquire the monitor of an integer, and gives up the frame that reported. -/
theorem least_eq_largest_report_shuffled :
    let caller := Scope.root ⟨some 0, 0⟩ "A.b()V"
    let callee := Scope.inlined ⟨some 0, 1⟩ "C.d()V" caller
    let object : Value := ⟨0, 0, .object, ""⟩
    let narrow : Value := ⟨0, 1, .int, ""⟩
    let scopes : List Step := [.addScope "A.b()V" none, .addScope "C.d()V" (some caller)]
    let steps : List Step := scopes ++
      [.create "a" caller 0 0 Policy.standard, .edit "a" (.lock callee object 2),
        .edit "a" (.lock callee narrow 9), .edit "a" .unlock, .report callee 1, .report caller 3]
    let others : List Step := scopes ++
      [.report caller 3, .report callee 1, .create "b" callee 1 1 Policy.strict,
        .edit "b" (.lock callee object 2), .create "b" caller 0 0 Policy.strict]
    let start := initial false
    (start.gather reports others).Perm (start.gather reports steps) ∧
      (start.run others).reservations.least callee = 2 ∧
      (start.run steps).maxLocks 0 = 3 ∧ (start.run others).maxLocks 0 = 3 ∧
      risesOf callee (start.gather (fun session step => (session.step step).log) others) =
        [(0, 1), (1, 2)] := by
  intro caller callee object narrow scopes steps others start
  obtain ⟨least, -, shuffled, -⟩ := least_eq_largest_report false steps
  have same : (start.gather reports others).Perm (start.gather reports steps) := by decide
  have sameScopes : (start.gather (addedTo 0) others).Perm
      (start.gather (addedTo 0) steps) := by decide
  obtain ⟨sameLeast, sameMost⟩ := shuffled others same
  have most : (start.run steps).maxLocks 0 = 3 := by decide
  refine ⟨same, ?_, most, (sameMost 0 sameScopes).trans most, by decide⟩
  rw [sameLeast, least]
  decide

end Session
end SymbolicFrame
