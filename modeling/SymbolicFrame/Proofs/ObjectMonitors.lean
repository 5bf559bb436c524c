import SymbolicFrame.Proofs.Verdicts
import SymbolicFrame.Proofs.Invariants

/-!
# Monitors of unrelaxed frames

Acquiring a monitor asks for an object, but only while kinds are checked, and nothing asks again
when monitors are released or taken over. The mode of a frame goes with its monitors into every
copy, but a frame that takes over the monitors of another keeps its own mode. So a frame that is not
relaxed may come to hold a value that is no object, and this is the only way: where such a frame
takes over nothing but objects from relaxed ones, all that unrelaxed frames ever hold are objects.
-/

namespace SymbolicFrame

namespace Contents

/-- Kinds are checked, and while they are, every monitor held is an object. -/
structure HoldsObjects (contents : Contents) : Prop where
  /-- The policy asks for the checks. -/
  checked : contents.policy.checkKinds = true
  /-- Without relaxed checks, monitors are objects. -/
  objects : contents.relaxed = false → ∀ object ∈ contents.monitors, object.kind = .object

/-- Contents that are not relaxed take over nothing but objects from relaxed ones. -/
def TakesObjects (contents : Contents) : Edit Contents → Prop
  | .replaceMonitors source => contents.relaxed = false → source.relaxed = true →
    ∀ object ∈ source.monitors, object.kind = .object
  | _ => True

instance (contents : Contents) : DecidablePred contents.TakesObjects := fun edit =>
  match edit with
  | .replaceMonitors source => inferInstanceAs (Decidable (contents.relaxed = false →
    source.relaxed = true → ∀ object ∈ source.monitors, object.kind = .object))
  | .push _ _ | .pop _ | .pushRaw _ | .popRaw | .popArguments _ | .truncateStack _ | .clearStack
  | .loadLocal _ _ | .storeLocal _ _ _ | .invalidateLocal _ | .clearLocals | .storeParameters _
  | .replaceLocals _ | .replaceStack _ | .lock _ _ _ | .unlock => .isTrue trivial

variable {contents : Contents}

/-- Fresh contents that check kinds hold no monitor at all. -/
theorem holdsObjects_blank (scope : Scope) (maxLocals maxStack : Nat) {policy : Policy}
    (checked : policy.checkKinds = true) :
    (blank scope maxLocals maxStack policy).HoldsObjects := by
  refine ⟨checked, fun _ object held => ?_⟩
  cases held

/-- A copy holds the monitors from before or none, in the mode from before. -/
theorem HoldsObjects.kept (holds : contents.HoldsObjects) (parts : Parts) :
    (contents.kept parts).HoldsObjects := by
  refine ⟨holds.checked, fun strict object held => ?_⟩
  have stays : object ∈ contents.monitors := by
    unfold Contents.kept at held
    dsimp only at held
    split at held
    · exact held
    · cases held
  exact holds.objects strict object stays

/-- An edit that is done keeps the monitors of unrelaxed contents objects, if its source has done so
and no others are taken over from relaxed contents. -/
theorem HoldsObjects.change {edit : Edit Contents} {answer : Answer}
    (holds : contents.HoldsObjects)
    (sources : ∀ source, edit.source? = some source → source.HoldsObjects)
    (takes : contents.TakesObjects edit) (accepted : contents.verdict edit = .ok answer) :
    (contents.change edit).HoldsObjects := by
  constructor
  · cases edit <;> exact holds.checked
  intro strict object held
  cases edit with
  | push kind value => exact holds.objects (Bool.or_eq_false_iff.1 strict).1 object held
  | replaceLocals source => exact holds.objects (Bool.or_eq_false_iff.1 strict).1 object held
  | replaceStack source => exact holds.objects (Bool.or_eq_false_iff.1 strict).1 object held
  | replaceMonitors source =>
    cases mode : source.relaxed with
    | false => exact (sources source rfl).objects mode object held
    | true => exact takes strict mode object held
  | lock scope acquired total =>
    have checks : contents.Checks := ⟨holds.checked, strict⟩
    have isObject := checks.accepts_iff.1 (done_iff.1 ⟨answer, accepted⟩)
    rcases List.mem_append.1 held with before | isAcquired
    · exact holds.objects strict object before
    · rw [List.mem_singleton.1 isAcquired]
      exact isObject
  | unlock => exact holds.objects strict object (List.dropLast_subset _ held)
  | pop | pushRaw | popRaw | popArguments | truncateStack | clearStack | loadLocal | storeLocal
  | invalidateLocal | clearLocals | storeParameters => exact holds.objects strict object held

/-- The monitors of unrelaxed contents are objects in every session whose frames check kinds, where
no others are taken over from relaxed contents. -/
theorem holdsObjects_invariant :
    Invariant (fun policy => policy.checkKinds = true) TakesObjects HoldsObjects where
  created scope maxLocals maxStack _ checked := holdsObjects_blank scope maxLocals maxStack checked
  entered checked accepted :=
    (holdsObjects_blank _ _ _ checked).change nofun trivial accepted
  copied holds parts := holds.kept parts
  edited holds sources takes accepted := holds.change sources takes accepted

end Contents

namespace Session

/-- In a session whose frames are all made to check kinds, every monitor of a frame that is not
relaxed is an object, as long as no such frame takes over the monitors of a relaxed one unless they
are objects. -/
theorem unrelaxed_monitors_are_objects {trusted : Bool} {steps : List Step}
    (follows : (initial trusted).Follows
      (Permits (fun policy => policy.checkKinds = true) Contents.TakesObjects) steps)
    {name : String} {frame : Frame}
    (found : ((initial trusted).run steps).frame? name = some frame)
    (strict : frame.relaxed = false) : ∀ object ∈ frame.locks, object.kind = .object :=
  (every_of_invariant Contents.holdsObjects_invariant follows name frame found).objects strict

/-- A relaxed frame holds an integer and gives it to its copy, while a frame beside them takes over
the slots and monitors of one that is not relaxed. -/
theorem unrelaxed_monitors_are_objects_beside_relaxed :
    let scope := Scope.root ⟨some 0, 0⟩ "A.b()V"
    let object : Value := ⟨0, 0, .object, ""⟩
    let narrow : Value := ⟨0, 1, .int, ""⟩
    let word : Value := ⟨0, 2, .word, ""⟩
    let steps : List Step :=
      [.create "a" scope 1 1 Policy.strict, .create "b" scope 1 1 Policy.standard,
        .edit "b" (.lock scope object 1), .edit "a" (.replaceMonitors "b"),
        .edit "b" (.push .word word), .edit "b" (.lock scope narrow 2),
        .copyParts "b" "c" ⟨false, false, true⟩, .edit "c" (.replaceMonitors "b"),
        .edit "c" (.replaceLocals "a")]
    let session := (initial false).run steps
    (initial false).Follows
        (Permits (fun policy => policy.checkKinds = true) Contents.TakesObjects) steps ∧
      ∃ frame, session.frame? "a" = some frame ∧ frame.relaxed = false ∧ frame.locks = [object] ∧
        ∀ held ∈ frame.locks, held.kind = .object := by
  intro scope object narrow word steps session
  have follows : (initial false).Follows
      (Permits (fun policy => policy.checkKinds = true) Contents.TakesObjects) steps := by decide
  let frame : Frame :=
    ⟨⟨1, 0, #[none, none]⟩, scope, ⟨some [object]⟩, false, Policy.strict⟩
  have found : session.frame? "a" = some frame := by decide
  exact ⟨follows, frame, found, rfl, rfl, unrelaxed_monitors_are_objects follows found rfl⟩

/-- Of two frames that check kinds, one is relaxed and acquires the monitor of an integer, and the
other takes over its monitors: it holds the integer and is not relaxed. -/
theorem monitors_taken_over_without_mode :
    let scope := Scope.root ⟨some 0, 0⟩ "A.b()V"
    let narrow : Value := ⟨0, 0, .int, ""⟩
    let word : Value := ⟨0, 1, .word, ""⟩
    let steps : List Step :=
      [.addValue .int "", .addValue .word "", .addScope "A.b()V" none,
        .create "b" scope 0 1 Policy.standard, .edit "b" (.push .word word),
        .edit "b" (.lock scope narrow 1), .create "a" scope 0 1 Policy.standard,
        .edit "a" (.replaceMonitors "b")]
    (initial false).Follows
        (Permits (fun policy => policy.checkKinds = true) fun _ _ => True) steps ∧
      ∃ frame, ((initial false).run steps).frame? "a" = some frame ∧ frame.relaxed = false ∧
        frame.locks = [narrow] ∧ narrow.kind ≠ .object := by
  intro scope narrow word steps
  have follows : (initial false).Follows
      (Permits (fun policy => policy.checkKinds = true) fun _ _ => True) steps := by decide
  let frame : Frame := ⟨⟨0, 0, #[none]⟩, scope, ⟨some [narrow]⟩, false, Policy.standard⟩
  have found : ((initial false).run steps).frame? "a" = some frame := by decide
  exact ⟨follows, frame, found, rfl, rfl, by decide⟩

end Session
end SymbolicFrame
