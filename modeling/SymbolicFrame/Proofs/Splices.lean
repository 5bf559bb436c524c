import SymbolicFrame.Proofs.Footprints

/-!
# Splices in any order

A frame takes over regions of other frames, each as a whole. The frame and the ones that it takes
from may have stacks of different sizes, dead slots above them and lists of monitors that were never
made. What is left after a run of splices is told by which regions were taken over at all: the order
does not matter, a splice made twice counts once, and nothing is left of what the regions held
before. The mode adds up over all the frames that slots were taken from.
-/

namespace SymbolicFrame

/-! ## Runs of splices -/

namespace Edit

variable {Source Target : Type}

/-- Take over a region of a frame. -/
def splice (source : Source) : Region → Edit Source
  | .locals => replaceLocals source
  | .stack => replaceStack source
  | .monitors => replaceMonitors source

/-- Take over regions in an order, each from the frame that is given for it. -/
def splices (donors : Region → Source) (order : List Region) : List (Edit Source) :=
  order.map fun region => splice (donors region) region

/-- The source of a splice is the frame that the region is taken from. -/
theorem source?_splice (source : Source) (region : Region) :
    (splice source region).source? = some source := by
  cases region <;> rfl

/-- A splice with its source seen in another way is a splice of what is seen. -/
theorem map_splice (view : Source → Target) (source : Source) (region : Region) :
    (splice source region).map view = splice (view source) region := by
  cases region <;> rfl

end Edit

namespace Contents

/-- Contents after taking over regions from others, in any order. -/
def spliced (contents : Contents) (donors : Region → Contents) (order : List Region) : Contents :=
  { contents with
    locals := if .locals ∈ order then (donors .locals).locals else contents.locals
    stack := if .stack ∈ order then (donors .stack).stack else contents.stack
    monitors := if .monitors ∈ order then (donors .monitors).monitors else contents.monitors
    relaxed := contents.relaxed || (decide (.locals ∈ order) && (donors .locals).relaxed) ||
      (decide (.stack ∈ order) && (donors .stack).relaxed) }

/-- Contents can take over every region from others. -/
structure CanTake (contents : Contents) (donors : Region → Contents) : Prop where
  /-- There are as many locals where the locals are taken from. -/
  locals : (donors .locals).locals.length = contents.locals.length
  /-- The stack is one that there is room for. -/
  stack : (donors .stack).stack.length ≤ contents.maxStack

variable {contents : Contents} {donors : Region → Contents} {order : List Region}

/-- A region that can be taken over is. -/
theorem CanTake.verdict (canTake : contents.CanTake donors) (region : Region) :
    contents.verdict (.splice (donors region) region) = .ok .done := by
  cases region with
  | locals =>
    have passes : contents.takesLocals (donors .locals) = .ok () :=
      unless_pass.2 (not_not_intro canTake.locals)
    exact congrArg done passes
  | stack =>
    have passes : contents.takesStack (donors .stack) = .ok () :=
      unless_pass.2 (Nat.not_lt.2 canTake.stack)
    exact congrArg done passes
  | monitors => rfl

/-- Regions can be taken over after one of them was. -/
theorem CanTake.change (canTake : contents.CanTake donors) (region : Region) :
    (contents.change (.splice (donors region) region)).CanTake donors := by
  cases region with
  | locals => exact ⟨rfl, canTake.stack⟩
  | stack => exact ⟨canTake.locals, canTake.stack⟩
  | monitors => exact ⟨canTake.locals, canTake.stack⟩

/-- A region taken over first is one of those taken over. -/
theorem spliced_change (contents : Contents) (donors : Region → Contents) (region : Region)
    (order : List Region) :
    (contents.change (.splice (donors region) region)).spliced donors order =
      contents.spliced donors (region :: order) := by
  cases region with
  | locals =>
    by_cases again : Region.locals ∈ order <;>
      simp [spliced, change, Edit.splice, again, Bool.or_assoc]
  | stack =>
    by_cases again : Region.stack ∈ order <;>
      simp [spliced, change, Edit.splice, again, Bool.or_assoc, Bool.or_comm, Bool.or_left_comm]
  | monitors => simp [spliced, change, Edit.splice]

/-- Contents whose regions are all taken over keep their scope, their policy and the size of their
stack. -/
theorem spliced_of_all (all : ∀ region, region ∈ order) :
    contents.spliced donors order =
      { contents with
        locals := (donors .locals).locals
        stack := (donors .stack).stack
        monitors := (donors .monitors).monitors
        relaxed := contents.relaxed || (donors .locals).relaxed || (donors .stack).relaxed } := by
  simp only [spliced, all, if_true, decide_true, Bool.true_and]

/-- Regions that contents can take over are taken over one after the other. -/
theorem CanTake.runsTo (canTake : contents.CanTake donors) (order : List Region) :
    contents.RunsTo (Edit.splices donors order) (order.map fun _ => .done)
      (contents.spliced donors order) := by
  induction order generalizing contents with
  | nil =>
    have none : contents.spliced donors [] = contents := by simp [spliced]
    rw [none]
    exact .nil contents
  | cons region rest ih =>
    have later := ih (canTake.change region)
    rw [spliced_change] at later
    exact .cons (canTake.verdict region) later

/-- Contents are as before if they take regions over from themselves. -/
theorem spliced_self (contents : Contents) (order : List Region) :
    contents.spliced (fun _ => contents) order = contents := by
  have mode : (contents.relaxed || (decide (Region.locals ∈ order) && contents.relaxed) ||
      (decide (Region.stack ∈ order) && contents.relaxed)) = contents.relaxed := by
    cases contents.relaxed <;> simp
  simp only [spliced, ite_self, mode]

end Contents

namespace Edit

variable {frame : Frame} {donors : Region → Frame}

/-- Splices see their sources in another way when each source is seen so. -/
theorem map_splices {Source Target : Type} (view : Source → Target) (donors : Region → Source)
    (order : List Region) : (splices donors order).map (map view) =
      splices (fun region => view (donors region)) order := by
  simp only [splices, List.map_map, Function.comp_def, map_splice]

/-- A frame takes over regions from frames that fit if its contents can take them over. -/
theorem performAll_splices (fits : frame.Fits) (donorsFit : ∀ region, (donors region).Fits)
    (canTake : frame.contents.CanTake fun region => (donors region).contents)
    (order : List Region) (reservations : Reservations) :
    let run := performAll (splices donors order) frame reservations
    run.outcomes = order.map (fun _ => .answer .done) ∧ run.frame.Fits ∧
      run.frame.contents =
        frame.contents.spliced (fun region => (donors region).contents) order := by
  have sourcesFit : ∀ edit ∈ splices donors order, ∀ source, edit.source? = some source →
      source.Fits := by
    intro edit member source isSource
    obtain ⟨region, -, rfl⟩ := List.mem_map.1 member
    rw [source?_splice] at isSource
    cases isSource
    exact donorsFit region
  have runsTo := canTake.runsTo order
  rw [← map_splices] at runsTo
  obtain ⟨outcomes, runFits, shows⟩ := performAll_of_runsTo fits sourcesFit runsTo reservations
  rw [List.map_map] at outcomes
  exact ⟨outcomes, runFits, shows⟩

end Edit

/-! ## Splices of every region -/

/-- Two frames differ at most in what their regions hold. -/
structure Frame.SameBounds (frame other : Frame) : Prop where
  /-- The scope is the same. -/
  scope : other.scope = frame.scope
  /-- The policy is the same. -/
  policy : other.policy = frame.policy
  /-- The mode is the same. -/
  relaxed : other.relaxed = frame.relaxed
  /-- There are as many locals. -/
  maxLocals : other.maxLocals = frame.maxLocals
  /-- The stack may take as many slots. -/
  maxStack : other.maxStack = frame.maxStack

namespace Edit

variable {frame : Frame} {donors : Region → Frame}

/-- A frame can take over regions from frames that have as many locals, and a stack that it has room
for. -/
theorem canTake_of_sizes (fits : frame.Fits) (donorsFit : ∀ region, (donors region).Fits)
    (sameLocals : (donors .locals).maxLocals = frame.maxLocals)
    (room : (donors .stack).stackSize ≤ frame.maxStack) :
    frame.contents.CanTake fun region => (donors region).contents := by
  constructor
  · rw [(donorsFit .locals).length_locals, fits.length_locals, sameLocals]
  · rw [(donorsFit .stack).length_stack]
    exact room

/-- A frame that takes over every region keeps its scope, its policy and its sizes, and reads what
the others hold. It is relaxed if it was or if one was that gave it slots. -/
theorem readers_of_splices (fits : frame.Fits) (donorsFit : ∀ region, (donors region).Fits)
    (canTake : frame.contents.CanTake fun region => (donors region).contents)
    {order : List Region} (all : ∀ region, region ∈ order) (reservations : Reservations) :
    let after := (performAll (splices donors order) frame reservations).frame
    after.scope = frame.scope ∧ after.policy = frame.policy ∧ after.maxLocals = frame.maxLocals ∧
      after.maxStack = frame.maxStack ∧
      (∀ index, after.localAt index = (donors .locals).localAt index) ∧
      after.stackSize = (donors .stack).stackSize ∧
      (∀ index, after.stackAt index = (donors .stack).stackAt index) ∧
      after.locks = (donors .monitors).locks ∧
      (after.relaxed = true ↔ frame.relaxed = true ∨ (donors .locals).relaxed = true ∨
        (donors .stack).relaxed = true) := by
  intro after
  obtain ⟨-, afterFits, shows⟩ := performAll_splices fits donorsFit canTake order reservations
  change after.contents = _ at shows
  rw [Contents.spliced_of_all all] at shows
  have locals : after.contents.locals = (donors .locals).contents.locals := by rw [shows]
  have stack : after.contents.stack = (donors .stack).contents.stack := by rw [shows]
  have mode : after.relaxed =
      (frame.relaxed || (donors .locals).relaxed || (donors .stack).relaxed) :=
    congrArg Contents.relaxed shows
  have maxLocals : after.maxLocals = frame.maxLocals := by
    rw [← afterFits.length_locals, locals, canTake.locals, fits.length_locals]
  have readLocals := (afterFits.localAt_congr (donorsFit .locals) locals).2
  have readStack := afterFits.stackAt_congr (donorsFit .stack) stack
  refine ⟨congrArg Contents.scope shows, congrArg Contents.policy shows, maxLocals,
    congrArg Contents.maxStack shows, readLocals, readStack.1, readStack.2,
    congrArg Contents.monitors shows, ?_⟩
  rw [mode, Bool.or_eq_true, Bool.or_eq_true, or_assoc]

/-- Frames with the same bounds are equal once they have taken over every region, in whatever
orders. -/
theorem agrees_of_splices {other : Frame} (fits : frame.Fits) (otherFits : other.Fits)
    (same : frame.SameBounds other) (donorsFit : ∀ region, (donors region).Fits)
    (canTake : frame.contents.CanTake fun region => (donors region).contents)
    {order otherOrder : List Region} (all : ∀ region, region ∈ order)
    (otherAll : ∀ region, region ∈ otherOrder) (reservations reported : Reservations) :
    (performAll (splices donors order) frame reservations).frame.agrees
      (performAll (splices donors otherOrder) other reported).frame = true := by
  have otherCanTake : other.contents.CanTake fun region => (donors region).contents := by
    constructor
    · rw [canTake.locals, fits.length_locals, otherFits.length_locals, same.maxLocals]
    · rw [Frame.contents_maxStack, same.maxStack]
      exact canTake.stack
  obtain ⟨-, afterFits, shows⟩ := performAll_splices fits donorsFit canTake order reservations
  obtain ⟨-, otherAfterFits, otherShows⟩ :=
    performAll_splices otherFits donorsFit otherCanTake otherOrder reported
  rw [Contents.spliced_of_all all] at shows
  rw [Contents.spliced_of_all otherAll] at otherShows
  apply (Frame.agrees_iff_contents afterFits otherAfterFits).2
  rw [shows, otherShows]
  simp only [Frame.contents, same.scope, same.policy, same.relaxed, same.maxStack]

/-- A frame that takes over regions of frames equal to it stays equal to what it was. -/
theorem agrees_of_own_splices {copies : Region → Frame} (fits : frame.Fits)
    (copiesFit : ∀ region, (copies region).Fits)
    (equal : ∀ region, (copies region).agrees frame = true) (order : List Region)
    (reservations : Reservations) :
    let run := performAll (splices copies order) frame reservations
    run.outcomes = order.map (fun _ => .answer .done) ∧ run.frame.agrees frame = true := by
  intro run
  have sameContents : (fun region => (copies region).contents) = fun _ => frame.contents := by
    funext region
    exact (Frame.agrees_iff_contents (copiesFit region) fits).1 (equal region)
  have canTake : frame.contents.CanTake fun region => (copies region).contents := by
    rw [sameContents]
    constructor
    · rfl
    · rw [fits.length_stack]
      exact fits.sizes.1
  obtain ⟨outcomes, runFits, shows⟩ :=
    performAll_splices fits copiesFit canTake order reservations
  rw [sameContents, Contents.spliced_self] at shows
  exact ⟨outcomes, (Frame.agrees_iff_contents runFits fits).2 shows⟩

/-- Splices commute, a splice made twice counts once, and they erase what they replace. A frame
that takes over its locals, its stack and its monitors, from frames with as many locals and a stack
that it has room for, does so in any order and as often as is asked. It then reads what these frames
hold, keeps its own scope, policy and sizes, and is relaxed if it was or if one was that gave it
slots. The frame left is equal to the one that any other order leaves of any frame that differed
only in what it held. A frame that takes over regions of frames equal to it stays equal to what it
was. -/
theorem splices_in_any_order (fits : frame.Fits) (donorsFit : ∀ region, (donors region).Fits)
    (sameLocals : (donors .locals).maxLocals = frame.maxLocals)
    (room : (donors .stack).stackSize ≤ frame.maxStack) :
    (∀ (order : List Region) (reservations : Reservations), (∀ region, region ∈ order) →
      let run := performAll (splices donors order) frame reservations
      run.outcomes = order.map (fun _ => .answer .done) ∧
        run.frame.scope = frame.scope ∧ run.frame.policy = frame.policy ∧
        run.frame.maxLocals = frame.maxLocals ∧ run.frame.maxStack = frame.maxStack ∧
        (∀ index, run.frame.localAt index = (donors .locals).localAt index) ∧
        run.frame.stackSize = (donors .stack).stackSize ∧
        (∀ index, run.frame.stackAt index = (donors .stack).stackAt index) ∧
        run.frame.locks = (donors .monitors).locks ∧
        (run.frame.relaxed = true ↔ frame.relaxed = true ∨ (donors .locals).relaxed = true ∨
          (donors .stack).relaxed = true)) ∧
    (∀ (other : Frame) (order otherOrder : List Region) (reservations reported : Reservations),
      other.Fits → frame.SameBounds other → (∀ region, region ∈ order) →
      (∀ region, region ∈ otherOrder) →
      (performAll (splices donors order) frame reservations).frame.agrees
        (performAll (splices donors otherOrder) other reported).frame = true) ∧
    (∀ (copies : Region → Frame) (order : List Region) (reservations : Reservations),
      (∀ region, (copies region).Fits) → (∀ region, (copies region).agrees frame = true) →
      let run := performAll (splices copies order) frame reservations
      run.outcomes = order.map (fun _ => .answer .done) ∧ run.frame.agrees frame = true) := by
  have canTake := canTake_of_sizes fits donorsFit sameLocals room
  refine ⟨?_, ?_, ?_⟩
  · intro order reservations all
    have outcomes := (performAll_splices fits donorsFit canTake order reservations).1
    exact ⟨outcomes, readers_of_splices fits donorsFit canTake all reservations⟩
  · intro other order otherOrder reservations reported otherFits same all otherAll
    exact agrees_of_splices fits otherFits same donorsFit canTake all otherAll reservations reported
  · intro copies order reservations copiesFit equal
    exact agrees_of_own_splices fits copiesFit equal order reservations

/-- The locals come from a relaxed frame, the stack from one with other sizes and a dead slot, and
the monitors from one that holds none any more. One order makes the splice of the locals twice, and
the frame has a copy with another dead slot. -/
theorem splices_in_any_order_of_other_sizes :
    let scope := Scope.root ⟨some 0, 0⟩ "A.b()V"
    let callee := Scope.inlined ⟨some 0, 1⟩ "C.d()V" scope
    let wide : Value := ⟨0, 0, .long, ""⟩
    let small : Value := ⟨0, 1, .int, ""⟩
    let object : Value := ⟨0, 2, .object, ""⟩
    let frame : Frame :=
      ⟨⟨1, 1, #[some small, some object, some wide, none]⟩, scope, ⟨some [object]⟩, false,
        Policy.standard⟩
    let copy : Frame :=
      ⟨⟨1, 1, #[some small, some object, none, some small]⟩, scope, ⟨some [object]⟩, false,
        Policy.standard⟩
    let relaxed : Frame :=
      ⟨⟨1, 0, #[some object]⟩, callee, Monitors.empty, true, Policy.strict⟩
    let large : Frame :=
      ⟨⟨3, 2, #[none, some small, none, some wide, none, some object, none]⟩, scope,
        Monitors.empty, false, Policy.standard⟩
    let released : Frame := ⟨⟨0, 0, #[]⟩, callee, ⟨some []⟩, false, Policy.standard⟩
    let donors : Region → Frame
      | .locals => relaxed
      | .stack => large
      | .monitors => released
    let run := performAll (splices donors [.locals, .stack, .locals, .monitors]) frame
      Reservations.empty
    let other := performAll (splices donors [.monitors, .stack, .locals]) copy Reservations.empty
    let own := performAll (splices (fun _ => copy) [.stack, .locals]) frame Reservations.empty
    frame.Fits ∧ (∀ region, (donors region).Fits) ∧ run.frame.stackSize = 2 ∧
      run.frame.localAt 0 = .ok (some object) ∧ run.frame.stackAt 0 = .ok (some wide) ∧
      run.frame.locks = [] ∧ run.frame.relaxed = true ∧ run.frame.agrees other.frame = true ∧
      own.frame.agrees frame = true := by
  intro scope callee wide small object frame copy relaxed large released donors run other own
  have fits : frame.Fits := ⟨⟨by decide, by decide⟩, by decide⟩
  have copyFits : copy.Fits := ⟨⟨by decide, by decide⟩, by decide⟩
  have donorsFit (region : Region) : (donors region).Fits := by
    cases region <;> exact ⟨⟨by decide, by decide⟩, by decide⟩
  have same : frame.SameBounds copy := ⟨rfl, rfl, rfl, rfl, rfl⟩
  have all : ∀ region, region ∈ [Region.locals, .stack, .locals, .monitors] := by
    intro region
    cases region <;> decide
  have otherAll : ∀ region, region ∈ [Region.monitors, .stack, .locals] := by
    intro region
    cases region <;> decide
  obtain ⟨reads, agree, copies⟩ := splices_in_any_order fits donorsFit rfl (by decide)
  obtain ⟨-, -, -, -, -, readLocals, stackSize, readStack, locks, mode⟩ :=
    reads [.locals, .stack, .locals, .monitors] Reservations.empty all
  exact ⟨fits, donorsFit, stackSize, readLocals 0, readStack 0, locks, mode.2 (.inr (.inl rfl)),
    agree copy _ _ Reservations.empty Reservations.empty copyFits same all otherAll,
    (copies (fun _ => copy) _ Reservations.empty (fun _ => copyFits) fun _ => by decide).2⟩

end Edit
end SymbolicFrame
