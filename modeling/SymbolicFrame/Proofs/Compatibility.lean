import SymbolicFrame.Proofs.Equality
import SymbolicFrame.Proofs.Runs

/-!
# Compatible frames stay compatible

Frames are compatible when they have one shape and the same kinds on the stack, whatever values they
hold and whatever their locals are. Every check of an edit looks at sizes and kinds only, save for
those of a load, so compatible frames in one mode and under one policy pass and fail the same
checks, for the same causes. What they give back has the same kinds, and they stay compatible.
-/

namespace SymbolicFrame

/-! ## An equivalence of frames -/

/-- The live stack is what lies above the locals in the live part of the array. -/
theorem Buffer.stack_eq_drop_live (buffer : Buffer) :
    buffer.stack = (buffer.locals ++ buffer.stack).drop buffer.maxLocals := by
  rw [← toList_live, stack_eq_take]
  simp [List.drop_take, valuesSize]

namespace Frame

variable {left right : Frame}

/-- Frames are compatible when their sizes are the same and so are the kinds on their stacks. -/
theorem isCompatible_iff : left.isCompatible right = true ↔
    left.maxLocals = right.maxLocals ∧ left.maxStack = right.maxStack ∧
      left.stackSize = right.stackSize ∧ left.locksSize = right.locksSize ∧
      left.buffer.stack.map Slot.kind? = right.buffer.stack.map Slot.kind? := by
  simp [isCompatible, and_assoc]

/-- Compatibility is an equivalence of frames. -/
theorem isCompatible_equivalence :
    Equivalence fun left right : Frame => left.isCompatible right = true where
  refl frame := isCompatible_iff.2 ⟨rfl, rfl, rfl, rfl, rfl⟩
  symm compatible := by
    obtain ⟨maxLocals, maxStack, stackSize, locksSize, kinds⟩ := isCompatible_iff.1 compatible
    exact isCompatible_iff.2
      ⟨maxLocals.symm, maxStack.symm, stackSize.symm, locksSize.symm, kinds.symm⟩
  trans first second := by
    obtain ⟨maxLocals, maxStack, stackSize, locksSize, kinds⟩ := isCompatible_iff.1 first
    obtain ⟨maxLocals', maxStack', stackSize', locksSize', kinds'⟩ := isCompatible_iff.1 second
    exact isCompatible_iff.2 ⟨maxLocals.trans maxLocals', maxStack.trans maxStack',
      stackSize.trans stackSize', locksSize.trans locksSize', kinds.trans kinds'⟩

/-- Equal frames are compatible. -/
theorem isCompatible_of_agrees (same : left.agrees right = true) :
    left.isCompatible right = true := by
  simp only [agrees, Bool.and_eq_true, beq_iff_eq, Buffer.agrees_iff, Monitors.agrees] at same
  obtain ⟨⟨⟨⟨⟨maxLocals, maxStack, depth, live⟩, -⟩, locks⟩, -⟩, -⟩ := same
  have stack : left.buffer.stack = right.buffer.stack := by
    rw [Buffer.stack_eq_drop_live, live, maxLocals, ← Buffer.stack_eq_drop_live]
  exact isCompatible_iff.2 ⟨maxLocals, maxStack, depth, congrArg List.length locks, by rw [stack]⟩

end Frame

/-! ## Verdicts on compatible contents -/

/-- What the answer of an edit shows of the values in it. -/
inductive Shape where
  /-- There are none to be seen. -/
  | done
  /-- The kind of what was in a slot, if anything was. -/
  | slot (kind? : Option Kind)
  /-- The kinds of several values. -/
  | values (kinds : List Kind)
  deriving DecidableEq

/-- What is compared of the answers of an edit: the kinds of what it took off the stack, and nothing
of a monitor that it released. -/
def Edit.shape {Source : Type} : Edit Source → Answer → Shape
  | .unlock, .slot _ => .done
  | _, .done => .done
  | _, .slot slot => .slot slot.kind?
  | _, .values values => .values (values.map Value.kind)

/-- The same is seen of two results when they are the same failure or two answers that look the
same. -/
theorem map_eq_map_iff {ε α κ : Type} {left right : Except ε α} {view : α → κ} :
    left.map view = right.map view ↔
      (∃ stop, left = .error stop ∧ right = .error stop) ∨
        ∃ found other, left = .ok found ∧ right = .ok other ∧ view found = view other := by
  cases left <;> cases right <;> simp [Except.map, eq_comm]

/-- Edits that answer with something each, of which the same is seen, answer in one shape. -/
theorem map_shape_eq {α κ : Type} {left right : Except Stop α} {view : α → κ}
    (same : left.map view = right.map view) {form : α → Answer} {shape : Answer → Shape}
    (seen : κ → Shape) (sees : ∀ found, shape (form found) = seen (view found)) :
    (left >>= fun found => .ok (form found)).map shape =
      (right >>= fun found => .ok (form found)).map shape := by
  rcases map_eq_map_iff.1 same with ⟨stop, rfl, rfl⟩ | ⟨found, other, rfl, rfl, views⟩
  · rfl
  · change Except.ok (shape (form found)) = Except.ok (shape (form other))
    rw [sees, sees, views]

namespace Contents

/-- Contents have one shape, the same kinds on their stacks, one mode and one policy. -/
structure Compatible (left right : Contents) : Prop where
  /-- They have as many locals. -/
  locals : left.locals.length = right.locals.length
  /-- They have room for as many stack slots. -/
  maxStack : left.maxStack = right.maxStack
  /-- The stack slots hold the same kinds. -/
  kinds : left.stack.map Slot.kind? = right.stack.map Slot.kind?
  /-- They hold as many monitors. -/
  monitors : left.monitors.length = right.monitors.length
  /-- Their checks are relaxed alike. -/
  relaxed : left.relaxed = right.relaxed
  /-- They make the same checks. -/
  policy : left.policy = right.policy

end Contents

/-- Whether a slot holds a wide value is told by its kind. -/
theorem Slot.holdsWide_eq_any (slot : Slot) : slot.holdsWide = slot.kind?.any Kind.isWide := by
  cases slot <;> rfl

/-- Windows with the same kinds are read alike. -/
theorem windowValues_kinds {left right : List Slot}
    (kinds : left.map Slot.kind? = right.map Slot.kind?) (place : Nat) (afterWide : Bool) :
    (EditM.windowValues place afterWide left).map (List.map Value.kind) =
      (EditM.windowValues place afterWide right).map (List.map Value.kind) := by
  induction left generalizing right place afterWide with
  | nil =>
    rw [List.map_nil, eq_comm, List.map_eq_nil_iff] at kinds
    rw [kinds]
  | cons slot rest ih =>
    obtain ⟨other, others, rfl, sameKind, restKinds⟩ := List.map_eq_cons_iff.1 kinds.symm
    cases slot with
    | none =>
      obtain rfl := Option.map_eq_none_iff.1 sameKind
      unfold EditM.windowValues
      split
      · exact ih restKinds.symm (place + 1) false
      · rfl
    | some value =>
      obtain ⟨found, rfl, isKind⟩ := Option.map_eq_some_iff.1 sameKind
      have later := ih restKinds.symm (place + 1) value.kind.isWide
      unfold EditM.windowValues
      rw [isKind]
      rcases map_eq_map_iff.1 later with ⟨index, ended, same⟩ | ⟨values, given, read, same, views⟩
      · rw [ended, same]
        rfl
      · rw [read, same]
        change Except.ok (value.kind :: values.map Value.kind) =
          Except.ok (found.kind :: given.map Value.kind)
        rw [views, isKind]

namespace Contents.Compatible

variable {left right : Contents} (compatible : left.Compatible right)

include compatible

/-- Compatible contents have as many live stack slots. -/
theorem length_stack : left.stack.length = right.stack.length := by
  simpa using congrArg List.length compatible.kinds

/-- A stack slot holds the same kind in both. -/
theorem kind?_slotAt (index : Nat) :
    (slotAt left.stack index).kind? = (slotAt right.stack index).kind? := by
  have same := congrArg (·[index]?.getD none) compatible.kinds
  simp only [List.getElem?_map] at same
  rw [slotAt_eq, slotAt_eq]
  revert same
  cases left.stack[index]? <;> cases right.stack[index]? <;> exact id

/-- A stack slot is filled in both or in neither. -/
theorem isSome_slotAt (index : Nat) :
    (slotAt left.stack index).isSome = (slotAt right.stack index).isSome := by
  have same := congrArg Option.isSome (compatible.kind?_slotAt index)
  rwa [Slot.kind?, Slot.kind?, Option.isSome_map, Option.isSome_map] at same

/-- Values of one kind are accepted by both or refused by both. -/
theorem accepts_eq (kind : Kind) {value other : Value} (sameKind : value.kind = other.kind) :
    left.accepts kind value = right.accepts kind other := by
  unfold accepts
  rw [sameKind, compatible.relaxed, compatible.policy]

/-- Pushes are checked alike. -/
theorem pushes_eq (kind : Kind) (value : Value) :
    left.pushes kind value = right.pushes kind value := by
  unfold pushes
  rw [compatible.accepts_eq kind rfl, compatible.policy, compatible.maxStack,
    compatible.length_stack]

/-- Pops give values of one kind, or are refused alike. -/
theorem popped_kind (kind : Kind) :
    (left.popped kind).map Value.kind = (right.popped kind).map Value.kind := by
  have same := compatible.kind?_slotAt (right.stack.length - kind.slotWidth)
  unfold popped
  dsimp only
  rw [compatible.length_stack, compatible.locals, compatible.isSome_slotAt]
  split
  · rfl
  split
  · rfl
  split
  · rfl
  revert same
  cases slotAt left.stack (right.stack.length - kind.slotWidth) with
  | none =>
    cases slotAt right.stack (right.stack.length - kind.slotWidth) with
    | none => exact fun _ => rfl
    | some value => nofun
  | some value =>
    cases slotAt right.stack (right.stack.length - kind.slotWidth) with
    | none => nofun
    | some other =>
      intro same
      have sameKind : value.kind = other.kind := Option.some.inj same
      dsimp only
      rw [compatible.accepts_eq kind sameKind]
      cases right.accepts kind other with
      | error stop => rfl
      | ok _ => exact congrArg Except.ok sameKind

/-- Raw pops give slots of one kind, or are refused alike. -/
theorem poppedRaw_kind : left.poppedRaw.map Slot.kind? = right.poppedRaw.map Slot.kind? := by
  unfold poppedRaw
  rw [compatible.length_stack]
  split
  · rfl
  · exact congrArg Except.ok (compatible.kind?_slotAt _)

/-- Arguments popped have the same kinds, or are refused alike. -/
theorem arguments_kinds (size : Nat) :
    (left.arguments size).map (List.map Value.kind) =
      (right.arguments size).map (List.map Value.kind) := by
  let base := right.stack.length - size
  have kinds : (left.stack.drop base).map Slot.kind? = (right.stack.drop base).map Slot.kind? := by
    rw [List.map_drop, List.map_drop, compatible.kinds]
  unfold arguments
  rw [compatible.length_stack, compatible.locals]
  dsimp only
  split
  · rfl
  rcases map_eq_map_iff.1 (windowValues_kinds kinds base false) with
    ⟨index, ended, same⟩ | ⟨values, given, read, same, views⟩
  · rw [ended, same]
  · rw [read, same]
    exact congrArg Except.ok views

/-- Cuts are checked alike. -/
theorem cuts_eq (size : Nat) : left.cuts size = right.cuts size := by
  have empty : slotAt left.stack size = none ↔ slotAt right.stack size = none := by
    have same := compatible.isSome_slotAt size
    rw [← Option.not_isSome_iff_eq_none, ← Option.not_isSome_iff_eq_none, same]
  have wide : (slotAt left.stack (size - 1)).holdsWide =
      (slotAt right.stack (size - 1)).holdsWide := by
    rw [Slot.holdsWide_eq_any, Slot.holdsWide_eq_any, compatible.kind?_slotAt]
  unfold cuts
  rw [compatible.length_stack, wide]
  simp only [empty]

/-- A monitor is released by both or by neither. -/
theorem released_unit : left.released.map (fun _ => ()) = right.released.map fun _ => () := by
  have same := compatible.monitors
  unfold released
  rcases List.eq_nil_or_concat left.monitors with leftNone | ⟨leftRest, leftLast, leftSplit⟩
  · rw [leftNone, List.length_nil, eq_comm, List.length_eq_zero_iff] at same
    rw [leftNone, same]
  · rcases List.eq_nil_or_concat right.monitors with rightNone | ⟨rightRest, rightLast, rightSplit⟩
    · rw [rightNone, leftSplit] at same
      simp at same
    · simp only [leftSplit, rightSplit, List.concat_eq_append, List.getLast?_concat]
      rfl

/-- An edit other than a load is done on both, and answers in one shape, or is stopped on both for
one cause. -/
theorem verdict_shape {edit : Edit Contents}
    (notLoad : ∀ index kind, edit ≠ .loadLocal index kind) :
    (left.verdict edit).map edit.shape = (right.verdict edit).map edit.shape := by
  have checked {check other : Except Stop Unit} (same : check = other) :
      (done check).map edit.shape = (done other).map edit.shape := by rw [same]
  cases edit with
  | push kind value => exact checked (compatible.pushes_eq kind value)
  | pop kind => exact map_shape_eq (compatible.popped_kind kind) (.slot ∘ some) fun _ => rfl
  | pushRaw slot =>
    apply checked
    unfold pushesRaw
    rw [compatible.maxStack, compatible.length_stack]
  | popRaw => exact map_shape_eq compatible.poppedRaw_kind .slot fun _ => rfl
  | popArguments size =>
    exact map_shape_eq (compatible.arguments_kinds size.toNat) .values fun _ => rfl
  | truncateStack size => exact checked (compatible.cuts_eq size.toNat)
  | clearStack | clearLocals | replaceMonitors => rfl
  | loadLocal index kind => exact absurd rfl (notLoad index kind)
  | storeLocal index kind value =>
    apply checked
    unfold stores
    rw [compatible.policy, compatible.accepts_eq kind rfl, compatible.locals]
  | invalidateLocal index =>
    apply checked
    rw [compatible.locals]
  | storeParameters parameters =>
    apply checked
    unfold storesParameters
    rw [compatible.policy, compatible.locals]
  | replaceLocals source =>
    apply checked
    unfold takesLocals
    rw [compatible.locals]
  | replaceStack source =>
    apply checked
    unfold takesStack
    rw [compatible.maxStack]
  | lock scope object total => exact checked (compatible.accepts_eq .object rfl)
  | unlock => exact map_shape_eq compatible.released_unit (fun _ => .done) fun _ => rfl

/-! ## Changes of compatible contents -/

/-- Contents stay compatible with other stacks of the same kinds. -/
theorem withStack {stack other : List Slot} (kinds : stack.map Slot.kind? = other.map Slot.kind?) :
    Compatible { left with stack := stack } { right with stack := other } :=
  ⟨compatible.locals, compatible.maxStack, kinds, compatible.monitors, compatible.relaxed,
    compatible.policy⟩

/-- Contents stay compatible with as many other locals. -/
theorem withLocals {locals other : List Slot} (length : locals.length = other.length) :
    Compatible { left with locals := locals } { right with locals := other } :=
  ⟨length, compatible.maxStack, compatible.kinds, compatible.monitors, compatible.relaxed,
    compatible.policy⟩

/-- Contents stay compatible with as many other monitors. -/
theorem withMonitors {monitors other : List Value} (length : monitors.length = other.length) :
    Compatible { left with monitors := monitors } { right with monitors := other } :=
  ⟨compatible.locals, compatible.maxStack, compatible.kinds, length, compatible.relaxed,
    compatible.policy⟩

/-- Contents stay compatible when both are relaxed. -/
theorem relaxing (relaxes : Bool) :
    Compatible { left with relaxed := left.relaxed || relaxes }
      { right with relaxed := right.relaxed || relaxes } :=
  ⟨compatible.locals, compatible.maxStack, compatible.kinds, compatible.monitors,
    by rw [compatible.relaxed], compatible.policy⟩

/-- An edit leaves compatible contents compatible. -/
theorem change (edit : Edit Contents) : (left.change edit).Compatible (right.change edit) := by
  have appended (slots : List Slot) :
      (left.stack ++ slots).map Slot.kind? = (right.stack ++ slots).map Slot.kind? := by
    rw [List.map_append, List.map_append, compatible.kinds]
  have cut (count : Nat) :
      (left.stack.take count).map Slot.kind? = (right.stack.take count).map Slot.kind? := by
    rw [List.map_take, List.map_take, compatible.kinds]
  have popped (width : Nat) : (left.stack.take (left.stack.length - width)).map Slot.kind? =
      (right.stack.take (right.stack.length - width)).map Slot.kind? := by
    rw [compatible.length_stack, cut]
  cases edit with
  | push kind value =>
    exact (compatible.withStack (appended (kind.slots value))).relaxing kind.isWordLike
  | pop kind => exact compatible.withStack (popped kind.slotWidth)
  | pushRaw slot => exact compatible.withStack (appended [slot])
  | popRaw => exact compatible.withStack (popped 1)
  | popArguments size => exact compatible.withStack (popped size.toNat)
  | truncateStack size => exact compatible.withStack (cut size.toNat)
  | clearStack => exact compatible.withStack rfl
  | loadLocal index kind => exact compatible
  | storeLocal index kind value =>
    exact compatible.withLocals (by rw [length_stored, length_stored, compatible.locals])
  | invalidateLocal index =>
    exact compatible.withLocals (by rw [List.length_set, List.length_set, compatible.locals])
  | clearLocals => exact compatible.withLocals (by rw [compatible.locals])
  | storeParameters parameters =>
    exact compatible.withLocals (by rw [length_storedFrom, length_storedFrom, compatible.locals])
  | replaceLocals source => exact (compatible.withLocals rfl).relaxing source.relaxed
  | replaceStack source =>
    have kinds : source.stack.map Slot.kind? = source.stack.map Slot.kind? := rfl
    exact (compatible.withStack kinds).relaxing source.relaxed
  | replaceMonitors source => exact compatible.withMonitors rfl
  | lock scope object total =>
    exact compatible.withMonitors
      (by rw [List.length_append, List.length_append, compatible.monitors])
  | unlock =>
    exact compatible.withMonitors
      (by rw [List.length_dropLast, List.length_dropLast, compatible.monitors])

end Contents.Compatible

/-! ## Runs on compatible frames -/

namespace Edit

/-- Two outcomes of an edit are alike: they are the same, or answers of one shape. -/
def Alike {Source : Type} (edit : Edit Source) : Outcome → Outcome → Prop
  | .answer given, .answer other => edit.shape given = edit.shape other
  | first, second => first = second

/-- Seeing the source of an edit in another way leaves the shape of its answers. -/
theorem shape_map {Source Target : Type} (view : Source → Target) (edit : Edit Source)
    (answer : Answer) : (edit.map view).shape answer = edit.shape answer := by
  cases edit <;> cases answer <;> rfl

/-- Seeing the source of an edit in another way makes no load of it. -/
theorem map_ne_loadLocal {Source Target : Type} (view : Source → Target) {edit : Edit Source}
    (notLoad : ∀ index kind, edit ≠ .loadLocal index kind) (index : UInt64) (kind : Kind) :
    edit.map view ≠ .loadLocal index kind := by
  cases edit with
  | loadLocal index kind => exact absurd rfl (notLoad index kind)
  | push | pop | pushRaw | popRaw | popArguments | truncateStack | clearStack | storeLocal
  | invalidateLocal | clearLocals | storeParameters | replaceLocals | replaceStack
  | replaceMonitors | lock | unlock => nofun

variable {left right : Frame}

/-- An edit other than a load ends alike on compatible frames and leaves compatible ones. -/
theorem perform_compatible {edit : Edit Frame} (leftFits : left.Fits) (rightFits : right.Fits)
    (compatible : left.contents.Compatible right.contents)
    (sourceFits : ∀ source, edit.source? = some source → source.Fits)
    (notLoad : ∀ index kind, edit ≠ .loadLocal index kind)
    (leftReservations rightReservations : Reservations) :
    let first := edit.perform left leftReservations
    let second := edit.perform right rightReservations
    first.frame.Fits ∧ second.frame.Fits ∧
      first.frame.contents.Compatible second.frame.contents ∧
      edit.Alike first.outcome second.outcome := by
  intro first second
  have shapes := compatible.verdict_shape (map_ne_loadLocal Frame.contents notLoad)
  rcases map_eq_map_iff.1 shapes with
    ⟨stop, leftStops, rightStops⟩ | ⟨given, other, leftDone, rightDone, same⟩
  · have firstEnds : first = _ := perform_of_error leftFits sourceFits _ leftStops
    have secondEnds : second = _ := perform_of_error rightFits sourceFits _ rightStops
    rw [firstEnds, secondEnds]
    refine ⟨leftFits, rightFits, compatible, ?_⟩
    cases stop <;> exact rfl
  · obtain ⟨firstAnswers, firstFits, firstShows⟩ := done_of_ok edit leftFits sourceFits
      leftReservations leftDone
    obtain ⟨secondAnswers, secondFits, secondShows⟩ := done_of_ok edit rightFits sourceFits
      rightReservations rightDone
    refine ⟨firstFits, secondFits, ?_, ?_⟩
    · rw [firstShows, secondShows]
      exact compatible.change _
    · rw [firstAnswers, secondAnswers]
      rw [shape_map, shape_map] at same
      exact same

/-- A run without loads ends alike on compatible frames, edit by edit, and leaves compatible
ones. -/
theorem performAll_compatible {edits : List (Edit Frame)} (leftFits : left.Fits)
    (rightFits : right.Fits) (compatible : left.contents.Compatible right.contents)
    (sourceFits : ∀ edit ∈ edits, ∀ source, edit.source? = some source → source.Fits)
    (noLoad : ∀ edit ∈ edits, ∀ index kind, edit ≠ .loadLocal index kind)
    (leftReservations rightReservations : Reservations) :
    let first := performAll edits left leftReservations
    let second := performAll edits right rightReservations
    first.frame.Fits ∧ second.frame.Fits ∧
      first.frame.contents.Compatible second.frame.contents ∧
      ∀ turn ∈ edits.zip (first.outcomes.zip second.outcomes),
        turn.1.Alike turn.2.1 turn.2.2 := by
  induction edits generalizing left right leftReservations rightReservations with
  | nil => exact ⟨leftFits, rightFits, compatible, List.forall_mem_nil _⟩
  | cons edit rest ih =>
    obtain ⟨editSourceFits, restSourceFits⟩ := List.forall_mem_cons.1 sourceFits
    obtain ⟨editNotLoad, restNoLoad⟩ := List.forall_mem_cons.1 noLoad
    obtain ⟨firstFits, secondFits, between, alike⟩ := perform_compatible leftFits rightFits
      compatible editSourceFits editNotLoad leftReservations rightReservations
    obtain ⟨lastFits, otherFits, final, later⟩ :=
      ih firstFits secondFits between restSourceFits restNoLoad _ _
    exact ⟨lastFits, otherFits, final, List.forall_mem_cons.2 ⟨alike, later⟩⟩

end Edit

namespace Frame

variable {left right : Frame}

/-- Frames that fit show compatible contents when they are compatible, in one mode and under one
policy. -/
theorem compatible_contents_iff (leftFits : left.Fits) (rightFits : right.Fits) :
    left.contents.Compatible right.contents ↔
      left.isCompatible right = true ∧ left.relaxed = right.relaxed ∧
        left.policy = right.policy := by
  rw [isCompatible_iff]
  constructor
  · intro compatible
    have maxLocals := compatible.locals
    have stackSize := compatible.length_stack
    rw [leftFits.length_locals, rightFits.length_locals] at maxLocals
    rw [leftFits.length_stack, rightFits.length_stack] at stackSize
    exact ⟨⟨maxLocals, compatible.maxStack, stackSize, compatible.monitors, compatible.kinds⟩,
      compatible.relaxed, compatible.policy⟩
  · rintro ⟨⟨maxLocals, maxStack, -, locksSize, kinds⟩, relaxed, policy⟩
    refine ⟨?_, maxStack, kinds, locksSize, relaxed, policy⟩
    rw [leftFits.length_locals, rightFits.length_locals, maxLocals]

/-- Compatibility is an equivalence of frames that equal frames stand in, and edits respect it. Take
any edits but loads, with the same arguments on two compatible frames that fit, as every reachable
one does, in one mode and under one policy. Edit by edit they end alike: with one refusal, or with
answers in which the values taken off the stack have the same kinds. After any number of them the
frames are compatible and in one mode. -/
theorem isCompatible_congruence :
    Equivalence (fun left right : Frame => left.isCompatible right = true) ∧
      (∀ left right : Frame, left.agrees right = true → left.isCompatible right = true) ∧
      ∀ left right : Frame, left.Fits → right.Fits → left.isCompatible right = true →
        left.relaxed = right.relaxed → left.policy = right.policy →
        ∀ edits : List (Edit Frame),
          (∀ edit ∈ edits, ∀ source, edit.source? = some source → source.Fits) →
          (∀ edit ∈ edits, ∀ index kind, edit ≠ .loadLocal index kind) →
          ∀ leftReservations rightReservations,
            let first := Edit.performAll edits left leftReservations
            let second := Edit.performAll edits right rightReservations
            first.frame.isCompatible second.frame = true ∧
              first.frame.relaxed = second.frame.relaxed ∧
              ∀ turn ∈ edits.zip (first.outcomes.zip second.outcomes),
                turn.1.Alike turn.2.1 turn.2.2 := by
  refine ⟨isCompatible_equivalence, fun _ _ => isCompatible_of_agrees, ?_⟩
  intro left right leftFits rightFits compatible relaxed policy edits sourceFits noLoad
    leftReservations rightReservations first second
  have contents := (compatible_contents_iff leftFits rightFits).2 ⟨compatible, relaxed, policy⟩
  obtain ⟨firstFits, secondFits, final, alike⟩ := Edit.performAll_compatible leftFits rightFits
    contents sourceFits noLoad leftReservations rightReservations
  obtain ⟨stillCompatible, sameMode, -⟩ := (compatible_contents_iff firstFits secondFits).1 final
  exact ⟨stillCompatible, sameMode, alike⟩

/-- Two frames of other scopes hold other values, locals and monitors. They are compatible, and stay
so when values are pushed and popped, refused, taken over and released. -/
theorem isCompatible_congruence_other_values :
    let scope := Scope.root ⟨some 0, 0⟩ "A.b()V"
    let object : Value := ⟨0, 0, .object, ""⟩
    let other : Value := ⟨0, 1, .object, ""⟩
    let long : Value := ⟨0, 2, .long, ""⟩
    let wide : Value := ⟨0, 3, .long, ""⟩
    let left : Frame :=
      ⟨⟨1, 3, #[some object, some long, none, some object, none]⟩, scope, ⟨some [object]⟩, false,
        Policy.standard⟩
    let right : Frame :=
      ⟨⟨1, 3, #[none, some wide, none, some other, none]⟩,
        Scope.root ⟨some 0, 1⟩ "C.d()V", ⟨some [other]⟩, false, Policy.standard⟩
    let edits : List (Edit Frame) :=
      [.pop .int, .pop .object, .unlock, .unlock, .truncateStack 1, .popArguments 2,
        .push .object object, .storeLocal 1 .object object, .replaceLocals left, .pushRaw none,
        .pop .object]
    let first := Edit.performAll edits left .empty
    let second := Edit.performAll edits right .empty
    left.isCompatible right = true ∧ left.agrees right = false ∧
      first.frame.isCompatible second.frame = true ∧
      ∀ turn ∈ edits.zip (first.outcomes.zip second.outcomes), turn.1.Alike turn.2.1 turn.2.2 := by
  intro scope object other long wide left right edits first second
  have leftFits : left.Fits := ⟨⟨by decide, by decide⟩, by decide⟩
  have rightFits : right.Fits := ⟨⟨by decide, by decide⟩, by decide⟩
  have compatible : left.isCompatible right = true := by decide
  have sourceFits : ∀ edit ∈ edits, ∀ source, edit.source? = some source → source.Fits := by
    simp [edits, Edit.source?, leftFits]
  have noLoad : ∀ edit ∈ edits, ∀ index kind, edit ≠ .loadLocal index kind := by simp [edits]
  obtain ⟨stays, -, alike⟩ := isCompatible_congruence.2.2 left right leftFits rightFits compatible
    rfl rfl edits sourceFits noLoad .empty .empty
  exact ⟨compatible, by decide, stays, alike⟩

end Frame
end SymbolicFrame
