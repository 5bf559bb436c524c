import SymbolicFrame.Proofs.Relaxation
import SymbolicFrame.Proofs.Runs
import SymbolicFrame.Proofs.WideValues

/-!
# The last write of a local

While the kinds of a frame are checked, its locals are told by the writes that were done to them,
in order. A write is a value stored from a local on, a local emptied, or all of them emptied; a list
of parameters is as many stores. A value can be loaded where it was stored, under the kind that it
was stored under, as long as no later write touches the slots that it takes: no store overlaps them,
and none of the two ways of emptying meets the local itself. Emptying the second slot of a wide
value changes nothing, for that slot is empty as long as the value stands. Nothing else that is done
to the frame has a say.
-/

namespace SymbolicFrame

/-! ## Writes -/

/-- What an edit does to the locals. -/
inductive LocalWrite where
  /-- A value of a kind is stored from a local on. -/
  | store (index : Nat) (kind : Kind) (value : Value)
  /-- A local is emptied. -/
  | empty (index : Nat)
  /-- Every local is emptied. -/
  | emptyAll
  deriving DecidableEq

/-- Parameters are stored one after the other, each under its own kind. -/
def parameterStores (index : Nat) : List Value → List LocalWrite
  | [] => []
  | parameter :: rest =>
    .store index parameter.kind parameter ::
      parameterStores (index + parameter.kind.slotWidth) rest

/-- The writes of an edit that is done, unless it takes over the locals of another frame. -/
def Edit.localWrites {Source : Type} : Edit Source → List LocalWrite
  | .storeLocal index kind value => [.store index.toNat kind value]
  | .storeParameters parameters => parameterStores 0 parameters
  | .invalidateLocal index => [.empty index.toNat]
  | .clearLocals => [.emptyAll]
  | .push _ _ | .pop _ | .pushRaw _ | .popRaw | .popArguments _ | .truncateStack _ | .clearStack
  | .loadLocal _ _ | .replaceLocals _ | .replaceStack _ | .replaceMonitors _ | .lock _ _ _
  | .unlock => []

/-- The writes of a run of edits, in order: those of the edits that ended with an answer. -/
def writesOf (edits : List (Edit Frame)) (outcomes : List Outcome) : List LocalWrite :=
  (edits.zip outcomes).flatMap fun turn => if turn.2.isAnswer then turn.1.localWrites else []

namespace LocalWrite

/-- A write leaves a value of a kind alone that stands from a local on. -/
def Spares (index : Nat) (kind : Kind) : LocalWrite → Prop
  | store other written _ => other + written.slotWidth ≤ index ∨ index + kind.slotWidth ≤ other
  | empty other => other ≠ index
  | emptyAll => False

/-- A value was stored under a kind from a local on, and no later write has touched it. -/
def Standing (writes : List LocalWrite) (index : Nat) (kind : Kind) (value : Value) : Prop :=
  ∃ before after, writes = before ++ store index kind value :: after ∧
    ∀ write ∈ after, write.Spares index kind

/-- Locals after a write. -/
def apply (locals : List Slot) : LocalWrite → List Slot
  | store index kind value => stored locals index kind value
  | empty index => locals.set index none
  | emptyAll => List.replicate locals.length none

/-- A write is one that checked kinds let pass: a value is stored under its own kind, which takes a
slot, and where it lies within the locals. -/
def Checked (maxLocals : Nat) : LocalWrite → Prop
  | store index kind value =>
    value.kind = kind ∧ kind ≠ .void ∧ index + kind.slotWidth ≤ maxLocals
  | empty _ | emptyAll => True

/-- A value of a kind stands in a local. -/
def Holds (locals : List Slot) (index : Nat) (kind : Kind) (value : Value) : Prop :=
  value.kind = kind ∧ locals[index]? = some (some value)

variable {locals : List Slot} {index : Nat} {kind : Kind} {value : Value} {write : LocalWrite}
  {writes : List LocalWrite}

/-- A write keeps the number of locals. -/
@[simp]
theorem length_apply (locals : List Slot) (write : LocalWrite) :
    (write.apply locals).length = locals.length := by
  cases write <;> simp [apply]

/-- A write that is checked keeps locals paired. -/
theorem Checked.paired (checked : write.Checked locals.length) (paired : Paired locals) :
    Paired (write.apply locals) := by
  cases write with
  | store index kind value =>
    obtain ⟨rfl, solid, inside⟩ := checked
    exact paired.stored solid inside
  | empty index => exact paired.set_none index
  | emptyAll => exact paired_empty locals.length

/-! ## One write -/

/-- A value is in a slot when it is found there. -/
theorem slotAt_eq_some_iff : slotAt locals index = some value ↔
    locals[index]? = some (some value) := by
  rw [slotAt_eq]
  cases locals[index]? <;> simp

/-- A slot holds a wide value when a wide value is found there. -/
theorem holdsWide_iff : (slotAt locals index).holdsWide = true ↔
    ∃ wide, locals[index]? = some (some wide) ∧ wide.kind.isWide = true := by
  simp only [← slotAt_eq_some_iff]
  cases slotAt locals index <;> simp [Slot.holdsWide]

/-- A store leaves a local alone if it is not one of its own and holds no wide value right below
them. -/
theorem stored_apart {other : Nat} (apart : other ≠ index)
    (above : ¬ (kind.isWide = true ∧ other = index + 1))
    (below : ¬ (index = other + 1 ∧
      ∃ wide, locals[other]? = some (some wide) ∧ wide.kind.isWide = true)) :
    (stored locals index kind value)[other]? = locals[other]? := by
  have emptied : (emptiedBelow locals index)[other]? = locals[other]? := by
    unfold emptiedBelow
    split
    · rename_i clobbers
      refine List.getElem?_set_ne fun isBelow => ?_
      rw [isBelow] at clobbers
      exact below ⟨by omega, holdsWide_iff.1 clobbers.2⟩
    · rfl
  unfold stored written
  split
  · rename_i wide
    have notAbove : index + 1 ≠ other := fun isAbove => above ⟨wide, isAbove.symm⟩
    rw [List.getElem?_set_ne notAbove, List.getElem?_set_ne (Ne.symm apart), emptied]
  · rw [List.getElem?_set_ne (Ne.symm apart), emptied]

/-- A stored value stands where it was stored. -/
theorem stored_at (inside : index < locals.length) :
    (stored locals index kind value)[index]? = some (some value) := by
  unfold stored written
  split
  · rw [List.getElem?_set_ne (by omega), List.getElem?_set_self (by simpa using inside)]
  · rw [List.getElem?_set_self (by simpa using inside)]

/-- The second slot of a stored wide value is empty. -/
theorem stored_above (wide : kind.isWide = true) (inside : index + 1 < locals.length) :
    (stored locals index kind value)[index + 1]? = some none := by
  unfold stored written
  rw [if_pos wide, List.getElem?_set_self (by simpa using inside)]

/-- A wide value right below a stored one is emptied. -/
theorem stored_below
    (clobbers : ∃ wide, locals[index]? = some (some wide) ∧ wide.kind.isWide = true) :
    (stored locals (index + 1) kind value)[index]? = some none := by
  obtain ⟨wide, held, -⟩ := id clobbers
  have inside := (List.getElem?_eq_some_iff.1 held).1
  have emptied : emptiedBelow locals (index + 1) = locals.set index none :=
    if_pos ⟨Nat.succ_pos index, holdsWide_iff.2 clobbers⟩
  unfold stored written
  rw [emptied]
  split
  · rw [List.getElem?_set_ne (by omega), List.getElem?_set_ne (by omega),
      List.getElem?_set_self inside]
  · rw [List.getElem?_set_ne (by omega), List.getElem?_set_self inside]

/-- A value that stands among paired locals takes at least one slot. -/
theorem Holds.solid (holds : Holds locals index kind value) (paired : Paired locals) :
    kind ≠ .void := by
  rw [← holds.1]
  exact paired.solid value (List.mem_of_getElem? holds.2)

/-- After a store, a value stands where it was stored, or where it stood and the store spared it. -/
theorem holds_stored_iff {other : Nat} {written : Kind} {given : Value} (paired : Paired locals)
    (checked : (store other written given).Checked locals.length) :
    Holds (stored locals other written given) index kind value ↔
      store other written given = store index kind value ∨
        Holds locals index kind value ∧ (store other written given).Spares index kind := by
  obtain ⟨sameKind, solid, inside⟩ := checked
  have atLeastOne := mt written.slotWidth_eq_zero_iff.1 solid
  have unspared (overlaps : other < index + kind.slotWidth ∧ index < other + written.slotWidth) :
      ¬ (store other written given).Spares index kind := by
    rintro (apart | apart) <;> omega
  by_cases same : index = other
  · subst same
    rw [Holds, stored_at (by omega)]
    constructor
    · rintro ⟨rfl, isGiven⟩
      cases isGiven
      rw [sameKind]
      exact .inl rfl
    · rintro (isStore | ⟨holds, spares⟩)
      · cases isStore
        exact ⟨sameKind, rfl⟩
      · have positive := mt kind.slotWidth_eq_zero_iff.1 (holds.solid paired)
        exact absurd spares (unspared (by omega))
  have notStored : store other written given ≠ store index kind value := by
    intro isStore
    cases isStore
    exact same rfl
  rw [or_iff_right notStored]
  by_cases above : written.isWide = true ∧ index = other + 1
  · obtain ⟨wide, rfl⟩ := above
    have two := written.isWide_iff.1 wide
    rw [Holds, stored_above wide (by omega)]
    constructor
    · rintro ⟨-, impossible⟩
      cases impossible
    · rintro ⟨-, spares⟩
      exact absurd spares (unspared (by omega))
  by_cases below : other = index + 1 ∧
      ∃ wide, locals[index]? = some (some wide) ∧ wide.kind.isWide = true
  · obtain ⟨rfl, clobbers⟩ := below
    rw [Holds, stored_below clobbers]
    constructor
    · rintro ⟨-, impossible⟩
      cases impossible
    · rintro ⟨⟨rfl, held⟩, spares⟩
      obtain ⟨wide, isHeld, isWide⟩ := clobbers
      cases isHeld.symm.trans held
      have two := value.kind.isWide_iff.1 isWide
      exact absurd spares (unspared (by omega))
  · rw [Holds, stored_apart same above below]
    refine (and_iff_left_of_imp fun ⟨isKind, held⟩ => ?_).symm
    have narrowStore : index = other + 1 → written.slotWidth ≠ 2 := fun isAbove two =>
      above ⟨written.isWide_iff.2 two, isAbove⟩
    have narrowValue : other = index + 1 → kind.slotWidth ≠ 2 := fun isBelow two =>
      below ⟨isBelow, value, held, by rw [isKind, kind.isWide_iff, two]⟩
    have storeWidth := written.slotWidth_le_two
    have valueWidth := kind.slotWidth_le_two
    change other + written.slotWidth ≤ index ∨ index + kind.slotWidth ≤ other
    omega

/-- After a write, a value stands where the write stored it, or where it stood and was spared. -/
theorem holds_apply_iff (paired : Paired locals) (checked : write.Checked locals.length) :
    Holds (write.apply locals) index kind value ↔
      write = store index kind value ∨ Holds locals index kind value ∧ write.Spares index kind := by
  cases write with
  | store other written given => exact holds_stored_iff paired checked
  | empty other =>
    rw [or_iff_right nofun]
    by_cases same : other = index
    · have emptied : (locals.set other none)[index]? ≠ some (some value) := by
        rw [same, List.getElem?_set_self']
        cases locals[index]? <;> nofun
      exact iff_of_false (fun holds => emptied holds.2) fun both => both.2 same
    · rw [Holds, apply, List.getElem?_set_ne same]
      exact (and_iff_left same).symm
  | emptyAll =>
    rw [or_iff_right nofun]
    have emptied : some value ∉ List.replicate locals.length (none : Slot) := by
      intro member
      cases (List.mem_replicate.1 member).2
    exact iff_of_false (fun holds => emptied (List.mem_of_getElem? holds.2)) fun both => both.2

/-! ## Many writes -/

/-- What the first of some writes stored stands, or what a later one did. -/
theorem standing_cons : Standing (write :: writes) index kind value ↔
    Standing writes index kind value ∨
      write = store index kind value ∧ ∀ later ∈ writes, later.Spares index kind := by
  constructor
  · rintro ⟨before, after, split, spared⟩
    cases before with
    | nil =>
      cases split
      exact .inr ⟨rfl, spared⟩
    | cons _ before =>
      cases split
      exact .inl ⟨before, after, rfl, spared⟩
  · rintro (⟨before, after, rfl, spared⟩ | ⟨rfl, spared⟩)
    · exact ⟨write :: before, after, rfl, spared⟩
    · exact ⟨[], writes, rfl, spared⟩

/-- Writes keep the number of locals. -/
@[simp]
theorem length_foldl (locals : List Slot) (writes : List LocalWrite) :
    (writes.foldl apply locals).length = locals.length := by
  induction writes generalizing locals with
  | nil => rfl
  | cons write rest ih => rw [List.foldl_cons, ih, length_apply]

/-- Checked writes keep locals paired. -/
theorem paired_foldl (paired : Paired locals)
    (checked : ∀ write ∈ writes, write.Checked locals.length) :
    Paired (writes.foldl apply locals) := by
  induction writes generalizing locals with
  | nil => exact paired
  | cons write rest ih =>
    obtain ⟨first, later⟩ := List.forall_mem_cons.1 checked
    exact ih (first.paired paired) (by simpa using later)

/-- After checked writes, a value stands if it was stored and stands since then, or if it stood
before and was spared by all of them. -/
theorem holds_foldl_iff (paired : Paired locals)
    (checked : ∀ write ∈ writes, write.Checked locals.length) :
    Holds (writes.foldl apply locals) index kind value ↔
      Standing writes index kind value ∨
        Holds locals index kind value ∧ ∀ write ∈ writes, write.Spares index kind := by
  induction writes generalizing locals with
  | nil =>
    have nothing : ¬ Standing [] index kind value := by
      rintro ⟨before, after, split, -⟩
      simp at split
    simp [nothing]
  | cons write rest ih =>
    obtain ⟨first, later⟩ := List.forall_mem_cons.1 checked
    rw [List.foldl_cons, ih (first.paired paired) (by simpa using later),
      holds_apply_iff paired first, standing_cons, List.forall_mem_cons, or_and_right, and_assoc,
      or_assoc]

end LocalWrite

/-! ## Edits -/

namespace Contents

open LocalWrite

variable {contents : Contents}

/-- Parameters are stored by their writes. -/
theorem storedFrom_eq_foldl (locals : List Slot) (index : Nat) (parameters : List Value) :
    storedFrom locals index parameters = (parameterStores index parameters).foldl apply locals := by
  induction parameters generalizing locals index with
  | nil => rfl
  | cons parameter rest ih => exact ih _ _

/-- An edit that takes over no locals changes them by its writes. -/
theorem locals_change {edit : Edit Contents} (own : ∀ source, edit ≠ .replaceLocals source) :
    (contents.change edit).locals = edit.localWrites.foldl apply contents.locals := by
  cases edit with
  | replaceLocals source => exact absurd rfl (own source)
  | storeParameters parameters => exact storedFrom_eq_foldl contents.locals 0 parameters
  | push | pop | pushRaw | popRaw | popArguments | truncateStack | clearStack | loadLocal
  | storeLocal | invalidateLocal | clearLocals | replaceStack | replaceMonitors | lock | unlock =>
    rfl

/-- Parameters that are measured and fit are stored by checked writes. -/
theorem checked_parameterStores {policy : Policy} {index total maxLocals : Nat}
    {parameters : List Value} (measured : policy.parametersEnd index parameters = .ok total)
    (small : index < Word.limit) (inside : total ≤ maxLocals) :
    ∀ write ∈ parameterStores index parameters, write.Checked maxLocals := by
  induction parameters generalizing index with
  | nil => nofun
  | cons parameter rest ih =>
    unfold Policy.parametersEnd at measured
    split at measured
    · cases measured
    rename_i held
    split at measured
    · rename_i fits
      have bounds := Policy.parametersEnd_bounds measured fits
      have solid := (Policy.holds_iff.1 held).1
      exact List.forall_mem_cons.2 ⟨⟨rfl, solid, by omega⟩, ih measured fits⟩
    · cases measured

/-- While kinds are checked, the writes of an edit that is done are checked. -/
theorem Checks.checked_localWrites (checks : contents.Checks) {edit : Edit Contents}
    {answer : Answer} (accepted : contents.verdict edit = .ok answer) :
    ∀ write ∈ edit.localWrites, write.Checked contents.locals.length := by
  cases edit with
  | storeLocal index kind value =>
    have passes := checks.stores_iff.1 (done_iff.1 ⟨answer, accepted⟩)
    exact List.forall_mem_singleton.2 ⟨passes.1, passes.2.1, passes.2.2.2⟩
  | storeParameters parameters =>
    obtain ⟨total, measured, inside⟩ := storesParameters_iff.1 (done_iff.1 ⟨answer, accepted⟩)
    exact checked_parameterStores measured (by decide) inside
  | invalidateLocal index => exact List.forall_mem_singleton.2 trivial
  | clearLocals => exact List.forall_mem_singleton.2 trivial
  | push | pop | pushRaw | popRaw | popArguments | truncateStack | clearStack | loadLocal
  | replaceLocals | replaceStack | replaceMonitors | lock | unlock => exact List.forall_mem_nil _

/-- While kinds are checked, what is loaded stands in its local. -/
theorem Checks.holds_of_loaded (checks : contents.Checks) {index : Nat} {kind : Kind}
    {value : Value} (loads : contents.loaded index kind = .ok value) :
    Holds contents.locals index kind value := by
  obtain ⟨-, -, held, -, accepted⟩ := loaded_iff.1 loads
  exact ⟨checks.accepts_iff.1 accepted, slotAt_eq_some_iff.1 held⟩

/-- While kinds are checked, what stands among paired locals is loaded. -/
theorem Checks.loaded_of_holds (checks : contents.Checks) (paired : Paired contents.locals)
    {index : Nat} {kind : Kind} {value : Value} (holds : Holds contents.locals index kind value) :
    contents.loaded index kind = .ok value := by
  obtain ⟨sameKind, held⟩ := id holds
  have lowest := (List.getElem?_eq_some_iff.1 held).1
  have high (wide : kind.isWide = true) : contents.locals[index + 1]? = some none :=
    paired.above index value held (by rw [sameKind, wide])
  have inside : index + kind.slotWidth ≤ contents.locals.length := by
    by_cases wide : kind.isWide = true
    · have highest := (List.getElem?_eq_some_iff.1 (high wide)).1
      have two := kind.isWide_iff.1 wide
      omega
    · have notTwo := mt kind.isWide_iff.2 wide
      have atMostTwo := kind.slotWidth_le_two
      omega
  have clear : ¬ (kind.isWide = true ∧
      (slotAt contents.locals (index + 1)).isSome = true) := by
    rintro ⟨wide, filled⟩
    rw [slotAt_eq, high wide] at filled
    cases filled
  exact loaded_iff.2 ⟨holds.solid paired, inside, slotAt_eq_some_iff.2 held, clear,
    checks.accepts_iff.2 sameKind⟩

end Contents

namespace Edit

open LocalWrite

variable {frame : Frame} {edit : Edit Frame}

/-- The writes of an edit of contents are those of the edit. -/
theorem localWrites_map {Source Target : Type} (view : Source → Target) (edit : Edit Source) :
    (edit.map view).localWrites = edit.localWrites := by
  cases edit <;> rfl

/-- An edit keeps a frame fitting, its policy, and its relaxed mode. -/
theorem stays_of_perform (fits : frame.Fits)
    (sourceFits : ∀ source, edit.source? = some source → source.Fits)
    (reservations : Reservations) :
    let performed := edit.perform frame reservations
    performed.frame.Fits ∧ performed.frame.policy = frame.policy ∧
      (performed.frame.relaxed = false → frame.relaxed = false) := by
  intro performed
  obtain ⟨afterFits, ⟨answer, -, shows⟩ | same⟩ := frame_of_perform fits sourceFits reservations
  · have policy : performed.frame.policy = frame.policy :=
      (congrArg Contents.policy shows).trans (Contents.policy_change _ _)
    refine ⟨afterFits, policy, fun strict => ?_⟩
    rw [← Frame.contents_relaxed, shows, Contents.relaxed_change, Bool.or_eq_false_iff] at strict
    exact strict.1
  · rw [show performed.frame = frame from same]
    exact ⟨fits, rfl, id⟩

/-- An edit that takes over no locals does checked writes to the locals, if it is done, and none
otherwise. -/
theorem writes_of_perform (fits : frame.Fits)
    (sourceFits : ∀ source, edit.source? = some source → source.Fits)
    (own : ∀ source, edit ≠ .replaceLocals source) (checks : frame.contents.Checks)
    (reservations : Reservations) :
    let performed := edit.perform frame reservations
    let writes := if performed.outcome.isAnswer then edit.localWrites else []
    performed.frame.contents.locals = writes.foldl apply frame.contents.locals ∧
      ∀ write ∈ writes, write.Checked frame.contents.locals.length := by
  intro performed writes
  cases accepted : frame.contents.verdict (edit.map Frame.contents) with
  | error stop =>
    have ended : performed = _ := perform_of_error fits sourceFits reservations accepted
    have none : writes = [] := by
      dsimp only [writes]
      rw [ended, stop.isAnswer_outcome]
      rfl
    rw [none, ended]
    exact ⟨rfl, nofun⟩
  | ok answer =>
    obtain ⟨outcome, -, shows⟩ := done_of_ok edit fits sourceFits reservations accepted
    have all : writes = edit.localWrites := if_pos (by rw [outcome]; rfl)
    have ownContents (source : Contents) : edit.map Frame.contents ≠ .replaceLocals source := by
      cases edit with
      | replaceLocals source => exact absurd rfl (own source)
      | push | pop | pushRaw | popRaw | popArguments | truncateStack | clearStack | loadLocal
      | storeLocal | invalidateLocal | clearLocals | storeParameters | replaceStack
      | replaceMonitors | lock | unlock => nofun
    have checked := checks.checked_localWrites accepted
    rw [localWrites_map] at checked
    rw [shows, Contents.locals_change ownContents, localWrites_map, all]
    exact ⟨rfl, checked⟩

/-! ## Runs -/

/-- The writes of a run are those of its first edit and then those of the others. -/
theorem writesOf_cons {edits : List (Edit Frame)} (reservations : Reservations) :
    writesOf (edit :: edits) (performAll (edit :: edits) frame reservations).outcomes =
      let performed := edit.perform frame reservations
      (if performed.outcome.isAnswer then edit.localWrites else []) ++
        writesOf edits (performAll edits performed.frame performed.reservations).outcomes := rfl

/-- A run that never relaxes a frame, and takes over no locals, checks kinds from first to last and
changes the locals by checked writes. -/
theorem writes_of_performAll {edits : List (Edit Frame)} (fits : frame.Fits)
    (sourceFits : ∀ edit ∈ edits, ∀ source, edit.source? = some source → source.Fits)
    (own : ∀ edit ∈ edits, ∀ source, edit ≠ .replaceLocals source)
    (checked : frame.policy.checkKinds = true) (reservations : Reservations)
    (strict : (performAll edits frame reservations).frame.relaxed = false) :
    let run := performAll edits frame reservations
    let writes := writesOf edits run.outcomes
    run.frame.Fits ∧ frame.contents.Checks ∧ run.frame.contents.Checks ∧
      run.frame.contents.locals = writes.foldl apply frame.contents.locals ∧
      ∀ write ∈ writes, write.Checked frame.contents.locals.length := by
  induction edits generalizing frame reservations with
  | nil => exact ⟨fits, ⟨checked, strict⟩, ⟨checked, strict⟩, rfl, nofun⟩
  | cons edit rest ih =>
    obtain ⟨editSourceFits, restSourceFits⟩ := List.forall_mem_cons.1 sourceFits
    obtain ⟨editOwn, restOwn⟩ := List.forall_mem_cons.1 own
    obtain ⟨afterFits, policy, unrelaxed⟩ := stays_of_perform fits editSourceFits reservations
    obtain ⟨runFits, afterChecks, runChecks, locals, allChecked⟩ :=
      ih afterFits restSourceFits restOwn (by rw [policy, checked]) _ strict
    have checks : frame.contents.Checks := ⟨checked, unrelaxed afterChecks.strict⟩
    obtain ⟨first, firstChecked⟩ :=
      writes_of_perform fits editSourceFits editOwn checks reservations
    refine ⟨runFits, checks, runChecks, ?_, ?_⟩
    · rw [writesOf_cons, List.foldl_append, ← first]
      exact locals
    · rw [first, length_foldl] at allChecked
      rw [writesOf_cons]
      exact List.forall_mem_append.2 ⟨firstChecked, allChecked⟩

/-- In a run from a fresh frame that checks kinds, takes over no locals and is not relaxed at its
end, a local can be loaded under a kind, and gives a value, exactly if an edit that was done stored
the value there under that kind and no later write touched it. Edits of the stack and of the
monitors, and edits that were refused, are no writes. -/
theorem load_iff_standing {scope : Scope} {maxLocals maxStack : Nat} {policy : Policy}
    {edits : List (Edit Frame)} (countable : Frame.Countable maxLocals maxStack)
    (sourceFits : ∀ edit ∈ edits, ∀ source, edit.source? = some source → source.Fits)
    (own : ∀ edit ∈ edits, ∀ source, edit ≠ .replaceLocals source)
    (checked : policy.checkKinds = true) (reservations : Reservations)
    (strict : (performAll edits (Frame.fresh scope maxLocals maxStack policy)
      reservations).frame.relaxed = false) (index : UInt64) (kind : Kind) (value : Value) :
    let run := performAll edits (Frame.fresh scope maxLocals maxStack policy) reservations
    ((loadLocal index kind).perform run.frame run.reservations).outcome =
        .answer (.slot (some value)) ↔
      Standing (writesOf edits run.outcomes) index.toNat kind value := by
  intro run
  have freshLocals : (Frame.fresh scope maxLocals maxStack policy).contents.locals =
      List.replicate maxLocals none :=
    congrArg Contents.locals (Frame.contents_fresh scope maxLocals maxStack policy)
  obtain ⟨runFits, -, checks, locals, allChecked⟩ := writes_of_performAll
    (Frame.fits_fresh scope policy countable) sourceFits own checked reservations strict
  rw [freshLocals] at locals allChecked
  have paired : Paired run.frame.contents.locals := by
    rw [locals]
    exact paired_foldl (paired_empty maxLocals) allChecked
  have nothing : ¬ Holds (List.replicate maxLocals none) index.toNat kind value := by
    intro holds
    cases (List.mem_replicate.1 (List.mem_of_getElem? holds.2)).2
  have verdict : run.frame.contents.verdict ((loadLocal index kind).map Frame.contents) =
      .ok (.slot (some value)) ↔ run.frame.contents.loaded index.toNat kind = .ok value :=
    Contents.given_eq_ok_iff
  rw [outcome_eq_answer_iff runFits (sources_of_none rfl), verdict]
  constructor
  · intro loads
    have holds := checks.holds_of_loaded loads
    rw [locals, holds_foldl_iff (paired_empty maxLocals) allChecked] at holds
    exact holds.resolve_right fun both => nothing both.1
  · intro standing
    refine checks.loaded_of_holds paired ?_
    rw [locals, holds_foldl_iff (paired_empty maxLocals) allChecked]
    exact .inl standing

/-- Parameters are stored, a wide one among them, of which the second slot is emptied and the first
is not. A store that does not fit is refused, and the stack and the monitors are edited. -/
theorem load_iff_standing_above_emptied :
    let scope := Scope.root ⟨some 0, 0⟩ "A.b()V"
    let object : Value := ⟨0, 0, .object, ""⟩
    let long : Value := ⟨0, 1, .long, ""⟩
    let other := Frame.fresh scope 0 1 Policy.standard
    let edits : List (Edit Frame) :=
      [.storeLocal 2 .object object, .storeParameters [object, long], .invalidateLocal 2,
        .storeLocal 3 .long long, .storeLocal 3 .object object, .push .long long,
        .lock scope object 1, .replaceStack other]
    let run := performAll edits (Frame.fresh scope 4 2 Policy.standard) .empty
    run.frame.relaxed = false ∧
      ((loadLocal 1 .long).perform run.frame run.reservations).outcome =
        .answer (.slot (some long)) ∧
      Standing (writesOf edits run.outcomes) 1 .long long := by
  intro scope object long other edits run
  have countable : Frame.Countable 4 2 := by decide
  have otherFits : other.Fits := Frame.fits_fresh scope Policy.standard (by decide)
  have sourceFits : ∀ edit ∈ edits, ∀ source, edit.source? = some source → source.Fits := by
    simp [edits, source?, otherFits]
  have own : ∀ edit ∈ edits, ∀ source, edit ≠ .replaceLocals source := by
    simp [edits]
  have strict : run.frame.relaxed = false := by decide
  have loads : ((loadLocal 1 .long).perform run.frame run.reservations).outcome =
      .answer (.slot (some long)) := by decide
  exact ⟨strict, loads,
    (load_iff_standing countable sourceFits own rfl .empty strict 1 .long long).1 loads⟩

end Edit
end SymbolicFrame
