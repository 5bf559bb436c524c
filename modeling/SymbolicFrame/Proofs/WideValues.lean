import SymbolicFrame.Proofs.Invariants
import SymbolicFrame.Proofs.ValueStack

/-!
# Wide values of unrelaxed frames

In a session whose frames all check kinds and whose raw edits only meet relaxed frames, every
frame that is not relaxed is whole. Its live stack is made of blocks of values that are neither
void nor word-like, and every wide local is followed by an empty one. Slots of a relaxed frame
reach another frame only together with its mode, so the frames that are not relaxed keep each
other whole.
-/

namespace SymbolicFrame

/-! ## Locals -/

/-- Every wide value among locals is followed by an empty local, and no value is of kind void. -/
structure Paired (locals : List Slot) : Prop where
  /-- A wide value has an empty local above it. -/
  above : ∀ index value, locals[index]? = some (some value) → value.kind.isWide = true →
    locals[index + 1]? = some none
  /-- A value takes at least one slot. -/
  solid : ∀ value, some value ∈ locals → value.kind ≠ .void

/-- Empty locals are paired. -/
theorem paired_empty (count : Nat) : Paired (List.replicate count none) := by
  have noValue (value : Value) : some value ∉ List.replicate count (none : Slot) := by
    intro member
    cases (List.mem_replicate.1 member).2
  exact ⟨fun _ value found => absurd (List.mem_of_getElem? found) (noValue value),
    fun value member => absurd member (noValue value)⟩

namespace Paired

variable {locals : List Slot} {index : Nat} {kind : Kind} {value : Value}

/-- Emptying a local keeps the others paired. -/
theorem set_none (paired : Paired locals) (index : Nat) : Paired (locals.set index none) := by
  constructor
  · intro place value found wide
    rw [List.getElem?_set] at found
    split at found
    · split at found <;> cases found
    have empty := paired.above place value found wide
    rw [List.getElem?_set]
    split
    · have inside := (List.getElem?_eq_some_iff.1 empty).1
      rw [if_pos (by omega)]
    · exact empty
  · intro value member
    rcases List.mem_or_eq_of_mem_set member with stays | isNone
    · exact paired.solid value stays
    · cases isNone

/-- A value written where no wide value lies right below, and an empty local right above if it is
wide itself, keeps locals paired. -/
theorem set_value (paired : Paired locals)
    (below : 0 < index → ¬ (slotAt locals (index - 1)).holdsWide = true)
    (empty : value.kind.isWide = true → locals[index + 1]? = some none)
    (solid : value.kind ≠ .void) : Paired (locals.set index (some value)) := by
  constructor
  · intro place other found wide
    rw [List.getElem?_set] at found
    split at found
    · rename_i isPlace
      subst isPlace
      split at found
      · cases found
        rw [List.getElem?_set_ne (Nat.ne_of_lt (Nat.lt_succ_self _))]
        exact empty wide
      · cases found
    · have above := paired.above place other found wide
      have apart : index ≠ place + 1 := by
        intro isAbove
        refine below (by omega) ?_
        rw [slotAt_eq, show index - 1 = place by omega, found]
        exact wide
      rw [List.getElem?_set_ne apart]
      exact above
  · intro other member
    rcases List.mem_or_eq_of_mem_set member with stays | isValue
    · exact paired.solid other stays
    · cases isValue
      exact solid

/-- Emptying a wide value below a local keeps locals paired. -/
theorem emptiedBelow (paired : Paired locals) (index : Nat) :
    Paired (emptiedBelow locals index) := by
  unfold SymbolicFrame.emptiedBelow
  split
  · exact paired.set_none _
  · exact paired

end Paired

/-- No wide value is left below a local. -/
theorem not_wide_emptiedBelow (locals : List Slot) {index : Nat} (positive : 0 < index) :
    ¬ (slotAt (emptiedBelow locals index) (index - 1)).holdsWide = true := by
  unfold emptiedBelow
  split
  · rename_i clobbers
    have emptied : slotAt (locals.set (index - 1) none) (index - 1) = none := by
      rw [slotAt_eq, List.getElem?_set_self']
      cases locals[index - 1]? <;> rfl
    rw [emptied]
    exact Bool.false_ne_true
  · rename_i kept
    exact fun wide => kept ⟨positive, wide⟩

namespace Paired

variable {locals : List Slot} {index : Nat} {value : Value}

/-- Storing a value under its own kind keeps locals paired. -/
theorem stored (paired : Paired locals) (solid : value.kind ≠ .void)
    (inside : index + value.kind.slotWidth ≤ locals.length) :
    Paired (stored locals index value.kind value) := by
  have emptied := paired.emptiedBelow index
  have below (positive : 0 < index) := not_wide_emptiedBelow locals positive
  have length := length_emptiedBelow locals index
  unfold SymbolicFrame.stored written
  by_cases wide : value.kind.isWide = true
  · have width := (value.kind.isWide_iff).1 wide
    rw [if_pos wide, List.set_comm _ _ (Nat.ne_of_lt (Nat.lt_succ_self _))]
    refine (emptied.set_none (index + 1)).set_value ?_ (fun _ => ?_) solid
    · intro positive
      rw [slotAt_eq, List.getElem?_set_ne (by omega), ← slotAt_eq]
      exact below positive
    · rw [List.getElem?_set_self (by omega)]
  · rw [if_neg wide]
    exact emptied.set_value below (fun isWide => absurd isWide wide) solid

/-- Storing parameters that fit keeps locals paired. -/
theorem storedFrom {policy : Policy} {total : Nat} {parameters : List Value}
    (paired : Paired locals) (measured : policy.parametersEnd index parameters = .ok total)
    (small : index < Word.limit) (inside : total ≤ locals.length) :
    Paired (storedFrom locals index parameters) := by
  induction parameters generalizing locals index with
  | nil => exact paired
  | cons parameter rest ih =>
    unfold Policy.parametersEnd at measured
    split at measured
    · cases measured
    rename_i held
    split at measured
    · rename_i fits
      have bounds := Policy.parametersEnd_bounds measured fits
      have solid := (Policy.holds_iff.1 held).1
      refine ih (paired.stored solid (by omega)) measured fits ?_
      rw [length_stored]
      exact inside
    · cases measured

end Paired

/-! ## Edits -/

/-- An edit moves a slot without looking at it. -/
def Edit.isRaw {Source : Type} : Edit Source → Bool
  | pushRaw _ | popRaw => true
  | push _ _ | pop _ | popArguments _ | truncateStack _ | clearStack | loadLocal _ _
  | storeLocal _ _ _ | invalidateLocal _ | clearLocals | storeParameters _ | replaceLocals _
  | replaceStack _ | replaceMonitors _ | lock _ _ _ | unlock => false

namespace Contents

/-- Values stand whole: the stack is made of blocks of values that are neither void nor word-like,
and every wide local is followed by an empty one. -/
structure Whole (contents : Contents) : Prop where
  /-- The stack is made of blocks. -/
  stack : ∃ values, Solid values ∧ (∀ value ∈ values, value.kind.isWordLike = false) ∧
    contents.stack = blocks values
  /-- The locals are paired. -/
  locals : Paired contents.locals

/-- Kinds are checked, and while they are, values stand whole. -/
structure Guarded (contents : Contents) : Prop where
  /-- The policy asks for the checks. -/
  checked : contents.policy.checkKinds = true
  /-- Without relaxed checks, values stand whole. -/
  whole : contents.relaxed = false → contents.Whole

variable {contents : Contents}

/-- Fresh frames are whole. -/
theorem whole_blank (scope : Scope) (maxLocals maxStack : Nat) (policy : Policy) :
    (blank scope maxLocals maxStack policy).Whole :=
  ⟨⟨[], nofun, nofun, rfl⟩, paired_empty maxLocals⟩

/-- Fresh frames that check kinds are guarded. -/
theorem guarded_blank (scope : Scope) (maxLocals maxStack : Nat) {policy : Policy}
    (checked : policy.checkKinds = true) : (blank scope maxLocals maxStack policy).Guarded :=
  ⟨checked, fun _ => whole_blank scope maxLocals maxStack policy⟩

/-- A copy of any parts of a guarded frame is guarded. -/
theorem Guarded.kept (guarded : contents.Guarded) (parts : Parts) :
    (contents.kept parts).Guarded := by
  refine ⟨guarded.checked, fun strict => ?_⟩
  obtain ⟨⟨values, stack⟩, locals⟩ := guarded.whole strict
  unfold Contents.kept
  constructor
  · dsimp only
    split
    · exact ⟨values, stack⟩
    · exact ⟨[], nofun, nofun, rfl⟩
  · dsimp only
    split
    · exact locals
    · exact paired_empty _

/-- A stack cut at a border stays one of blocks of the same values. -/
private theorem Whole.take {low high : List Value} {count : Nat} (whole : contents.Whole)
    (stack : contents.stack = blocks (low ++ high)) (border : widths low = count) :
    Whole { contents with stack := contents.stack.take count } := by
  obtain ⟨⟨values, solid, wordless, same⟩, locals⟩ := whole
  obtain rfl := blocks_inj (same.symm.trans stack)
  refine ⟨⟨low, (solid_append.1 solid).1, fun value member => ?_, ?_⟩, locals⟩
  · exact wordless value (List.mem_append_left _ member)
  · dsimp only
    rw [stack, ← border, take_blocks (solid_append.1 solid).1]

/-- Whole contents after a push of a value that is not word-like. -/
private theorem Whole.push {kind : Kind} {value : Value} (whole : contents.Whole)
    (checks : contents.Checks) (wordless : kind.isWordLike = false)
    (passes : contents.pushes kind value = .ok ()) (relaxed : Bool) :
    Whole { contents with
      stack := contents.stack ++ kind.slots value
      relaxed := relaxed } := by
  obtain ⟨⟨values, solid, others, stack⟩, locals⟩ := whole
  obtain ⟨rfl, notVoid, -⟩ := checks.pushes_iff.1 passes
  refine ⟨⟨values ++ [value], ?_, ?_, ?_⟩, locals⟩
  · exact solid_append.2 ⟨solid, solid_cons.2 ⟨notVoid, nofun⟩⟩
  · intro other member
    rcases List.mem_append.1 member with below | isTop
    · exact others other below
    · rw [List.mem_singleton.1 isTop]
      exact wordless
  · dsimp only
    rw [stack, blocks_append, blocks_cons, blocks_nil, List.append_nil]

/-- An edit that is done keeps a frame guarded, if its source is and no slot is moved raw while
the checks are not relaxed. -/
theorem Guarded.change {edit : Edit Contents} {answer : Answer} (guarded : contents.Guarded)
    (sources : ∀ source, edit.source? = some source → source.Guarded)
    (raw : edit.isRaw = true → contents.relaxed = true)
    (accepted : contents.verdict edit = .ok answer) : (contents.change edit).Guarded := by
  constructor
  · cases edit <;> exact guarded.checked
  intro strict
  cases edit with
  | push kind value =>
    obtain ⟨before, wordless⟩ := Bool.or_eq_false_iff.1 strict
    have passes := done_iff.1 ⟨answer, accepted⟩
    exact (guarded.whole before).push ⟨guarded.checked, before⟩ wordless passes _
  | pop kind =>
    have whole := guarded.whole strict
    obtain ⟨values, solid, -, stack⟩ := whole.stack
    obtain ⟨value, gives⟩ := gives_iff.1 ⟨answer, accepted⟩
    have checks : contents.Checks := ⟨guarded.checked, strict⟩
    obtain ⟨rest, rfl, rfl⟩ := (checks.popped_iff solid stack).1 gives
    refine whole.take stack ?_
    rw [stack, length_blocks solid, widths_append]
    exact (Nat.add_sub_cancel ..).symm
  | pushRaw slot =>
    exact absurd (raw rfl) (by rw [show contents.relaxed = false from strict]; nofun)
  | popRaw => exact absurd (raw rfl) (by rw [show contents.relaxed = false from strict]; nofun)
  | popArguments size =>
    have whole := guarded.whole strict
    obtain ⟨values, solid, -, stack⟩ := whole.stack
    obtain ⟨arguments, gives⟩ := gives_iff.1 ⟨answer, accepted⟩
    obtain ⟨rest, rfl, width⟩ := (arguments_iff solid stack).1 gives
    refine whole.take stack ?_
    rw [stack, length_blocks solid, widths_append, width]
    exact (Nat.add_sub_cancel ..).symm
  | truncateStack size =>
    have whole := guarded.whole strict
    obtain ⟨values, solid, -, stack⟩ := whole.stack
    obtain ⟨low, high, rfl, width⟩ := (cuts_iff solid stack).1 (done_iff.1 ⟨answer, accepted⟩)
    exact whole.take stack width
  | clearStack => exact ⟨⟨[], nofun, nofun, rfl⟩, (guarded.whole strict).locals⟩
  | loadLocal | replaceMonitors | lock | unlock =>
    exact ⟨(guarded.whole strict).stack, (guarded.whole strict).locals⟩
  | storeLocal index kind value =>
    have checks : contents.Checks := ⟨guarded.checked, strict⟩
    obtain ⟨same, notVoid, -, inside⟩ := checks.stores_iff.1 (done_iff.1 ⟨answer, accepted⟩)
    subst same
    exact ⟨(guarded.whole strict).stack, (guarded.whole strict).locals.stored notVoid inside⟩
  | invalidateLocal index =>
    exact ⟨(guarded.whole strict).stack, (guarded.whole strict).locals.set_none _⟩
  | clearLocals => exact ⟨(guarded.whole strict).stack, paired_empty _⟩
  | storeParameters parameters =>
    obtain ⟨total, measured, inside⟩ :=
      storesParameters_iff.1 (done_iff.1 ⟨answer, accepted⟩)
    exact ⟨(guarded.whole strict).stack,
      (guarded.whole strict).locals.storedFrom measured (by decide) inside⟩
  | replaceLocals source =>
    obtain ⟨before, sourceBefore⟩ := Bool.or_eq_false_iff.1 strict
    exact ⟨(guarded.whole before).stack, ((sources source rfl).whole sourceBefore).locals⟩
  | replaceStack source =>
    obtain ⟨before, sourceBefore⟩ := Bool.or_eq_false_iff.1 strict
    exact ⟨((sources source rfl).whole sourceBefore).stack, (guarded.whole before).locals⟩

end Contents

/-! ## Sessions -/

/-- Contents that check kinds stay guarded as long as raw edits are made on relaxed ones only. -/
theorem Contents.guarded_invariant :
    Contents.Invariant (fun policy => policy.checkKinds = true)
      (fun contents edit => edit.isRaw = true → contents.relaxed = true) Contents.Guarded where
  created scope maxLocals maxStack _ checked :=
    Contents.guarded_blank scope maxLocals maxStack checked
  entered checked accepted :=
    (Contents.guarded_blank _ _ _ checked).change nofun nofun accepted
  copied guarded parts := guarded.kept parts
  edited guarded sources onRelaxed accepted := guarded.change sources onRelaxed accepted

/-- In a session whose frames are all made to check kinds, and whose raw edits are only made on
relaxed frames, every frame that is not relaxed is whole, however long the run and whatever was
spliced and copied on the way. Its live stack is made of blocks, each the slot of a narrow value
or that of a wide one below an empty slot. No stack slot holds a value of a word-like kind, and no
slot one of kind void. Every wide local is followed by a local that is there and empty. -/
theorem Session.unrelaxed_frame_whole {trusted : Bool} {steps : List Step}
    (follows : (Session.initial trusted).Follows
      (Session.Permits (fun policy => policy.checkKinds = true)
        fun contents edit => edit.isRaw = true → contents.relaxed = true) steps)
    {name : String} {frame : Frame}
    (found : ((Session.initial trusted).run steps).frame? name = some frame)
    (strict : frame.relaxed = false) :
    (∃ values, Solid values ∧ frame.buffer.stack = blocks values) ∧
    (∀ value, some value ∈ frame.buffer.stack →
      value.kind ≠ .void ∧ value.kind ≠ .word ∧ value.kind ≠ .jsr) ∧
    (∀ value, some value ∈ frame.buffer.locals → value.kind ≠ .void) ∧
    ∀ index value, frame.buffer.locals[index]? = some (some value) → value.kind.isWide = true →
      index + 1 < frame.maxLocals ∧ frame.buffer.locals[index + 1]? = some none := by
  have fits := Session.every_fits trusted steps name frame found
  have guarded := Session.every_of_invariant Contents.guarded_invariant follows name frame found
  obtain ⟨⟨values, solid, wordless, stack⟩, locals⟩ := guarded.whole strict
  refine ⟨⟨values, solid, stack⟩, ?_, locals.solid, ?_⟩
  · intro value onStack
    have member : value ∈ values := by
      rw [← heldIn_blocks values, ← stack]
      exact List.mem_filterMap.2 ⟨some value, onStack, rfl⟩
    have notWordLike := wordless value member
    refine ⟨solid value member, ?_, ?_⟩ <;> intro isKind <;> rw [isKind] at notWordLike <;>
      cases notWordLike
  · intro index value held wide
    have empty := locals.above index value held wide
    refine ⟨?_, empty⟩
    rw [← fits.length_locals]
    exact (List.getElem?_eq_some_iff.1 empty).1

/-- A frame that lends its locals to a relaxed one, and whose copy takes over the raw stack of
that, stays whole itself. -/
theorem Session.unrelaxed_frame_whole_beside_relaxed :
    let scope := Scope.root ⟨some 0, 0⟩ "A.b()V"
    let wide : Value := ⟨0, 0, .long, ""⟩
    let word : Value := ⟨0, 1, .word, ""⟩
    let steps : List Step :=
      [.create "a" scope 2 4 Policy.strict, .create "b" scope 2 4 Policy.standard,
        .edit "a" (.push .long wide), .edit "a" (.storeLocal 0 .long wide),
        .edit "b" (.push .word word), .edit "b" (.pushRaw none), .edit "b" (.replaceLocals "a"),
        .copyParts "a" "c" Parts.all, .edit "c" (.replaceStack "b")]
    let session := (Session.initial false).run steps
    (Session.initial false).Follows
        (Session.Permits (fun policy => policy.checkKinds = true)
          fun contents edit => edit.isRaw = true → contents.relaxed = true) steps ∧
      ∃ frame, session.frame? "a" = some frame ∧ frame.relaxed = false ∧
        (∃ values, Solid values ∧ frame.buffer.stack = blocks values) ∧
        ∀ index value, frame.buffer.locals[index]? = some (some value) →
          value.kind.isWide = true →
            index + 1 < frame.maxLocals ∧ frame.buffer.locals[index + 1]? = some none := by
  intro scope wide word steps session
  have follows : (Session.initial false).Follows
      (Session.Permits (fun policy => policy.checkKinds = true)
        fun contents edit => edit.isRaw = true → contents.relaxed = true) steps := by decide
  let frame : Frame :=
    ⟨⟨2, 2, #[some wide, none, some wide, none, none, none]⟩, scope, Monitors.empty, false,
      Policy.strict⟩
  have found : session.frame? "a" = some frame := by decide
  obtain ⟨stack, -, -, locals⟩ := Session.unrelaxed_frame_whole follows found rfl
  exact ⟨follows, frame, found, rfl, stack, locals⟩

end SymbolicFrame
