import SymbolicFrame.Proofs.Blocks
import SymbolicFrame.Proofs.Refinement

/-!
# The slot stack as a stack of values

While kinds are checked and the live stack is made of blocks, the stack edits of a frame are those
of a list of values. A push appends a value, a typed pop takes the last one, and popped arguments
and a cut take some of the last ones, for which their sizes have to meet the borders between
values. Popping looks down from the top, arguments are read upwards and a cut looks at the two
slots around it; all three find the same borders.
-/

namespace SymbolicFrame

namespace Contents

variable {contents : Contents} {values rest : List Value} {kind : Kind} {value : Value} {size : Nat}

/-! ## Verdicts on blocks -/

/-- Popping from blocks gives the value on top under its own kind, and nothing under another. -/
private theorem Checks.popped_concat {top : Value} (checks : contents.Checks)
    (solid : Solid (rest ++ [top])) (stack : contents.stack = blocks (rest ++ [top])) :
    contents.popped kind = .ok value ↔ value = top ∧ top.kind = kind := by
  obtain ⟨restSolid, topSolid⟩ := solid_append.1 solid
  have topNotVoid := topSolid top (List.mem_singleton.2 rfl)
  have length : contents.stack.length = widths rest + top.kind.slotWidth := by
    rw [stack, length_blocks solid, widths_append]
    rfl
  have atBorder : slotAt contents.stack (widths rest) = some top := by
    rw [stack]
    exact slotAt_border restSolid top []
  have gives : (do contents.accepts kind top; return top) = (.ok value : Except Stop Value) ↔
      value = top ∧ top.kind = kind := by
    rw [← checks.accepts_iff]
    cases contents.accepts kind top with
    | error stop => exact ⟨nofun, fun both => nomatch both.2⟩
    | ok _ => exact ⟨fun same => ⟨(Except.ok.inj same).symm, rfl⟩, fun both => by rw [both.1]; rfl⟩
  unfold popped
  by_cases isVoid : kind = .void
  · rw [if_pos isVoid]
    exact ⟨nofun, fun both => absurd (both.2.trans isVoid) topNotVoid⟩
  rw [if_neg isVoid, length]
  rcases kind.narrow_or_wide isVoid with ⟨narrow, width⟩ | ⟨wide, width⟩ <;>
    rcases top.kind.narrow_or_wide topNotVoid with ⟨topNarrow, topWidth⟩ | ⟨topWide, topWidth⟩
  · rw [width, topWidth, if_neg (by omega), if_neg fun both => narrow both.1, Nat.add_sub_cancel,
      atBorder]
    exact gives
  · -- The top slot is the empty one of a wide value.
    have inside : slotAt contents.stack (widths rest + 1) = none := by
      rw [stack]
      exact slotAt_inside restSolid topWide []
    rw [width, topWidth, if_neg (by omega), if_neg fun both => narrow both.1,
      show widths rest + 2 - 1 = widths rest + 1 by omega, inside]
    exact ⟨nofun, fun both => absurd (by rw [← both.2]; exact topWide) narrow⟩
  · -- The upper one of the two slots asked for holds a narrow value.
    have differ : ¬ top.kind = kind := fun same => topNarrow (by rw [same]; exact wide)
    rw [width, topWidth]
    by_cases alone : widths rest = 0
    · rw [if_pos (by omega)]
      exact ⟨nofun, fun both => absurd both.2 differ⟩
    · rw [if_neg (by omega), show widths rest + 1 - 2 + 1 = widths rest by omega, atBorder,
        if_pos ⟨wide, rfl⟩]
      exact ⟨nofun, fun both => absurd both.2 differ⟩
  · have inside : slotAt contents.stack (widths rest + 1) = none := by
      rw [stack]
      exact slotAt_inside restSolid topWide []
    have clear : ¬ (kind.isWide = true ∧ (none : Slot).isSome = true) := by simp
    rw [width, topWidth, if_neg (by omega), Nat.add_sub_cancel, inside, if_neg clear, atBorder]
    exact gives

/-- What a pop asks for, and what it gives. -/
theorem Checks.popped_iff (checks : contents.Checks) (solid : Solid values)
    (stack : contents.stack = blocks values) :
    contents.popped kind = .ok value ↔ ∃ rest, values = rest ++ [value] ∧ value.kind = kind := by
  rcases List.eq_nil_or_concat values with empty | ⟨rest, top, split⟩
  · subst empty
    have refuses : ∃ cause, contents.popped kind = refused cause := by
      unfold popped
      rw [stack]
      by_cases isVoid : kind = .void
      · exact ⟨_, if_pos isVoid⟩
      · have positive := mt (kind.slotWidth_eq_zero_iff).1 isVoid
        rw [if_neg isVoid, blocks_nil, List.length_nil, if_pos (by omega)]
        exact ⟨_, rfl⟩
    obtain ⟨cause, refuses⟩ := refuses
    rw [refuses]
    exact ⟨nofun, fun ⟨rest, split, _⟩ => absurd split.symm (by simp)⟩
  · rw [List.concat_eq_append] at split
    subst split
    rw [checks.popped_concat solid stack]
    constructor
    · rintro ⟨rfl, same⟩
      exact ⟨rest, rfl, same⟩
    · rintro ⟨other, split, same⟩
      obtain ⟨-, isTop⟩ := List.append_inj' split rfl
      cases isTop
      exact ⟨rfl, same⟩

/-- What popping arguments asks for, and what it gives. -/
theorem arguments_iff {arguments : List Value} (solid : Solid values)
    (stack : contents.stack = blocks values) :
    contents.arguments size = .ok arguments ↔
      ∃ rest, values = rest ++ arguments ∧ widths arguments = size := by
  have length : contents.stack.length = widths values := by
    rw [stack, length_blocks solid]
  unfold Contents.arguments
  rw [length]
  constructor
  · intro gives
    by_cases enough : widths values < size
    · rw [if_pos enough] at gives
      cases gives
    rw [if_neg enough, stack] at gives
    rcases border_or_inside solid (Nat.sub_le (widths values) size) with
      ⟨low, high, rfl, border⟩ | ⟨low, wide, high, rfl, isWide, inside⟩
    · obtain ⟨lowSolid, highSolid⟩ := solid_append.1 solid
      rw [← border, drop_blocks lowSolid, windowValues_blocks _ highSolid] at gives
      cases gives
      rw [widths_append] at border enough
      exact ⟨low, rfl, by omega⟩
    · obtain ⟨lowSolid, -⟩ := solid_append.1 solid
      rw [inside, windowValues_inside _ lowSolid isWide] at gives
      cases gives
  · rintro ⟨rest, rfl, width⟩
    obtain ⟨restSolid, argumentsSolid⟩ := solid_append.1 solid
    rw [widths_append, width, if_neg (by omega), Nat.add_sub_cancel, stack, drop_blocks restSolid,
      windowValues_blocks _ argumentsSolid]

/-- What a cut asks for. -/
theorem cuts_iff (solid : Solid values) (stack : contents.stack = blocks values) :
    contents.cuts size = .ok () ↔ ∃ low high, values = low ++ high ∧ widths low = size := by
  have length : contents.stack.length = widths values := by
    rw [stack, length_blocks solid]
  unfold cuts
  rw [length, stack]
  constructor
  · intro passes
    by_cases above : widths values < size
    · rw [if_pos above] at passes
      cases passes
    rw [if_neg above, unless_pass] at passes
    rcases border_or_inside solid (Nat.not_lt.1 above) with
      border | ⟨low, wide, high, rfl, isWide, inside⟩
    · exact border
    · obtain ⟨lowSolid, -⟩ := solid_append.1 solid
      have twice := (wide.kind.isWide_iff).1 isWide
      refine absurd ⟨by omega, ?_, ?_, ?_⟩ passes
      · rw [widths_append, widths_cons]
        omega
      · rw [inside, Nat.add_sub_cancel, slotAt_border lowSolid]
        exact isWide
      · rw [inside, slotAt_inside lowSolid isWide]
  · rintro ⟨low, high, rfl, width⟩
    obtain ⟨lowSolid, highSolid⟩ := solid_append.1 solid
    rw [if_neg (by rw [widths_append]; omega), unless_pass]
    rintro ⟨-, less, -, empty⟩
    cases high with
    | nil =>
      rw [List.append_nil, width] at less
      exact Nat.lt_irrefl _ less
    | cons value high =>
      rw [← width, slotAt_border lowSolid] at empty
      cases empty

end Contents

/-! ## Stack edits of a frame -/

/-- The live stack of a frame is made of the blocks of values. -/
def Frame.WholeStack (frame : Frame) : Prop :=
  ∃ values, Solid values ∧ frame.buffer.stack = blocks values

/-- The values on the stack of a frame, from the bottom up. -/
def Frame.stackValues (frame : Frame) : List Value := frame.stack.map fun entry => entry.2.2

/-- The values on a stack made of blocks are the values of the blocks. -/
theorem Frame.stackValues_eq {frame : Frame} {values : List Value}
    (stack : frame.buffer.stack = blocks values) : frame.stackValues = values := by
  rw [stackValues, Frame.stack, Buffer.filledStack, map_filled, stack, heldIn_blocks]

/-- A stack made of blocks is that of the values on it. -/
theorem Frame.WholeStack.blocks_eq {frame : Frame} (whole : frame.WholeStack) :
    Solid frame.stackValues ∧ frame.buffer.stack = blocks frame.stackValues := by
  obtain ⟨values, solid, stack⟩ := whole
  rw [Frame.stackValues_eq stack]
  exact ⟨solid, stack⟩

namespace Edit

/-- An edit of a frame is done, gives an answer, and leaves a stack made of the blocks of given
values. -/
structure LeavesValues (edit : Edit Frame) (frame : Frame) (reservations : Reservations)
    (answer : Answer) (values : List Value) : Prop where
  /-- The edit is done and gives the answer. -/
  outcome_eq : (edit.perform frame reservations).outcome = .answer answer
  /-- The stack is made of blocks again. -/
  whole : (edit.perform frame reservations).frame.WholeStack
  /-- The values on the stack are the given ones. -/
  values_eq : (edit.perform frame reservations).frame.stackValues = values

variable {frame : Frame} {reservations : Reservations} {values : List Value}

/-- An edit without a source leaves values if its verdict has the answer and its change their
blocks. -/
theorem leavesValues_of_ok {edit : Edit Frame} {answer : Answer} (fits : frame.Fits)
    (noSource : edit.source? = none)
    (accepted : frame.contents.verdict (edit.map Frame.contents) = .ok answer)
    (solid : Solid values)
    (stack : (frame.contents.change (edit.map Frame.contents)).stack = blocks values) :
    edit.LeavesValues frame reservations answer values := by
  obtain ⟨after, performed, -, same⟩ :=
    perform_of_ok fits (sources_of_none noSource) reservations accepted
  have left : (edit.perform frame reservations).frame.buffer.stack = blocks values := by
    rw [performed, ← stack, ← same]
    rfl
  exact ⟨by rw [performed], ⟨values, solid, left⟩, Frame.stackValues_eq left⟩

section Operations

variable (fits : frame.Fits) (checks : frame.contents.Checks) (solid : Solid values)
  (stack : frame.contents.stack = blocks values)

include fits checks solid stack

/-- A push appends a value of the kind asked for, where there is room for it. -/
theorem push_values (kind : Kind) (value : Value) :
    ((Edit.push kind value).Succeeds frame reservations ↔
      value.kind = kind ∧ kind ≠ .void ∧
        (kind.isWordLike = true → frame.policy.allowWordKinds = true) ∧
        frame.stackSize + kind.slotWidth ≤ frame.maxStack) ∧
    ((Edit.push kind value).Succeeds frame reservations →
      (Edit.push kind value).LeavesValues frame reservations .done (values ++ [value])) := by
  have passes_iff : (Edit.push kind value).Succeeds frame reservations ↔
      frame.contents.pushes kind value = .ok () :=
    (succeeds_iff fits (sources_of_none rfl) _).trans Contents.done_iff
  rw [passes_iff]
  constructor
  · rw [checks.pushes_iff, fits.length_stack]
    rfl
  · intro passes
    obtain ⟨same, notVoid, -⟩ := checks.pushes_iff.1 passes
    subst same
    have accepted : frame.contents.verdict (Edit.push value.kind value) = .ok .done :=
      congrArg Contents.done passes
    have valueSolid : Solid [value] := solid_cons.2 ⟨notVoid, nofun⟩
    refine leavesValues_of_ok fits rfl accepted (solid_append.2 ⟨solid, valueSolid⟩) ?_
    change frame.contents.stack ++ value.kind.slots value = _
    rw [stack, blocks_append, blocks_cons, blocks_nil, List.append_nil]

/-- A pop takes the last value, if it is of the kind asked for. -/
theorem pop_values (kind : Kind) :
    ((Edit.pop kind).Succeeds frame reservations ↔
      ∃ rest value, values = rest ++ [value] ∧ value.kind = kind) ∧
    ∀ rest value, values = rest ++ [value] → value.kind = kind →
      (Edit.pop kind).LeavesValues frame reservations (.slot (some value)) rest := by
  constructor
  · refine (succeeds_iff fits (sources_of_none rfl) _).trans (Contents.gives_iff.trans ?_)
    constructor
    · rintro ⟨value, gives⟩
      obtain ⟨rest, split, same⟩ := (checks.popped_iff solid stack).1 gives
      exact ⟨rest, value, split, same⟩
    · rintro ⟨rest, value, split, same⟩
      exact ⟨value, (checks.popped_iff solid stack).2 ⟨rest, split, same⟩⟩
  · rintro rest value rfl rfl
    have gives := (checks.popped_iff solid stack).2 ⟨rest, rfl, rfl⟩
    have accepted : frame.contents.verdict (Edit.pop value.kind) = .ok (.slot (some value)) :=
      congrArg Contents.given gives
    have restSolid := (solid_append.1 solid).1
    refine leavesValues_of_ok fits rfl accepted restSolid ?_
    change frame.contents.stack.take (frame.contents.stack.length - value.kind.slotWidth) = _
    rw [stack, length_blocks solid, widths_append, widths_cons, widths_nil, Nat.add_zero,
      Nat.add_sub_cancel, take_blocks restSolid]

omit checks in
/-- Popped arguments are the last values, if these take exactly the slots asked for. -/
theorem popArguments_values (size : UInt64) :
    ((Edit.popArguments size).Succeeds frame reservations ↔
      ∃ rest arguments, values = rest ++ arguments ∧ widths arguments = size.toNat) ∧
    ∀ rest arguments, values = rest ++ arguments → widths arguments = size.toNat →
      (Edit.popArguments size).LeavesValues frame reservations (.values arguments) rest := by
  constructor
  · refine (succeeds_iff fits (sources_of_none rfl) _).trans (Contents.gives_iff.trans ?_)
    constructor
    · rintro ⟨arguments, gives⟩
      obtain ⟨rest, split, width⟩ := (Contents.arguments_iff solid stack).1 gives
      exact ⟨rest, arguments, split, width⟩
    · rintro ⟨rest, arguments, split, width⟩
      exact ⟨arguments, (Contents.arguments_iff solid stack).2 ⟨rest, split, width⟩⟩
  · rintro rest arguments rfl width
    have gives := (Contents.arguments_iff solid stack).2 ⟨rest, rfl, width⟩
    have accepted : frame.contents.verdict (Edit.popArguments size) = .ok (.values arguments) :=
      congrArg (· >>= fun values => Except.ok (Answer.values values)) gives
    have restSolid := (solid_append.1 solid).1
    refine leavesValues_of_ok fits rfl accepted restSolid ?_
    change frame.contents.stack.take (frame.contents.stack.length - size.toNat) = _
    rw [stack, length_blocks solid, widths_append, width, Nat.add_sub_cancel,
      take_blocks restSolid]

omit checks in
/-- A cut keeps the first values, if these take exactly the slots asked for. -/
theorem truncateStack_values (size : UInt64) :
    ((Edit.truncateStack size).Succeeds frame reservations ↔
      ∃ rest dropped, values = rest ++ dropped ∧ widths rest = size.toNat) ∧
    ∀ rest dropped, values = rest ++ dropped → widths rest = size.toNat →
      (Edit.truncateStack size).LeavesValues frame reservations .done rest := by
  constructor
  · exact (succeeds_iff fits (sources_of_none rfl) _).trans
      (Contents.done_iff.trans (Contents.cuts_iff solid stack))
  · rintro rest dropped rfl width
    have passes := (Contents.cuts_iff solid stack).2 ⟨rest, dropped, rfl, width⟩
    have accepted : frame.contents.verdict (Edit.truncateStack size) = .ok .done :=
      congrArg Contents.done passes
    have restSolid := (solid_append.1 solid).1
    refine leavesValues_of_ok fits rfl accepted restSolid ?_
    change frame.contents.stack.take size.toNat = _
    rw [stack, ← width, take_blocks restSolid]

omit checks in
/-- Arguments can be popped exactly when the stack can be cut below them. -/
theorem popArguments_iff_truncateStack {size rest : UInt64}
    (sizes : size.toNat + rest.toNat = widths values) :
    (Edit.popArguments size).Succeeds frame reservations ↔
      (Edit.truncateStack rest).Succeeds frame reservations := by
  rw [(popArguments_values fits solid stack size).1, (truncateStack_values fits solid stack rest).1]
  constructor
  · rintro ⟨low, high, rfl, width⟩
    rw [widths_append] at sizes
    exact ⟨low, high, rfl, by omega⟩
  · rintro ⟨low, high, rfl, width⟩
    rw [widths_append] at sizes
    exact ⟨low, high, rfl, by omega⟩

end Operations

/-- On a checked frame whose stack is made of blocks, the stack edits are those of the list of its
values. The stack takes the sum of their widths. A push appends a value of the kind asked for, a
pop takes the last one, popped arguments are the last values and a cut keeps the first ones, for
which the sizes given have to be sums of widths; each succeeds under exactly these conditions and
leaves a stack made of blocks. Every frame of a session fits. -/
theorem stack_edits_on_values {frame : Frame} (fits : frame.Fits)
    (checked : frame.policy.checkKinds = true) (strict : frame.relaxed = false)
    (whole : frame.WholeStack) (reservations : Reservations) :
    frame.stackSize = widths frame.stackValues ∧
    (∀ kind value,
      ((Edit.push kind value).Succeeds frame reservations ↔
        value.kind = kind ∧ kind ≠ .void ∧
          (kind.isWordLike = true → frame.policy.allowWordKinds = true) ∧
          frame.stackSize + kind.slotWidth ≤ frame.maxStack) ∧
      ((Edit.push kind value).Succeeds frame reservations →
        (Edit.push kind value).LeavesValues frame reservations .done
          (frame.stackValues ++ [value]))) ∧
    (∀ kind,
      ((Edit.pop kind).Succeeds frame reservations ↔
        ∃ rest value, frame.stackValues = rest ++ [value] ∧ value.kind = kind ∧ kind ≠ .void) ∧
      ∀ rest value, frame.stackValues = rest ++ [value] → value.kind = kind →
        (Edit.pop kind).LeavesValues frame reservations (.slot (some value)) rest) ∧
    (∀ size : UInt64,
      ((Edit.popArguments size).Succeeds frame reservations ↔
        ∃ rest arguments, frame.stackValues = rest ++ arguments ∧
          widths arguments = size.toNat) ∧
      ∀ rest arguments, frame.stackValues = rest ++ arguments → widths arguments = size.toNat →
        (Edit.popArguments size).LeavesValues frame reservations (.values arguments) rest) ∧
    (∀ size : UInt64,
      ((Edit.truncateStack size).Succeeds frame reservations ↔
        ∃ rest dropped, frame.stackValues = rest ++ dropped ∧ widths rest = size.toNat) ∧
      ∀ rest dropped, frame.stackValues = rest ++ dropped → widths rest = size.toNat →
        (Edit.truncateStack size).LeavesValues frame reservations .done rest) ∧
    Edit.clearStack.LeavesValues frame reservations .done [] ∧
    ∀ size : UInt64, size.toNat ≤ frame.stackSize →
      ((Edit.popArguments size).Succeeds frame reservations ↔
        (Edit.truncateStack (frame.stackSize - size.toNat).toUInt64).Succeeds frame
          reservations) := by
  obtain ⟨solid, stack⟩ := whole.blocks_eq
  have checks : frame.contents.Checks := ⟨checked, strict⟩
  have total : frame.stackSize = widths frame.stackValues := by
    rw [← fits.length_stack, Frame.contents_stack, ← length_blocks solid, ← stack]
  refine ⟨total, push_values fits checks solid stack, fun kind => ?_,
    popArguments_values fits solid stack, truncateStack_values fits solid stack, ?_, ?_⟩
  · obtain ⟨succeeds, leaves⟩ := pop_values fits checks solid stack kind
    refine ⟨succeeds.trans ⟨?_, ?_⟩, leaves⟩
    · rintro ⟨rest, value, split, same⟩
      have member : value ∈ frame.stackValues := by
        rw [split]
        exact List.mem_append_right _ (List.mem_singleton.2 rfl)
      exact ⟨rest, value, split, same, by rw [← same]; exact solid value member⟩
    · rintro ⟨rest, value, split, same, -⟩
      exact ⟨rest, value, split, same⟩
  · exact leavesValues_of_ok fits rfl rfl nofun rfl
  · intro size enough
    have sizes := fits.sizes
    have word : (frame.stackSize - size.toNat).toUInt64.toNat = frame.stackSize - size.toNat :=
      Nat.mod_eq_of_lt (show frame.stackSize - size.toNat < Word.limit by omega)
    refine popArguments_iff_truncateStack fits solid stack ?_
    rw [word, ← total]
    omega

/-- With a wide value below a narrow one, and a dead slot above them, a pop takes the narrow value,
arguments of three slots are both values, and a cut to two slots keeps the wide one. -/
theorem stack_edits_on_values_wide_below :
    let scope := Scope.root ⟨some 0, 0⟩ "A.b()V"
    let wide : Value := ⟨0, 0, .long, ""⟩
    let narrow : Value := ⟨0, 1, .int, ""⟩
    let frame : Frame :=
      ⟨⟨1, 3, #[none, some wide, none, some narrow, some wide]⟩, scope, Monitors.empty, false,
        Policy.strict⟩
    frame.Fits ∧ frame.WholeStack ∧ frame.stackSize = 3 ∧
      (Edit.pop .int).LeavesValues frame Reservations.empty (.slot (some narrow)) [wide] ∧
      (Edit.popArguments 3).LeavesValues frame Reservations.empty (.values [wide, narrow]) [] ∧
      (Edit.truncateStack 2).LeavesValues frame Reservations.empty .done [wide] := by
  intro scope wide narrow frame
  have fits : frame.Fits := ⟨⟨by decide, by decide⟩, by decide⟩
  have whole : frame.WholeStack := ⟨[wide, narrow], by decide, by decide⟩
  obtain ⟨size, -, pops, arguments, cuts, -⟩ :=
    stack_edits_on_values fits rfl rfl whole Reservations.empty
  exact ⟨fits, whole, size, (pops .int).2 [wide] narrow rfl rfl,
    (arguments 3).2 [] [wide, narrow] rfl rfl, (cuts 2).2 [wide] [narrow] rfl rfl⟩

end Edit
end SymbolicFrame
