import SymbolicFrame.Proofs.Blocks
import SymbolicFrame.Proofs.Causes
import SymbolicFrame.Proofs.Equality
import SymbolicFrame.Proofs.Runs

/-!
# Parameters stored over used locals

Parameters are measured first and then stored one after the other. The measure asks of each in turn
whether it may be held, and adds up their widths; the locals have to be enough for the sum. Each
store looks at the local right below its own and empties a wide value there. No store of a parameter
finds one: right below lies the one before it, or its empty second slot. So the parameters come to
lie side by side from local zero on, whatever was there, and nothing behind them is touched.
-/

namespace SymbolicFrame

/-! ## Parameters side by side -/

section Locals

variable {values : List Value} {rest : List Slot}

/-- Right below a border there is no wide value, for its second slot would lie in between. -/
theorem not_wide_below_border (solid : Solid values) (rest : List Slot) :
    ¬ (0 < widths values ∧
      (slotAt (blocks values ++ rest) (widths values - 1)).holdsWide = true) := by
  rintro ⟨positive, clobbers⟩
  rcases List.eq_nil_or_concat values with rfl | ⟨low, top, split⟩
  · exact absurd positive (Nat.lt_irrefl 0)
  · -- Right below lies the last value if it is narrow, and its second slot if it is wide.
    rw [List.concat_eq_append] at split
    subst split
    obtain ⟨lowSolid, topSolid⟩ := solid_append.1 solid
    have notVoid := (solid_cons.1 topSolid).1
    rw [blocks_append, widths_append, blocks_cons, blocks_nil, widths_cons, widths_nil,
      ← length_blocks lowSolid] at clobbers
    rcases top.kind.narrow_or_wide notVoid with ⟨narrow, width⟩ | ⟨wide, width⟩
    · rw [Kind.slots_of_narrow narrow, width] at clobbers
      simp [Slot.holdsWide, narrow] at clobbers
    · rw [Kind.slots_of_wide wide, width] at clobbers
      simp [Slot.holdsWide] at clobbers

/-- A value stored at a border takes the slots from there on, and nothing below is emptied. -/
theorem stored_border (solid : Solid values) {value : Value} (notVoid : value.kind ≠ .void)
    (room : value.kind.slotWidth ≤ rest.length) :
    stored (blocks values ++ rest) (widths values) value.kind value =
      blocks (values ++ [value]) ++ rest.drop value.kind.slotWidth := by
  have kept : emptiedBelow (blocks values ++ rest) (widths values) = blocks values ++ rest :=
    if_neg (not_wide_below_border solid rest)
  unfold stored written
  rw [kept, blocks_append, blocks_cons, blocks_nil, ← length_blocks solid]
  rcases value.kind.narrow_or_wide notVoid with ⟨narrow, width⟩ | ⟨wide, width⟩
  · rw [width] at room ⊢
    rw [if_neg narrow, Kind.slots_of_narrow narrow]
    cases rest with
    | nil => simp at room
    | cons first others => simp
  · rw [width] at room ⊢
    rw [if_pos wide, Kind.slots_of_wide wide]
    cases rest with
    | nil => simp at room
    | cons first above =>
      cases above with
      | nil => simp at room
      | cons second others => simp

/-- Parameters stored from a border on lie side by side above what is below. -/
theorem storedFrom_border {parameters : List Value} (solid : Solid values)
    (parametersSolid : Solid parameters) (room : widths parameters ≤ rest.length) :
    storedFrom (blocks values ++ rest) (widths values) parameters =
      blocks (values ++ parameters) ++ rest.drop (widths parameters) := by
  -- Each parameter stored belongs to the blocks that the next one is stored above.
  induction parameters generalizing values rest with
  | nil => simp [storedFrom]
  | cons parameter others ih =>
    obtain ⟨notVoid, othersSolid⟩ := solid_cons.1 parametersSolid
    rw [widths_cons] at room
    have nextSolid : Solid (values ++ [parameter]) :=
      solid_append.2 ⟨solid, solid_cons.2 ⟨notVoid, List.forall_mem_nil _⟩⟩
    have nextRoom : widths others ≤ (rest.drop parameter.kind.slotWidth).length := by
      rw [List.length_drop]
      omega
    have next := ih nextSolid othersSolid nextRoom
    rw [widths_append, widths_cons, widths_nil, Nat.add_zero] at next
    rw [storedFrom, stored_border solid notVoid (by omega), next, List.append_assoc,
      List.drop_drop, widths_cons]
    rfl

/-- Parameters stored from local zero on lie side by side in the first locals, and the locals behind
them are as they were. -/
theorem storedFrom_zero {parameters : List Value} (solid : Solid parameters) {locals : List Slot}
    (room : widths parameters ≤ locals.length) :
    storedFrom locals 0 parameters = blocks parameters ++ locals.drop (widths parameters) :=
  storedFrom_border (List.forall_mem_nil _) solid room

end Locals

/-! ## The measure of parameters -/

namespace Policy

variable {policy : Policy} {kind : Kind} {parameters : List Value} {index : Nat}

/-- Why a policy does not let values of a kind be held, if it does not. -/
def objection? (policy : Policy) (kind : Kind) : Option FrameError :=
  if kind = .void then some .voidKind
  else if kind.isWordLike = true ∧ policy.allowWordKinds = false then some (.wordKind kind)
  else none

/-- Why a policy does not let parameters be held: its objection to the first of those that it
objects to. -/
def firstObjection? (policy : Policy) (parameters : List Value) : Option FrameError :=
  parameters.findSome? fun parameter => policy.objection? parameter.kind

/-- Values may be held unless the policy objects to their kind. -/
theorem holds_eq (policy : Policy) (kind : Kind) :
    policy.holds kind = match policy.objection? kind with
      | some cause => refused cause
      | none => .ok () := by
  unfold holds objection?
  split
  · rfl
  · split <;> rfl

/-- A policy does not object to a kind that takes a slot, if it is not word-like or word-like kinds
are allowed. -/
theorem objection?_eq_none_iff : policy.objection? kind = none ↔
    kind ≠ .void ∧ (kind.isWordLike = true → policy.allowWordKinds = true) := by
  rw [← holds_iff, holds_eq]
  cases policy.objection? kind with
  | some cause => exact ⟨nofun, nofun⟩
  | none => exact ⟨fun _ => rfl, fun _ => rfl⟩

/-- A policy does not object to parameters of kinds that it does not object to. -/
theorem firstObjection?_eq_none_iff : policy.firstObjection? parameters = none ↔
    Solid parameters ∧ ∀ parameter ∈ parameters, parameter.kind.isWordLike = true →
      policy.allowWordKinds = true := by
  unfold firstObjection?
  simp only [List.findSome?_eq_none_iff, objection?_eq_none_iff]
  exact ⟨fun all => ⟨fun parameter member => (all parameter member).1,
      fun parameter member => (all parameter member).2⟩,
    fun both parameter member => ⟨both.1 parameter member, both.2 parameter member⟩⟩

/-- The measure of parameters is stopped by the first objection, and is the sum of their widths if
there is none. -/
theorem parametersEnd_eq (small : index + widths parameters < Word.limit) :
    policy.parametersEnd index parameters = match policy.firstObjection? parameters with
      | some cause => refused cause
      | none => .ok (index + widths parameters) := by
  induction parameters generalizing index with
  | nil => rfl
  | cons parameter rest ih =>
    rw [widths_cons, ← Nat.add_assoc] at small
    unfold parametersEnd
    rw [firstObjection?, List.findSome?_cons, holds_eq]
    cases policy.objection? parameter.kind with
    | some cause => rfl
    | none =>
      dsimp only
      rw [if_pos (by omega), ih small, widths_cons, ← Nat.add_assoc]
      rfl

end Policy

/-- Widths add up to two slots for each value at most. -/
theorem widths_le (values : List Value) : widths values ≤ 2 * values.length := by
  induction values with
  | nil => exact Nat.le_refl 0
  | cons value rest ih =>
    have width := value.kind.slotWidth_le_two
    rw [widths_cons, List.length_cons]
    omega

/-- The widths of parameters that fit in memory add up to a word. -/
theorem widths_lt_limit {parameters : List Value} (short : parameters.length < parameterLimit) :
    widths parameters < Word.limit := by
  have widest := widths_le parameters
  unfold parameterLimit at short
  unfold Word.limit
  omega

namespace Contents

variable {contents : Contents} {parameters : List Value}

/-- Parameters are refused for the first objection to them, and else for the last local that is
missing. -/
theorem verdict_storeParameters (small : widths parameters < Word.limit) :
    contents.verdict (.storeParameters parameters) =
      match contents.policy.firstObjection? parameters with
      | some cause => refused cause
      | none =>
        if widths parameters ≤ contents.locals.length then .ok .done
        else refused (.localIndexOutOfRange (widths parameters - 1) contents.locals.length) := by
  change done (contents.storesParameters parameters) = _
  unfold storesParameters
  rw [Policy.parametersEnd_eq (by omega), Nat.zero_add]
  cases contents.policy.firstObjection? parameters with
  | some cause => rfl
  | none =>
    have top : Word.largest.toNat + 1 = Word.limit := by decide
    change done (within contents.locals.length 0 (widths parameters)) = _
    unfold within
    rw [Nat.zero_add, Nat.zero_add]
    split
    · rfl
    · have last :
          min (max (widths parameters) 1 - 1) Word.largest.toNat = widths parameters - 1 := by
        omega
      rw [last]
      rfl

/-- A value whose slots lie among the locals is loaded under its own kind. -/
theorem loaded_of_locals {value : Value} {below above : List Slot} (notVoid : value.kind ≠ .void)
    (locals : contents.locals = below ++ (value.kind.slots value ++ above)) :
    contents.loaded below.length value.kind = .ok value := by
  have inside : below.length + value.kind.slotWidth ≤ contents.locals.length := by
    rw [locals, List.length_append, List.length_append, Kind.length_slots notVoid]
    omega
  have lowest : slotAt contents.locals below.length = some value := by
    rw [locals, Kind.slots, List.cons_append, slotAt_append_length]
  have clear : ¬ (value.kind.isWide = true ∧
      (slotAt contents.locals (below.length + 1)).isSome = true) := by
    rintro ⟨wide, filled⟩
    rw [locals, Kind.slots_of_wide wide, List.cons_append, List.cons_append,
      slotAt_append_length_succ] at filled
    cases filled
  exact loaded_iff.2 ⟨notVoid, inside, lowest, clear, accepts_iff.2 (.inl rfl)⟩

end Contents

/-! ## Frames -/

namespace Edit

variable {frame : Frame} {parameters : List Value}

/-- Each of the parameters that lie side by side in the first locals is loaded under its own kind
from the local that the widths before it lead to. -/
theorem loadLocal_of_blocks (fits : frame.Fits) (solid : Solid parameters) {rest : List Slot}
    (locals : frame.contents.locals = blocks parameters ++ rest) {before after : List Value}
    {value : Value} (split : parameters = before ++ value :: after) (reservations : Reservations) :
    ((loadLocal (widths before).toUInt64 value.kind).perform frame reservations).outcome =
      .answer (.slot (some value)) := by
  subst split
  obtain ⟨beforeSolid, others⟩ := solid_append.1 solid
  have notVoid := (solid_cons.1 others).1
  have count := fits.length_locals
  rw [locals, List.length_append, length_blocks solid, widths_append] at count
  have word : (widths before).toUInt64.toNat = (blocks before).length := by
    have small := fits.sizes
    rw [length_blocks beforeSolid]
    exact Word.toNat_toUInt64 (by omega)
  rw [blocks_append, blocks_cons, List.append_assoc, List.append_assoc] at locals
  have loads := Contents.loaded_of_locals notVoid locals
  rw [← word] at loads
  refine (outcome_eq_answer_iff fits (sources_of_none rfl) reservations).2 ?_
  exact Contents.given_eq_ok_iff.2 loads

/-- Parameters are stored in a frame whose policy does not object to them, if it has the locals for
them. -/
theorem storeParameters_outcome (fits : frame.Fits) (small : widths parameters < Word.limit)
    (reservations : Reservations) :
    ((storeParameters parameters).perform frame reservations).outcome =
      match frame.policy.firstObjection? parameters with
      | some cause => .refusal cause
      | none =>
        if widths parameters ≤ frame.maxLocals then .answer .done
        else .refusal (.localIndexOutOfRange (widths parameters - 1) frame.maxLocals) := by
  have sources : ∀ source : Frame, (storeParameters parameters).source? = some source →
      source.Fits := sources_of_none rfl
  have verdict : frame.contents.verdict (.storeParameters parameters) = _ :=
    Contents.verdict_storeParameters small
  rw [Frame.contents_policy, fits.length_locals] at verdict
  cases objects : frame.policy.firstObjection? parameters with
  | some cause =>
    rw [objects] at verdict
    exact (outcome_eq_refusal_iff fits sources reservations).2 verdict
  | none =>
    rw [objects] at verdict
    dsimp only at verdict ⊢
    by_cases enough : widths parameters ≤ frame.maxLocals
    · rw [if_pos enough] at verdict ⊢
      exact (outcome_eq_answer_iff fits sources reservations).2 verdict
    · rw [if_neg enough] at verdict ⊢
      exact (outcome_eq_refusal_iff fits sources reservations).2 verdict

/-- Parameters are stored exactly when there is no objection to them and they have the locals. -/
theorem storeParameters_done_iff (fits : frame.Fits) (small : widths parameters < Word.limit)
    (reservations : Reservations) :
    ((storeParameters parameters).perform frame reservations).outcome = .answer .done ↔
      frame.policy.firstObjection? parameters = none ∧ widths parameters ≤ frame.maxLocals := by
  rw [storeParameters_outcome fits small]
  cases frame.policy.firstObjection? parameters with
  | some cause => exact ⟨nofun, fun both => nomatch both.1⟩
  | none =>
    dsimp only
    split
    · rename_i enough
      exact ⟨fun _ => ⟨rfl, enough⟩, fun _ => rfl⟩
    · rename_i few
      exact ⟨nofun, fun both => absurd both.2 few⟩

/-- Parameters that are stored lie side by side in the first locals, above which the locals are as
they were. -/
theorem locals_of_storeParameters (fits : frame.Fits) (small : widths parameters < Word.limit)
    {reservations : Reservations}
    (done : ((storeParameters parameters).perform frame reservations).outcome = .answer .done) :
    let after := ((storeParameters parameters).perform frame reservations).frame
    after.Fits ∧ Solid parameters ∧ after.contents.locals =
      blocks parameters ++ frame.contents.locals.drop (widths parameters) := by
  intro after
  have sources : ∀ source : Frame, (storeParameters parameters).source? = some source →
      source.Fits := sources_of_none rfl
  obtain ⟨noObjection, enough⟩ := (storeParameters_done_iff fits small reservations).1 done
  have solid := (Policy.firstObjection?_eq_none_iff.1 noObjection).1
  have accepted := (outcome_eq_answer_iff fits sources reservations).1 done
  obtain ⟨-, afterFits, shows⟩ := done_of_ok _ fits sources reservations accepted
  have room : widths parameters ≤ frame.contents.locals.length := by rwa [fits.length_locals]
  exact ⟨afterFits, solid, (congrArg Contents.locals shows).trans (storedFrom_zero solid room)⟩

/-- Locals behind parameters that are stored read as before. -/
theorem localAt_of_storeParameters (fits : frame.Fits) (small : widths parameters < Word.limit)
    {reservations : Reservations}
    (done : ((storeParameters parameters).perform frame reservations).outcome = .answer .done)
    (index : UInt64) (behind : widths parameters ≤ index.toNat) :
    ((storeParameters parameters).perform frame reservations).frame.localAt index =
      frame.localAt index := by
  obtain ⟨afterFits, solid, locals⟩ := locals_of_storeParameters fits small done
  have enough := ((storeParameters_done_iff fits small reservations).1 done).2
  have count := afterFits.length_locals
  rw [locals, List.length_append, List.length_drop, length_blocks solid, fits.length_locals,
    Nat.add_sub_cancel' enough] at count
  rw [afterFits.localAt_eq, fits.localAt_eq, locals, ← count,
    List.getElem?_append_right (by rwa [length_blocks solid]), List.getElem?_drop,
    length_blocks solid, Nat.add_sub_cancel' behind]

/-- Parameters are stored over locals that may hold anything, in any mode. They are all taken or
none of them is: the policy has to let each be held, and there have to be as many locals as their
widths add up to. The refusal is for the first parameter that the policy objects to, and else for
the last local that is missing. Parameters that are stored lie side by side in the first locals, the
locals behind them are as they were, and each is loaded under its own kind from the local that the
widths before it lead to. -/
theorem storeParameters_over_used_locals (fits : frame.Fits)
    (short : parameters.length < parameterLimit) (reservations : Reservations) :
    let performed := (storeParameters parameters).perform frame reservations
    let objection? := frame.policy.firstObjection? parameters
    let width := widths parameters
    (performed.outcome = .answer .done ↔ (∀ parameter ∈ parameters, parameter.kind ≠ .void) ∧
      (∀ parameter ∈ parameters, parameter.kind.isWordLike = true →
        frame.policy.allowWordKinds = true) ∧ width ≤ frame.maxLocals) ∧
    (∀ cause, objection? = some cause → performed.outcome = .refusal cause) ∧
    (objection? = none → frame.maxLocals < width →
      performed.outcome = .refusal (.localIndexOutOfRange (width - 1) frame.maxLocals)) ∧
    (performed.outcome = .answer .done →
      performed.frame.buffer.locals = blocks parameters ++ frame.buffer.locals.drop width ∧
      (∀ index : UInt64, width ≤ index.toNat →
        performed.frame.localAt index = frame.localAt index) ∧
      ∀ before parameter after, parameters = before ++ parameter :: after → ∀ reported,
        ((loadLocal (widths before).toUInt64 parameter.kind).perform performed.frame
          reported).outcome = .answer (.slot (some parameter))) := by
  intro performed objection? width
  have small := widths_lt_limit short
  have outcome : performed.outcome = _ := storeParameters_outcome fits small reservations
  refine ⟨?_, fun cause objects => ?_, fun noObjection few => ?_, fun done => ?_⟩
  · rw [storeParameters_done_iff fits small, Policy.firstObjection?_eq_none_iff, and_assoc]
    exact Iff.rfl
  · change frame.policy.firstObjection? parameters = _ at objects
    rw [outcome, objects]
  · change frame.policy.firstObjection? parameters = _ at noObjection
    rw [outcome, noObjection]
    exact if_neg (Nat.not_le.2 few)
  · obtain ⟨afterFits, solid, locals⟩ := locals_of_storeParameters fits small done
    exact ⟨locals, localAt_of_storeParameters fits small done,
      fun before parameter after split reported =>
        loadLocal_of_blocks afterFits solid locals split reported⟩

/-- Wide values lie in all locals of a relaxed frame, the second one across the border between the
parameters. -/
theorem storeParameters_over_used_locals_straddling :
    let scope := Scope.root ⟨some 0, 0⟩ "A.b()V"
    let old : Value := ⟨0, 0, .double, ""⟩
    let small : Value := ⟨0, 1, .int, ""⟩
    let wide : Value := ⟨0, 2, .long, ""⟩
    let word : Value := ⟨0, 3, .word, ""⟩
    let nothing : Value := ⟨0, 4, .void, ""⟩
    let frame : Frame :=
      ⟨⟨4, 0, #[some old, some old, some old, some old]⟩, scope, Monitors.empty, true,
        Policy.strict⟩
    let store := fun parameters => (storeParameters parameters).perform frame Reservations.empty
    frame.Fits ∧ (store [small, wide]).outcome = .answer .done ∧
      (store [small, wide]).frame.buffer.locals = [some small, some wide, none, some old] ∧
      (store [wide, word, nothing]).outcome = .refusal (.wordKind .word) ∧
      (store [wide, wide, small]).outcome = .refusal (.localIndexOutOfRange 4 4) := by
  intro scope old small wide word nothing frame store
  have fits : frame.Fits := ⟨⟨by decide, by decide⟩, by decide⟩
  have stores (parameters : List Value) (short : parameters.length < parameterLimit) :=
    storeParameters_over_used_locals fits short Reservations.empty
  have taken := stores [small, wide] (by decide)
  have barred := stores [wide, word, nothing] (by decide)
  have tooMany := stores [wide, wide, small] (by decide)
  have done := taken.1.2 ⟨by decide, by decide, by decide⟩
  exact ⟨fits, done, (taken.2.2.2 done).1, barred.2.1 _ (by decide), tooMany.2.2.1 (by decide)
    (by decide)⟩

end Edit
end SymbolicFrame
