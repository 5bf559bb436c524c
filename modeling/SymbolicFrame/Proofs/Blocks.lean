import SymbolicFrame.Proofs.Contents

/-!
# Values one above the other

A region that typed edits fill is made of blocks: the slot of a narrow value alone, or that of a
wide value and an empty one above it. The values can be read off such slots, a place in them is
the border between two blocks or lies inside the block of a wide value, and a window of them is
read as arguments exactly when it starts at a border.
-/

namespace SymbolicFrame

/-- The slots that values take one above the other. -/
def blocks (values : List Value) : List Slot :=
  values.flatMap fun value => value.kind.slots value

/-- How many slots values take. -/
def widths : List Value → Nat
  | [] => 0
  | value :: rest => value.kind.slotWidth + widths rest

/-- No value is of the kind that takes no slot. -/
def Solid (values : List Value) : Prop := ∀ value ∈ values, value.kind ≠ .void

instance (values : List Value) : Decidable (Solid values) :=
  inferInstanceAs (Decidable (∀ value ∈ values, value.kind ≠ .void))

/-- The values that slots hold. -/
def heldIn (slots : List Slot) : List Value := slots.filterMap id

variable {values low high : List Value} {value : Value}

@[simp]
theorem blocks_nil : blocks [] = [] := rfl

@[simp]
theorem blocks_cons (value : Value) (values : List Value) :
    blocks (value :: values) = value.kind.slots value ++ blocks values := List.flatMap_cons

@[simp]
theorem blocks_append (low high : List Value) :
    blocks (low ++ high) = blocks low ++ blocks high := List.flatMap_append

@[simp]
theorem widths_nil : widths [] = 0 := rfl

@[simp]
theorem widths_cons (value : Value) (values : List Value) :
    widths (value :: values) = value.kind.slotWidth + widths values := rfl

@[simp]
theorem widths_append (low high : List Value) :
    widths (low ++ high) = widths low + widths high := by
  induction low with
  | nil => exact (Nat.zero_add _).symm
  | cons value rest ih => rw [List.cons_append, widths_cons, ih, widths_cons, Nat.add_assoc]

/-- Solid values are so one by one and together. -/
@[simp]
theorem solid_cons : Solid (value :: values) ↔ value.kind ≠ .void ∧ Solid values :=
  List.forall_mem_cons

@[simp]
theorem solid_append : Solid (low ++ high) ↔ Solid low ∧ Solid high := List.forall_mem_append

/-- Under a narrow kind, a value takes its own slot. -/
theorem Kind.slots_of_narrow {kind : Kind} (narrow : ¬ kind.isWide = true) (value : Value) :
    kind.slots value = [some value] := by
  rw [Kind.slots, if_neg narrow]

/-- Under a wide kind, a value takes its own slot and an empty one. -/
theorem Kind.slots_of_wide {kind : Kind} (wide : kind.isWide = true) (value : Value) :
    kind.slots value = [some value, none] := by
  rw [Kind.slots, if_pos wide]

/-- Values are of some narrow kind that takes one slot, or of a wide one that takes two. -/
theorem Kind.narrow_or_wide {kind : Kind} (solid : kind ≠ .void) :
    (¬ kind.isWide = true ∧ kind.slotWidth = 1) ∨ (kind.isWide = true ∧ kind.slotWidth = 2) := by
  revert solid
  cases kind <;> decide

/-- A value takes as many slots as its kind says. -/
theorem Kind.length_slots {kind : Kind} (solid : kind ≠ .void) (value : Value) :
    (kind.slots value).length = kind.slotWidth := by
  rcases kind.narrow_or_wide solid with ⟨narrow, width⟩ | ⟨wide, width⟩
  · rw [slots_of_narrow narrow, width]
    rfl
  · rw [slots_of_wide wide, width]
    rfl

/-- Solid values take as many slots as their widths add up to. -/
theorem length_blocks (solid : Solid values) : (blocks values).length = widths values := by
  induction values with
  | nil => rfl
  | cons value rest ih =>
    obtain ⟨notVoid, restSolid⟩ := solid_cons.1 solid
    rw [blocks_cons, List.length_append, Kind.length_slots notVoid, ih restSolid, widths_cons]

/-- The values are read off their slots. -/
@[simp]
theorem heldIn_blocks (values : List Value) : heldIn (blocks values) = values := by
  induction values with
  | nil => rfl
  | cons value rest ih =>
    rw [blocks_cons, heldIn, List.filterMap_append, ← heldIn, ← heldIn, ih]
    unfold Kind.slots
    split <;> rfl

/-- Slots are the blocks of one list of values at most. -/
theorem blocks_inj (same : blocks low = blocks high) : low = high := by
  rw [← heldIn_blocks low, same, heldIn_blocks]

/-- The values that the filled slots of a region are listed with are the values held in it. -/
theorem map_filled (slots : List Slot) :
    (Buffer.filled slots).map (fun entry => entry.2.2) = heldIn slots := by
  have shifted (from_ : Nat) : ((slots.zipIdx from_).filterMap fun entry =>
      entry.1.map fun value => (entry.2, value.kind, value)).map (fun entry => entry.2.2) =
        heldIn slots := by
    induction slots generalizing from_ with
    | nil => rfl
    | cons slot rest ih =>
      cases slot with
      | none => exact ih (from_ + 1)
      | some value => exact congrArg (value :: ·) (ih (from_ + 1))
  exact shifted 0

/-! ## Places in blocks -/

/-- The slot right above other slots. -/
@[simp]
theorem slotAt_append_length (below : List Slot) (slot : Slot) (above : List Slot) :
    slotAt (below ++ slot :: above) below.length = slot := by
  simp [slotAt]

/-- The second slot above other slots. -/
@[simp]
theorem slotAt_append_length_succ (below : List Slot) (first second : Slot) (above : List Slot) :
    slotAt (below ++ first :: second :: above) (below.length + 1) = second := by
  simp [slotAt]

/-- A place in blocks is the border between two of them, or lies inside the block of a wide
value. -/
theorem border_or_inside (solid : Solid values) {place : Nat} (lies : place ≤ widths values) :
    (∃ low high, values = low ++ high ∧ widths low = place) ∨
      ∃ low value high, values = low ++ value :: high ∧ value.kind.isWide = true ∧
        place = widths low + 1 := by
  induction values generalizing place with
  | nil => exact .inl ⟨[], [], rfl, (Nat.le_zero.1 lies).symm⟩
  | cons value rest ih =>
    obtain ⟨notVoid, restSolid⟩ := solid_cons.1 solid
    rw [widths_cons] at lies
    have positive := mt (value.kind.slotWidth_eq_zero_iff).1 notVoid
    by_cases atStart : place = 0
    · exact .inl ⟨[], value :: rest, rfl, atStart.symm⟩
    · by_cases inFirst : place < value.kind.slotWidth
      · have narrow := value.kind.slotWidth_le_two
        refine .inr ⟨[], value, rest, rfl, (value.kind.isWide_iff).2 (by omega), ?_⟩
        rw [widths_nil]
        omega
      · -- The place lies in the other blocks; the first one shifts it.
        have shifted : place = value.kind.slotWidth + (place - value.kind.slotWidth) := by omega
        rcases ih restSolid (by omega : place - value.kind.slotWidth ≤ widths rest) with
          ⟨low, high, split, border⟩ | ⟨low, wide, high, split, isWide, inside⟩
        · refine .inl ⟨value :: low, high, by rw [split]; rfl, ?_⟩
          rw [widths_cons, border]
          exact shifted.symm
        · refine .inr ⟨value :: low, wide, high, by rw [split]; rfl, isWide, ?_⟩
          rw [widths_cons]
          omega

/-- Blocks cut at a border are the blocks below it. -/
theorem take_blocks (solid : Solid low) (high : List Value) :
    (blocks (low ++ high)).take (widths low) = blocks low := by
  rw [blocks_append, ← length_blocks solid, List.take_left]

/-- Blocks from a border on are the blocks above it. -/
theorem drop_blocks (solid : Solid low) (high : List Value) :
    (blocks (low ++ high)).drop (widths low) = blocks high := by
  rw [blocks_append, ← length_blocks solid, List.drop_left]

/-- Right above a border there is no empty slot. -/
theorem slotAt_border (solid : Solid low) (value : Value) (high : List Value) :
    slotAt (blocks (low ++ value :: high)) (widths low) = some value := by
  rw [blocks_append, blocks_cons, ← length_blocks solid, Kind.slots, List.cons_append,
    slotAt_append_length]

/-- Inside the block of a wide value there is an empty slot. -/
theorem slotAt_inside (solid : Solid low) (wide : value.kind.isWide = true) (high : List Value) :
    slotAt (blocks (low ++ value :: high)) (widths low + 1) = none := by
  rw [blocks_append, blocks_cons, ← length_blocks solid, Kind.slots_of_wide wide,
    List.cons_append, List.cons_append, slotAt_append_length_succ]

/-! ## Windows of blocks -/

/-- Blocks are read as their values. -/
theorem windowValues_blocks (place : Nat) (solid : Solid values) :
    EditM.windowValues place false (blocks values) = .ok values := by
  induction values generalizing place with
  | nil => rfl
  | cons value rest ih =>
    obtain ⟨notVoid, restSolid⟩ := solid_cons.1 solid
    rw [blocks_cons]
    rcases value.kind.narrow_or_wide notVoid with ⟨narrow, -⟩ | ⟨wide, -⟩
    · rw [Kind.slots_of_narrow narrow, List.singleton_append, EditM.windowValues,
        Bool.eq_false_iff.2 narrow, ih _ restSolid]
      rfl
    · rw [Kind.slots_of_wide wide, List.cons_append, List.singleton_append, EditM.windowValues,
        wide, EditM.windowValues, if_pos rfl, ih _ restSolid]
      rfl

/-- A window that starts inside the block of a wide value is not read. -/
theorem windowValues_inside (place : Nat) (solid : Solid low) (wide : value.kind.isWide = true)
    (high : List Value) :
    EditM.windowValues place false ((blocks (low ++ value :: high)).drop (widths low + 1)) =
      .error place := by
  rw [← List.drop_drop, drop_blocks solid, blocks_cons, Kind.slots_of_wide wide]
  rfl

end SymbolicFrame
