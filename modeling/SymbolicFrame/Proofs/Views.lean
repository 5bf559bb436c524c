import SymbolicFrame.Proofs.Blocks
import SymbolicFrame.Proofs.Equality
import SymbolicFrame.Proofs.Histories

/-!
# Ways to read a frame

The slots of a frame are read in five ways. A local and a stack slot are read by their own indices,
and a place among both by one index that runs over the locals first. The filled locals and the
filled stack slots are listed, and so are all values that the frame keeps alive. Whoever mixes these
has to rely on them meeting at the border of the two regions and at the top of the stack: they all
show the slots that are locals or live stack, each once and in its place. None of them shows what an
earlier push has left above the live stack.
-/

namespace SymbolicFrame

/-! ## Listed slots -/

/-- Entries list what a reader finds. -/
structure Listing (read : UInt64 → Except FrameError Slot) (entries : List (Nat × Kind × Value)) :
    Prop where
  /-- Each entry comes once, in the order of the indices. -/
  increasing : entries.Pairwise fun lower upper => lower.1 < upper.1
  /-- There is an entry for every index at which the reader finds a value, with the kind of the
  value, and no other. -/
  mem_iff : ∀ entry, entry ∈ entries ↔ ∃ (index : UInt64) (value : Value),
    read index = .ok (some value) ∧ entry = (index.toNat, value.kind, value)

section Slots

variable {slots : List Slot}

/-- The filled slots of a region are listed in the order of their places. -/
theorem pairwise_filled (slots : List Slot) :
    (Buffer.filled slots).Pairwise fun lower upper => lower.1 < upper.1 := by
  unfold Buffer.filled
  rw [List.pairwise_filterMap, List.pairwise_iff_getElem]
  intro low high lowInside highInside ordered lower isLower upper isUpper
  rw [List.getElem_zipIdx] at isLower isUpper
  obtain ⟨first, -, rfl⟩ := Option.map_eq_some_iff.1 isLower
  obtain ⟨second, -, rfl⟩ := Option.map_eq_some_iff.1 isUpper
  exact Nat.add_lt_add_left ordered 0

/-- The filled slots of a region are those at which a value is found. -/
theorem mem_filled_iff {entry : Nat × Kind × Value} : entry ∈ Buffer.filled slots ↔
    ∃ place value, slots[place]? = some (some value) ∧ entry = (place, value.kind, value) := by
  constructor
  · intro member
    obtain ⟨⟨slot, place⟩, inside, isEntry⟩ := List.mem_filterMap.1 member
    obtain ⟨value, rfl, rfl⟩ := Option.map_eq_some_iff.1 isEntry
    exact ⟨place, value, List.mem_zipIdx_iff_getElem?.1 inside, rfl⟩
  · rintro ⟨place, value, found, rfl⟩
    exact List.mem_filterMap.2 ⟨(some value, place), List.mem_zipIdx_iff_getElem?.2 found, rfl⟩

/-- The filled slots of a region list what a reader of the region finds, if every place of the
region is a word. -/
theorem listing_filled {read : UInt64 → Except FrameError Slot} (small : slots.length ≤ Word.limit)
    (reads : ∀ (index : UInt64) (slot : Slot),
      read index = .ok slot ↔ slots[index.toNat]? = some slot) :
    Listing read (Buffer.filled slots) := by
  refine ⟨pairwise_filled slots, fun entry => mem_filled_iff.trans ?_⟩
  constructor
  · rintro ⟨place, value, found, rfl⟩
    have inside := (List.getElem?_eq_some_iff.1 found).1
    have word : place.toUInt64.toNat = place := Word.toNat_toUInt64 (by omega)
    refine ⟨place.toUInt64, value, (reads _ _).2 ?_, ?_⟩
    · rw [word]
      exact found
    · rw [word]
  · rintro ⟨index, value, found, rfl⟩
    exact ⟨index.toNat, value, (reads _ _).1 found, rfl⟩

end Slots

/-! ## The readers of a frame -/

namespace Frame

variable {frame : Frame}

/-- A value remains only in slots above the live stack: it was put on the stack once, and since then
it has been taken off or cut off without its slot being used again. -/
structure Leftover (frame : Frame) (value : Value) : Prop where
  /-- The value lies in some slot. -/
  remains : ∃ place : Nat, frame.buffer.slots[place]? = some (some value)
  /-- Every slot that the value lies in is above the live stack. -/
  above : ∀ place : Nat, frame.buffer.slots[place]? = some (some value) → frame.valuesSize ≤ place
  /-- The value is no monitor that is held. -/
  released : value ∉ frame.locks

/-- All readers show the same slots. -/
structure ReadsAlike (frame : Frame) : Prop where
  /-- A place below the number of locals is that of a local. -/
  valueAt_local : ∀ index : UInt64, index.toNat < frame.maxLocals →
    frame.localAt index = .ok (frame.valueAt index)
  /-- The next places are those of the live stack slots, from the bottom up. -/
  valueAt_stack : ∀ index : UInt64, frame.maxLocals ≤ index.toNat →
    index.toNat < frame.valuesSize →
      frame.stackAt (index - frame.maxLocals.toUInt64) = .ok (frame.valueAt index)
  /-- Nothing is found at any other place. -/
  valueAt_beyond : ∀ index : UInt64, frame.valuesSize ≤ index.toNat → frame.valueAt index = none
  /-- Locals are read below their number, and refused from there on. -/
  localAt_fails : ∀ index : UInt64,
    (∃ cause, frame.localAt index = .error cause) ↔ frame.maxLocals ≤ index.toNat
  /-- Stack slots are read below the height of the stack, and refused from there on. -/
  stackAt_fails : ∀ index : UInt64,
    (∃ cause, frame.stackAt index = .error cause) ↔ frame.stackSize ≤ index.toNat
  /-- The filled locals are listed. -/
  locals : Listing frame.localAt frame.locals
  /-- The filled stack slots are listed. -/
  stack : Listing frame.stackAt frame.stack
  /-- The values kept alive are those found at the places of both regions, one after the other, and
  then the monitors. -/
  liveValues_eq : frame.liveValues =
    (List.range frame.valuesSize).filterMap (fun place => frame.valueAt place.toUInt64) ++
      frame.locks
  /-- The monitors are read by their depth, as many as are held. -/
  lockAt_eq : frame.locks.length = frame.locksSize ∧
    ∀ index : UInt64, frame.locks[index.toNat]? = frame.lockAt index
  /-- Nobody shows a value that remains only above the live stack. -/
  leftover : ∀ value, frame.Leftover value →
    (∀ index, frame.localAt index ≠ .ok (some value)) ∧
    (∀ index, frame.stackAt index ≠ .ok (some value)) ∧
    (∀ index, frame.valueAt index ≠ some value) ∧
    (∀ entry ∈ frame.locals, entry.2.2 ≠ value) ∧
    (∀ entry ∈ frame.stack, entry.2.2 ≠ value) ∧
    value ∉ frame.liveValues ∧ ∀ index, frame.lockAt index ≠ some value

/-! ## One slot -/

/-- A check of an index fails exactly when the index is not below its bound. -/
private theorem bounded_fails_iff {index bound : Nat} {slot : Slot} {cause : FrameError} :
    (∃ other, (if index < bound then Except.ok slot else .error cause) = .error other) ↔
      bound ≤ index := by
  split
  · rename_i inside
    exact iff_of_false nofun (Nat.not_le.2 inside)
  · rename_i outside
    exact iff_of_true ⟨cause, rfl⟩ (Nat.not_lt.1 outside)

/-- A local is found at the same place among all slots. -/
theorem localAt_eq_valueAt {index : UInt64} (isLocal : index.toNat < frame.maxLocals) :
    frame.localAt index = .ok (frame.valueAt index) := by
  have live : index.toNat < frame.buffer.valuesSize := Nat.lt_add_right _ isLocal
  have found : frame.valueAt index = frame.buffer.slots.getD index.toNat none := if_pos live
  rw [found]
  exact if_pos isLocal

/-- A live stack slot is found above the locals among all slots. -/
theorem stackAt_eq_valueAt {index : UInt64} (above : frame.maxLocals ≤ index.toNat)
    (live : index.toNat < frame.valuesSize) :
    frame.stackAt (index - frame.maxLocals.toUInt64) = .ok (frame.valueAt index) := by
  have small : index.toNat < Word.limit := index.toNat_lt
  have word : frame.maxLocals.toUInt64.toNat = frame.maxLocals := Word.toNat_toUInt64 (by omega)
  have ordered : frame.maxLocals.toUInt64 ≤ index := by
    rw [UInt64.le_iff_toNat_le, word]
    exact above
  have place : (index - frame.maxLocals.toUInt64).toNat = index.toNat - frame.maxLocals := by
    rw [UInt64.toNat_sub_of_le _ _ ordered, word]
  have inside : index.toNat - frame.maxLocals < frame.buffer.depth := by
    change index.toNat < frame.maxLocals + frame.buffer.depth at live
    omega
  have back : frame.buffer.maxLocals + (index.toNat - frame.maxLocals) = index.toNat :=
    Nat.add_sub_cancel' above
  have found : frame.valueAt index = frame.buffer.slots.getD index.toNat none := if_pos live
  unfold stackAt Buffer.stackAt
  rw [place, if_pos inside, back, found]

/-- What a reader of a region gives is what it found there. -/
private theorem read_eq_ok_iff {found : Option Slot} {slot : Slot} {cause : FrameError} :
    (match found with
      | some slot => Except.ok slot
      | none => Except.error cause) = .ok slot ↔ found = some slot := by
  cases found with
  | none => exact ⟨nofun, nofun⟩
  | some held => rw [Except.ok.injEq, Option.some.injEq]

/-- A local that is read is found in its place. -/
theorem Fits.localAt_eq_ok_iff (fits : frame.Fits) (index : UInt64) (slot : Slot) :
    frame.localAt index = .ok slot ↔ frame.buffer.locals[index.toNat]? = some slot := by
  rw [fits.localAt_eq]
  exact read_eq_ok_iff

/-- A stack slot that is read is found in its place. -/
theorem Fits.stackAt_eq_ok_iff (fits : frame.Fits) (index : UInt64) (slot : Slot) :
    frame.stackAt index = .ok slot ↔ frame.buffer.stack[index.toNat]? = some slot := by
  rw [fits.stackAt_eq]
  exact read_eq_ok_iff

/-! ## All slots -/

/-- The values kept alive are those held in the locals and in the live stack, then the monitors. -/
theorem liveValues_eq_heldIn (frame : Frame) :
    frame.liveValues = heldIn (frame.buffer.locals ++ frame.buffer.stack) ++ frame.locks := by
  have values : (frame.locals ++ frame.stack).map (fun entry => entry.2.2) =
      heldIn frame.buffer.locals ++ heldIn frame.buffer.stack := by
    rw [List.map_append, ← map_filled, ← map_filled]
    rfl
  rw [liveValues, values, heldIn, heldIn, ← List.filterMap_append, ← heldIn]

/-- The locals and the live stack are read off the places of all slots, one after the other. -/
theorem Fits.map_valueAt (fits : frame.Fits) :
    ((List.range frame.valuesSize).map fun place => frame.valueAt place.toUInt64) =
      frame.buffer.locals ++ frame.buffer.stack := by
  have sizes := fits.sizes
  have live : frame.valuesSize = frame.maxLocals + frame.stackSize := rfl
  have length : (frame.buffer.locals ++ frame.buffer.stack).length = frame.valuesSize := by
    rw [List.length_append, fits.formed.length_locals, fits.formed.length_stack]
    rfl
  apply List.ext_getElem
  · rw [List.length_map, List.length_range, length]
  · intro place _ inside
    have word : place.toUInt64.toNat = place := Word.toNat_toUInt64 (by omega)
    rw [List.getElem_map, List.getElem_range, fits.valueAt_eq, word, slotAt_eq]
    exact congrArg (·.getD none) (List.getElem?_eq_getElem inside)

/-- A value that remains above the live stack lies in no local and in no live stack slot. -/
theorem Leftover.not_live {value : Value} (leftover : frame.Leftover value) :
    some value ∉ frame.buffer.locals ++ frame.buffer.stack := by
  intro member
  rw [← Buffer.toList_live] at member
  obtain ⟨place, found⟩ := List.mem_iff_getElem?.1 member
  rw [Array.getElem?_toList, Array.getElem?_extract] at found
  split at found
  · rename_i inside
    rw [Nat.zero_add] at found
    have above := leftover.above place found
    change frame.buffer.valuesSize ≤ place at above
    omega
  · cases found

/-- A value that remains above the live stack is shown by no reader. -/
theorem Fits.hides_leftover (fits : frame.Fits) {value : Value} (leftover : frame.Leftover value) :
    (∀ index, frame.localAt index ≠ .ok (some value)) ∧
    (∀ index, frame.stackAt index ≠ .ok (some value)) ∧
    (∀ index, frame.valueAt index ≠ some value) ∧
    (∀ entry ∈ frame.locals, entry.2.2 ≠ value) ∧
    (∀ entry ∈ frame.stack, entry.2.2 ≠ value) ∧
    value ∉ frame.liveValues ∧ ∀ index, frame.lockAt index ≠ some value := by
  have notLive := leftover.not_live
  have noLocal : some value ∉ frame.buffer.locals := fun isLocal =>
    notLive (List.mem_append_left _ isLocal)
  have noStack : some value ∉ frame.buffer.stack := fun onStack =>
    notLive (List.mem_append_right _ onStack)
  refine ⟨fun index found => ?_, fun index found => ?_, fun index found => ?_,
    fun entry listed same => ?_, fun entry listed same => ?_, fun kept => ?_, fun index found => ?_⟩
  · exact noLocal (List.mem_of_getElem? ((fits.localAt_eq_ok_iff index _).1 found))
  · exact noStack (List.mem_of_getElem? ((fits.stackAt_eq_ok_iff index _).1 found))
  · rw [fits.valueAt_eq, slotAt_eq, Option.getD_eq_iff] at found
    obtain inside | ⟨-, impossible⟩ := found
    · exact notLive (List.mem_of_getElem? inside)
    · cases impossible
  · obtain ⟨place, held, found, rfl⟩ := mem_filled_iff.1 listed
    cases same
    exact noLocal (List.mem_of_getElem? found)
  · obtain ⟨place, held, found, rfl⟩ := mem_filled_iff.1 listed
    cases same
    exact noStack (List.mem_of_getElem? found)
  · rw [liveValues_eq_heldIn, List.mem_append] at kept
    obtain held | isMonitor := kept
    · obtain ⟨slot, isSlot, isValue⟩ := List.mem_filterMap.1 held
      cases isValue
      exact notLive isSlot
    · exact leftover.released isMonitor
  · exact leftover.released (List.mem_of_getElem? found)

/-! ## All readers -/

/-- The readers of a frame that fits, as every reachable one does, show the same slots. A place
below the number of locals is that of a local, the next ones are those of the live stack, and at
every other place nothing is found, where the readers of single locals and stack slots fail. The
filled locals and the filled stack slots are listed in order and once, the values kept alive are
those found at all places in order and then the monitors, and what an earlier push has left above
the live stack is shown by nobody. -/
theorem Fits.readers_agree (fits : frame.Fits) : frame.ReadsAlike := by
  have sizes := fits.sizes
  have localsLength : frame.buffer.locals.length = frame.maxLocals := fits.length_locals
  have stackLength : frame.buffer.stack.length = frame.stackSize := fits.length_stack
  constructor
  case valueAt_local => exact fun _ isLocal => localAt_eq_valueAt isLocal
  case valueAt_stack => exact fun _ above live => stackAt_eq_valueAt above live
  case valueAt_beyond => exact fun _ beyond => if_neg (Nat.not_lt.2 beyond)
  case localAt_fails => exact fun _ => bounded_fails_iff
  case stackAt_fails => exact fun _ => bounded_fails_iff
  case locals => exact listing_filled (by omega) fits.localAt_eq_ok_iff
  case stack => exact listing_filled (by omega) fits.stackAt_eq_ok_iff
  case liveValues_eq =>
    rw [liveValues_eq_heldIn, ← fits.map_valueAt, heldIn, List.filterMap_map, Function.id_comp]
  case lockAt_eq => exact ⟨rfl, fun _ => rfl⟩
  case leftover => exact fun _ leftover => fits.hides_leftover leftover

/-- A wide value is on the stack, and a popped one is still in the slot above it. -/
theorem Fits.readers_agree_below_leftover :
    let scope := Scope.root ⟨some 0, 0⟩ "A.b()V"
    let small : Value := ⟨0, 0, .int, ""⟩
    let wide : Value := ⟨0, 1, .long, ""⟩
    let popped : Value := ⟨0, 2, .float, ""⟩
    let object : Value := ⟨0, 3, .object, ""⟩
    let frame : Frame :=
      ⟨⟨2, 2, #[none, some small, some wide, none, some popped]⟩, scope, ⟨some [object]⟩, false,
        Policy.standard⟩
    frame.Reachable ∧ frame.ReadsAlike ∧ frame.Leftover popped ∧
      frame.stackAt (2 - frame.maxLocals.toUInt64) = .ok (frame.valueAt 2) ∧
      frame.valueAt 2 = some wide ∧
      frame.liveValues = [small, wide, object] ∧ popped ∉ frame.liveValues := by
  intro scope small wide popped object frame
  have reachable : frame.Reachable :=
    ⟨false, [.create "a" scope 2 3 Policy.standard, .edit "a" (.storeLocal 1 .int small),
      .edit "a" (.push .long wide), .edit "a" (.push .float popped), .edit "a" (.pop .float),
      .edit "a" (.lock scope object 1)], "a", by decide⟩
  have alike : frame.ReadsAlike := Fits.readers_agree reachable.fits
  have notBelow : ∀ place, place < 4 → frame.buffer.slots[place]? ≠ some (some popped) := by decide
  have leftover : frame.Leftover popped :=
    ⟨⟨4, rfl⟩, fun place found => Nat.not_lt.1 fun below => notBelow place below found, by decide⟩
  obtain ⟨-, -, -, -, -, hidden, -⟩ := alike.leftover popped leftover
  exact ⟨reachable, alike, leftover, alike.valueAt_stack 2 (by decide) (by decide), rfl, by decide,
    hidden⟩

end Frame
end SymbolicFrame
