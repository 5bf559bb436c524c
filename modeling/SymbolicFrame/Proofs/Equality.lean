import SymbolicFrame.Proofs.Fits

/-!
# Equality of frames

Frames that fit are equal, in the sense in which frames are compared, when they show the same
contents, and so when every reader reads the same off both. What is written of a frame depends on
its contents too, save for the diagnostic text of its list of monitors.
-/

namespace SymbolicFrame

namespace Buffer

/-- The live part of the array is the locals followed by the live stack. -/
theorem toList_live (buffer : Buffer) :
    (buffer.slots.extract 0 buffer.valuesSize).toList = buffer.locals ++ buffer.stack := by
  rw [locals_eq_take, stack_eq_take, ← List.take_add]
  simp [valuesSize]

/-- Reading a slot looks it up in the locals followed by the live stack. -/
theorem valueAt_eq {buffer : Buffer} (formed : buffer.WellFormed) (index : Nat) :
    buffer.valueAt index = slotAt (buffer.locals ++ buffer.stack) index := by
  have bound := formed.valuesSize_le
  unfold valueAt
  rw [← toList_live, slotAt_eq, Array.getElem?_toList, Array.getElem?_extract, Nat.sub_zero,
    Nat.zero_add, Nat.min_eq_left bound]
  split
  · exact Array.getD_eq_getD_getElem?
  · rfl

/-- Buffers are equal when their sizes and the live parts of their arrays are. -/
theorem agrees_iff (left right : Buffer) :
    left.agrees right = true ↔ left.maxLocals = right.maxLocals ∧
      left.maxStack = right.maxStack ∧ left.depth = right.depth ∧
      left.locals ++ left.stack = right.locals ++ right.stack := by
  rw [← toList_live, ← toList_live, Array.toList_inj]
  simp [agrees, and_assoc]

end Buffer

namespace Frame

/-- Reading a local of a frame that fits looks it up in the contents. -/
theorem Fits.localAt_eq {frame : Frame} (fits : frame.Fits) (index : UInt64) :
    frame.localAt index = match frame.contents.locals[index.toNat]? with
      | some slot => .ok slot
      | none => .error (.localIndexOutOfRange index.toNat frame.maxLocals) :=
  Buffer.localAt_eq fits.formed index.toNat

/-- Reading a slot of a frame that fits looks it up in the contents. -/
theorem Fits.valueAt_eq {frame : Frame} (fits : frame.Fits) (index : UInt64) :
    frame.valueAt index = slotAt (frame.contents.locals ++ frame.contents.stack) index.toNat :=
  Buffer.valueAt_eq fits.formed index.toNat

/-- Reading a stack slot of a frame that fits looks it up in the contents. -/
theorem Fits.stackAt_eq {frame : Frame} (fits : frame.Fits) (index : UInt64) :
    frame.stackAt index = match frame.contents.stack[index.toNat]? with
      | some slot => .ok slot
      | none => .error (.stackIndexOutOfRange index.toNat frame.stackSize) :=
  Buffer.stackAt_eq fits.formed index.toNat

/-- Frames that fit and have the same locals read the same there. -/
theorem Fits.localAt_congr {frame other : Frame} (fits : frame.Fits) (otherFits : other.Fits)
    (same : frame.contents.locals = other.contents.locals) :
    frame.maxLocals = other.maxLocals ∧ ∀ index, frame.localAt index = other.localAt index := by
  have maxLocals : frame.maxLocals = other.maxLocals := by
    rw [← fits.length_locals, same, otherFits.length_locals]
  constructor
  · exact maxLocals
  · intro index
    rw [fits.localAt_eq, otherFits.localAt_eq, same, maxLocals]

/-- Frames that fit and have the same stack read the same there. -/
theorem Fits.stackAt_congr {frame other : Frame} (fits : frame.Fits) (otherFits : other.Fits)
    (same : frame.contents.stack = other.contents.stack) :
    frame.stackSize = other.stackSize ∧ ∀ index, frame.stackAt index = other.stackAt index := by
  have stackSize : frame.stackSize = other.stackSize := by
    rw [← fits.length_stack, same, otherFits.length_stack]
  constructor
  · exact stackSize
  · intro index
    rw [fits.stackAt_eq, otherFits.stackAt_eq, same, stackSize]

variable {left right : Frame}

/-- Frames show the same when their live regions, stack sizes, scopes, monitors, modes and policies
are the same. -/
theorem contents_eq_iff : left.contents = right.contents ↔
    left.buffer.locals = right.buffer.locals ∧ left.buffer.stack = right.buffer.stack ∧
      left.maxStack = right.maxStack ∧ left.scope = right.scope ∧ left.locks = right.locks ∧
      left.relaxed = right.relaxed ∧ left.policy = right.policy := by
  simp [contents]

/-- Frames that fit and show the same have the same sizes. -/
theorem sizes_eq_of_contents (leftFits : left.Fits) (rightFits : right.Fits)
    (same : left.contents = right.contents) :
    left.maxLocals = right.maxLocals ∧ left.stackSize = right.stackSize :=
  ⟨(leftFits.localAt_congr rightFits (congrArg Contents.locals same)).1,
    (leftFits.stackAt_congr rightFits (congrArg Contents.stack same)).1⟩

/-- Frames that fit are equal exactly when they show the same. -/
theorem agrees_iff_contents (leftFits : left.Fits) (rightFits : right.Fits) :
    left.agrees right = true ↔ left.contents = right.contents := by
  have fields : left.agrees right = true ↔ left.buffer.agrees right.buffer = true ∧
      left.scope = right.scope ∧ left.locks = right.locks ∧ left.relaxed = right.relaxed ∧
      left.policy = right.policy := by
    simp [agrees, Monitors.agrees, locks, and_assoc]
  rw [fields, Buffer.agrees_iff]
  constructor
  · rintro ⟨⟨maxLocals, maxStack, -, live⟩, others⟩
    have lengths : left.buffer.locals.length = right.buffer.locals.length := by
      rw [leftFits.formed.length_locals, rightFits.formed.length_locals, maxLocals]
    have regions := List.append_inj live lengths
    exact contents_eq_iff.2 ⟨regions.1, regions.2, maxStack, others⟩
  · intro same
    have sizes := sizes_eq_of_contents leftFits rightFits same
    obtain ⟨locals, stack, maxStack, others⟩ := contents_eq_iff.1 same
    have live : left.buffer.locals ++ left.buffer.stack =
        right.buffer.locals ++ right.buffer.stack := by rw [locals, stack]
    exact ⟨⟨sizes.1, maxStack, sizes.2, live⟩, others⟩

/-! ## Readers -/

/-- Two regions of one size below a word are the same if every index finds the same slot. -/
private theorem regions_eq {first second : List Slot} (sizes : first.length = second.length)
    (small : first.length < Word.limit)
    (slots : ∀ index : UInt64, first[index.toNat]? = second[index.toNat]?) : first = second := by
  apply List.ext_getElem?
  intro place
  by_cases inside : place < first.length
  · have word : place.toUInt64.toNat = place :=
      Word.toNat_toUInt64 (Nat.lt_trans inside small)
    have same := slots place.toUInt64
    rwa [word] at same
  · rw [List.getElem?_eq_none (Nat.not_lt.1 inside),
      List.getElem?_eq_none (by rw [← sizes]; exact Nat.not_lt.1 inside)]

/-- What a reader answers tells the slot that it found, if it found one. -/
private theorem found_of_read {first second : Option Slot} {cause : FrameError}
    (same : (match first with
        | some slot => Except.ok slot
        | none => Except.error cause) =
      match second with
        | some slot => Except.ok slot
        | none => Except.error cause) : first = second := by
  cases first <;> cases second <;> cases same <;> rfl

/-- Frames that fit show the same exactly when every reader reads the same off both. -/
theorem contents_eq_iff_readers (leftFits : left.Fits) (rightFits : right.Fits) :
    left.contents = right.contents ↔ left.scope = right.scope ∧ left.policy = right.policy ∧
      left.relaxed = right.relaxed ∧ left.maxLocals = right.maxLocals ∧
      left.maxStack = right.maxStack ∧ left.stackSize = right.stackSize ∧
      (∀ index, left.localAt index = right.localAt index) ∧
      (∀ index, left.stackAt index = right.stackAt index) ∧ left.locks = right.locks := by
  constructor
  · intro same
    obtain ⟨locals, stack, maxStack, scope, locks, relaxed, policy⟩ := contents_eq_iff.1 same
    obtain ⟨maxLocals, readLocals⟩ := leftFits.localAt_congr rightFits locals
    obtain ⟨stackSize, readStack⟩ := leftFits.stackAt_congr rightFits stack
    exact ⟨scope, policy, relaxed, maxLocals, maxStack, stackSize, readLocals, readStack, locks⟩
  · rintro ⟨scope, policy, relaxed, maxLocals, maxStack, stackSize, readLocals, readStack, locks⟩
    have bounds := leftFits.sizes
    have leftLocals := leftFits.length_locals
    have leftStack := leftFits.length_stack
    have locals : left.contents.locals = right.contents.locals := by
      apply regions_eq (by rw [leftLocals, rightFits.length_locals, maxLocals]) (by omega)
      intro index
      have same := readLocals index
      rw [leftFits.localAt_eq, rightFits.localAt_eq, maxLocals] at same
      exact found_of_read same
    have stack : left.contents.stack = right.contents.stack := by
      apply regions_eq (by rw [leftStack, rightFits.length_stack, stackSize]) (by omega)
      intro index
      have same := readStack index
      rw [leftFits.stackAt_eq, rightFits.stackAt_eq, stackSize] at same
      exact found_of_read same
    exact contents_eq_iff.2 ⟨locals, stack, maxStack, scope, locks, relaxed, policy⟩

/-- Frames that fit and show the same, but for their modes, have slots and monitors that read the
same. -/
theorem readers_eq_of_mode (leftFits : left.Fits) (rightFits : right.Fits) {relaxed : Bool}
    (same : left.contents = { right.contents with relaxed := relaxed }) :
    left.stackSize = right.stackSize ∧ (∀ index, left.stackAt index = right.stackAt index) ∧
      (∀ index, left.localAt index = right.localAt index) ∧ left.locks = right.locks := by
  -- In the mode of the first frame, the second one shows the same.
  let changed : Frame := { right with relaxed := relaxed }
  have changedFits : changed.Fits := ⟨rightFits.formed, rightFits.countable⟩
  have shown : left.contents = changed.contents := same
  obtain ⟨-, -, -, -, -, stackSize, readLocals, readStack, locks⟩ :=
    (contents_eq_iff_readers leftFits changedFits).1 shown
  exact ⟨stackSize, readStack, readLocals, locks⟩

/-! ## Texts -/

/-- Frames that show the same are written alike. -/
theorem render_eq_of_contents (same : left.contents = right.contents) :
    left.render = right.render := by
  obtain ⟨locals, stack, -, scope, locks, relaxed, -⟩ := contents_eq_iff.1 same
  unfold render tokens
  rw [locals, stack, locks, scope, relaxed]

/-- Frames that show the same have the same diagnostic text, save for that of the monitors. -/
theorem debug_eq_of_contents (same : left.contents = right.contents) :
    debug { left with monitors := right.monitors } = right.debug := by
  obtain ⟨locals, stack, maxStack, scope, -, relaxed, policy⟩ := contents_eq_iff.1 same
  have buffer : left.buffer.debug = right.buffer.debug := by
    unfold Buffer.debug
    change left.buffer.maxStack = right.buffer.maxStack at maxStack
    rw [locals, stack, maxStack]
  unfold debug
  rw [buffer, scope, relaxed, policy]

end Frame

namespace Event

variable {left right source other : Frame}

/-- Log records of one level and one text read the same. -/
theorem render_eq {first second : Event} (levels : first.level = second.level)
    (messages : first.message = second.message) : first.render = second.render := by
  unfold render
  rw [levels, messages]

/-- The record of a freeze depends on the text of the frame. -/
theorem render_freezing (same : left.render = right.render) :
    (freezing left).render = (freezing right).render := by
  have messages : (freezing left).message = (freezing right).message := by
    change "Freezing " ++ left.render = "Freezing " ++ right.render
    rw [same]
  exact render_eq rfl messages

/-- The record of locals taken over depends on the texts of the two frames. -/
theorem render_replacingLocals (same : left.render = right.render)
    (sources : source.render = other.render) :
    (replacingLocals left source).render = (replacingLocals right other).render := by
  have messages :
      (replacingLocals left source).message = (replacingLocals right other).message := by
    change "Replacing locals of " ++ left.render ++ " with those of " ++ source.render =
      "Replacing locals of " ++ right.render ++ " with those of " ++ other.render
    rw [same, sources]
  exact render_eq rfl messages

/-- The record of a stack taken over depends on the texts of the two frames. -/
theorem render_replacingStack (same : left.render = right.render)
    (sources : source.render = other.render) :
    (replacingStack left source).render = (replacingStack right other).render := by
  have messages : (replacingStack left source).message = (replacingStack right other).message := by
    change "Replacing stack of " ++ left.render ++ " with that of " ++ source.render =
      "Replacing stack of " ++ right.render ++ " with that of " ++ other.render
    rw [same, sources]
  exact render_eq rfl messages

end Event
end SymbolicFrame
