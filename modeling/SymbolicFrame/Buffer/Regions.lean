import SymbolicFrame.Buffer.Basic

/-!
# The regions of a buffer under its operations

What every operation of a well-formed buffer does to the two live regions, said on `locals` and
`stack` alone. A write below the locals' bound leaves the stack as it is, a slot put right above the
stack appends, moving the top down keeps the lower slots, and a region taken over is the source's
region, whatever lay in the dead slots of either buffer. Each operation keeps a buffer well formed.
-/

namespace SymbolicFrame.Buffer

/-- What lies from a place to the end of an array is the array without what lies before. -/
private theorem toList_extract_size (slots : Array Slot) (place : Nat) :
    (slots.extract place slots.size).toList = slots.toList.drop place := by
  rw [Array.toList_extract, List.extract_eq_take_drop, List.take_of_length_le]
  exact Nat.le_of_eq (by rw [List.length_drop, Array.length_toList])

/-- The local slots are the first slots of the array. -/
theorem locals_eq_take (buffer : Buffer) :
    buffer.locals = buffer.slots.toList.take buffer.maxLocals := by
  simp [locals]

/-- The live stack lies right above the locals. -/
theorem stack_eq_take (buffer : Buffer) :
    buffer.stack = (buffer.slots.toList.drop buffer.maxLocals).take buffer.depth := by
  simp [stack, valuesSize]

namespace WellFormed

/-- The locals of a well-formed buffer lie within its array. -/
theorem maxLocals_le {buffer : Buffer} (formed : buffer.WellFormed) :
    buffer.maxLocals ≤ buffer.slots.size := by
  have size := formed.size_eq
  omega

/-- The live slots of a well-formed buffer lie within its array. -/
theorem valuesSize_le {buffer : Buffer} (formed : buffer.WellFormed) :
    buffer.valuesSize ≤ buffer.slots.size := by
  have size := formed.size_eq
  have bound := formed.depth_le
  unfold valuesSize
  omega

/-- A well-formed buffer has as many local slots as it says. -/
theorem length_locals {buffer : Buffer} (formed : buffer.WellFormed) :
    buffer.locals.length = buffer.maxLocals := by
  have bound := formed.maxLocals_le
  rw [locals_eq_take, List.length_take, Array.length_toList]
  omega

/-- A well-formed buffer has as many live stack slots as it says. -/
theorem length_stack {buffer : Buffer} (formed : buffer.WellFormed) :
    buffer.stack.length = buffer.depth := by
  have bound := formed.valuesSize_le
  unfold valuesSize at bound
  rw [stack_eq_take, List.length_take, List.length_drop, Array.length_toList]
  omega

end WellFormed

/-! ## Fresh buffers -/

/-- The stack of a fresh buffer has the size asked for. -/
@[simp]
theorem maxStack_fresh (maxLocals maxStack : Nat) :
    (fresh maxLocals maxStack).maxStack = maxStack := by
  simp [fresh, Buffer.maxStack]

/-- A fresh buffer is well formed. -/
theorem wellFormed_fresh (maxLocals maxStack : Nat) : (fresh maxLocals maxStack).WellFormed := by
  constructor
  · rw [maxStack_fresh]
    simp [fresh]
  · exact Nat.zero_le _

/-- Every local of a fresh buffer is empty. -/
@[simp]
theorem locals_fresh (maxLocals maxStack : Nat) :
    (fresh maxLocals maxStack).locals = List.replicate maxLocals none := by
  simp [locals_eq_take, fresh]

/-- The stack of a fresh buffer is empty. -/
@[simp]
theorem stack_fresh (maxLocals maxStack : Nat) : (fresh maxLocals maxStack).stack = [] := by
  simp [stack_eq_take, fresh]

/-! ## Writing a slot -/

/-- A write moves no boundary. -/
@[simp]
theorem maxStack_put (buffer : Buffer) (place : Nat) (slot : Slot) :
    (buffer.put place slot).maxStack = buffer.maxStack := by
  simp [put, maxStack]

/-- A write keeps a buffer well formed. -/
theorem WellFormed.put {buffer : Buffer} (formed : buffer.WellFormed) (place : Nat) (slot : Slot) :
    (buffer.put place slot).WellFormed := by
  constructor
  · rw [maxStack_put]
    simpa [Buffer.put] using formed.size_eq
  · rw [maxStack_put]
    exact formed.depth_le

/-- A write replaces the local at its place, if it is one. -/
theorem locals_put (buffer : Buffer) (place : Nat) (slot : Slot) :
    (buffer.put place slot).locals = buffer.locals.set place slot := by
  simp only [locals_eq_take, put, Array.toList_setIfInBounds, List.take_set]

/-- A write to a local leaves the stack as it is. -/
theorem stack_put_of_lt (buffer : Buffer) {place : Nat} (slot : Slot)
    (isLocal : place < buffer.maxLocals) : (buffer.put place slot).stack = buffer.stack := by
  simp only [stack_eq_take, put, Array.toList_setIfInBounds]
  rw [List.drop_set_of_lt isLocal]

/-- A write above the locals leaves them as they are. -/
theorem locals_put_of_le (buffer : Buffer) {place : Nat} (slot : Slot)
    (above : buffer.maxLocals ≤ place) : (buffer.put place slot).locals = buffer.locals := by
  rw [locals_put, List.set_eq_of_length_le]
  rw [locals_eq_take, List.length_take]
  omega

/-! ## Moving the top of the stack -/

/-- Moving the top moves no boundary. -/
@[simp]
theorem maxStack_withDepth (buffer : Buffer) (depth : Nat) :
    (buffer.withDepth depth).maxStack = buffer.maxStack := rfl

/-- Moving the top leaves the locals as they are. -/
@[simp]
theorem locals_withDepth (buffer : Buffer) (depth : Nat) :
    (buffer.withDepth depth).locals = buffer.locals := rfl

/-- Moving the top within the stack keeps a buffer well formed. -/
theorem WellFormed.withDepth {buffer : Buffer} (formed : buffer.WellFormed) {depth : Nat}
    (fits : depth ≤ buffer.maxStack) : (buffer.withDepth depth).WellFormed :=
  ⟨formed.size_eq, fits⟩

/-- Moving the top down keeps the slots below it. -/
theorem stack_withDepth (buffer : Buffer) {depth : Nat} (lower : depth ≤ buffer.depth) :
    (buffer.withDepth depth).stack = buffer.stack.take depth := by
  simp only [stack_eq_take, withDepth, List.take_take, Nat.min_eq_left lower]

/-- A slot put right above the stack, with the top moved over it, is appended to the stack. -/
theorem stack_put_withDepth {buffer : Buffer} (formed : buffer.WellFormed) (slot : Slot)
    (room : buffer.depth < buffer.maxStack) :
    ((buffer.put buffer.valuesSize slot).withDepth (buffer.depth + 1)).stack =
      buffer.stack ++ [slot] := by
  have size := formed.size_eq
  have within : buffer.depth < (buffer.slots.toList.drop buffer.maxLocals).length := by
    rw [List.length_drop, Array.length_toList]
    omega
  simp only [stack_eq_take, put, withDepth, valuesSize, Array.toList_setIfInBounds]
  rw [List.drop_set, if_neg (by omega), Nat.add_sub_cancel_left, List.take_add_one,
    List.take_set_of_le (Nat.le_refl _), List.getElem?_set_self within]
  rfl

/-! ## Emptying and taking over regions -/

/-- Emptying the locals moves no boundary. -/
theorem WellFormed.maxStack_clearLocals {buffer : Buffer} (formed : buffer.WellFormed) :
    buffer.clearLocals.maxStack = buffer.maxStack := by
  have bound := formed.maxLocals_le
  simp only [Buffer.clearLocals, Buffer.maxStack, Array.size_append, Array.size_replicate,
    Array.size_extract]
  omega

/-- Emptying the locals keeps a buffer well formed. -/
theorem WellFormed.clearLocals {buffer : Buffer} (formed : buffer.WellFormed) :
    buffer.clearLocals.WellFormed := by
  have bound := formed.maxLocals_le
  constructor
  · rw [formed.maxStack_clearLocals]
    simp only [Buffer.clearLocals, Buffer.maxStack, Array.size_append, Array.size_replicate,
      Array.size_extract]
    omega
  · rw [formed.maxStack_clearLocals]
    exact formed.depth_le

/-- Every local is empty once the locals are emptied. -/
theorem locals_clearLocals (buffer : Buffer) :
    buffer.clearLocals.locals = List.replicate buffer.maxLocals none := by
  simp [locals_eq_take, Buffer.clearLocals]

/-- Emptying the locals leaves the stack as it is. -/
theorem stack_clearLocals (buffer : Buffer) : buffer.clearLocals.stack = buffer.stack := by
  simp only [stack_eq_take, Buffer.clearLocals, Array.toList_append, Array.toList_replicate,
    toList_extract_size]
  rw [List.drop_left' List.length_replicate]

/-- Taking over locals moves no boundary. -/
theorem maxStack_withLocalsOf {buffer source : Buffer} (formed : buffer.WellFormed)
    (sourceFormed : source.WellFormed) (same : source.maxLocals = buffer.maxLocals) :
    (buffer.withLocalsOf source).maxStack = buffer.maxStack := by
  have bound := formed.maxLocals_le
  have sourceBound := sourceFormed.maxLocals_le
  simp only [withLocalsOf, Buffer.maxStack, Array.size_append, Array.size_extract]
  omega

/-- Taking over locals keeps a buffer well formed. -/
theorem WellFormed.withLocalsOf {buffer source : Buffer} (formed : buffer.WellFormed)
    (sourceFormed : source.WellFormed) (same : source.maxLocals = buffer.maxLocals) :
    (buffer.withLocalsOf source).WellFormed := by
  have bound := formed.maxLocals_le
  have sourceBound := sourceFormed.maxLocals_le
  constructor
  · rw [maxStack_withLocalsOf formed sourceFormed same]
    simp only [Buffer.withLocalsOf, Buffer.maxStack, Array.size_append, Array.size_extract]
    omega
  · rw [maxStack_withLocalsOf formed sourceFormed same]
    exact formed.depth_le

/-- The locals taken over are those of the source. -/
theorem locals_withLocalsOf {source : Buffer} (buffer : Buffer) (sourceFormed : source.WellFormed)
    (same : source.maxLocals = buffer.maxLocals) :
    (buffer.withLocalsOf source).locals = source.locals := by
  have length := sourceFormed.length_locals
  rw [locals_eq_take] at length ⊢
  rw [locals_eq_take]
  simp only [withLocalsOf, Array.toList_append, Array.toList_extract, List.drop_zero,
    List.extract_eq_take_drop, Nat.sub_zero, ← same]
  rw [List.take_left' length]

/-- Taking over locals leaves the stack as it is. -/
theorem stack_withLocalsOf {source : Buffer} (buffer : Buffer) (sourceFormed : source.WellFormed)
    (same : source.maxLocals = buffer.maxLocals) :
    (buffer.withLocalsOf source).stack = buffer.stack := by
  have length := sourceFormed.length_locals
  rw [locals_eq_take, same] at length
  simp only [stack_eq_take, withLocalsOf, Array.toList_append, toList_extract_size]
  rw [Array.toList_extract, List.extract_eq_take_drop, List.drop_zero, Nat.sub_zero, same,
    List.drop_left' length]

/-- Taking over a stack that fits moves no boundary. -/
theorem maxStack_withStackOf {buffer source : Buffer} (formed : buffer.WellFormed)
    (sourceFormed : source.WellFormed) (fits : source.depth ≤ buffer.maxStack) :
    (buffer.withStackOf source).maxStack = buffer.maxStack := by
  have size := formed.size_eq
  have sourceBound := sourceFormed.valuesSize_le
  unfold valuesSize at sourceBound
  simp only [withStackOf, Buffer.maxStack, Array.size_append, Array.size_extract, valuesSize]
  omega

/-- Taking over a stack that fits keeps a buffer well formed. -/
theorem WellFormed.withStackOf {buffer source : Buffer} (formed : buffer.WellFormed)
    (sourceFormed : source.WellFormed) (fits : source.depth ≤ buffer.maxStack) :
    (buffer.withStackOf source).WellFormed := by
  have size := formed.size_eq
  have sourceBound := sourceFormed.valuesSize_le
  unfold valuesSize at sourceBound
  constructor
  · rw [maxStack_withStackOf formed sourceFormed fits]
    simp only [Buffer.withStackOf, Array.size_append, Array.size_extract, valuesSize]
    omega
  · rw [maxStack_withStackOf formed sourceFormed fits]
    exact fits

/-- Taking over a stack leaves the locals as they are. -/
theorem locals_withStackOf {buffer : Buffer} (formed : buffer.WellFormed) (source : Buffer) :
    (buffer.withStackOf source).locals = buffer.locals := by
  have length := formed.length_locals
  rw [locals_eq_take] at length ⊢
  rw [locals_eq_take]
  simp only [withStackOf, Array.toList_append, Array.toList_extract, List.extract_eq_take_drop,
    List.drop_zero, Nat.sub_zero, List.append_assoc]
  rw [List.take_left' length]

/-- The stack taken over is that of the source. -/
theorem stack_withStackOf {buffer source : Buffer} (formed : buffer.WellFormed)
    (sourceFormed : source.WellFormed) : (buffer.withStackOf source).stack = source.stack := by
  have length := formed.length_locals
  have sourceLength := sourceFormed.length_stack
  rw [locals_eq_take] at length
  rw [stack_eq_take] at sourceLength ⊢
  rw [stack_eq_take]
  simp only [withStackOf, Array.toList_append, Array.toList_extract, List.extract_eq_take_drop,
    List.drop_zero, Nat.sub_zero, List.append_assoc, valuesSize, Nat.add_sub_cancel_left]
  rw [List.drop_left' length, List.take_left' sourceLength]

/-! ## Readers -/

/-- Reading a local looks it up in the locals. -/
theorem localAt_eq {buffer : Buffer} (formed : buffer.WellFormed) (index : Nat) :
    buffer.localAt index = match buffer.locals[index]? with
      | some slot => .ok slot
      | none => .error (.localIndexOutOfRange index buffer.maxLocals) := by
  have bound := formed.maxLocals_le
  unfold localAt
  split
  · rename_i isLocal
    rw [locals_eq_take, List.getElem?_take_of_lt isLocal, Array.getElem?_toList,
      Array.getElem?_eq_getElem (by omega), Array.getD_eq_getD_getElem?,
      Array.getElem?_eq_getElem (by omega)]
    rfl
  · rename_i notLocal
    rw [List.getElem?_eq_none (by rw [formed.length_locals]; omega)]

/-- Reading a stack slot looks it up in the live stack. -/
theorem stackAt_eq {buffer : Buffer} (formed : buffer.WellFormed) (index : Nat) :
    buffer.stackAt index = match buffer.stack[index]? with
      | some slot => .ok slot
      | none => .error (.stackIndexOutOfRange index buffer.depth) := by
  have bound := formed.valuesSize_le
  unfold valuesSize at bound
  unfold stackAt
  split
  · rename_i isLive
    rw [stack_eq_take, List.getElem?_take_of_lt isLive, List.getElem?_drop,
      Array.getElem?_toList, Array.getElem?_eq_getElem (by omega),
      Array.getD_eq_getD_getElem?, Array.getElem?_eq_getElem (by omega)]
    rfl
  · rename_i notLive
    rw [List.getElem?_eq_none (by rw [formed.length_stack]; omega)]

end SymbolicFrame.Buffer
