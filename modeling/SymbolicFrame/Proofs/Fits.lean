import SymbolicFrame.Buffer.Regions
import SymbolicFrame.Proofs.Steps

/-!
# Frames whose slots fit

In a frame that fits, the locals and the live stack lie within the array of slots, and the array
is so small that no sum of its sizes leaves a word. Every frame that a session makes fits. On such
a frame the steps that edits are made of read what the contents say and turn the contents into
others; where a step is within its bounds, nothing it uses is outside of them.
-/

namespace SymbolicFrame

/-- The slots of a frame fit their sizes and can be counted in a word. -/
structure Frame.Fits (frame : Frame) : Prop where
  /-- Locals and live stack lie within the array. -/
  formed : frame.buffer.WellFormed
  /-- A word is left to count two slots more than the array has. -/
  countable : frame.buffer.slots.size + 2 < Word.limit

namespace Frame.Fits

variable {frame : Frame}

/-- A frame that fits shows as many locals as it has. -/
theorem length_locals (fits : frame.Fits) : frame.contents.locals.length = frame.maxLocals :=
  fits.formed.length_locals

/-- A frame that fits shows as many live stack slots as it has. -/
theorem length_stack (fits : frame.Fits) : frame.contents.stack.length = frame.stackSize :=
  fits.formed.length_stack

/-- A frame that fits has as many locals as the contents that it is known to show. -/
theorem maxLocals_eq (fits : frame.Fits) {contents : Contents} (same : frame.contents = contents) :
    frame.maxLocals = contents.locals.length := by
  rw [← same, fits.length_locals]

/-- The sizes of a frame that fits, all at once. -/
theorem sizes (fits : frame.Fits) :
    frame.stackSize ≤ frame.maxStack ∧
      frame.buffer.slots.size = frame.maxLocals + frame.maxStack ∧
      frame.maxLocals + frame.maxStack + 2 < Word.limit := by
  have within := fits.formed.depth_le
  have size := fits.formed.size_eq
  have countable := fits.countable
  rw [size] at countable
  exact ⟨within, size, countable⟩

/-- A frame with another buffer of the same array size fits if the buffer is well formed. -/
theorem withBuffer (fits : frame.Fits) {buffer : Buffer} (formed : buffer.WellFormed)
    (size : buffer.slots.size = frame.buffer.slots.size) :
    Frame.Fits { frame with buffer := buffer } :=
  ⟨formed, by
    rw [size]
    exact fits.countable⟩

end Frame.Fits

/-- A fresh frame fits if its slots can be counted. -/
theorem Frame.fits_fresh (scope : Scope) {maxLocals maxStack : Nat} (policy : Policy)
    (countable : Frame.Countable maxLocals maxStack) :
    (Frame.fresh scope maxLocals maxStack policy).Fits := by
  refine ⟨Buffer.wellFormed_fresh maxLocals maxStack, ?_⟩
  change (Array.replicate (maxLocals + maxStack) (none : Slot)).size + 2 < Word.limit
  rw [Array.size_replicate]
  exact countable

/-- A fresh frame shows empty locals and nothing else. -/
theorem Frame.contents_fresh (scope : Scope) (maxLocals maxStack : Nat) (policy : Policy) :
    (Frame.fresh scope maxLocals maxStack policy).contents =
      Contents.blank scope maxLocals maxStack policy := by
  simp only [Frame.contents, Frame.fresh, Frame.maxStack, Frame.locks, Buffer.locals_fresh,
    Buffer.stack_fresh, Buffer.maxStack_fresh, Monitors.toList_empty, Contents.blank]

/-- A well-formed buffer has the given live regions and stack size. -/
structure Buffer.Shows (buffer : Buffer) (locals stack : List Slot) (maxStack : Nat) : Prop where
  /-- The slots fit their sizes. -/
  formed : buffer.WellFormed
  /-- The locals are the given ones. -/
  locals_eq : buffer.locals = locals
  /-- The live stack is the given one. -/
  stack_eq : buffer.stack = stack
  /-- The stack has the given size. -/
  maxStack_eq : buffer.maxStack = maxStack

namespace Buffer.Shows

variable {buffer source : Buffer} {locals stack : List Slot} {maxStack : Nat}

/-- Taking over locals changes what a buffer shows there. -/
theorem withLocalsOf (shows : buffer.Shows locals stack maxStack)
    (sourceFormed : source.WellFormed) (same : source.maxLocals = buffer.maxLocals) :
    (buffer.withLocalsOf source).Shows source.locals stack maxStack :=
  ⟨shows.formed.withLocalsOf sourceFormed same, locals_withLocalsOf _ sourceFormed same,
    (stack_withLocalsOf _ sourceFormed same).trans shows.stack_eq,
    (maxStack_withLocalsOf shows.formed sourceFormed same).trans shows.maxStack_eq⟩

/-- Taking over a stack changes what a buffer shows there. -/
theorem withStackOf (shows : buffer.Shows locals stack maxStack)
    (sourceFormed : source.WellFormed) (room : source.depth ≤ buffer.maxStack) :
    (buffer.withStackOf source).Shows locals source.stack maxStack :=
  ⟨shows.formed.withStackOf sourceFormed room,
    (locals_withStackOf shows.formed _).trans shows.locals_eq,
    stack_withStackOf shows.formed sourceFormed,
    (maxStack_withStackOf shows.formed sourceFormed room).trans shows.maxStack_eq⟩

end Buffer.Shows

/-- A partial copy of a frame that fits does so too, and shows the parts that it keeps. -/
theorem Frame.Fits.copyParts {frame : Frame} (fits : frame.Fits) (parts : Parts) :
    (frame.copyParts parts).Fits ∧
      (frame.copyParts parts).contents = frame.contents.kept parts := by
  have sizes := fits.sizes
  let blank := Buffer.fresh frame.maxLocals frame.maxStack
  have blankShows : blank.Shows (List.replicate frame.maxLocals none) [] frame.maxStack :=
    ⟨Buffer.wellFormed_fresh _ _, Buffer.locals_fresh _ _, Buffer.stack_fresh _ _,
      Buffer.maxStack_fresh _ _⟩
  let withLocals := if parts.locals then blank.withLocalsOf frame.buffer else blank
  have localsShow : withLocals.Shows (frame.contents.kept parts).locals [] frame.maxStack := by
    dsimp only [withLocals, Contents.kept]
    rw [fits.length_locals]
    split
    · exact blankShows.withLocalsOf fits.formed rfl
    · exact blankShows
  let whole := if parts.stack then withLocals.withStackOf frame.buffer else withLocals
  have wholeShows : whole.Shows (frame.contents.kept parts).locals
      (frame.contents.kept parts).stack frame.maxStack := by
    dsimp only [whole]
    rw [show (frame.contents.kept parts).stack =
      if parts.stack then frame.contents.stack else [] from rfl]
    split
    · refine localsShow.withStackOf fits.formed ?_
      rw [localsShow.maxStack_eq]
      exact sizes.1
    · exact localsShow
  have maxLocals : whole.maxLocals = frame.maxLocals := by
    rw [← wholeShows.formed.length_locals, wholeShows.locals_eq, ← fits.length_locals]
    dsimp only [Contents.kept]
    split
    · rfl
    · rw [List.length_replicate]
  constructor
  · refine ⟨wholeShows.formed, ?_⟩
    change whole.slots.size + 2 < Word.limit
    rw [wholeShows.formed.size_eq, wholeShows.maxStack_eq, maxLocals]
    exact sizes.2.2
  · change Contents.mk whole.locals whole.stack whole.maxStack frame.scope
      (if parts.monitors then frame.monitors else Monitors.empty).toList frame.relaxed
      frame.policy = frame.contents.kept parts
    rw [wholeShows.locals_eq, wholeShows.stack_eq, wholeShows.maxStack_eq,
      apply_ite Monitors.toList]
    rfl

namespace EditM

variable {α β : Type} {editor : Editor}

/-! ## Reading -/

/-- The slot at a place of a list is the one that the list is looked up for. -/
private theorem slots_eq_slotAt {buffer : Buffer} {region : List Slot} {place index : Nat}
    (same : buffer.slots.toList[place]? = region[index]?) (inside : index < region.length) :
    buffer.slots[place]? = some (slotAt region index) := by
  rw [← Array.getElem?_toList, same, getElem?_eq_slotAt inside]

/-- A place of the array that holds a slot is read. -/
theorem readSlot_run {place : Nat} {slot : Slot}
    (holds : editor.frame.buffer.slots[place]? = some slot) :
    readSlot place editor = .ok slot editor := by
  unfold readSlot
  rw [frame_bind, holds]
  rfl

/-- A live stack slot is read off the contents. -/
theorem readStack_run (fits : editor.frame.Fits) {index : Nat}
    (live : index < editor.frame.stackSize) :
    readStack index editor = .ok (slotAt editor.frame.contents.stack index) editor := by
  have sizes := fits.sizes
  have below : index < editor.frame.buffer.depth := live
  have place : editor.frame.buffer.slots[editor.frame.maxLocals + index]? =
      some (slotAt editor.frame.contents.stack index) := by
    refine slots_eq_slotAt ?_ (by rw [fits.length_stack]; exact live)
    rw [Frame.contents_stack, Buffer.stack_eq_take, List.getElem?_take_of_lt below,
      List.getElem?_drop]
    rfl
  unfold readStack
  rw [frame_bind, if_neg (Nat.not_le.2 live)]
  exact (bind_ok (sum_run (by omega) editor)).trans (readSlot_run place)

/-- A local is read off the contents. -/
theorem readLocal_run (fits : editor.frame.Fits) {index : Nat}
    (inside : index < editor.frame.maxLocals) :
    readLocal index editor = .ok (slotAt editor.frame.contents.locals index) editor := by
  have below : index < editor.frame.buffer.maxLocals := inside
  have place : editor.frame.buffer.slots[index]? =
      some (slotAt editor.frame.contents.locals index) := by
    refine slots_eq_slotAt ?_ (by rw [fits.length_locals]; exact inside)
    rw [Frame.contents_locals, Buffer.locals_eq_take, List.getElem?_take_of_lt below]
  unfold readLocal
  rw [frame_bind, if_neg (Nat.not_le.2 inside)]
  exact readSlot_run place

/-- The live stack is read off the contents. -/
theorem readWholeStack_run (fits : editor.frame.Fits) :
    readWholeStack editor = .ok editor.frame.contents.stack editor := by
  have lies : editor.frame.valuesSize ≤ editor.frame.buffer.slots.size :=
    fits.formed.valuesSize_le
  unfold readWholeStack
  rw [frame_bind, if_pos lies]
  rfl

/-- Locals of a frame that fits are checked in the natural numbers. -/
theorem checkLocalRange_within (fits : editor.frame.Fits) (index width : UInt64) :
    checkLocalRange index width editor =
      editor.hear (within editor.frame.contents.locals.length index.toNat width.toNat) := by
  have sizes := fits.sizes
  rw [checkLocalRange_run, fits.length_locals]
  unfold within
  by_cases inside : index.toNat + width.toNat ≤ editor.frame.maxLocals
  · have both : index.toNat + width.toNat ≤ editor.frame.maxLocals ∧
        index.toNat + width.toNat < Word.limit := ⟨inside, by omega⟩
    rw [if_pos both, if_pos inside]
    rfl
  · have notBoth : ¬ (index.toNat + width.toNat ≤ editor.frame.maxLocals ∧
        index.toNat + width.toNat < Word.limit) := fun both => inside both.1
    rw [if_neg notBoth, if_neg inside]

/-! ## Writing -/

/-- A step comes to its end and turns the frame into one that fits and has the given contents. -/
def Turns (step : EditM α) (editor : Editor) (answer : α) (contents : Contents) : Prop :=
  ∃ frame, step editor = .ok answer { editor with frame := frame } ∧ frame.Fits ∧
    frame.contents = contents

/-- Steps that turn the contents do so one after the other. -/
theorem Turns.bind {step : EditM α} {next : α → EditM β} {answer : α} {final : β}
    {contents turned : Contents} (first : Turns step editor answer contents)
    (second : ∀ frame : Frame, frame.Fits → frame.contents = contents →
      Turns (next answer) { editor with frame := frame } final turned) :
    Turns (step >>= next) editor final turned := by
  obtain ⟨frame, ran, fits, same⟩ := first
  obtain ⟨last, finished, lastFits, lastSame⟩ := second frame fits same
  exact ⟨last, (bind_ok ran).trans finished, lastFits, lastSame⟩

/-- A step that keeps the editor may come first. -/
theorem Turns.step {step : EditM α} {next : α → EditM β} {answer : α} {final : β}
    {contents : Contents} (ran : step editor = .ok answer editor)
    (second : Turns (next answer) editor final contents) :
    Turns (step >>= next) editor final contents := by
  obtain ⟨frame, finished, fits, same⟩ := second
  exact ⟨frame, (bind_ok ran).trans finished, fits, same⟩

/-- The contents that a step leaves may be given in another way. -/
theorem Turns.of_eq {step : EditM α} {answer : α} {contents turned : Contents}
    (turns : Turns step editor answer turned) (same : turned = contents) :
    Turns step editor answer contents := by
  rw [← same]
  exact turns

/-- An answer leaves the contents as they are. -/
theorem turns_pure (fits : editor.frame.Fits) (answer : α) :
    Turns (pure answer) editor answer editor.frame.contents :=
  ⟨editor.frame, rfl, fits, rfl⟩

/-- Moving the top of the stack down cuts the stack. -/
theorem turns_setDepth (fits : editor.frame.Fits) {depth : Nat}
    (lower : depth ≤ editor.frame.stackSize) :
    Turns (setDepth depth) editor ()
      { editor.frame.contents with stack := editor.frame.contents.stack.take depth } := by
  have sizes := fits.sizes
  have fitting : depth ≤ editor.frame.maxStack := by omega
  refine ⟨{ editor.frame with buffer := editor.frame.buffer.withDepth depth }, ?_,
    fits.withBuffer (fits.formed.withDepth fitting) rfl, ?_⟩
  · unfold setDepth
    rw [frame_bind, if_pos fitting]
    rfl
  · simp only [Frame.contents, Frame.maxStack, Frame.locks, Buffer.locals_withDepth,
      Buffer.stack_withDepth _ lower, Buffer.maxStack_withDepth]

/-- A slot put on a stack that has room is appended to it. -/
theorem turns_pushSlot (fits : editor.frame.Fits) (slot : Slot)
    (room : editor.frame.stackSize < editor.frame.maxStack) :
    Turns (pushSlot slot) editor ()
      { editor.frame.contents with stack := editor.frame.contents.stack ++ [slot] } := by
  have sizes := fits.sizes
  have summed := sum_run (show editor.frame.maxLocals + editor.frame.stackSize < Word.limit by
    omega) editor
  have place : editor.frame.maxLocals + editor.frame.stackSize <
      editor.frame.buffer.slots.size := by omega
  let put := editor.frame.buffer.put (editor.frame.maxLocals + editor.frame.stackSize) slot
  let middle : Editor := { editor with frame.buffer := put }
  have written : putSlot (editor.frame.maxLocals + editor.frame.stackSize) slot editor =
      .ok () middle := by
    unfold putSlot
    rw [frame_bind, if_pos place]
    rfl
  have counted := sum_run (show editor.frame.stackSize + 1 < Word.limit by omega) middle
  have sameSize : put.maxStack = editor.frame.maxStack := Buffer.maxStack_put _ _ _
  have fitting : editor.frame.stackSize + 1 ≤ middle.frame.maxStack := by
    change editor.frame.stackSize + 1 ≤ put.maxStack
    omega
  have moved : setDepth (editor.frame.stackSize + 1) middle =
      .ok () { editor with frame.buffer := put.withDepth (editor.frame.stackSize + 1) } := by
    unfold setDepth
    rw [frame_bind, if_pos fitting]
    rfl
  refine ⟨{ editor.frame with buffer := put.withDepth (editor.frame.stackSize + 1) }, ?_,
    fits.withBuffer ((fits.formed.put _ _).withDepth fitting) (Array.size_setIfInBounds ..), ?_⟩
  · unfold pushSlot
    rw [frame_bind, if_neg (Nat.not_le.2 room)]
    exact (bind_ok summed).trans ((bind_ok written).trans ((bind_ok counted).trans moved))
  · have stack := Buffer.stack_put_withDepth fits.formed slot room
    have locals := Buffer.locals_put_of_le editor.frame.buffer slot
      (show editor.frame.buffer.maxLocals ≤ editor.frame.maxLocals + editor.frame.stackSize from
        Nat.le_add_right _ _)
    simp only [Frame.contents, Frame.maxStack, Frame.locks, Buffer.locals_withDepth,
      Buffer.maxStack_withDepth, Contents.mk.injEq, and_true]
    exact ⟨locals, stack, sameSize⟩

/-- Writing a local replaces it. -/
theorem turns_writeLocal (fits : editor.frame.Fits) {index : Nat} (slot : Slot)
    (inside : index < editor.frame.maxLocals) :
    Turns (writeLocal index slot) editor ()
      { editor.frame.contents with
        locals := editor.frame.contents.locals.set index slot } := by
  have sizes := fits.sizes
  have place : index < editor.frame.buffer.slots.size := by omega
  refine ⟨{ editor.frame with buffer := editor.frame.buffer.put index slot }, ?_,
    fits.withBuffer (fits.formed.put _ _) (Array.size_setIfInBounds ..), ?_⟩
  · unfold writeLocal putSlot
    rw [frame_bind, if_pos inside, frame_bind, if_pos place]
    rfl
  · simp only [Frame.contents, Frame.maxStack, Frame.locks, Buffer.locals_put,
      Buffer.stack_put_of_lt _ _ inside, Buffer.maxStack_put]

/-- Emptying the locals leaves as many, all of them empty. -/
theorem turns_emptyLocals (fits : editor.frame.Fits) :
    Turns emptyLocals editor ()
      { editor.frame.contents with
        locals := List.replicate editor.frame.contents.locals.length none } := by
  have lies : editor.frame.maxLocals ≤ editor.frame.buffer.slots.size :=
    fits.formed.maxLocals_le
  have size : editor.frame.buffer.clearLocals.slots.size = editor.frame.buffer.slots.size := by
    have cleared := fits.formed.clearLocals.size_eq
    rw [fits.formed.maxStack_clearLocals] at cleared
    exact cleared.trans fits.formed.size_eq.symm
  refine ⟨{ editor.frame with buffer := editor.frame.buffer.clearLocals }, ?_,
    fits.withBuffer fits.formed.clearLocals size, ?_⟩
  · unfold emptyLocals
    rw [frame_bind, if_pos lies]
    rfl
  · rw [fits.length_locals]
    simp only [Frame.contents, Frame.maxStack, Frame.locks, Frame.maxLocals,
      Buffer.locals_clearLocals, Buffer.stack_clearLocals, fits.formed.maxStack_clearLocals]

/-- Locals taken over are those of the source. -/
theorem turns_takeLocals (fits : editor.frame.Fits) {source : Frame} (sourceFits : source.Fits)
    (same : source.maxLocals = editor.frame.maxLocals) :
    Turns (takeLocals source.buffer) editor ()
      { editor.frame.contents with locals := source.contents.locals } := by
  have condition : source.buffer.maxLocals = editor.frame.maxLocals ∧
      source.buffer.maxLocals ≤ source.buffer.slots.size ∧
      editor.frame.maxLocals ≤ editor.frame.buffer.slots.size :=
    ⟨same, sourceFits.formed.maxLocals_le, fits.formed.maxLocals_le⟩
  have formed := fits.formed.withLocalsOf sourceFits.formed same
  have maxStack := Buffer.maxStack_withLocalsOf fits.formed sourceFits.formed same
  have size : (editor.frame.buffer.withLocalsOf source.buffer).slots.size =
      editor.frame.buffer.slots.size := by
    have taken := formed.size_eq
    rw [maxStack] at taken
    exact taken.trans fits.formed.size_eq.symm
  refine ⟨{ editor.frame with buffer := editor.frame.buffer.withLocalsOf source.buffer }, ?_,
    fits.withBuffer formed size, ?_⟩
  · unfold takeLocals
    rw [frame_bind, if_pos condition]
    rfl
  · simp only [Frame.contents, Frame.maxStack, Frame.locks,
      Buffer.locals_withLocalsOf _ sourceFits.formed same,
      Buffer.stack_withLocalsOf _ sourceFits.formed same, maxStack]

/-- A stack taken over is that of the source. -/
theorem turns_takeStack (fits : editor.frame.Fits) {source : Frame} (sourceFits : source.Fits)
    (room : source.stackSize ≤ editor.frame.maxStack) :
    Turns (takeStack source.buffer) editor ()
      { editor.frame.contents with stack := source.contents.stack } := by
  have sizes := fits.sizes
  have condition : source.buffer.depth ≤ editor.frame.maxStack ∧
      source.buffer.valuesSize ≤ source.buffer.slots.size ∧
      editor.frame.maxLocals + source.buffer.depth ≤ editor.frame.buffer.slots.size :=
    ⟨room, sourceFits.formed.valuesSize_le, by
      have depth : source.buffer.depth = source.stackSize := rfl
      omega⟩
  have formed := fits.formed.withStackOf sourceFits.formed room
  have maxStack := Buffer.maxStack_withStackOf fits.formed sourceFits.formed room
  have size : (editor.frame.buffer.withStackOf source.buffer).slots.size =
      editor.frame.buffer.slots.size := by
    have taken := formed.size_eq
    rw [maxStack] at taken
    exact taken.trans fits.formed.size_eq.symm
  refine ⟨{ editor.frame with buffer := editor.frame.buffer.withStackOf source.buffer }, ?_,
    fits.withBuffer formed size, ?_⟩
  · unfold takeStack
    rw [frame_bind, if_pos condition]
    rfl
  · simp only [Frame.contents, Frame.maxStack, Frame.locks,
      Buffer.locals_withStackOf fits.formed, Buffer.stack_withStackOf fits.formed sourceFits.formed,
      maxStack]

end EditM
end SymbolicFrame
