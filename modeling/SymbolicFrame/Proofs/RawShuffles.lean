import Mathlib.Data.List.Induction
import SymbolicFrame.Proofs.Nesting
import SymbolicFrame.Proofs.ValueStack

/-!
# Raw shuffles

Raw pushes and pops move slots and look at none of them, and instructions that duplicate or swap
operands are made of them. Where slots are taken off down to the border between two values, and the
slots of whole values are put back, the stack is one of values again: those below the border, and
then those put back, in the order given and as often as each is named. Typed pops find them there,
in every mode, since a value is always accepted under its own kind.
-/

namespace SymbolicFrame

/-! ## Shuffles of contents -/

namespace Contents

variable {contents : Contents} {below : List Slot}

/-- The slots that lie above others are popped from the top down. -/
theorem runsTo_popRaws (above : List Slot) (stack : contents.stack = below ++ above) :
    contents.RunsTo (List.replicate above.length .popRaw) (above.reverse.map .slot)
      { contents with stack := below } := by
  induction above using List.reverseRecOn generalizing contents with
  | nil =>
    rw [List.append_nil] at stack
    subst stack
    exact .nil contents
  | append_singleton lower top ih =>
    rw [← List.append_assoc] at stack
    have length : contents.stack.length = (below ++ lower).length + 1 := by
      rw [stack, List.length_append, List.length_singleton]
    have given : contents.poppedRaw = .ok top := by
      unfold poppedRaw
      rw [if_neg (by omega), length, Nat.add_sub_cancel, stack, slotAt_append_length]
    have rest : (contents.change .popRaw).stack = below ++ lower := by
      change contents.stack.take (contents.stack.length - 1) = _
      rw [length, Nat.add_sub_cancel, stack, List.take_left]
    rw [List.length_append, List.length_singleton, List.replicate_succ, List.reverse_append,
      List.reverse_singleton, List.singleton_append, List.map_cons]
    exact .cons (congrArg (· >>= fun slot => Except.ok (Answer.slot slot)) given) (ih rest)

/-- Slots that there is room for are pushed one above the other. -/
theorem runsTo_pushRaws (contents : Contents) (slots : List Slot)
    (room : contents.stack.length + slots.length ≤ contents.maxStack) :
    contents.RunsTo (slots.map .pushRaw) (slots.map fun _ => .done)
      { contents with stack := contents.stack ++ slots } := by
  induction slots generalizing contents with
  | nil =>
    rw [List.append_nil]
    exact .nil contents
  | cons slot rest ih =>
    rw [List.length_cons] at room
    have passes : contents.pushesRaw = .ok () := unless_pass.2 (by omega)
    have later := ih (contents.change (.pushRaw slot)) (by
      change (contents.stack ++ [slot]).length + rest.length ≤ contents.maxStack
      rw [List.length_append, List.length_singleton]
      omega)
    have appended : (contents.change (.pushRaw slot)).stack ++ rest =
        contents.stack ++ slot :: rest := List.append_assoc ..
    rw [appended] at later
    exact .cons (congrArg done passes) later

/-- Values that lie above other slots are popped under their own kinds, the last one first. -/
theorem runsTo_pops {values : List Value} (solid : Solid values)
    (stack : contents.stack = below ++ blocks values) :
    contents.RunsTo (values.reverse.map fun value => .pop value.kind)
      (values.reverse.map fun value => .slot (some value)) { contents with stack := below } := by
  induction values using List.reverseRecOn generalizing contents with
  | nil =>
    rw [blocks_nil, List.append_nil] at stack
    subst stack
    exact .nil contents
  | append_singleton lower top ih =>
    obtain ⟨lowerSolid, topSolid⟩ := solid_append.1 solid
    have notVoid := (solid_cons.1 topSolid).1
    rw [blocks_append, ← List.append_assoc, blocks_cons, blocks_nil, List.append_nil] at stack
    -- Under its own kind a value passes without the mode being asked.
    have accepted : contents.accepts top.kind top = .ok () := accepts_iff.2 (.inl rfl)
    have given : contents.popped top.kind = .ok top := popped_of_stack notVoid stack accepted
    have rest : (contents.change (.pop top.kind)).stack = below ++ blocks lower := by
      change contents.stack.take (contents.stack.length - top.kind.slotWidth) = _
      rw [stack, List.length_append, Kind.length_slots notVoid, Nat.add_sub_cancel, List.take_left]
    rw [List.reverse_append, List.reverse_singleton, List.singleton_append, List.map_cons,
      List.map_cons]
    exact .cons (congrArg Contents.given given) (ih lowerSolid rest)

end Contents

/-! ## Shuffles of a frame -/

namespace Edit

variable {Source Target : Type}

/-- Take slots off the stack, and put the slots of values there, without looking at them. -/
def shuffle (count : Nat) (put : List Value) : List (Edit Source) :=
  List.replicate count popRaw ++ (blocks put).map pushRaw

/-- Pop values under their own kinds, the last one first. -/
def popEach (values : List Value) : List (Edit Source) :=
  values.reverse.map fun value => pop value.kind

/-- A shuffle takes over no part of another frame. -/
theorem source?_of_mem_shuffle {count : Nat} {put : List Value} :
    ∀ edit ∈ (shuffle count put : List (Edit Source)), edit.source? = none := by
  intro edit member
  rcases List.mem_append.1 member with popped | pushed
  · rw [List.eq_of_mem_replicate popped]
    rfl
  · obtain ⟨slot, -, rfl⟩ := List.mem_map.1 pushed
    rfl

/-- A shuffle names no sources, so it is the same however these are seen. -/
theorem map_shuffle (view : Source → Target) (count : Nat) (put : List Value) :
    (shuffle count put).map (map view) = shuffle count put := by
  simp only [shuffle, List.map_append, List.map_replicate, List.map_map, Function.comp_def, map]

/-- A shuffle that takes slots off down to others, and has room for those of the values that it
puts there, is done. -/
theorem performAll_shuffle {frame : Frame} {below above : List Slot} {put : List Value}
    (fits : frame.Fits) (stack : frame.contents.stack = below ++ above) (solid : Solid put)
    (room : below.length + widths put ≤ frame.maxStack) (reservations : Reservations) :
    let run := performAll (shuffle above.length put) frame reservations
    run.outcomes = above.reverse.map (fun slot => .answer (.slot slot)) ++
        (blocks put).map (fun _ => .answer .done) ∧
      run.frame.Fits ∧
      run.frame.contents = { frame.contents with stack := below ++ blocks put } := by
  have drains := Contents.runsTo_popRaws above stack
  have enough : below.length + (blocks put).length ≤ frame.maxStack := by
    rw [length_blocks solid]
    exact room
  have fills := Contents.runsTo_pushRaws { frame.contents with stack := below } (blocks put) enough
  have runsTo := drains.append fills
  have sourcesFit : ∀ edit ∈ (shuffle above.length put : List (Edit Frame)), ∀ source,
      edit.source? = some source → source.Fits :=
    fun edit member => sources_of_none (source?_of_mem_shuffle edit member)
  rw [← shuffle, ← map_shuffle Frame.contents] at runsTo
  obtain ⟨outcomes, runFits, shows⟩ := performAll_of_runsTo fits sourcesFit runsTo reservations
  rw [List.map_append, List.map_map, List.map_map] at outcomes
  exact ⟨outcomes, runFits, shows⟩

/-- Values that lie above other slots of a frame are popped under their own kinds. -/
theorem performAll_popEach {frame : Frame} {below : List Slot} {values : List Value}
    (fits : frame.Fits) (solid : Solid values)
    (stack : frame.contents.stack = below ++ blocks values) (reservations : Reservations) :
    let run := performAll (popEach values) frame reservations
    run.outcomes = values.reverse.map (fun value => .answer (.slot (some value))) ∧
      run.frame.Fits ∧ run.frame.contents = { frame.contents with stack := below } := by
  have runsTo := Contents.runsTo_pops solid stack
  have sourcesFit : ∀ edit ∈ (popEach values : List (Edit Frame)), ∀ source,
      edit.source? = some source → source.Fits := by
    intro edit member
    obtain ⟨value, -, rfl⟩ := List.mem_map.1 member
    exact sources_of_none rfl
  have viewed : (popEach values).map (map Frame.contents) =
      values.reverse.map fun value => pop value.kind := by
    rw [popEach, List.map_map]
    rfl
  rw [← viewed] at runsTo
  obtain ⟨outcomes, runFits, shows⟩ := performAll_of_runsTo fits sourcesFit runsTo reservations
  rw [List.map_map] at outcomes
  exact ⟨outcomes, runFits, shows⟩

/-- Raw shuffles of whole values are sound. Where as many slots are popped as the last values of the
stack take, and the slots of any values are pushed that there is room for, every edit is done: the
pops give the slots of the last values from the top down, and the stack is then that of the values
below, followed by those pushed. The locals, the monitors and the mode are as before. Popping the
pushed values under their own kinds, last one first, then gives each of them back in whatever mode,
and leaves the values below. -/
theorem raw_shuffles_keep_values {frame : Frame} {kept removed put : List Value}
    (fits : frame.Fits) (whole : frame.WholeStack)
    (split : frame.stackValues = kept ++ removed) (solid : Solid put)
    (room : widths kept + widths put ≤ frame.maxStack) (reservations : Reservations) :
    let shuffled := performAll (shuffle (widths removed) put) frame reservations
    let popped := performAll (popEach put) shuffled.frame shuffled.reservations
    shuffled.outcomes = (blocks removed).reverse.map (fun slot => .answer (.slot slot)) ++
        (blocks put).map (fun _ => .answer .done) ∧
      shuffled.frame.WholeStack ∧ shuffled.frame.stackValues = kept ++ put ∧
      (∀ index, shuffled.frame.localAt index = frame.localAt index) ∧
      shuffled.frame.locks = frame.locks ∧ shuffled.frame.relaxed = frame.relaxed ∧
      popped.outcomes = put.reverse.map (fun value => .answer (.slot (some value))) ∧
      popped.frame.WholeStack ∧ popped.frame.stackValues = kept := by
  intro shuffled popped
  obtain ⟨allSolid, stack⟩ := whole.blocks_eq
  rw [split] at allSolid stack
  obtain ⟨keptSolid, removedSolid⟩ := solid_append.1 allSolid
  have below : frame.contents.stack = blocks kept ++ blocks removed := by
    rw [← blocks_append]
    exact stack
  have enough : (blocks kept).length + widths put ≤ frame.maxStack := by
    rw [length_blocks keptSolid]
    exact room
  have shuffling := performAll_shuffle fits below solid enough reservations
  rw [length_blocks removedSolid] at shuffling
  obtain ⟨outcomes, shuffledFits, shows⟩ := shuffling
  change shuffled.frame.contents = _ at shows
  have filled : shuffled.frame.contents.stack = blocks kept ++ blocks put :=
    congrArg Contents.stack shows
  have shuffledStack : shuffled.frame.buffer.stack = blocks (kept ++ put) := by
    rw [blocks_append]
    exact filled
  obtain ⟨popOutcomes, -, popShows⟩ :=
    performAll_popEach shuffledFits solid filled shuffled.reservations
  have poppedStack : popped.frame.buffer.stack = blocks kept := congrArg Contents.stack popShows
  have sameLocals : shuffled.frame.contents.locals = frame.contents.locals := by
    rw [shows]
  have readLocals := (shuffledFits.localAt_congr fits sameLocals).2
  exact ⟨outcomes, ⟨_, solid_append.2 ⟨keptSolid, solid⟩, shuffledStack⟩,
    Frame.stackValues_eq shuffledStack, readLocals, congrArg Contents.monitors shows,
    congrArg Contents.relaxed shows, popOutcomes, ⟨_, keptSolid, poppedStack⟩,
    Frame.stackValues_eq poppedStack⟩

/-- The value on top is duplicated below a wide value, over a dead slot. -/
theorem raw_shuffles_keep_values_duplicated :
    let scope := Scope.root ⟨some 0, 0⟩ "A.b()V"
    let object : Value := ⟨0, 0, .object, ""⟩
    let wide : Value := ⟨0, 1, .long, ""⟩
    let narrow : Value := ⟨0, 2, .int, ""⟩
    let frame : Frame :=
      ⟨⟨1, 4, #[some narrow, some object, some wide, none, some narrow, some wide]⟩, scope,
        ⟨some [object]⟩, false, Policy.strict⟩
    let shuffled := performAll (shuffle 3 [narrow, wide, narrow]) frame Reservations.empty
    let popped := performAll (popEach [narrow, wide, narrow]) shuffled.frame shuffled.reservations
    frame.Fits ∧ frame.WholeStack ∧ frame.stackValues = [object, wide, narrow] ∧
      shuffled.outcomes = [.slot (some narrow), .slot none, .slot (some wide), .done, .done, .done,
        .done].map .answer ∧
      shuffled.frame.stackValues = [object, narrow, wide, narrow] ∧
      popped.outcomes = [narrow, wide, narrow].map (fun value => .answer (.slot (some value))) ∧
      popped.frame.stackValues = [object] := by
  intro scope object wide narrow frame shuffled popped
  have fits : frame.Fits := ⟨⟨by decide, by decide⟩, by decide⟩
  have whole : frame.WholeStack := ⟨[object, wide, narrow], by decide, by decide⟩
  have split : frame.stackValues = [object] ++ [wide, narrow] := by decide
  have solid : Solid [narrow, wide, narrow] := by decide
  have room : widths [object] + widths [narrow, wide, narrow] ≤ frame.maxStack := by decide
  obtain ⟨outcomes, -, values, -, -, -, popOutcomes, -, poppedValues⟩ :=
    raw_shuffles_keep_values fits whole split solid room Reservations.empty
  exact ⟨fits, whole, split, outcomes, values, popOutcomes, poppedValues⟩

end Edit
end SymbolicFrame
