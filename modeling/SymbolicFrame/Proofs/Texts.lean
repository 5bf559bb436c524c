import SymbolicFrame.Proofs.Views

/-!
# What the text of a frame tells

A frame is written as a line of words with a space before each. How many locals, stack slots and
monitors there are is told by marks alone, the section of the monitors and the mark of a relaxed
frame may be missing, and a value is written as the letter of its kind, its position and a label.
The line can still be read in one way only, from left to right: each part of it goes on up to the
first mark that cannot be in the part. Words end at a space if no label has one, positions end where
the digits do, the locals end at the first bar, and the stack at the next bar or the closing
bracket, for no value is written as one of these. So frames of one scope that are written alike hold
the same values of a graph in the same places.
-/

namespace SymbolicFrame

/-! ## Parts and marks -/

section Parts

variable {α : Type}

/-- A list is empty or begins with a mark. -/
def Marked (mark : α → Prop) (rest : List α) : Prop := ∀ item ∈ rest.head?, mark item

/-- A list that a mark was put in front of begins with it. -/
theorem marked_cons {mark : α → Prop} {first : α} (isMark : mark first) (rest : List α) :
    Marked mark (first :: rest) := by
  intro item isFirst
  cases isFirst
  exact isMark

/-- Lists begin with the same part and go on alike if they are the same, if no mark is in either
part, and if a mark comes after each part that is not the whole list. -/
theorem part_eq_of_append_eq (mark : α → Prop) {left right leftRest rightRest : List α}
    (leftPart : ∀ item ∈ left, ¬ mark item) (rightPart : ∀ item ∈ right, ¬ mark item)
    (leftMarked : Marked mark leftRest) (rightMarked : Marked mark rightRest)
    (same : left ++ leftRest = right ++ rightRest) : left = right ∧ leftRest = rightRest := by
  induction left generalizing right with
  | nil =>
    cases right with
    | nil => exact ⟨rfl, same⟩
    | cons item right =>
      have first : leftRest.head? = some item := congrArg List.head? same
      exact absurd (leftMarked item first) (rightPart item List.mem_cons_self)
  | cons item left ih =>
    cases right with
    | nil =>
      have first : rightRest.head? = some item := congrArg List.head? same.symm
      exact absurd (rightMarked item first) (leftPart item List.mem_cons_self)
    | cons other right =>
      obtain ⟨rfl, later⟩ := List.cons.inj same
      obtain ⟨rfl, rests⟩ := ih (fun item inside => leftPart item (List.mem_cons_of_mem _ inside))
        (fun item inside => rightPart item (List.mem_cons_of_mem _ inside)) later
      exact ⟨rfl, rests⟩

/-- Lists are the same if their items are written alike, and the items are told by how they are
written. -/
theorem eq_of_map_eq {β : Type} {write : α → β} {left right : List α}
    (tells : ∀ item ∈ left, ∀ other ∈ right, write item = write other → item = other)
    (same : left.map write = right.map write) : left = right := by
  induction left generalizing right with
  | nil => exact (List.map_eq_nil_iff.1 same.symm).symm
  | cons item left ih =>
    cases right with
    | nil => cases same
    | cons other right =>
      obtain ⟨first, later⟩ := List.cons.inj same
      have rest := ih (fun item inside other among =>
        tells item (List.mem_cons_of_mem _ inside) other (List.mem_cons_of_mem _ among)) later
      rw [tells item List.mem_cons_self other List.mem_cons_self first, rest]

end Parts

/-! ## Words -/

/-- The characters of a line of words with a space before each. -/
def spaced (words : List String) : List Char := words.flatMap fun word => ' ' :: word.toList

/-- Joining words with a space before each gives their line. -/
theorem toList_join_spaced (words : List String) :
    (String.join (words.map fun word => " " ++ word)).toList = spaced words := by
  simp only [String.toList_join, List.flatMap_map, String.toList_append]
  rfl

/-- A line of words begins with a space if it is not empty. -/
theorem marked_spaced (words : List String) : Marked (' ' = ·) (spaced words) := by
  cases words with
  | nil => nofun
  | cons word words => exact marked_cons rfl _

/-- Words without spaces are told by their line. -/
theorem eq_of_spaced_eq {left right : List String} (leftWords : ∀ word ∈ left, ' ' ∉ word.toList)
    (rightWords : ∀ word ∈ right, ' ' ∉ word.toList) (same : spaced left = spaced right) :
    left = right := by
  induction left generalizing right with
  | nil =>
    cases right with
    | nil => rfl
    | cons word right => cases same
  | cons word left ih =>
    cases right with
    | nil => cases same
    | cons other right =>
      obtain ⟨first, leftLater⟩ := List.forall_mem_cons.1 leftWords
      obtain ⟨second, rightLater⟩ := List.forall_mem_cons.1 rightWords
      have lines : word.toList ++ spaced left = other.toList ++ spaced right :=
        (List.cons.inj same).2
      obtain ⟨words, rests⟩ := part_eq_of_append_eq (' ' = ·)
        (fun char inside isSpace => first (isSpace ▸ inside))
        (fun char inside isSpace => second (isSpace ▸ inside))
        (marked_spaced left) (marked_spaced right) lines
      rw [String.toList_inj.1 words, ih leftLater rightLater rests]

/-! ## Values -/

/-- A value of a graph whose label has no space in it, so that the value is written as one word. -/
structure Value.Worded (graph : Nat) (value : Value) : Prop where
  /-- The value belongs to the graph. -/
  graph_eq : value.graph = graph
  /-- The label has no space in it. -/
  unspaced : ' ' ∉ value.label.toList

namespace Value

variable {value other : Value}

/-- The characters that a label adds to the text of a value. -/
def labelChars (label : String) : List Char :=
  if label.isEmpty then [] else '(' :: (label.toList ++ [')'])

/-- The text of a value is a letter, digits and the label. -/
theorem toList_render (value : Value) : value.render.toList =
    value.kind.letter :: (Nat.toDigits 10 value.index ++ labelChars value.label) := by
  unfold render labelChars
  split <;> simp [Nat.toList_repr, Char.toString]

/-- Labels are told by what they add to a text. -/
theorem label_eq_of_chars {label other : String} (same : labelChars label = labelChars other) :
    label = other := by
  unfold labelChars at same
  by_cases empty : label.isEmpty = true
  · by_cases otherEmpty : other.isEmpty = true
    · rw [String.isEmpty_iff.1 empty, String.isEmpty_iff.1 otherEmpty]
    · rw [if_pos empty, if_neg otherEmpty] at same
      cases same
  · by_cases otherEmpty : other.isEmpty = true
    · rw [if_neg empty, if_pos otherEmpty] at same
      cases same
    · rw [if_neg empty, if_neg otherEmpty] at same
      exact String.toList_inj.1 (List.append_cancel_right (List.cons.inj same).2)

/-- What a label adds to a text does not begin with a digit. -/
theorem marked_labelChars (label : String) :
    Marked (fun char => ¬ char.isDigit = true) (labelChars label) := by
  unfold labelChars
  split
  · nofun
  · exact marked_cons (by decide) _

/-- Values of one graph are told by how they are written. -/
theorem eq_of_render_eq (sameGraph : value.graph = other.graph)
    (same : value.render = other.render) : value = other := by
  have chars := congrArg String.toList same
  rw [toList_render, toList_render] at chars
  obtain ⟨letters, positions⟩ := List.cons.inj chars
  have digits (index : Nat) : ∀ char ∈ Nat.toDigits 10 index, ¬ ¬ char.isDigit = true :=
    fun char inside => not_not_intro (Nat.isDigit_of_mem_toDigits (by decide) (by decide) inside)
  obtain ⟨sameDigits, labels⟩ := part_eq_of_append_eq _ (digits value.index) (digits other.index)
    (marked_labelChars value.label) (marked_labelChars other.label) positions
  have index : value.index = other.index := by
    have read := congrArg (fun digits => Nat.ofDigitChars 10 digits 0) sameDigits
    simpa only [Nat.ofDigitChars_ten_toDigits] using read
  have kind := Kind.letter_inj letters
  have label := label_eq_of_chars labels
  cases value
  cases other
  cases sameGraph
  cases index
  cases kind
  cases label
  rfl

/-- A value is written unlike any text that begins with no letter of a kind. -/
theorem render_ne {text : String} (unlike : text.toList.head? ≠ some value.kind.letter) :
    value.render ≠ text := by
  intro same
  have first : value.render.toList.head? = some value.kind.letter := by
    rw [toList_render, List.head?_cons]
  rw [same] at first
  exact unlike first

/-- A value with a label without spaces is written as one word. -/
theorem Worded.unspaced_render {graph : Nat} (worded : value.Worded graph) :
    ' ' ∉ value.render.toList := by
  have letter : ' ' ≠ value.kind.letter := by cases value.kind <;> decide
  have digits : ' ' ∉ Nat.toDigits 10 value.index := fun inside =>
    absurd (Nat.isDigit_of_mem_toDigits (by decide) (by decide) inside) (by decide)
  have label : ' ' ∉ labelChars value.label := by
    unfold labelChars
    split
    · exact List.not_mem_nil
    · simp [worded.unspaced]
  rw [toList_render, List.mem_cons, List.mem_append]
  exact not_or.2 ⟨letter, not_or.2 ⟨digits, label⟩⟩

end Value

/-! ## Slots and monitors -/

/-- No slot is written as a bar or as a closing bracket. -/
theorem Slot.render_ne_mark (slot : Slot) : slot.render ≠ "|" ∧ slot.render ≠ "]" := by
  cases slot with
  | none => decide
  | some value =>
    constructor
    · exact Value.render_ne (by cases value.kind <;> decide)
    · exact Value.render_ne (by cases value.kind <;> decide)

/-- Slots with values of one graph are told by how they are written. -/
theorem Slot.eq_of_render_eq {slot other : Slot} {graph : Nat}
    (worded : ∀ value ∈ slot, value.Worded graph)
    (otherWorded : ∀ value ∈ other, value.Worded graph)
    (same : slot.render = other.render) : slot = other := by
  have filled (value : Value) : value.render ≠ Slot.render none :=
    Value.render_ne (by cases value.kind <;> decide)
  cases slot with
  | none =>
    cases other with
    | none => rfl
    | some value => exact absurd same.symm (filled value)
  | some value =>
    cases other with
    | none => exact absurd same (filled value)
    | some held =>
      have graphs : value.graph = held.graph :=
        (worded value rfl).graph_eq.trans (otherWorded held rfl).graph_eq.symm
      rw [Value.eq_of_render_eq graphs same]

/-- Slots of a region are told by how they are written. -/
theorem slots_eq_of_render_eq {slots others : List Slot} {graph : Nat}
    (worded : ∀ value ∈ heldIn slots, value.Worded graph)
    (otherWorded : ∀ value ∈ heldIn others, value.Worded graph)
    (same : slots.map Slot.render = others.map Slot.render) : slots = others := by
  refine eq_of_map_eq (fun slot inside other among alike => ?_) same
  have own : ∀ value ∈ slot, value.Worded graph := fun value isValue =>
    worded value (List.mem_filterMap.2 ⟨slot, inside, isValue⟩)
  have others : ∀ value ∈ other, value.Worded graph := fun value isValue =>
    otherWorded value (List.mem_filterMap.2 ⟨other, among, isValue⟩)
  exact Slot.eq_of_render_eq own others alike

/-- The words for the monitors held: none if there are none. -/
def monitorWords (monitors : List Value) : List String :=
  if monitors.isEmpty then [] else "|" :: "locks" :: monitors.map Value.render

/-- No word for the monitors is a closing bracket. -/
theorem monitorWords_ne_bracket (monitors : List Value) :
    ∀ word ∈ monitorWords monitors, "]" ≠ word := by
  unfold monitorWords
  split
  · nofun
  · rw [List.forall_mem_cons, List.forall_mem_cons]
    refine ⟨by decide, by decide, fun word inside => ?_⟩
    obtain ⟨value, -, rfl⟩ := List.mem_map.1 inside
    exact (Slot.render_ne_mark (some value)).2.symm

/-- Monitors of one graph are told by their words. -/
theorem eq_of_monitorWords_eq {monitors others : List Value} {graph : Nat}
    (worded : ∀ value ∈ monitors, value.Worded graph)
    (otherWorded : ∀ value ∈ others, value.Worded graph)
    (same : monitorWords monitors = monitorWords others) : monitors = others := by
  cases monitors with
  | nil =>
    cases others with
    | nil => rfl
    | cons other others => cases same
  | cons monitor monitors =>
    cases others with
    | nil => cases same
    | cons other others =>
      have written : (monitor :: monitors).map Value.render = (other :: others).map Value.render :=
        (List.cons.inj (List.cons.inj same).2).2
      refine eq_of_map_eq (fun value inside held among alike => ?_) written
      have graphs : value.graph = held.graph :=
        (worded value inside).graph_eq.trans (otherWorded held among).graph_eq.symm
      exact Value.eq_of_render_eq graphs alike

/-! ## Frames -/

namespace Frame

variable {left right : Frame} {graph : Nat}

/-- The values that a frame keeps alive belong to one graph, and no label has a space in it. -/
def Worded (graph : Nat) (frame : Frame) : Prop := ∀ value ∈ frame.liveValues, value.Worded graph

/-- What holds of the values that a frame keeps alive holds of those in its locals, of those on its
stack and of its monitors. -/
theorem Worded.parts {frame : Frame} (worded : frame.Worded graph) :
    (∀ value ∈ heldIn frame.buffer.locals, value.Worded graph) ∧
      (∀ value ∈ heldIn frame.buffer.stack, value.Worded graph) ∧
      ∀ value ∈ frame.locks, value.Worded graph := by
  unfold Worded at worded
  rw [liveValues_eq_heldIn, heldIn, List.filterMap_append, List.forall_mem_append,
    List.forall_mem_append, and_assoc] at worded
  exact worded

/-- The words after the stack: the monitors, the closing bracket and the mark of a relaxed frame. -/
def closing (frame : Frame) : List String :=
  monitorWords frame.locks ++ "]" :: if frame.relaxed then ["unsafe"] else []

/-- The words of a frame are the locals, a bar, the stack and what closes the line. -/
theorem tokens_eq (frame : Frame) : frame.tokens =
    frame.buffer.locals.map Slot.render ++
      "|" :: (frame.buffer.stack.map Slot.render ++ frame.closing) := by
  simp [tokens, closing, monitorWords]

/-- What closes the line begins with a bar or a closing bracket. -/
theorem marked_closing (frame : Frame) :
    Marked (fun word => word = "|" ∨ word = "]") frame.closing := by
  unfold closing monitorWords
  split
  · exact marked_cons (.inr rfl) _
  · exact marked_cons (.inl rfl) _

/-- The monitors and the mode of a frame are told by what closes the line. -/
theorem closing_tells (leftWorded : ∀ value ∈ left.locks, value.Worded graph)
    (rightWorded : ∀ value ∈ right.locks, value.Worded graph)
    (same : left.closing = right.closing) :
    left.locks = right.locks ∧ left.relaxed = right.relaxed := by
  obtain ⟨monitors, ends⟩ := part_eq_of_append_eq ("]" = ·)
    (monitorWords_ne_bracket left.locks) (monitorWords_ne_bracket right.locks)
    (marked_cons rfl _) (marked_cons rfl _) same
  refine ⟨eq_of_monitorWords_eq leftWorded rightWorded monitors, ?_⟩
  revert ends
  cases left.relaxed <;> cases right.relaxed <;> decide

/-- The locals, the stack, the monitors and the mode of a frame are told by its words. -/
theorem tokens_tell (leftWorded : left.Worded graph) (rightWorded : right.Worded graph)
    (same : left.tokens = right.tokens) :
    left.buffer.locals = right.buffer.locals ∧ left.buffer.stack = right.buffer.stack ∧
      left.locks = right.locks ∧ left.relaxed = right.relaxed := by
  obtain ⟨leftLocals, leftStack, leftLocks⟩ := leftWorded.parts
  obtain ⟨rightLocals, rightStack, rightLocks⟩ := rightWorded.parts
  have unmarked (slots : List Slot) : ∀ word ∈ slots.map Slot.render, ¬ (word = "|" ∨ word = "]") :=
    fun word inside => by
      obtain ⟨slot, -, rfl⟩ := List.mem_map.1 inside
      exact not_or.2 slot.render_ne_mark
  rw [tokens_eq, tokens_eq] at same
  -- Up to the first bar are the locals, and from there to the next mark is the stack.
  obtain ⟨locals, later⟩ := part_eq_of_append_eq _ (unmarked left.buffer.locals)
    (unmarked right.buffer.locals) (marked_cons (.inl rfl) _) (marked_cons (.inl rfl) _) same
  obtain ⟨stack, closing⟩ := part_eq_of_append_eq _ (unmarked left.buffer.stack)
    (unmarked right.buffer.stack) left.marked_closing right.marked_closing (List.cons.inj later).2
  exact ⟨slots_eq_of_render_eq leftLocals rightLocals locals,
    slots_eq_of_render_eq leftStack rightStack stack,
    closing_tells leftLocks rightLocks closing⟩

/-- No word of a frame has a space in it. -/
theorem Worded.unspaced_tokens {frame : Frame} (worded : frame.Worded graph) :
    ∀ word ∈ frame.tokens, ' ' ∉ word.toList := by
  obtain ⟨locals, stack, locks⟩ := worded.parts
  have region {slots : List Slot} (slotsWorded : ∀ value ∈ heldIn slots, value.Worded graph) :
      ∀ word ∈ slots.map Slot.render, ' ' ∉ word.toList := by
    intro word inside
    obtain ⟨slot, isSlot, rfl⟩ := List.mem_map.1 inside
    cases slot with
    | none => decide
    | some value =>
      have isHeld : value ∈ heldIn slots := List.mem_filterMap.2 ⟨_, isSlot, rfl⟩
      exact (slotsWorded value isHeld).unspaced_render
  have monitors : ∀ word ∈ monitorWords frame.locks, ' ' ∉ word.toList := by
    unfold monitorWords
    split
    · nofun
    · rw [List.forall_mem_cons, List.forall_mem_cons]
      refine ⟨by decide, by decide, fun word inside => ?_⟩
      obtain ⟨value, isMonitor, rfl⟩ := List.mem_map.1 inside
      exact (locks value isMonitor).unspaced_render
  have mode : ∀ word ∈ if frame.relaxed then ["unsafe"] else [], ' ' ∉ word.toList := by
    split <;> decide
  rw [tokens_eq, closing]
  simp only [List.forall_mem_append, List.forall_mem_cons]
  exact ⟨region locals, by decide, region stack, monitors, by decide, mode⟩

/-- Frames of one scope are written alike only if their words are the same. -/
theorem tokens_eq_of_render_eq (leftWorded : left.Worded graph) (rightWorded : right.Worded graph)
    (sameScope : left.scope = right.scope) (same : left.render = right.render) :
    left.tokens = right.tokens := by
  unfold render at same
  rw [sameScope] at same
  have lines := congrArg String.toList ((String.append_right_inj _).1 same)
  rw [toList_join_spaced, toList_join_spaced] at lines
  exact eq_of_spaced_eq leftWorded.unspaced_tokens rightWorded.unspaced_tokens lines

/-- The text of a frame identifies what the frame holds. Take two frames of one scope whose values
and monitors all belong to one graph, with labels of any sort that have no space in them. If the
frames are written alike, they have as many locals and as many stack slots, each place among them
holds the same value or nothing in both, both hold the same monitors, and both or neither are
relaxed. Under one policy and with room for as many stack slots they are equal. -/
theorem render_identifies (leftFits : left.Fits) (rightFits : right.Fits)
    (leftWorded : left.Worded graph) (rightWorded : right.Worded graph)
    (sameScope : left.scope = right.scope) (same : left.render = right.render) :
    left.maxLocals = right.maxLocals ∧ left.stackSize = right.stackSize ∧
      (∀ index, left.valueAt index = right.valueAt index) ∧ left.locks = right.locks ∧
      left.relaxed = right.relaxed ∧
      (left.maxStack = right.maxStack → left.policy = right.policy →
        left.agrees right = true) := by
  have words := tokens_eq_of_render_eq leftWorded rightWorded sameScope same
  obtain ⟨locals, stack, locks, relaxed⟩ := tokens_tell leftWorded rightWorded words
  obtain ⟨maxLocals, -⟩ := leftFits.localAt_congr rightFits locals
  obtain ⟨stackSize, -⟩ := leftFits.stackAt_congr rightFits stack
  refine ⟨maxLocals, stackSize, fun index => ?_, locks, relaxed, fun maxStack policy => ?_⟩
  · rw [leftFits.valueAt_eq, rightFits.valueAt_eq, contents_locals, contents_stack, locals, stack]
    rfl
  · rw [agrees_iff_contents leftFits rightFits, contents_eq_iff]
    exact ⟨locals, stack, maxStack, sameScope, locks, relaxed, policy⟩

/-- Labels look like marks, and a value was left above the stack of one of the frames. -/
theorem render_identifies_despite_labels :
    let scope := Scope.root ⟨some 0, 0⟩ "A.b()V"
    let bar : Value := ⟨0, 10, .word, "|"⟩
    let closed : Value := ⟨0, 1, .long, "_]("⟩
    let object : Value := ⟨0, 2, .object, ""⟩
    let frame (above : Slot) : Frame :=
      ⟨⟨2, 2, #[some bar, none, some closed, none, above]⟩, scope, ⟨some [object]⟩, true,
        Policy.standard⟩
    let left := frame (some bar)
    let right := frame none
    left.Fits ∧ right.Fits ∧ left.Worded 0 ∧ right.Worded 0 ∧ left ≠ right ∧
      left.render = "A.b()V@0 [ w10(|) _ | j1(_]() _ | locks a2 ] unsafe" ∧
      left.render = right.render ∧ left.agrees right = true := by
  intro scope bar closed object frame left right
  have leftFits : left.Fits := ⟨⟨by decide, by decide⟩, by decide⟩
  have rightFits : right.Fits := ⟨⟨by decide, by decide⟩, by decide⟩
  have worded (above : Slot) : (frame above).Worded 0 := by
    have live : (frame above).liveValues = [bar, closed, object] := rfl
    intro value alive
    rw [live] at alive
    obtain rfl | rfl | rfl : value = bar ∨ value = closed ∨ value = object := by
      simpa using alive
    · exact ⟨rfl, by decide⟩
    · exact ⟨rfl, by decide⟩
    · exact ⟨rfl, by decide⟩
  have same : left.render = right.render := rfl
  obtain ⟨-, -, -, -, -, equal⟩ :=
    render_identifies leftFits rightFits (worded _) (worded _) rfl same
  exact ⟨leftFits, rightFits, worded _, worded _, by decide, by decide, same, equal rfl rfl⟩

end Frame
end SymbolicFrame
