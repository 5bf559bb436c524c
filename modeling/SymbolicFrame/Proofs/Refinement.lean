import SymbolicFrame.Proofs.Fits

/-!
# An edit is its verdict and its change

On a frame that fits, with sources that fit, performing an edit gives what the verdict on the
contents says and leaves what the change says. Each edit is shown to do so by following its steps:
what only looks is matched with the verdict, what writes with the change. The main statements are
`Edit.perform_of_ok` and `Edit.perform_of_error`; whatever an edit does can be read off the two
functions.
-/

namespace SymbolicFrame

namespace EditM

variable {α β : Type} {editor : Editor}

/-- A step on an editor ends as a verdict says. If it is done, it leaves a frame that fits and has
the given contents, the given lock records, and a log with the given records at its end. If it
stops, it leaves the editor as it was, with the records of its cause. -/
def Settles (step : EditM α) (editor : Editor) (verdict : Except Stop α) (contents : Contents)
    (reservations : Reservations) (events : List Event) : Prop :=
  match verdict with
  | .ok answer => ∃ frame, step editor = .ok answer ⟨frame, reservations, editor.log ++ events⟩ ∧
      frame.Fits ∧ frame.contents = contents
  | .error stop => step editor = editor.hear (.error stop)

section Rules

variable {contents : Contents} {reservations : Reservations} {events : List Event}
  {step : EditM α} {next : α → EditM β}

/-- A step that turns the contents is done. -/
theorem Turns.settles {answer : α} (turns : Turns step editor answer contents) :
    Settles step editor (.ok answer) contents editor.reservations [] := by
  obtain ⟨frame, ran, fits, same⟩ := turns
  refine ⟨frame, ?_, fits, same⟩
  rw [ran, List.append_nil]

/-- A step that only looks comes before what its verdict lets follow. -/
theorem Settles.after_hear {verdict : Except Stop α} {rest : α → Except Stop β}
    (ran : step editor = editor.hear verdict)
    (settles : ∀ answer, verdict = .ok answer →
      Settles (next answer) editor (rest answer) contents reservations events) :
    Settles (step >>= next) editor (verdict >>= rest) contents reservations events := by
  cases verdict with
  | error stop => exact bind_error ran
  | ok answer =>
    have later := settles answer rfl
    change Settles (step >>= next) editor (rest answer) contents reservations events
    unfold Settles at later ⊢
    rw [bind_ok ran]
    exact later

/-- A step that keeps the editor changes nothing about how the next one ends. -/
theorem Settles.after {answer : α} {verdict : Except Stop β} (ran : step editor = .ok answer editor)
    (settles : Settles (next answer) editor verdict contents reservations events) :
    Settles (step >>= next) editor verdict contents reservations events := by
  unfold Settles at settles ⊢
  rw [bind_ok ran]
  exact settles

/-- A guard that refuses goes with a verdict that refuses under the same condition. -/
theorem Settles.guard {condition : Prop} [Decidable condition] {barred : Prop} [Decidable barred]
    (same : condition ↔ barred) {stops : EditM Unit} {next : Unit → EditM β} {cause : FrameError}
    {verdict : Except Stop β} (hears : stops editor = editor.hear (refused cause))
    (settles : ¬ barred → Settles (next ()) editor verdict contents reservations events) :
    Settles (if condition then stops >>= next else next ()) editor
      (if barred then refused cause else verdict) contents reservations events := by
  by_cases isBarred : barred
  · rw [if_pos isBarred, if_pos (same.2 isBarred)]
    exact bind_error hears
  · rw [if_neg isBarred, if_neg (mt same.1 isBarred)]
    exact settles isBarred

/-- What is answered may be put in another form. -/
theorem Settles.map {verdict : Except Stop α}
    (settles : Settles step editor verdict contents reservations events) (form : α → β) :
    Settles (step >>= fun answer => pure (form answer)) editor
      (verdict >>= fun answer => .ok (form answer)) contents reservations events := by
  cases verdict with
  | error stop => exact bind_error settles
  | ok answer =>
    obtain ⟨frame, ran, fits, same⟩ := settles
    exact ⟨frame, bind_ok ran, fits, same⟩

/-- A step that turns the contents comes before one that is done. -/
theorem Turns.then_settles {answer : α} {turned : Contents} {final : β}
    (turns : Turns step editor answer turned)
    (settles : ∀ frame : Frame, frame.Fits → frame.contents = turned →
      Settles (next answer) { editor with frame := frame } (.ok final) contents reservations
        events) :
    Settles (step >>= next) editor (.ok final) contents reservations events := by
  obtain ⟨frame, ran, fits, same⟩ := turns
  obtain ⟨last, finished, lastFits, lastSame⟩ := settles frame fits same
  exact ⟨last, (bind_ok ran).trans finished, lastFits, lastSame⟩

/-- A step that is done and adds nothing to the log turns the contents. -/
theorem Settles.turns {answer : α}
    (settles : Settles step editor (.ok answer) contents editor.reservations []) :
    Turns step editor answer contents := by
  obtain ⟨frame, ran, fits, same⟩ := settles
  rw [List.append_nil] at ran
  exact ⟨frame, ran, fits, same⟩

end Rules

/-! ## The operand stack -/

/-- The kind of no value is told by its flag. -/
theorem isVoid_iff (kind : Kind) : kind.isVoid = true ↔ kind = .void := by
  simp [Kind.isVoid]

/-- The value in a stack slot is taken with all that lies above it. -/
theorem settles_takeAt (fits : editor.frame.Fits) (kind : Kind) {low : Nat}
    (live : low < editor.frame.stackSize) :
    Settles (do
        match ← readStack low with
        | some value => do
          checkKind kind value
          setDepth low
          return value
        | none => fault (.missingValue (← sum editor.frame.maxLocals low)))
      editor
      (match slotAt editor.frame.contents.stack low with
        | none => refused (.missingValue (editor.frame.maxLocals + low))
        | some value => do
          editor.frame.contents.accepts kind value
          return value)
      { editor.frame.contents with stack := editor.frame.contents.stack.take low }
      editor.reservations [] := by
  have sizes := fits.sizes
  refine .after (readStack_run fits live) ?_
  cases slotAt editor.frame.contents.stack low with
  | none => exact .after (sum_run (by omega) editor) rfl
  | some value =>
    refine .after_hear (checkKind_run kind value editor) fun _ _ => Turns.settles ?_
    refine (turns_setDepth fits (by omega)).bind fun frame frameFits same => ?_
    rw [← same]
    exact turns_pure frameFits value

theorem settles_pop (fits : editor.frame.Fits) (kind : Kind) :
    Settles (pop kind) editor (editor.frame.contents.popped kind)
      { editor.frame.contents with
        stack := editor.frame.contents.stack.take
          (editor.frame.contents.stack.length - kind.slotWidth) }
      editor.reservations [] := by
  have sizes := fits.sizes
  unfold pop Contents.popped
  rw [fits.length_stack, fits.length_locals]
  refine .guard (isVoid_iff kind) (refuse_hear rfl editor) fun notVoid => ?_
  refine .after rfl (.guard Iff.rfl rfl fun enough => ?_)
  have positive := mt (kind.slotWidth_eq_zero_iff).1 notVoid
  refine .after (difference_run (by omega) editor) ?_
  have takes := settles_takeAt fits kind
    (show editor.frame.stackSize - kind.slotWidth < editor.frame.stackSize by omega)
  dsimp only
  by_cases isWide : kind.isWide = true
  · rw [if_pos isWide]
    refine .after (sum_run (by have := kind.slotWidth_le_two; omega) editor) ?_
    have width := (kind.isWide_iff).1 isWide
    refine .after (readStack_run fits (by omega)) ?_
    by_cases filled : (slotAt editor.frame.contents.stack
        (editor.frame.stackSize - kind.slotWidth + 1)).isSome = true
    · rw [if_pos filled, if_pos ⟨isWide, filled⟩]
      refine .after (sum_run (by omega) editor) (.after (sum_run (by omega) editor) ?_)
      exact bind_error rfl
    · rw [if_neg filled, if_neg fun both => filled both.2]
      exact takes
  · rw [if_neg isWide, if_neg fun both => isWide both.1]
    exact takes

/-- A step whose refusals are recorded as faults is done when the step is. -/
theorem faulting_of_ok {step : EditM α} {answer : α} {after : Editor}
    (ran : step editor = .ok answer after) : faulting step editor = .ok answer after := by
  unfold faulting
  rw [ran]

/-- A refusal is recorded as a fault. -/
theorem faulting_of_refused {step : EditM α} {cause : FrameError} {after : Editor}
    (ran : step editor = .error (.refusal cause) after) :
    faulting step editor = fault cause after := by
  unfold faulting
  rw [ran]

theorem settles_pushRaw (fits : editor.frame.Fits) (slot : Slot) :
    Settles (pushRaw slot) editor editor.frame.contents.pushesRaw
      { editor.frame.contents with stack := editor.frame.contents.stack ++ [slot] }
      editor.reservations [] := by
  rw [Contents.pushesRaw, fits.length_stack, Frame.contents_maxStack]
  by_cases full : editor.frame.maxStack ≤ editor.frame.stackSize
  · have overflow : pushSlot slot editor =
        .error (.refusal (.stackOverflow editor.frame.maxStack)) editor := by
      unfold pushSlot
      rw [frame_bind, if_pos full]
      rfl
    rw [if_pos full]
    exact faulting_of_refused overflow
  · rw [if_neg full]
    obtain ⟨frame, ran, done⟩ := turns_pushSlot fits slot (Nat.not_le.1 full)
    exact Turns.settles ⟨frame, faulting_of_ok ran, done⟩

theorem settles_popRaw (fits : editor.frame.Fits) :
    Settles popRaw editor editor.frame.contents.poppedRaw
      { editor.frame.contents with
        stack := editor.frame.contents.stack.take (editor.frame.contents.stack.length - 1) }
      editor.reservations [] := by
  rw [Contents.poppedRaw, fits.length_stack]
  by_cases empty : editor.frame.stackSize = 0
  · have underflow : popSlot editor = .error (.refusal .emptyStack) editor := by
      unfold popSlot
      rw [frame_bind, if_pos empty]
      rfl
    rw [if_pos empty]
    exact faulting_of_refused underflow
  · rw [if_neg empty]
    have turns : Turns popSlot editor
        (slotAt editor.frame.contents.stack (editor.frame.stackSize - 1))
        { editor.frame.contents with
          stack := editor.frame.contents.stack.take (editor.frame.stackSize - 1) } := by
      unfold popSlot
      refine Turns.step rfl ?_
      rw [if_neg empty]
      refine .step (difference_run (by omega) editor) (.step (readStack_run fits (by omega)) ?_)
      refine (turns_setDepth fits (by omega)).bind fun frame frameFits same => ?_
      rw [← same]
      exact turns_pure frameFits _
    obtain ⟨frame, ran, done⟩ := turns
    exact Turns.settles ⟨frame, faulting_of_ok ran, done⟩

/-- The empty slot that ends the reading of a window lies in it. -/
theorem windowValues_error_bounds {place index : Nat} {afterWide : Bool} {slots : List Slot}
    (ended : windowValues place afterWide slots = .error index) :
    place ≤ index ∧ index < place + slots.length := by
  induction slots generalizing place afterWide with
  | nil => cases ended
  | cons slot rest ih =>
    rw [List.length_cons]
    cases slot with
    | none =>
      unfold windowValues at ended
      split at ended
      · have bounds := ih ended
        omega
      · cases ended
        omega
    | some value =>
      unfold windowValues at ended
      cases read : windowValues (place + 1) value.kind.isWide rest with
      | ok values =>
        rw [read] at ended
        cases ended
      | error found =>
        rw [read] at ended
        cases ended
        have bounds := ih read
        omega

theorem settles_popArguments (fits : editor.frame.Fits) (size : UInt64) :
    Settles (popArguments size) editor (editor.frame.contents.arguments size.toNat)
      { editor.frame.contents with
        stack := editor.frame.contents.stack.take
          (editor.frame.contents.stack.length - size.toNat) }
      editor.reservations [] := by
  have sizes := fits.sizes
  have length := fits.length_stack
  unfold popArguments Contents.arguments
  rw [length, fits.length_locals]
  refine .after rfl (.guard Iff.rfl rfl fun enough => ?_)
  refine .after (difference_run (by omega) editor) (.after (readWholeStack_run fits) ?_)
  dsimp only
  cases read : windowValues (editor.frame.stackSize - size.toNat) false
      (editor.frame.contents.stack.drop (editor.frame.stackSize - size.toNat)) with
  | ok values =>
    refine Turns.settles ((turns_setDepth fits (by omega)).bind fun frame frameFits same => ?_)
    rw [← same]
    exact turns_pure frameFits values
  | error index =>
    have bounds := windowValues_error_bounds read
    rw [List.length_drop, length] at bounds
    exact .after (sum_run (by omega) editor) rfl

theorem settles_truncateStack (fits : editor.frame.Fits) (size : UInt64) :
    Settles (truncateStack size) editor (editor.frame.contents.cuts size.toNat)
      { editor.frame.contents with stack := editor.frame.contents.stack.take size.toNat }
      editor.reservations [] := by
  unfold truncateStack Contents.cuts
  rw [fits.length_stack]
  refine .after rfl (.guard Iff.rfl rfl fun low => ?_)
  have cut := (turns_setDepth fits (Nat.not_lt.1 low)).settles
  by_cases inside : 0 < size.toNat ∧ size.toNat < editor.frame.stackSize
  · rw [if_pos (by simpa using inside)]
    refine .after (difference_run inside.1 editor) ?_
    refine .after (readStack_run fits (by omega)) (.after (readStack_run fits inside.2) ?_)
    refine .guard ?_ rfl fun _ => cut
    simp [inside]
  · rw [if_neg (by simpa using inside), if_neg fun all => inside ⟨all.1, all.2.1⟩]
    exact cut

/-- A pushed kind relaxes the checks of the frame if it is word-like. -/
theorem settles_relax (fits : editor.frame.Fits) (kind : Kind) :
    Settles (if kind.isWordLike = true then relax kind else pure ()) editor (.ok ())
      { editor.frame.contents with
        relaxed := editor.frame.contents.relaxed || kind.isWordLike }
      editor.reservations
      (if kind.isWordLike && !editor.frame.contents.relaxed then
        [.relaxing kind editor.frame.contents.scope]
      else []) := by
  rw [Frame.contents_scope, Frame.contents_relaxed]
  by_cases wordLike : kind.isWordLike = true
  · rw [if_pos wordLike]
    unfold relax
    refine .after rfl ?_
    by_cases relaxed : editor.frame.relaxed = true
    · have already : (editor.frame.relaxed || kind.isWordLike) = editor.frame.relaxed := by
        simp [relaxed]
      rw [if_pos relaxed, already, if_neg (by simp [relaxed])]
      exact (turns_pure fits ()).settles
    · rw [if_neg relaxed, if_pos (by simp [wordLike, relaxed])]
      refine ⟨{ editor.frame with relaxed := true }, rfl, ⟨fits.formed, fits.countable⟩, ?_⟩
      rw [wordLike, Bool.or_true]
      rfl
  · have unneeded : (editor.frame.relaxed || kind.isWordLike) = editor.frame.relaxed := by
      simp [wordLike]
    rw [if_neg wordLike, unneeded, if_neg (by simp [wordLike])]
    exact (turns_pure fits ()).settles

theorem settles_push (fits : editor.frame.Fits) (kind : Kind) (value : Value) :
    Settles (push kind value) editor (editor.frame.contents.pushes kind value)
      { editor.frame.contents with
        stack := editor.frame.contents.stack ++ kind.slots value
        relaxed := editor.frame.contents.relaxed || kind.isWordLike }
      editor.reservations
      (if kind.isWordLike && !editor.frame.relaxed then [.relaxing kind editor.frame.scope]
      else []) := by
  have sizes := fits.sizes
  have narrow := kind.slotWidth_le_two
  unfold push Contents.pushes
  rw [fits.length_stack]
  refine .after_hear (checkStorable_run kind editor) fun _ held => ?_
  refine .after_hear (checkKind_run kind value editor) fun _ _ => ?_
  have notVoid : kind ≠ .void := by
    intro isVoid
    rw [isVoid] at held
    cases held
  have positive := mt (kind.slotWidth_eq_zero_iff).1 notVoid
  refine .after rfl (.after (sum_run (by omega) editor) (.guard Iff.rfl rfl fun room => ?_))
  refine (turns_pushSlot fits (some value) (by omega)).then_settles fun first firstFits same => ?_
  have firstLength := firstFits.length_stack
  have firstMax := congrArg Contents.maxStack same
  rw [same, List.length_append, fits.length_stack] at firstLength
  dsimp only
  unfold Kind.slots
  by_cases isWide : kind.isWide = true
  · have width := (kind.isWide_iff).1 isWide
    have more : first.stackSize < first.maxStack := by
      change first.maxStack = editor.frame.maxStack at firstMax
      change editor.frame.stackSize + 1 = first.stackSize at firstLength
      omega
    have second : Turns (pushSlot none) { editor with frame := first } () _ :=
      turns_pushSlot firstFits none more
    rw [if_pos isWide, if_pos isWide]
    refine second.then_settles fun last lastFits lastSame => ?_
    have relaxes : Settles _ { editor with frame := last } _ _ _ _ := settles_relax lastFits kind
    rw [lastSame] at relaxes
    dsimp only at relaxes
    rw [same, List.append_assoc] at relaxes
    exact relaxes
  · have relaxes : Settles _ { editor with frame := first } _ _ _ _ :=
      settles_relax firstFits kind
    rw [if_neg isWide, if_neg isWide]
    dsimp only at relaxes
    rw [same] at relaxes
    exact relaxes

/-! ## The local variables -/

theorem settles_loadLocal (fits : editor.frame.Fits) (index : UInt64) (kind : Kind) :
    Settles (loadLocal index kind) editor (editor.frame.contents.loaded index.toNat kind)
      editor.frame.contents editor.reservations [] := by
  have sizes := fits.sizes
  unfold loadLocal Contents.loaded
  refine .guard (isVoid_iff kind) (refuse_hear rfl editor) fun notVoid => ?_
  have positive := mt (kind.slotWidth_eq_zero_iff).1 notVoid
  have ranged := checkLocalRange_within fits index kind.slotWidth.toUInt64
  rw [toNat_slotWidth] at ranged
  refine .after_hear ranged fun _ inside => ?_
  have low := within_iff.1 inside
  rw [fits.length_locals] at low
  refine .after (readLocal_run fits (by omega)) ?_
  cases slotAt editor.frame.contents.locals index.toNat with
  | none => rfl
  | some value =>
    have answers : Settles (do checkKind kind value; return value) editor
        (do editor.frame.contents.accepts kind value; return value)
        editor.frame.contents editor.reservations [] :=
      .after_hear (checkKind_run kind value editor) fun _ _ => (turns_pure fits value).settles
    dsimp only
    by_cases isWide : kind.isWide = true
    · have width := (kind.isWide_iff).1 isWide
      rw [if_pos isWide]
      refine .after (sum_run (by omega) editor) (.after (readLocal_run fits (by omega)) ?_)
      exact .guard (by simp [isWide]) rfl fun _ => answers
    · rw [if_neg isWide, if_neg fun both => isWide both.1]
      exact answers

/-- The slots of a stored value are written. -/
theorem turns_writes (fits : editor.frame.Fits) {index : Nat} {kind : Kind} (value : Value)
    (notVoid : kind ≠ .void) (inside : index + kind.slotWidth ≤ editor.frame.maxLocals) :
    Turns (do
        writeLocal index (some value)
        if kind.isWide then writeLocal (← sum index 1) none)
      editor ()
      { editor.frame.contents with
        locals := written editor.frame.contents.locals index kind value } := by
  have sizes := fits.sizes
  have positive := mt (kind.slotWidth_eq_zero_iff).1 notVoid
  refine (turns_writeLocal fits (some value) (by omega)).bind fun frame frameFits same => ?_
  have length : frame.maxLocals = editor.frame.maxLocals := by
    rw [frameFits.maxLocals_eq same, List.length_set, fits.length_locals]
  unfold written
  by_cases isWide : kind.isWide = true
  · have width := (kind.isWide_iff).1 isWide
    rw [if_pos isWide, if_pos isWide]
    have above : index + 1 < frame.maxLocals := by omega
    refine .step (sum_run (by omega) _) (Turns.of_eq (turns_writeLocal frameFits none above) ?_)
    simp only [same]
  · rw [if_neg isWide, if_neg isWide, ← same]
    exact Turns.of_eq (turns_pure frameFits ()) rfl

theorem settles_storeLocal (fits : editor.frame.Fits) (index : UInt64) (kind : Kind)
    (value : Value) :
    Settles (storeLocal index kind value) editor
      (editor.frame.contents.stores index.toNat kind value)
      { editor.frame.contents with
        locals := stored editor.frame.contents.locals index.toNat kind value }
      editor.reservations [] := by
  have ranged := checkLocalRange_within fits index kind.slotWidth.toUInt64
  rw [toNat_slotWidth] at ranged
  unfold storeLocal Contents.stores
  refine .after_hear (checkStorable_run kind editor) fun _ held => ?_
  refine .after_hear (checkKind_run kind value editor) fun _ _ => ?_
  have notVoid : kind ≠ .void := by
    intro isVoid
    rw [isVoid] at held
    cases held
  rw [← bind_pure (within _ _ _)]
  refine .after_hear ranged fun _ inside => Turns.settles ?_
  have low := within_iff.1 inside
  rw [fits.length_locals] at low
  have positive := mt (kind.slotWidth_eq_zero_iff).1 notVoid
  have writes := turns_writes fits value notVoid low
  dsimp only
  unfold stored
  by_cases above : 0 < index.toNat
  · rw [if_pos above]
    refine .step (difference_run above editor) (.step (readLocal_run fits (by omega)) ?_)
    by_cases clobbers : (slotAt editor.frame.contents.locals (index.toNat - 1)).holdsWide = true
    · have emptied : emptiedBelow editor.frame.contents.locals index.toNat =
          editor.frame.contents.locals.set (index.toNat - 1) none := if_pos ⟨above, clobbers⟩
      rw [if_pos clobbers, emptied]
      refine (turns_writeLocal fits none (by omega)).bind fun frame frameFits same => ?_
      have length : frame.maxLocals = editor.frame.maxLocals := by
        rw [frameFits.maxLocals_eq same, List.length_set, fits.length_locals]
      have inside : index.toNat + kind.slotWidth ≤ frame.maxLocals := by omega
      refine Turns.of_eq (turns_writes frameFits value notVoid inside) ?_
      simp only [same]
    · have kept : emptiedBelow editor.frame.contents.locals index.toNat =
          editor.frame.contents.locals := if_neg fun both => clobbers both.2
      rw [if_neg clobbers, kept]
      exact writes
  · have kept : emptiedBelow editor.frame.contents.locals index.toNat =
        editor.frame.contents.locals := if_neg fun both => above both.1
    rw [if_neg above, kept]
    exact writes

theorem settles_invalidateLocal (fits : editor.frame.Fits) (index : UInt64) :
    Settles (invalidateLocal index) editor
      (within editor.frame.contents.locals.length index.toNat 1)
      { editor.frame.contents with
        locals := editor.frame.contents.locals.set index.toNat none }
      editor.reservations [] := by
  rw [← bind_pure (within _ _ _)]
  refine .after_hear (checkLocalRange_within fits index 1) fun _ inside => Turns.settles ?_
  have low := within_iff.1 inside
  rw [fits.length_locals] at low
  exact turns_writeLocal fits none low

/-- Parameters that were measured and fit are stored one after the other. -/
theorem turns_storeFrom (fits : editor.frame.Fits) {index total : Nat} {parameters : List Value}
    (measured : editor.frame.policy.parametersEnd index parameters = .ok total)
    (small : index < Word.limit) (inside : total ≤ editor.frame.maxLocals) :
    Turns (storeFrom index parameters) editor ()
      { editor.frame.contents with
        locals := storedFrom editor.frame.contents.locals index parameters } := by
  induction parameters generalizing index editor with
  | nil => exact turns_pure fits ()
  | cons parameter rest ih =>
    unfold Policy.parametersEnd at measured
    split at measured
    · cases measured
    rename_i held
    split at measured
    · rename_i fits'
      have bounds := Policy.parametersEnd_bounds measured fits'
      have word : index.toUInt64.toNat = index := Word.toNat_toUInt64 small
      have stores := settles_storeLocal fits index.toUInt64 parameter.kind parameter
      have passes : within editor.frame.contents.locals.length index parameter.kind.slotWidth =
          .ok () := by
        rw [within, fits.length_locals, if_pos (by omega)]
      rw [Contents.stores, Frame.contents_policy, held, Contents.accepts, if_pos (.inl rfl), word,
        passes] at stores
      refine Turns.bind (Settles.turns stores) fun frame frameFits same => ?_
      have policy : frame.policy = editor.frame.policy := congrArg Contents.policy same
      have length : frame.maxLocals = editor.frame.maxLocals := by
        rw [frameFits.maxLocals_eq same, length_stored, fits.length_locals]
      have roomy : total ≤ frame.maxLocals := by omega
      rw [← policy] at measured
      refine .step (sum_run fits' _) (Turns.of_eq (ih frameFits measured fits' roomy) ?_)
      simp only [same]
      rfl
    · cases measured

theorem settles_storeParameters (fits : editor.frame.Fits) (parameters : List Value) :
    Settles (storeParameters parameters) editor
      (editor.frame.contents.storesParameters parameters)
      { editor.frame.contents with
        locals := storedFrom editor.frame.contents.locals 0 parameters }
      editor.reservations [] := by
  unfold storeParameters Contents.storesParameters
  refine .after_hear (parametersEnd_run 0 parameters editor) fun width measured => ?_
  have bounds := Policy.parametersEnd_bounds measured (by decide)
  have word : width.toUInt64.toNat = width := Word.toNat_toUInt64 bounds.2
  have ranged := checkLocalRange_within fits 0 width.toUInt64
  rw [word] at ranged
  rw [← bind_pure (within _ _ _)]
  refine .after_hear ranged fun _ inside => Turns.settles ?_
  have low := within_iff.1 inside
  rw [fits.length_locals] at low
  exact turns_storeFrom fits measured (by decide) (by omega)

/-! ## Splices and monitors -/

/-- A splice is recorded, takes over a region, and the mode with it. -/
theorem settles_splice {takes : EditM Unit} {event : Event} {turned : Contents} {source : Frame}
    (turns : Turns takes { editor with log := editor.log ++ [event] } () turned) :
    Settles (do record event; takes; inheritMode source) editor (.ok ())
      { turned with relaxed := turned.relaxed || source.relaxed } editor.reservations [event] := by
  obtain ⟨frame, ran, fits, same⟩ := turns
  refine ⟨{ frame with relaxed := frame.relaxed || source.relaxed }, (bind_ok rfl).trans ?_,
    ⟨fits.formed, fits.countable⟩, ?_⟩
  · exact bind_ok ran
  · rw [← same]
    rfl

theorem settles_replaceLocals (fits : editor.frame.Fits) {source : Frame}
    (sourceFits : source.Fits) :
    Settles (replaceLocals source) editor
      (editor.frame.contents.takesLocals source.contents)
      { editor.frame.contents with
        locals := source.contents.locals
        relaxed := editor.frame.contents.relaxed || source.contents.relaxed }
      editor.reservations [.replacingLocals editor.frame source] := by
  unfold replaceLocals Contents.takesLocals
  rw [fits.length_locals, sourceFits.length_locals]
  refine .after rfl (.guard Iff.rfl rfl fun same => ?_)
  let logged : Editor :=
    { editor with log := editor.log ++ [.replacingLocals editor.frame source] }
  have loggedFits : logged.frame.Fits := fits
  exact settles_splice (turns_takeLocals loggedFits sourceFits (Decidable.not_not.1 same))

theorem settles_replaceStack (fits : editor.frame.Fits) {source : Frame}
    (sourceFits : source.Fits) :
    Settles (replaceStack source) editor
      (editor.frame.contents.takesStack source.contents)
      { editor.frame.contents with
        stack := source.contents.stack
        relaxed := editor.frame.contents.relaxed || source.contents.relaxed }
      editor.reservations [.replacingStack editor.frame source] := by
  unfold replaceStack Contents.takesStack
  rw [sourceFits.length_stack]
  refine .after rfl (.guard Iff.rfl rfl fun room => ?_)
  let logged : Editor :=
    { editor with log := editor.log ++ [.replacingStack editor.frame source] }
  have loggedFits : logged.frame.Fits := fits
  exact settles_splice (turns_takeStack loggedFits sourceFits (Nat.not_lt.1 room))

/-- Changing what a frame holds besides its slots changes the contents likewise. -/
theorem turns_changeFrame {change : Frame → Frame} {contents : Contents}
    (fits : (change editor.frame).Fits) (same : (change editor.frame).contents = contents) :
    Turns (changeFrame change) editor () contents :=
  ⟨change editor.frame, rfl, fits, same⟩

theorem settles_lock (fits : editor.frame.Fits) (scope : Scope) (object : Value)
    (total : UInt64) :
    Settles (lock scope object total) editor (editor.frame.contents.accepts .object object)
      { editor.frame.contents with monitors := editor.frame.contents.monitors ++ [object] }
      (editor.reservations.raise scope total) (editor.reservations.eventsOf scope total) := by
  rw [← bind_pure (editor.frame.contents.accepts _ _)]
  refine .after_hear (checkKind_run .object object editor) fun _ _ => ?_
  exact ⟨{ editor.frame with monitors := editor.frame.monitors.push object }, rfl,
    ⟨fits.formed, fits.countable⟩, rfl⟩

theorem settles_unlock (fits : editor.frame.Fits) :
    Settles unlock editor editor.frame.contents.released
      { editor.frame.contents with monitors := editor.frame.contents.monitors.dropLast }
      editor.reservations [] := by
  unfold unlock Contents.released
  refine .after rfl ?_
  rw [Frame.contents_monitors]
  unfold Monitors.pop? Frame.locks
  cases held : editor.frame.monitors.toList.getLast? with
  | none => rfl
  | some object =>
    refine Turns.settles ((turns_changeFrame ?_ rfl).bind fun frame frameFits same => ?_)
    · exact ⟨fits.formed, fits.countable⟩
    · exact Turns.of_eq (turns_pure frameFits object) same

end EditM

/-! ## Every edit -/

namespace Edit

variable {frame : Frame} {edit : Edit Frame}

/-- The steps of an edit settle as its verdict and its change say. -/
theorem steps_settle {editor : Editor} (fits : editor.frame.Fits)
    (sourceFits : ∀ source, edit.source? = some source → source.Fits) :
    EditM.Settles edit.steps editor
      (editor.frame.contents.verdict (edit.map Frame.contents))
      (editor.frame.contents.change (edit.map Frame.contents))
      (edit.reported editor.reservations) (edit.records editor.frame editor.reservations) := by
  cases edit with
  | push kind value => exact (EditM.settles_push fits kind value).map fun _ => Answer.done
  | pop kind => exact (EditM.settles_pop fits kind).map fun value => Answer.slot (some value)
  | pushRaw slot => exact (EditM.settles_pushRaw fits slot).map fun _ => Answer.done
  | popRaw => exact (EditM.settles_popRaw fits).map Answer.slot
  | popArguments size => exact (EditM.settles_popArguments fits size).map Answer.values
  | truncateStack size => exact (EditM.settles_truncateStack fits size).map fun _ => Answer.done
  | clearStack => exact (EditM.turns_setDepth fits (Nat.zero_le _)).settles.map fun _ => Answer.done
  | loadLocal index kind =>
    exact (EditM.settles_loadLocal fits index kind).map fun value => Answer.slot (some value)
  | storeLocal index kind value =>
    exact (EditM.settles_storeLocal fits index kind value).map fun _ => Answer.done
  | invalidateLocal index =>
    exact (EditM.settles_invalidateLocal fits index).map fun _ => Answer.done
  | clearLocals => exact (EditM.turns_emptyLocals fits).settles.map fun _ => Answer.done
  | storeParameters parameters =>
    exact (EditM.settles_storeParameters fits parameters).map fun _ => Answer.done
  | replaceLocals source =>
    exact (EditM.settles_replaceLocals fits (sourceFits source rfl)).map fun _ => Answer.done
  | replaceStack source =>
    exact (EditM.settles_replaceStack fits (sourceFits source rfl)).map fun _ => Answer.done
  | replaceMonitors source =>
    have turns : EditM.Turns (EditM.replaceMonitors source) editor ()
        { editor.frame.contents with monitors := source.contents.monitors } :=
      EditM.turns_changeFrame ⟨fits.formed, fits.countable⟩ rfl
    exact turns.settles.map fun _ => Answer.done
  | lock scope object total =>
    exact (EditM.settles_lock fits scope object total).map fun _ => Answer.done
  | unlock => exact (EditM.settles_unlock fits).map fun value => Answer.slot (some value)

/-- An edit that its verdict lets be done is done. It answers what the verdict says and leaves a
frame that fits and has the contents that the change gives. -/
theorem perform_of_ok {answer : Answer} (fits : frame.Fits)
    (sourceFits : ∀ source, edit.source? = some source → source.Fits)
    (reservations : Reservations)
    (accepted : frame.contents.verdict (edit.map Frame.contents) = .ok answer) :
    ∃ after, edit.perform frame reservations =
        ⟨.answer answer, after, edit.reported reservations, edit.records frame reservations⟩ ∧
      after.Fits ∧ after.contents = frame.contents.change (edit.map Frame.contents) := by
  have settles : EditM.Settles edit.steps ⟨frame, reservations, []⟩ _ _ _ _ :=
    steps_settle fits sourceFits
  dsimp only at settles
  rw [accepted] at settles
  obtain ⟨after, ran, afterFits, same⟩ := settles
  refine ⟨after, ?_, afterFits, same⟩
  rw [perform, ran]
  rfl

/-- An edit that its verdict stops leaves everything as it was, and records its cause. -/
theorem perform_of_error {stop : Stop} (fits : frame.Fits)
    (sourceFits : ∀ source, edit.source? = some source → source.Fits)
    (reservations : Reservations)
    (stopped : frame.contents.verdict (edit.map Frame.contents) = .error stop) :
    edit.perform frame reservations = ⟨stop.outcome, frame, reservations, stop.records⟩ := by
  have settles : EditM.Settles edit.steps ⟨frame, reservations, []⟩ _ _ _ _ :=
    steps_settle fits sourceFits
  dsimp only at settles
  rw [stopped] at settles
  change edit.steps ⟨frame, reservations, []⟩ = .error stop ⟨frame, reservations, stop.records⟩
    at settles
  rw [perform, settles]
  cases stop <;> rfl

/-- An edit leaves a frame that fits. If its verdict has an answer, the contents of that frame are
those that the change gives; otherwise it is the frame from before. -/
theorem frame_of_perform (fits : frame.Fits)
    (sourceFits : ∀ source, edit.source? = some source → source.Fits)
    (reservations : Reservations) :
    (edit.perform frame reservations).frame.Fits ∧
      ((∃ answer, frame.contents.verdict (edit.map Frame.contents) = .ok answer ∧
          (edit.perform frame reservations).frame.contents =
            frame.contents.change (edit.map Frame.contents)) ∨
        (edit.perform frame reservations).frame = frame) := by
  cases accepted : frame.contents.verdict (edit.map Frame.contents) with
  | error stop =>
    rw [perform_of_error fits sourceFits reservations accepted]
    exact ⟨fits, .inr rfl⟩
  | ok answer =>
    obtain ⟨after, performed, afterFits, same⟩ :=
      perform_of_ok fits sourceFits reservations accepted
    rw [performed]
    exact ⟨afterFits, .inl ⟨answer, rfl, same⟩⟩

/-- The sources of an edit without one fit. -/
theorem sources_of_none (noSource : edit.source? = none) (source : Frame)
    (isSource : edit.source? = some source) : source.Fits := by
  rw [noSource] at isSource
  cases isSource

/-- An edit gives the answer of its verdict, if that has one. -/
theorem outcome_eq_answer_iff {answer : Answer} (fits : frame.Fits)
    (sourceFits : ∀ source, edit.source? = some source → source.Fits)
    (reservations : Reservations) :
    (edit.perform frame reservations).outcome = .answer answer ↔
      frame.contents.verdict (edit.map Frame.contents) = .ok answer := by
  cases accepted : frame.contents.verdict (edit.map Frame.contents) with
  | ok given =>
    obtain ⟨after, performed, -⟩ := perform_of_ok fits sourceFits reservations accepted
    rw [performed, Outcome.answer.injEq, Except.ok.injEq]
  | error stop =>
    rw [perform_of_error fits sourceFits reservations accepted]
    cases stop <;> exact ⟨nofun, nofun⟩

/-- An edit ends as a stop does, if that is what its verdict stops for. -/
theorem outcome_eq_stop_iff {stop : Stop} (fits : frame.Fits)
    (sourceFits : ∀ source, edit.source? = some source → source.Fits)
    (reservations : Reservations) :
    (edit.perform frame reservations).outcome = stop.outcome ↔
      frame.contents.verdict (edit.map Frame.contents) = .error stop := by
  cases reached : frame.contents.verdict (edit.map Frame.contents) with
  | ok given =>
    obtain ⟨after, performed, -⟩ := perform_of_ok fits sourceFits reservations reached
    rw [performed]
    cases stop <;> exact ⟨nofun, nofun⟩
  | error cause =>
    rw [perform_of_error fits sourceFits reservations reached, Except.error.injEq]
    exact ⟨Stop.outcome_inj, congrArg Stop.outcome⟩

/-- An edit is refused for the cause of its verdict, if that is a refusal. -/
theorem outcome_eq_refusal_iff {cause : FrameError} (fits : frame.Fits)
    (sourceFits : ∀ source, edit.source? = some source → source.Fits)
    (reservations : Reservations) :
    (edit.perform frame reservations).outcome = .refusal cause ↔
      frame.contents.verdict (edit.map Frame.contents) = refused cause := by
  have ends : (Stop.refusal cause).outcome = .refusal cause := rfl
  rw [← ends, refused]
  exact outcome_eq_stop_iff fits sourceFits reservations

/-- An edit of a frame is done. -/
def Succeeds (edit : Edit Frame) (frame : Frame) (reservations : Reservations) : Prop :=
  ∃ answer, (edit.perform frame reservations).outcome = .answer answer

/-- An edit is done when its verdict has an answer. -/
theorem succeeds_iff (fits : frame.Fits)
    (sourceFits : ∀ source, edit.source? = some source → source.Fits)
    (reservations : Reservations) :
    edit.Succeeds frame reservations ↔
      ∃ answer, frame.contents.verdict (edit.map Frame.contents) = .ok answer :=
  exists_congr fun _ => outcome_eq_answer_iff fits sourceFits reservations

end Edit
end SymbolicFrame
