import SymbolicFrame.Buffer.Regions
import SymbolicFrame.Proofs.Steps

/-!
# A refused edit changes nothing

Edits run in place, so what a step did before it stopped stays done. Most edits look first and
change afterwards: looking keeps the frame and the lock records, and changing is never refused.
Two edits change the frame between steps that may be refused. A wide push puts two slots, and
parameters are stored one after the other; for these the checks made at first are shown to keep
every later step from being refused.

Nothing is assumed of the frame: its slots need not fit its sizes.
-/

namespace SymbolicFrame

/-- Two editors hold the same frame and the same lock records; their logs may differ. -/
def Editor.Same (left right : Editor) : Prop :=
  left.frame = right.frame ∧ left.reservations = right.reservations

/-- Editors that are each the same as the one before are the same. -/
theorem Editor.Same.trans {first second third : Editor} (later : third.Same second)
    (earlier : second.Same first) : third.Same first :=
  ⟨later.1.trans earlier.1, later.2.trans earlier.2⟩

namespace EditM

variable {α β : Type}

/-- The editor that a result leaves, whether the step came to its end or stopped. -/
def left : EStateM.Result Stop Editor α → Editor
  | .ok _ editor | .error _ editor => editor

/-- A step that keeps the frame and the lock records, however it ends. -/
def Looks (step : EditM α) : Prop := ∀ editor, (left (step editor)).Same editor

/-- A step that is never refused, though it may use something outside its bounds. -/
def Unrefused (step : EditM α) : Prop :=
  ∀ editor cause after, step editor ≠ .error (.refusal cause) after

/-- A step that keeps the frame and the lock records when it is refused. -/
def Atomic (step : EditM α) : Prop :=
  ∀ editor cause after, step editor = .error (.refusal cause) after → after.Same editor

/-! ## Composition -/

/-- A step that only looks is atomic. -/
theorem Looks.atomic {step : EditM α} (looks : Looks step) : Atomic step := by
  intro editor cause after refused
  have same := looks editor
  rw [refused] at same
  exact same

/-- A step that is never refused is atomic. -/
theorem Unrefused.atomic {step : EditM α} (unrefused : Unrefused step) : Atomic step :=
  fun editor cause after refused => absurd refused (unrefused editor cause after)

/-- Looking twice is looking. -/
theorem Looks.bind {step : EditM α} {next : α → EditM β} (first : Looks step)
    (second : ∀ answer, Looks (next answer)) : Looks (step >>= next) := by
  intro editor
  have kept := first editor
  cases ran : step editor with
  | ok answer middle =>
    rw [ran] at kept
    rw [bind_ok ran]
    exact (second answer middle).trans kept
  | error stop middle =>
    rw [ran] at kept
    rw [bind_error ran]
    exact kept

/-- What is atomic stays so after looking. -/
theorem Looks.bind_atomic {step : EditM α} {next : α → EditM β} (first : Looks step)
    (second : ∀ answer, Atomic (next answer)) : Atomic (step >>= next) := by
  intro editor cause after refused
  have kept := first editor
  obtain stopped | ⟨answer, middle, ran, later⟩ := bind_eq_refused refused
  · rw [stopped] at kept
    exact kept
  · rw [ran] at kept
    exact (second answer middle cause after later).trans kept

/-- An atomic step may be followed by steps that are never refused. -/
theorem Atomic.bind {step : EditM α} {next : α → EditM β} (first : Atomic step)
    (second : ∀ answer, Unrefused (next answer)) : Atomic (step >>= next) := by
  intro editor cause after refused
  obtain stopped | ⟨answer, middle, ran, later⟩ := bind_eq_refused refused
  · exact first editor cause after stopped
  · exact absurd later (second answer middle cause after)

/-- Steps that are never refused follow one another without a refusal. -/
theorem Unrefused.bind {step : EditM α} {next : α → EditM β} (first : Unrefused step)
    (second : ∀ answer, Unrefused (next answer)) : Unrefused (step >>= next) := by
  intro editor cause after refused
  obtain stopped | ⟨answer, middle, ran, later⟩ := bind_eq_refused refused
  · exact first editor cause after stopped
  · exact second answer middle cause after later

/-- A choice between steps that look looks. -/
theorem Looks.ite {condition : Prop} [Decidable condition] {yes no : EditM α} (first : Looks yes)
    (second : Looks no) : Looks (if condition then yes else no) := by
  split
  · exact first
  · exact second

/-- A guard that stops a step by looking leaves it a step that looks. -/
theorem Looks.guard {condition : Prop} [Decidable condition] {stops : EditM Unit}
    {next : Unit → EditM β} (looks : Looks stops) (goesOn : Looks (next ())) :
    Looks (if condition then stops >>= next else next ()) :=
  (looks.bind fun _ => goesOn).ite goesOn

/-- A guard that stops a step by looking leaves it atomic. -/
theorem Looks.guard_atomic {condition : Prop} [Decidable condition] {stops : EditM Unit}
    {next : Unit → EditM β} (looks : Looks stops) (goesOn : Atomic (next ())) :
    Atomic (if condition then stops >>= next else next ()) := by
  split
  · exact looks.bind_atomic fun _ => goesOn
  · exact goesOn

/-! ## Steps that only look -/

theorem looks_pure (answer : α) : Looks (pure answer : EditM α) := fun _ => ⟨rfl, rfl⟩

theorem looks_frame : Looks frame := fun _ => ⟨rfl, rfl⟩

theorem looks_record (event : Event) : Looks (record event) := fun _ => ⟨rfl, rfl⟩

theorem looks_refuse (cause : FrameError) : Looks (refuse cause : EditM α) :=
  fun _ => ⟨rfl, rfl⟩

theorem looks_fault (cause : FrameError) : Looks (fault cause : EditM α) :=
  fun _ => ⟨rfl, rfl⟩

theorem looks_breach : Looks (breach : EditM α) := fun _ => ⟨rfl, rfl⟩

theorem looks_sum (left right : Nat) : Looks (sum left right) :=
  (looks_pure _).ite looks_breach

theorem looks_difference (left right : Nat) : Looks (difference left right) :=
  (looks_pure _).ite looks_breach

theorem looks_readSlot (place : Nat) : Looks (readSlot place) := by
  refine looks_frame.bind fun held => ?_
  split
  · exact looks_pure _
  · exact looks_breach

theorem looks_readStack (index : Nat) : Looks (readStack index) :=
  looks_frame.bind fun _ =>
    (looks_refuse _).guard ((looks_sum _ _).bind fun _ => looks_readSlot _)

theorem looks_readLocal (index : Nat) : Looks (readLocal index) :=
  looks_frame.bind fun _ => (looks_refuse _).guard (looks_readSlot _)

theorem looks_readWholeStack : Looks readWholeStack :=
  looks_frame.bind fun _ => (looks_pure _).ite looks_breach

theorem looks_checkKind (expected : Kind) (value : Value) : Looks (checkKind expected value) :=
  looks_frame.bind fun _ => (looks_pure _).ite (looks_refuse _)

theorem looks_checkStorable (kind : Kind) : Looks (checkStorable kind) := by
  unfold checkStorable
  exact (looks_refuse _).guard (looks_frame.bind fun _ => (looks_refuse _).ite (looks_pure _))

theorem looks_checkLocalRange (index width : UInt64) : Looks (checkLocalRange index width) :=
  looks_frame.bind fun _ => (looks_pure _).ite (looks_fault _)

theorem looks_parametersEnd (index : Nat) (parameters : List Value) :
    Looks (parametersEnd index parameters) := by
  induction parameters generalizing index with
  | nil => exact looks_pure _
  | cons parameter rest ih =>
    exact (looks_checkStorable _).bind fun _ => (looks_sum _ _).bind fun _ => ih _

/-! ## Steps that are never refused -/

/-- A step that always comes to its end is never refused. -/
theorem Unrefused.of_ok {step : EditM α}
    (ends : ∀ editor, ∃ answer after, step editor = .ok answer after) : Unrefused step := by
  intro editor cause stopped refused
  obtain ⟨answer, after, ran⟩ := ends editor
  rw [ran] at refused
  cases refused

theorem unrefused_pure (answer : α) : Unrefused (pure answer : EditM α) :=
  .of_ok fun _ => ⟨_, _, rfl⟩

theorem unrefused_frame : Unrefused frame := .of_ok fun _ => ⟨_, _, rfl⟩

theorem unrefused_breach : Unrefused (breach : EditM α) := by
  intro editor cause after refused
  change EStateM.Result.error Stop.breach editor = .error (.refusal cause) after at refused
  cases refused

theorem unrefused_changeFrame (change : Frame → Frame) : Unrefused (changeFrame change) :=
  .of_ok fun _ => ⟨_, _, rfl⟩

theorem unrefused_record (event : Event) : Unrefused (record event) := .of_ok fun _ => ⟨_, _, rfl⟩

theorem unrefused_report (scope : Scope) (total : UInt64) : Unrefused (report scope total) :=
  .of_ok fun _ => ⟨_, _, rfl⟩

/-- A choice between steps that are never refused is never refused. -/
theorem Unrefused.ite {condition : Prop} [Decidable condition] {yes no : EditM α}
    (first : Unrefused yes) (second : Unrefused no) :
    Unrefused (if condition then yes else no) := by
  split
  · exact first
  · exact second

theorem unrefused_sum (left right : Nat) : Unrefused (sum left right) :=
  (unrefused_pure _).ite unrefused_breach

theorem unrefused_putSlot (place : Nat) (slot : Slot) : Unrefused (putSlot place slot) :=
  unrefused_frame.bind fun _ => (unrefused_changeFrame _).ite unrefused_breach

theorem unrefused_setDepth (depth : Nat) : Unrefused (setDepth depth) :=
  unrefused_frame.bind fun _ => (unrefused_changeFrame _).ite unrefused_breach

theorem unrefused_writeLocal (index : Nat) (slot : Slot) : Unrefused (writeLocal index slot) :=
  unrefused_frame.bind fun _ => (unrefused_putSlot _ _).ite unrefused_breach

theorem unrefused_emptyLocals : Unrefused emptyLocals :=
  unrefused_frame.bind fun _ => (unrefused_changeFrame _).ite unrefused_breach

theorem unrefused_takeLocals (source : Buffer) : Unrefused (takeLocals source) :=
  unrefused_frame.bind fun _ => (unrefused_changeFrame _).ite unrefused_breach

theorem unrefused_takeStack (source : Buffer) : Unrefused (takeStack source) :=
  unrefused_frame.bind fun _ => (unrefused_changeFrame _).ite unrefused_breach

theorem unrefused_relax (kind : Kind) : Unrefused (relax kind) :=
  unrefused_frame.bind fun _ =>
    (unrefused_pure _).ite ((unrefused_record _).bind fun _ => unrefused_changeFrame _)

/-- The slots of a stored value are written without a refusal. -/
theorem unrefused_writes (index : Nat) (kind : Kind) (value : Value) :
    Unrefused (do
      writeLocal index (some value)
      if kind.isWide then writeLocal (← sum index 1) none) :=
  (unrefused_writeLocal _ _).bind fun _ => Unrefused.ite
    ((unrefused_sum _ _).bind fun _ => unrefused_writeLocal _ _) (unrefused_pure _)

/-! ## Edits that look first and change afterwards -/

theorem atomic_pushSlot (slot : Slot) : Atomic (pushSlot slot) := by
  unfold pushSlot
  refine looks_frame.bind_atomic fun held => (looks_refuse _).guard_atomic ?_
  refine (looks_sum _ _).bind_atomic fun place => Unrefused.atomic ?_
  exact (unrefused_putSlot _ _).bind fun _ => (unrefused_sum _ _).bind fun _ =>
    unrefused_setDepth _

theorem atomic_popSlot : Atomic popSlot := by
  unfold popSlot
  refine looks_frame.bind_atomic fun held => (looks_refuse _).guard_atomic ?_
  refine (looks_difference _ _).bind_atomic fun top => ?_
  refine (looks_readStack _).bind_atomic fun slot => Unrefused.atomic ?_
  exact (unrefused_setDepth _).bind fun _ => unrefused_pure _

/-- Recording the refusal of an atomic step leaves it atomic. -/
theorem Atomic.faulting {step : EditM α} (atomic : Atomic step) : Atomic (faulting step) := by
  intro editor cause after refused
  unfold EditM.faulting at refused
  split at refused
  · rename_i found stopped ran
    have same := atomic editor found stopped ran
    rw [fault_run] at refused
    cases refused
    exact same
  · rename_i result notRefused
    exact absurd refused (notRefused _ _)

theorem atomic_pop (kind : Kind) : Atomic (pop kind) := by
  unfold pop
  refine (looks_refuse _).guard_atomic (looks_frame.bind_atomic fun held => ?_)
  refine (looks_fault _).guard_atomic ((looks_difference _ _).bind_atomic fun low => ?_)
  extract_lets takes
  have atomic : Atomic (takes ()) := by
    refine (looks_readStack _).bind_atomic fun slot => ?_
    cases slot with
    | none => exact ((looks_sum _ _).bind fun _ => looks_fault _).atomic
    | some value =>
      refine (looks_checkKind _ _).bind_atomic fun _ => Unrefused.atomic ?_
      exact (unrefused_setDepth _).bind fun _ => unrefused_pure _
  split
  · refine (looks_sum _ _).bind_atomic fun high => (looks_readStack _).bind_atomic fun slot => ?_
    split
    · exact (looks_sum _ _).bind_atomic fun _ => (looks_sum _ _).bind_atomic fun _ =>
        (looks_fault _).bind_atomic fun _ => atomic
    · exact atomic
  · exact atomic

theorem atomic_popArguments (size : UInt64) : Atomic (popArguments size) := by
  unfold popArguments
  refine looks_frame.bind_atomic fun held => (looks_fault _).guard_atomic ?_
  refine (looks_difference _ _).bind_atomic fun base => ?_
  refine looks_readWholeStack.bind_atomic fun slots => ?_
  split
  · exact ((unrefused_setDepth _).bind fun _ => unrefused_pure _).atomic
  · exact ((looks_sum _ _).bind fun _ => looks_fault _).atomic

theorem atomic_truncateStack (size : UInt64) : Atomic (truncateStack size) := by
  unfold truncateStack
  refine looks_frame.bind_atomic fun held => (looks_fault _).guard_atomic ?_
  have cuts := (unrefused_setDepth size.toNat).atomic
  extract_lets cut
  split
  · refine (looks_difference _ _).bind_atomic fun _ => ?_
    refine (looks_readStack _).bind_atomic fun below => ?_
    exact (looks_readStack _).bind_atomic fun above => (looks_fault _).guard_atomic cuts
  · exact cuts

theorem looks_loadLocal (index : UInt64) (kind : Kind) : Looks (loadLocal index kind) := by
  unfold loadLocal
  refine (looks_refuse _).guard ((looks_checkLocalRange _ _).bind fun _ => ?_)
  refine (looks_readLocal _).bind fun slot => ?_
  cases slot with
  | none => exact looks_fault _
  | some value =>
    have answers := (looks_checkKind kind value).bind fun _ => looks_pure value
    refine Looks.ite ((looks_sum _ _).bind fun high => ?_) answers
    exact (looks_readLocal _).bind fun _ => (looks_fault _).guard answers

theorem atomic_storeLocal (index : UInt64) (kind : Kind) (value : Value) :
    Atomic (storeLocal index kind value) := by
  unfold storeLocal
  refine (looks_checkStorable _).bind_atomic fun _ => (looks_checkKind _ _).bind_atomic fun _ => ?_
  refine (looks_checkLocalRange _ _).bind_atomic fun _ => ?_
  extract_lets writes
  have unrefused : Unrefused (writes ()) := unrefused_writes index.toNat kind value
  split
  · refine (looks_difference _ _).bind_atomic fun below => ?_
    refine (looks_readLocal _).bind_atomic fun slot => Unrefused.atomic ?_
    exact ((unrefused_writeLocal _ _).bind fun _ => unrefused).ite unrefused
  · exact unrefused.atomic

theorem atomic_invalidateLocal (index : UInt64) : Atomic (invalidateLocal index) :=
  (looks_checkLocalRange _ _).bind_atomic fun _ => (unrefused_writeLocal _ _).atomic

theorem atomic_replaceLocals (source : Frame) : Atomic (replaceLocals source) := by
  unfold replaceLocals
  refine looks_frame.bind_atomic fun held => (looks_fault _).guard_atomic ?_
  refine (looks_record _).bind_atomic fun _ => Unrefused.atomic ?_
  exact (unrefused_takeLocals _).bind fun _ => unrefused_changeFrame _

theorem atomic_replaceStack (source : Frame) : Atomic (replaceStack source) := by
  unfold replaceStack
  refine looks_frame.bind_atomic fun held => (looks_fault _).guard_atomic ?_
  refine (looks_record _).bind_atomic fun _ => Unrefused.atomic ?_
  exact (unrefused_takeStack _).bind fun _ => unrefused_changeFrame _

theorem atomic_lock (scope : Scope) (object : Value) (total : UInt64) :
    Atomic (lock scope object total) :=
  (looks_checkKind _ _).bind_atomic fun _ =>
    ((unrefused_changeFrame _).bind fun _ => unrefused_report _ _).atomic

theorem atomic_unlock : Atomic unlock := by
  refine looks_frame.bind_atomic fun held => ?_
  split
  · exact ((unrefused_changeFrame _).bind fun _ => unrefused_pure _).atomic
  · exact (looks_fault _).atomic

/-! ## The push of a wide value -/

/-- A slot put on the stack takes one slot of the same stack. -/
theorem pushSlot_eq_ok {slot : Slot} {editor after : Editor}
    (ran : pushSlot slot editor = .ok () after) :
    after.frame.stackSize = editor.frame.stackSize + 1 ∧
      after.frame.maxStack = editor.frame.maxStack := by
  unfold pushSlot at ran
  rw [frame_bind] at ran
  split at ran
  · cases ran
  · obtain ⟨place, placed, summed, writes⟩ := bind_eq_ok ran
    obtain ⟨-, rfl⟩ := sum_eq_ok summed
    obtain ⟨_, written, put, moves⟩ := bind_eq_ok writes
    obtain ⟨top, last, totalled, moved⟩ := bind_eq_ok moves
    obtain ⟨rfl, rfl⟩ := sum_eq_ok totalled
    unfold putSlot at put
    rw [frame_bind] at put
    unfold setDepth at moved
    rw [frame_bind] at moved
    split at put
    · cases put
      split at moved
      · cases moved
        exact ⟨rfl, Buffer.maxStack_put _ _ _⟩
      · cases moved
    · cases put

/-- A slot is put on a stack that has room for it. -/
theorem pushSlot_unrefused {editor : Editor} (slot : Slot)
    (room : editor.frame.stackSize < editor.frame.maxStack) (cause : FrameError)
    (after : Editor) : pushSlot slot editor ≠ .error (.refusal cause) after := by
  have writes : Unrefused (do
      putSlot (← sum editor.frame.maxLocals editor.frame.stackSize) slot
      setDepth (← sum editor.frame.stackSize 1)) :=
    (unrefused_sum _ _).bind fun _ => (unrefused_putSlot _ _).bind fun _ =>
      (unrefused_sum _ _).bind fun _ => unrefused_setDepth _
  intro refused
  unfold pushSlot at refused
  rw [frame_bind, if_neg (Nat.not_le.2 room)] at refused
  exact writes editor cause after refused

theorem atomic_push (kind : Kind) (value : Value) : Atomic (push kind value) := by
  unfold push
  refine (looks_checkStorable _).bind_atomic fun _ => (looks_checkKind _ _).bind_atomic fun _ => ?_
  intro editor cause after refused
  rw [frame_bind] at refused
  obtain stopped | ⟨needed, middle, summed, refused⟩ := bind_eq_refused refused
  · exact (looks_sum _ _).atomic editor cause after stopped
  obtain ⟨rfl, rfl⟩ := sum_eq_ok summed
  dsimp only at refused
  split at refused
  · cases refused
    exact ⟨rfl, rfl⟩
  rename_i room
  have relaxes : Unrefused (if kind.isWordLike = true then relax kind else pure ()) :=
    (unrefused_relax kind).ite (unrefused_pure ())
  obtain stopped | ⟨_, pushed, ran, refused⟩ := bind_eq_refused refused
  · exact atomic_pushSlot _ _ cause after stopped
  obtain ⟨depth, maxStack⟩ := pushSlot_eq_ok ran
  split at refused
  · -- Room for two slots was checked, so the second one is not refused.
    rename_i isWide
    have width := (kind.isWide_iff).1 isWide
    obtain stopped | ⟨_, both, ran, refused⟩ := bind_eq_refused refused
    · exact absurd stopped (pushSlot_unrefused none (by omega) cause after)
    · exact absurd refused (relaxes both cause after)
  · exact absurd refused (relaxes pushed cause after)

/-! ## The stores of parameters -/

/-- A step that keeps what a view shows of the frame, however it ends. -/
def Keeps {γ : Type} (view : Frame → γ) (step : EditM α) : Prop :=
  ∀ editor, view (left (step editor)).frame = view editor.frame

/-- A view that shows nothing of the slots but how many of them are locals. -/
def Slotless {γ : Type} (view : Frame → γ) : Prop :=
  ∀ frame buffer, buffer.maxLocals = frame.maxLocals → view { frame with buffer } = view frame

section Keeps

variable {γ : Type} {view : Frame → γ}

/-- Looking keeps whatever is shown. -/
theorem Looks.keeps {step : EditM α} (looks : Looks step) : Keeps view step :=
  fun editor => congrArg view (looks editor).1

/-- Steps that keep what is shown keep it together. -/
theorem Keeps.bind {step : EditM α} {next : α → EditM β} (first : Keeps view step)
    (second : ∀ answer, Keeps view (next answer)) : Keeps view (step >>= next) := by
  intro editor
  have kept := first editor
  cases ran : step editor with
  | ok answer middle =>
    rw [ran] at kept
    rw [bind_ok ran]
    exact (second answer middle).trans kept
  | error stop middle =>
    rw [ran] at kept
    rw [bind_error ran]
    exact kept

/-- A choice between steps that keep what is shown keeps it. -/
theorem Keeps.ite {condition : Prop} [Decidable condition] {yes no : EditM α}
    (first : Keeps view yes) (second : Keeps view no) :
    Keeps view (if condition then yes else no) := by
  split
  · exact first
  · exact second

/-- A guard that stops a step by looking leaves it to keep what is shown. -/
theorem Keeps.guard {condition : Prop} [Decidable condition] {stops : EditM Unit}
    {next : Unit → EditM β} (looks : Looks stops) (goesOn : Keeps view (next ())) :
    Keeps view (if condition then stops >>= next else next ()) :=
  (looks.keeps.bind fun _ => goesOn).ite goesOn

theorem keeps_changeBuffer (slotless : Slotless view) (change : Buffer → Buffer)
    (sameLocals : ∀ buffer, (change buffer).maxLocals = buffer.maxLocals) :
    Keeps view (changeBuffer change) :=
  fun editor => slotless editor.frame _ (sameLocals editor.frame.buffer)

theorem keeps_putSlot (slotless : Slotless view) (place : Nat) (slot : Slot) :
    Keeps view (putSlot place slot) :=
  looks_frame.keeps.bind fun _ =>
    (keeps_changeBuffer slotless (·.put place slot) fun _ => rfl).ite looks_breach.keeps

theorem keeps_writeLocal (slotless : Slotless view) (index : Nat) (slot : Slot) :
    Keeps view (writeLocal index slot) :=
  looks_frame.keeps.bind fun _ => (keeps_putSlot slotless _ _).ite looks_breach.keeps

theorem keeps_storeLocal (slotless : Slotless view) (index : UInt64) (kind : Kind)
    (value : Value) : Keeps view (storeLocal index kind value) := by
  unfold storeLocal
  refine (looks_checkStorable _).keeps.bind fun _ => ?_
  refine (looks_checkKind _ _).keeps.bind fun _ => ?_
  refine (looks_checkLocalRange _ _).keeps.bind fun _ => ?_
  extract_lets writes
  have keeps : Keeps view (writes ()) :=
    (keeps_writeLocal slotless _ _).bind fun _ => Keeps.ite
      ((looks_sum _ _).keeps.bind fun _ => keeps_writeLocal slotless _ _)
      (looks_pure _).keeps
  refine Keeps.ite ((looks_difference _ _).keeps.bind fun below => ?_) keeps
  exact (looks_readLocal _).keeps.bind fun _ =>
    Keeps.ite ((keeps_writeLocal slotless _ _).bind fun _ => keeps) keeps

end Keeps

/-- A local that there is can be read. -/
theorem readLocal_unrefused {editor : Editor} {index : Nat}
    (inside : index < editor.frame.maxLocals) (cause : FrameError) (after : Editor) :
    readLocal index editor ≠ .error (.refusal cause) after := by
  have reads : Unrefused (readSlot index) := by
    refine unrefused_frame.bind fun held => ?_
    split
    · exact unrefused_pure _
    · exact unrefused_breach
  intro refused
  unfold readLocal at refused
  rw [frame_bind, if_neg (Nat.not_le.2 inside)] at refused
  exact reads editor cause after refused

/-- A parameter that may be held is stored where its locals are. -/
theorem storeLocal_unrefused {editor : Editor} {index : UInt64} {parameter : Value}
    (held : editor.frame.policy.holds parameter.kind = .ok ())
    (inside : index.toNat + parameter.kind.slotWidth ≤ editor.frame.maxLocals)
    (small : index.toNat + parameter.kind.slotWidth < Word.limit) (cause : FrameError)
    (after : Editor) :
    storeLocal index parameter.kind parameter editor ≠ .error (.refusal cause) after := by
  have storable : checkStorable parameter.kind editor = .ok () editor := by
    rw [checkStorable_run, held]
    rfl
  have accepted : checkKind parameter.kind parameter editor = .ok () editor := by
    rw [checkKind_run, Contents.accepts, if_pos (.inl rfl)]
    rfl
  have ranged : checkLocalRange index parameter.kind.slotWidth.toUInt64 editor =
      .ok () editor := by
    rw [checkLocalRange_run, toNat_slotWidth, if_pos ⟨inside, small⟩]
  intro refused
  unfold storeLocal at refused
  rw [bind_ok storable, bind_ok accepted, bind_ok ranged] at refused
  have unrefused := unrefused_writes index.toNat parameter.kind parameter
  split at refused
  · rename_i positive
    have differs : difference index.toNat 1 editor = .ok (index.toNat - 1) editor :=
      difference_run positive editor
    rw [bind_ok differs] at refused
    obtain stopped | ⟨slot, read, ran, refused⟩ := bind_eq_refused refused
    · exact readLocal_unrefused (by omega) cause after stopped
    · exact ((unrefused_writeLocal _ _).bind fun _ => unrefused).ite unrefused read cause after
        refused
  · exact unrefused editor cause after refused

/-- Parameters that were measured and fit are all stored. -/
theorem storeFrom_unrefused {editor : Editor} {index total : Nat} {parameters : List Value}
    (measured : editor.frame.policy.parametersEnd index parameters = .ok total)
    (small : index < Word.limit) (fits : total ≤ editor.frame.maxLocals) (cause : FrameError)
    (after : Editor) : storeFrom index parameters editor ≠ .error (.refusal cause) after := by
  -- The stores keep the number of locals and the policy, so what was measured stays true.
  induction parameters generalizing index editor with
  | nil => exact unrefused_pure () editor cause after
  | cons parameter rest ih =>
    intro refused
    unfold Policy.parametersEnd at measured
    split at measured
    · cases measured
    rename_i held
    split at measured
    · rename_i within
      have bounds := Policy.parametersEnd_bounds measured within
      have word : index.toUInt64.toNat = index := Word.toNat_toUInt64 small
      obtain stopped | ⟨_, first, stored, refused⟩ := bind_eq_refused refused
      · exact storeLocal_unrefused held (by omega) (by omega) cause after stopped
      have slotless : Slotless fun frame => (frame.maxLocals, frame.policy) :=
        fun frame buffer same => congrArg (·, frame.policy) same
      have kept := keeps_storeLocal slotless index.toUInt64 parameter.kind parameter editor
      rw [stored] at kept
      obtain ⟨sameLocals, samePolicy⟩ : first.frame.maxLocals = editor.frame.maxLocals ∧
        first.frame.policy = editor.frame.policy := Prod.mk.inj kept
      rw [bind_ok (sum_run within first)] at refused
      refine ih ?_ within ?_ refused
      · rw [samePolicy]
        exact measured
      · rw [sameLocals]
        exact fits
    · cases measured

theorem atomic_storeParameters (parameters : List Value) : Atomic (storeParameters parameters) := by
  intro editor cause after refused
  unfold storeParameters at refused
  obtain stopped | ⟨width, middle, measured, refused⟩ := bind_eq_refused refused
  · exact (looks_parametersEnd 0 parameters).atomic editor cause after stopped
  rw [parametersEnd_run] at measured
  cases verdict : editor.frame.policy.parametersEnd 0 parameters with
  | error stop =>
    rw [verdict] at measured
    cases measured
  | ok total =>
    rw [verdict] at measured
    cases measured
    obtain stopped | ⟨_, ranged, checked, refused⟩ := bind_eq_refused refused
    · exact (looks_checkLocalRange _ _).atomic editor cause after stopped
    have bounds := Policy.parametersEnd_bounds verdict (by decide)
    have word : width.toUInt64.toNat = width := Word.toNat_toUInt64 bounds.2
    rw [checkLocalRange_run] at checked
    split at checked
    · rename_i inside
      cases checked
      have fits : width ≤ editor.frame.maxLocals := by
        have zero : (0 : UInt64).toNat = 0 := rfl
        omega
      exact absurd refused (storeFrom_unrefused verdict (by decide) fits cause after)
    · cases checked

end EditM

/-! ## Every edit -/

namespace Edit

/-- Every edit is atomic. -/
theorem atomic_steps (edit : Edit Frame) : EditM.Atomic edit.steps := by
  cases edit with
  | push kind value => exact (EditM.atomic_push kind value).bind fun _ => EditM.unrefused_pure _
  | pop kind => exact (EditM.atomic_pop kind).bind fun _ => EditM.unrefused_pure _
  | pushRaw slot =>
    exact (EditM.atomic_pushSlot slot).faulting.bind fun _ => EditM.unrefused_pure _
  | popRaw => exact EditM.atomic_popSlot.faulting.bind fun _ => EditM.unrefused_pure _
  | popArguments size => exact (EditM.atomic_popArguments size).bind fun _ => EditM.unrefused_pure _
  | truncateStack size =>
    exact (EditM.atomic_truncateStack size).bind fun _ => EditM.unrefused_pure _
  | clearStack => exact (EditM.unrefused_setDepth 0).atomic.bind fun _ => EditM.unrefused_pure _
  | loadLocal index kind =>
    exact (EditM.looks_loadLocal index kind).atomic.bind fun _ => EditM.unrefused_pure _
  | storeLocal index kind value =>
    exact (EditM.atomic_storeLocal index kind value).bind fun _ => EditM.unrefused_pure _
  | invalidateLocal index =>
    exact (EditM.atomic_invalidateLocal index).bind fun _ => EditM.unrefused_pure _
  | clearLocals => exact EditM.unrefused_emptyLocals.atomic.bind fun _ => EditM.unrefused_pure _
  | storeParameters parameters =>
    exact (EditM.atomic_storeParameters parameters).bind fun _ => EditM.unrefused_pure _
  | replaceLocals source =>
    exact (EditM.atomic_replaceLocals source).bind fun _ => EditM.unrefused_pure _
  | replaceStack source =>
    exact (EditM.atomic_replaceStack source).bind fun _ => EditM.unrefused_pure _
  | replaceMonitors source =>
    exact (EditM.unrefused_changeFrame _).atomic.bind fun _ => EditM.unrefused_pure _
  | lock scope object total =>
    exact (EditM.atomic_lock scope object total).bind fun _ => EditM.unrefused_pure _
  | unlock => exact EditM.atomic_unlock.bind fun _ => EditM.unrefused_pure _

/-- A refused edit leaves the frame and all lock records as they were, whatever the frame: every
slot, dead ones included, the depth, the monitors and whether a list of them was made, the mode,
the policy and the scope. -/
theorem perform_of_refusal (edit : Edit Frame) (frame : Frame) (reservations : Reservations)
    (cause : FrameError)
    (refused : (edit.perform frame reservations).outcome = .refusal cause) :
    (edit.perform frame reservations).frame = frame ∧
      (edit.perform frame reservations).reservations = reservations := by
  unfold perform at refused ⊢
  cases ran : edit.steps ⟨frame, reservations, []⟩ with
  | ok answer after =>
    rw [ran] at refused
    cases refused
  | error stop after =>
    rw [ran] at refused
    cases stop with
    | refusal found => exact edit.atomic_steps _ found after ran
    | breach => cases refused

/-- Parameters that need more locals than there are store none of themselves over old locals, in
a relaxed frame with a dead slot and a list of monitors that is empty again. -/
theorem perform_of_refusal_parameters :
    let scope := Scope.root ⟨some 0, 0⟩ "A.b()V"
    let small : Value := ⟨0, 0, .int, ""⟩
    let wide : Value := ⟨0, 1, .long, ""⟩
    let frame : Frame :=
      ⟨⟨2, 0, #[some wide, none, some small]⟩, scope, ⟨some []⟩, true, Policy.standard⟩
    let performed := (Edit.storeParameters [small, wide]).perform frame Reservations.empty
    performed.outcome = .refusal (.localIndexOutOfRange 2 2) ∧
      performed.frame = frame ∧ performed.reservations = Reservations.empty :=
  ⟨by decide, perform_of_refusal _ _ _ (.localIndexOutOfRange 2 2) (by decide)⟩

end Edit
end SymbolicFrame
