import SymbolicFrame.Proofs.Verdicts

/-!
# How editing steps run

An editing step is a function from an editor to a result. Sequencing goes on from the editor that
the first step leaves, and ends with it when the first step stops. A step that only looks hears a
verdict: it answers and leaves the editor as it is, or it stops and adds to the log what the cause
records. The checks that edits begin with are such steps, on every editor.
-/

namespace SymbolicFrame

/-- The result of a step that only looks, given its verdict. -/
def Editor.hear {α : Type} (editor : Editor) : Except Stop α → EStateM.Result Stop Editor α
  | .ok answer => .ok answer editor
  | .error stop => .error stop { editor with log := editor.log ++ stop.records }

namespace EditM

variable {α β : Type} {editor after : Editor}

/-! ## Sequences -/

/-- After a step that comes to its end, the next one runs on what it left. -/
theorem bind_ok {step : EditM α} {next : α → EditM β} {answer : α}
    (ran : step editor = .ok answer after) : (step >>= next) editor = next answer after := by
  change EStateM.bind step next editor = _
  unfold EStateM.bind
  rw [ran]

/-- After a step that stops, nothing runs. -/
theorem bind_error {step : EditM α} {next : α → EditM β} {stop : Stop}
    (ran : step editor = .error stop after) :
    (step >>= next) editor = .error stop after := by
  change EStateM.bind step next editor = _
  unfold EStateM.bind
  rw [ran]

/-- A sequence that comes to its end did so step by step. -/
theorem bind_eq_ok {step : EditM α} {next : α → EditM β} {answer : β}
    (ran : (step >>= next) editor = .ok answer after) :
    ∃ found middle, step editor = .ok found middle ∧ next found middle = .ok answer after := by
  cases first : step editor with
  | ok found middle =>
    rw [bind_ok first] at ran
    exact ⟨found, middle, rfl, ran⟩
  | error stop middle =>
    rw [bind_error first] at ran
    cases ran

/-- A sequence that is refused was refused by its first step, or by the next one after it. -/
theorem bind_eq_refused {step : EditM α} {next : α → EditM β} {cause : FrameError}
    (ran : (step >>= next) editor = .error (.refusal cause) after) :
    step editor = .error (.refusal cause) after ∨
      ∃ found middle, step editor = .ok found middle ∧
        next found middle = .error (.refusal cause) after := by
  cases first : step editor with
  | ok found middle =>
    rw [bind_ok first] at ran
    exact .inr ⟨found, middle, rfl, ran⟩
  | error stop middle =>
    rw [bind_error first] at ran
    cases ran
    exact .inl rfl

/-- Looking at the frame changes nothing. -/
theorem frame_bind (next : Frame → EditM β) (editor : Editor) :
    (frame >>= next) editor = next editor.frame editor := rfl

/-- A fault writes one log record. -/
theorem fault_run (cause : FrameError) (editor : Editor) :
    (fault cause : EditM α) editor =
      .error (.refusal cause) { editor with log := editor.log ++ [.fault cause] } := rfl

/-- A sum within a word is the sum. -/
theorem sum_run {left right : Nat} (fits : left + right < Word.limit) (editor : Editor) :
    sum left right editor = .ok (left + right) editor := by
  rw [sum, if_pos fits]
  rfl

/-- A sum that comes to its end is the sum. -/
theorem sum_eq_ok {left right total : Nat} (ran : sum left right editor = .ok total after) :
    total = left + right ∧ after = editor := by
  by_cases fits : left + right < Word.limit
  · rw [sum_run fits] at ran
    cases ran
    exact ⟨rfl, rfl⟩
  · rw [sum, if_neg fits] at ran
    cases ran

/-- A difference that is not negative is the difference. -/
theorem difference_run {left right : Nat} (ordered : right ≤ left) (editor : Editor) :
    difference left right editor = .ok (left - right) editor := by
  rw [difference, if_pos ordered]
  rfl

/-! ## Checks -/

/-- A refusal that is not recorded is a verdict. -/
theorem refuse_hear {cause : FrameError} (unrecorded : (Stop.refusal cause).records = [])
    (editor : Editor) : (refuse cause : EditM α) editor = editor.hear (refused cause) := by
  unfold refused Editor.hear
  simp only [unrecorded, List.append_nil]
  rfl

/-- A kind is checked against the policy of the frame. -/
theorem checkStorable_run (kind : Kind) (editor : Editor) :
    checkStorable kind editor = editor.hear (editor.frame.policy.holds kind) := by
  unfold checkStorable Policy.holds
  by_cases isVoid : kind = .void
  · subst isVoid
    exact refuse_hear rfl editor
  · have notVoid : kind.isVoid ≠ true := by simpa [Kind.isVoid] using isVoid
    rw [if_neg isVoid]
    dsimp only
    rw [if_neg notVoid]
    change (if (kind.isWordLike && !editor.frame.policy.allowWordKinds) = true then
      refuse (.wordKind kind) else pure ()) editor = _
    by_cases barred : kind.isWordLike = true ∧ editor.frame.policy.allowWordKinds = false
    · rw [if_pos (by simpa using barred), if_pos barred]
      exact refuse_hear rfl editor
    · rw [if_neg (by simpa using barred), if_neg barred]
      rfl

/-- A value is checked against the kind asked for, in the mode and under the policy of the
frame. -/
theorem checkKind_run (kind : Kind) (value : Value) (editor : Editor) :
    checkKind kind value editor = editor.hear (editor.frame.contents.accepts kind value) := by
  unfold Contents.accepts
  rw [Frame.contents_relaxed, Frame.contents_policy]
  change (if (decide (value.kind = kind) || editor.frame.relaxed ||
    !editor.frame.policy.checkKinds) = true
    then pure () else refuse (.kindMismatch kind value.kind)) editor = _
  by_cases accepted : value.kind = kind ∨ editor.frame.relaxed = true ∨
      editor.frame.policy.checkKinds = false
  · rw [if_pos (by simpa [or_assoc] using accepted), if_pos accepted]
    rfl
  · rw [if_neg (by simpa [or_assoc] using accepted), if_neg accepted]
    exact refuse_hear rfl editor

/-- A width is the same number as a word. -/
theorem toNat_slotWidth (kind : Kind) : kind.slotWidth.toUInt64.toNat = kind.slotWidth := by
  cases kind <;> rfl

/-- How far the last of some locals lies above the first. -/
private theorem toNat_width_sub_one (width : UInt64) :
    (max width 1 - 1).toNat = max width.toNat 1 - 1 := by
  have larger : (max width 1).toNat = max width.toNat 1 := Word.toNat_max width 1
  have positive : (1 : UInt64) ≤ max width 1 := by
    rw [UInt64.le_iff_toNat_le, larger]
    exact Nat.le_max_right _ _
  rw [UInt64.toNat_sub_of_le _ _ positive, larger]
  rfl

/-- Locals are checked without wrapping, whatever their number. -/
theorem checkLocalRange_run (index width : UInt64) (editor : Editor) :
    checkLocalRange index width editor =
      if index.toNat + width.toNat ≤ editor.frame.maxLocals ∧
          index.toNat + width.toNat < Word.limit then .ok () editor
      else editor.hear (refused (.localIndexOutOfRange
        (min (index.toNat + (max width.toNat 1 - 1)) Word.largest.toNat)
        editor.frame.maxLocals)) := by
  rw [← toNat_width_sub_one, ← Word.toNat_addCapped]
  unfold checkLocalRange
  rw [frame_bind]
  cases found : Word.add? index width with
  | some stop =>
    have sameSum := (Word.add?_eq_some_iff index width stop).1 found
    have small : stop.toNat < Word.limit := stop.toNat_lt
    rw [sameSum]
    by_cases inside : stop.toNat ≤ editor.frame.maxLocals
    · have passes : decide (stop.toNat ≤ editor.frame.maxLocals) = true := by simpa using inside
      have both : stop.toNat ≤ editor.frame.maxLocals ∧ stop.toNat < Word.limit := ⟨inside, small⟩
      rw [if_pos both]
      dsimp only
      rw [if_pos passes]
      rfl
    · have fails : ¬ decide (stop.toNat ≤ editor.frame.maxLocals) = true := by
        simpa using inside
      have notBoth : ¬ (stop.toNat ≤ editor.frame.maxLocals ∧ stop.toNat < Word.limit) :=
        fun both => inside both.1
      rw [if_neg notBoth]
      dsimp only
      rw [if_neg fails]
      rfl
  | none =>
    have exceeds := (Word.add?_eq_none_iff index width).1 found
    have notBoth : ¬ (index.toNat + width.toNat ≤ editor.frame.maxLocals ∧
        index.toNat + width.toNat < Word.limit) := fun both => by omega
    rw [if_neg notBoth]
    rfl

/-- Parameters are measured under the policy of the frame. -/
theorem parametersEnd_run (index : Nat) (parameters : List Value) (editor : Editor) :
    parametersEnd index parameters editor =
      editor.hear (editor.frame.policy.parametersEnd index parameters) := by
  induction parameters generalizing index with
  | nil => rfl
  | cons parameter rest ih =>
    have held := checkStorable_run parameter.kind editor
    unfold parametersEnd Policy.parametersEnd
    cases verdict : editor.frame.policy.holds parameter.kind with
    | error stop => exact bind_error (held.trans (by rw [verdict]; rfl))
    | ok answer =>
      rw [bind_ok (held.trans (by rw [verdict]; rfl))]
      by_cases fits : index + parameter.kind.slotWidth < Word.limit
      · rw [bind_ok (sum_run fits editor), if_pos fits, ih]
      · have broken : sum index parameter.kind.slotWidth editor = .error .breach editor := by
          rw [sum, if_neg fits]
          rfl
        rw [bind_error broken, if_neg fits]
        simp only [Editor.hear, Stop.records, List.append_nil]

end EditM
end SymbolicFrame
