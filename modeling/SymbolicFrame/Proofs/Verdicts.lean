import SymbolicFrame.Proofs.Contents

/-!
# What verdicts ask for

The checks of the verdicts read as conditions. What holds of a frame while its kinds are checked
is said of contents that check kinds.
-/

namespace SymbolicFrame

/-! ## Sequences of checks -/

/-- Two checks pass one after the other when both do. -/
theorem both_pass {first second : Except Stop Unit} :
    (first >>= fun _ => second) = .ok () ↔ first = .ok () ∧ second = .ok () := by
  cases first with
  | error stop => exact ⟨nofun, fun both => nomatch both.1⟩
  | ok _ => exact ⟨fun passes => ⟨rfl, passes⟩, fun both => both.2⟩

/-- What is given once a check has passed. -/
theorem passed_iff {α : Type} {check : Except Stop Unit} {given found : α} :
    (check >>= fun _ => pure given) = .ok found ↔ check = .ok () ∧ given = found := by
  cases check with
  | error stop => exact ⟨nofun, fun both => nomatch both.1⟩
  | ok _ =>
    constructor
    · intro same
      cases same
      exact ⟨rfl, rfl⟩
    · rintro ⟨-, rfl⟩
      rfl

/-- A check that bars something passes when it is not there. -/
theorem unless_pass {bad : Prop} [Decidable bad] {cause : FrameError} :
    (if bad then refused cause else .ok ()) = (.ok () : Except Stop Unit) ↔ ¬ bad := by
  split
  · rename_i isBad
    exact ⟨nofun, fun good => absurd isBad good⟩
  · rename_i good
    exact ⟨fun _ => good, fun _ => rfl⟩

namespace Contents

/-- A verdict that only lets an edit be done has an answer when its check passes. -/
theorem done_iff {check : Except Stop Unit} :
    (∃ answer, done check = .ok answer) ↔ check = .ok () := by
  cases check with
  | error stop => exact ⟨fun ⟨_, impossible⟩ => (nomatch impossible), nofun⟩
  | ok _ => exact ⟨fun _ => rfl, fun _ => ⟨.done, rfl⟩⟩

/-- A verdict that only lets an edit be done answers nothing else. -/
theorem answer_of_done {check : Except Stop Unit} {answer : Answer}
    (accepted : done check = .ok answer) : answer = .done := by
  cases check with
  | error stop => cases accepted
  | ok _ =>
    cases accepted
    rfl

/-- A verdict that gives something back has an answer when there is something to give. -/
theorem gives_iff {α : Type} {result : Except Stop α} {form : α → Answer} :
    (∃ answer, (result >>= fun found => .ok (form found) : Except Stop Answer) = .ok answer) ↔
      ∃ found, result = .ok found := by
  cases result with
  | error stop => exact ⟨fun ⟨_, impossible⟩ => (nomatch impossible), nofun⟩
  | ok found => exact ⟨fun _ => ⟨found, rfl⟩, fun _ => ⟨form found, rfl⟩⟩

/-- A verdict that gives a value back answers with it. -/
theorem given_eq_ok_iff {result : Except Stop Value} {value : Value} :
    given result = .ok (.slot (some value)) ↔ result = .ok value := by
  cases result with
  | error stop => exact ⟨nofun, nofun⟩
  | ok found =>
    constructor
    · intro same
      cases same
      rfl
    · intro same
      cases same
      rfl

end Contents

/-! ## Kinds and places -/

/-- A policy lets all values be held but those of kind void, and those of word-like kinds only if
it says so. -/
theorem Policy.holds_iff {policy : Policy} {kind : Kind} :
    policy.holds kind = .ok () ↔
      kind ≠ .void ∧ (kind.isWordLike = true → policy.allowWordKinds = true) := by
  unfold Policy.holds
  by_cases isVoid : kind = .void
  · rw [if_pos isVoid]
    exact ⟨nofun, fun both => absurd isVoid both.1⟩
  · rw [if_neg isVoid, unless_pass, Classical.not_and_iff_not_or_not, Bool.not_eq_false,
      ← Decidable.imp_iff_not_or]
    exact ⟨fun allowed => ⟨isVoid, allowed⟩, fun both => both.2⟩

/-- Locals that pass the check are all there. -/
theorem within_iff {maxLocals index width : Nat} :
    within maxLocals index width = .ok () ↔ index + width ≤ maxLocals := by
  unfold within
  split
  · rename_i inside
    exact ⟨fun _ => inside, fun _ => rfl⟩
  · rename_i outside
    exact ⟨nofun, fun inside => absurd inside outside⟩

/-- Parameters are measured from a local on and within a word. -/
theorem Policy.parametersEnd_bounds {policy : Policy} {index total : Nat}
    {parameters : List Value} (measured : policy.parametersEnd index parameters = .ok total)
    (small : index < Word.limit) : index ≤ total ∧ total < Word.limit := by
  induction parameters generalizing index with
  | nil =>
    cases measured
    exact ⟨Nat.le_refl _, small⟩
  | cons parameter rest ih =>
    unfold Policy.parametersEnd at measured
    split at measured
    · cases measured
    · split at measured
      · rename_i fits
        have bounds := ih measured fits
        omega
      · cases measured

/-- Parameters that are measured may all be held. -/
theorem Policy.holds_of_parametersEnd {policy : Policy} {index total : Nat}
    {parameters : List Value} (measured : policy.parametersEnd index parameters = .ok total) :
    ∀ parameter ∈ parameters, policy.holds parameter.kind = .ok () := by
  induction parameters generalizing index with
  | nil => nofun
  | cons parameter rest ih =>
    unfold Policy.parametersEnd at measured
    split at measured
    · cases measured
    rename_i held
    split at measured
    · exact List.forall_mem_cons.2 ⟨held, ih measured⟩
    · cases measured

namespace Contents

variable {contents : Contents} {kind : Kind} {value : Value} {index : Nat}

/-- A value may stand under its own kind, and under any while kinds are not checked. -/
theorem accepts_iff : contents.accepts kind value = .ok () ↔
    value.kind = kind ∨ contents.relaxed = true ∨ contents.policy.checkKinds = false := by
  unfold accepts
  split
  · rename_i accepted
    exact ⟨fun _ => accepted, fun _ => rfl⟩
  · rename_i barred
    exact ⟨nofun, fun accepted => absurd accepted barred⟩

/-- A load asks that the locals are all there, that a value stands in the first and none above a
wide one, and that this value is accepted. -/
theorem loaded_iff : contents.loaded index kind = .ok value ↔
    kind ≠ .void ∧ index + kind.slotWidth ≤ contents.locals.length ∧
      slotAt contents.locals index = some value ∧
      ¬ (kind.isWide = true ∧ (slotAt contents.locals (index + 1)).isSome = true) ∧
      contents.accepts kind value = .ok () := by
  unfold loaded
  by_cases isVoid : kind = .void
  · rw [if_pos isVoid]
    exact ⟨nofun, fun passes => absurd isVoid passes.1⟩
  rw [if_neg isVoid]
  by_cases inside : index + kind.slotWidth ≤ contents.locals.length
  · rw [within_iff.2 inside]
    cases slotAt contents.locals index with
    | none => exact ⟨nofun, fun passes => nomatch passes.2.2.1⟩
    | some given =>
      change ite _ _ _ = _ ↔ _
      by_cases corrupt : kind.isWide = true ∧ (slotAt contents.locals (index + 1)).isSome = true
      · rw [if_pos corrupt]
        exact ⟨nofun, fun passes => absurd corrupt passes.2.2.2.1⟩
      · rw [if_neg corrupt, passed_iff, Option.some.injEq]
        constructor
        · rintro ⟨accepted, rfl⟩
          exact ⟨isVoid, inside, rfl, corrupt, accepted⟩
        · rintro ⟨-, -, rfl, -, accepted⟩
          exact ⟨accepted, rfl⟩
  · unfold within
    rw [if_neg inside]
    exact ⟨nofun, fun passes => absurd passes.2.1 inside⟩

/-- A push asks that the kind may be held, that the value is accepted and that there is room. -/
theorem pushes_iff : contents.pushes kind value = .ok () ↔
    (kind ≠ .void ∧ (kind.isWordLike = true → contents.policy.allowWordKinds = true)) ∧
      contents.accepts kind value = .ok () ∧
      contents.stack.length + kind.slotWidth ≤ contents.maxStack := by
  unfold pushes
  rw [both_pass, both_pass, Policy.holds_iff, unless_pass, Nat.not_lt]

/-- A value stands only where one of its own kind is asked for. -/
structure Checks (contents : Contents) : Prop where
  /-- The policy asks for the checks. -/
  checked : contents.policy.checkKinds = true
  /-- The checks are not relaxed. -/
  strict : contents.relaxed = false

/-- Checked values are accepted under their own kind and no other. -/
theorem Checks.accepts_iff (checks : contents.Checks) :
    contents.accepts kind value = .ok () ↔ value.kind = kind := by
  unfold accepts
  rw [checks.checked, checks.strict]
  simp [refused]

/-- What a push asks for. -/
theorem Checks.pushes_iff (checks : contents.Checks) :
    contents.pushes kind value = .ok () ↔ value.kind = kind ∧ kind ≠ .void ∧
      (kind.isWordLike = true → contents.policy.allowWordKinds = true) ∧
      contents.stack.length + kind.slotWidth ≤ contents.maxStack := by
  rw [Contents.pushes_iff, checks.accepts_iff]
  constructor
  · rintro ⟨⟨solid, allowed⟩, same, room⟩
    exact ⟨same, solid, allowed, room⟩
  · rintro ⟨same, solid, allowed, room⟩
    exact ⟨⟨solid, allowed⟩, same, room⟩

/-- What storing a value asks for. -/
theorem Checks.stores_iff (checks : contents.Checks) :
    contents.stores index kind value = .ok () ↔ value.kind = kind ∧ kind ≠ .void ∧
      (kind.isWordLike = true → contents.policy.allowWordKinds = true) ∧
      index + kind.slotWidth ≤ contents.locals.length := by
  unfold stores
  rw [both_pass, both_pass, Policy.holds_iff, checks.accepts_iff, within_iff]
  constructor
  · rintro ⟨⟨solid, allowed⟩, same, inside⟩
    exact ⟨same, solid, allowed, inside⟩
  · rintro ⟨same, solid, allowed, inside⟩
    exact ⟨⟨solid, allowed⟩, same, inside⟩

/-- What storing parameters asks for. -/
theorem storesParameters_iff {parameters : List Value} :
    contents.storesParameters parameters = .ok () ↔
      ∃ total, contents.policy.parametersEnd 0 parameters = .ok total ∧
        total ≤ contents.locals.length := by
  unfold storesParameters
  cases contents.policy.parametersEnd 0 parameters with
  | error stop => exact ⟨nofun, fun ⟨_, impossible, _⟩ => nomatch impossible⟩
  | ok total =>
    change within contents.locals.length 0 total = .ok () ↔ _
    rw [within_iff, Nat.zero_add]
    exact ⟨fun inside => ⟨total, rfl, inside⟩, fun ⟨_, same, inside⟩ => by
      cases same
      exact inside⟩

end Contents
end SymbolicFrame
