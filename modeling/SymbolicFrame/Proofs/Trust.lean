import Mathlib.Data.List.Forall2
import Mathlib.Data.List.TakeWhile
import SymbolicFrame.Proofs.Verdicts
import SymbolicFrame.Proofs.Observation

/-!
# Trusted frames

A frame whose policy does not check kinds trusts the code that it is used by. The check of a kind
stands at another place among the other checks in each edit that makes it, before the bounds of
locals or behind the high word of a value. Wherever it stands, it is the only check that is left
out, so the verdict of an edit on a trusted frame is the one on a checked frame, unless that one is
a mismatch of kinds. Two sessions that differ in whether some of their frames are trusted go
through the same steps in lock step until the first mismatch.
-/

namespace SymbolicFrame

/-! ## Verdicts up to a mismatch -/

/-- A verdict is that of a trusted frame, unless it is a mismatch of kinds. -/
def Concurs {α : Type} (checked trusted : Except Stop α) : Prop :=
  checked = trusted ∨ ∃ expected found, checked = refused (.kindMismatch expected found)

namespace Concurs

variable {α β : Type} {checked trusted : Except Stop α}

/-- Checks one after the other concur if each of them does. -/
theorem bind {next goes : α → Except Stop β} (first : Concurs checked trusted)
    (later : ∀ found, Concurs (next found) (goes found)) :
    Concurs (checked >>= next) (trusted >>= goes) := by
  rcases first with rfl | ⟨expected, found, rfl⟩
  · cases checked with
    | error stop => exact .inl rfl
    | ok found => exact later found
  · exact .inr ⟨expected, found, rfl⟩

/-- Verdicts behind one and the same condition concur if they do in both cases. -/
theorem ite {condition : Prop} [Decidable condition] {other rest : Except Stop α}
    (holds : Concurs checked trusted) (fails : Concurs other rest) :
    Concurs (if condition then checked else other) (if condition then trusted else rest) := by
  split
  · exact holds
  · exact fails

end Concurs

/-- A policy allows the same kinds as another one, and checks kinds only if that one does. -/
structure Policy.EasedTo (checked trusted : Policy) : Prop where
  /-- The policies allow the same kinds. -/
  words : checked.allowWordKinds = trusted.allowWordKinds
  /-- The eased policy checks no more kinds. -/
  checks : trusted.checkKinds = true → checked.checkKinds = true

namespace Policy.EasedTo

variable {checked trusted : Policy} (eased : checked.EasedTo trusted)

include eased

/-- The kinds that may be held do not depend on whether kinds are checked. -/
theorem holds_eq (kind : Kind) : checked.holds kind = trusted.holds kind := by
  unfold Policy.holds
  rw [eased.words]

/-- The measure of parameters does not depend on whether kinds are checked. -/
theorem parametersEnd_eq (index : Nat) (parameters : List Value) :
    checked.parametersEnd index parameters = trusted.parametersEnd index parameters := by
  induction parameters generalizing index with
  | nil => rfl
  | cons parameter rest ih =>
    unfold Policy.parametersEnd
    rw [eased.holds_eq, ih]

end Policy.EasedTo

namespace Contents

variable {contents : Contents} {policy : Policy} (eased : contents.policy.EasedTo policy)

include eased

/-- Trusted contents accept what checked ones do, and a value that these do not accept is a
mismatch. -/
theorem accepts_concurs (kind : Kind) (value : Value) :
    Concurs (contents.accepts kind value) ((contents.under policy).accepts kind value) := by
  by_cases accepted : contents.accepts kind value = .ok ()
  · have trusted : (contents.under policy).accepts kind value = .ok () := by
      rcases accepts_iff.1 accepted with same | relaxed | unchecked
      · exact accepts_iff.2 (.inl same)
      · exact accepts_iff.2 (.inr (.inl relaxed))
      · have free : policy.checkKinds = false := by
          rw [← Bool.not_eq_true]
          intro checks
          rw [eased.checks checks] at unchecked
          cases unchecked
        exact accepts_iff.2 (.inr (.inr free))
    rw [accepted, trusted]
    exact .inl rfl
  · unfold accepts at accepted ⊢
    split at accepted
    · exact absurd rfl accepted
    · rename_i barred
      rw [if_neg barred]
      exact .inr ⟨kind, value.kind, rfl⟩

/-- What follows on the checks of a kind and a value to be held concurs if it is the same. -/
theorem held_concurs (kind : Kind) (value : Value) (rest : Except Stop Unit) :
    Concurs (contents.policy.holds kind >>= fun _ => contents.accepts kind value >>= fun _ => rest)
      (policy.holds kind >>= fun _ =>
        (contents.under policy).accepts kind value >>= fun _ => rest) := by
  rw [eased.holds_eq kind]
  apply Concurs.bind (.inl rfl)
  intro _
  apply (accepts_concurs eased kind value).bind
  intro _
  exact .inl rfl

/-- What is given once a value is accepted concurs. -/
theorem given_concurs (kind : Kind) (value : Value) :
    Concurs (contents.accepts kind value >>= fun _ => .ok value)
      ((contents.under policy).accepts kind value >>= fun _ => .ok value) :=
  (accepts_concurs eased kind value).bind fun _ => .inl rfl

/-- Verdicts on pops concur. -/
theorem popped_concurs (kind : Kind) :
    Concurs (contents.popped kind) ((contents.under policy).popped kind) := by
  dsimp only [popped, under_stack, under_locals]
  apply Concurs.ite (.inl rfl)
  apply Concurs.ite (.inl rfl)
  apply Concurs.ite (.inl rfl)
  cases slotAt contents.stack (contents.stack.length - kind.slotWidth) with
  | none => exact .inl rfl
  | some value => exact given_concurs eased kind value

/-- Verdicts on loads concur. -/
theorem loaded_concurs (index : Nat) (kind : Kind) :
    Concurs (contents.loaded index kind) ((contents.under policy).loaded index kind) := by
  dsimp only [loaded, under_locals]
  apply Concurs.ite (.inl rfl)
  apply Concurs.bind (.inl rfl)
  intro _
  cases slotAt contents.locals index with
  | none => exact .inl rfl
  | some value =>
    apply Concurs.ite (.inl rfl)
    exact given_concurs eased kind value

/-- The verdict on an edit of checked contents is the one on trusted contents, unless it is a
mismatch of kinds. -/
theorem verdict_concurs (edit : Edit Contents) :
    Concurs (contents.verdict edit) ((contents.under policy).verdict edit) := by
  cases edit with
  | push kind value => exact (held_concurs eased kind value _).bind fun _ => .inl rfl
  | pop kind => exact (popped_concurs eased kind).bind fun _ => .inl rfl
  | loadLocal index kind => exact (loaded_concurs eased index.toNat kind).bind fun _ => .inl rfl
  | storeLocal index kind value =>
    exact (held_concurs eased kind value _).bind fun _ => .inl rfl
  | storeParameters parameters =>
    have measured : contents.storesParameters parameters =
        (contents.under policy).storesParameters parameters := by
      unfold storesParameters
      rw [eased.parametersEnd_eq]
      rfl
    exact .inl (congrArg done measured)
  | lock scope object total =>
    exact (accepts_concurs eased .object object).bind fun _ => .inl rfl
  | pushRaw | popRaw | popArguments | truncateStack | clearStack | invalidateLocal | clearLocals
  | replaceLocals | replaceStack | replaceMonitors | unlock => exact .inl rfl

end Contents

/-! ## Steps -/

/-- A step is the same, or makes a frame that is trusted in place of a checked one. -/
inductive Step.EasedTo : Step → Step → Prop where
  /-- The steps are the same. -/
  | same (step : Step) : EasedTo step step
  /-- Kinds are checked in the frame of the first step, and not in that of the second. -/
  | unchecked (name : String) (scope : Scope) (maxLocals maxStack : UInt64)
      (allowWordKinds : Bool) :
      EasedTo (.create name scope maxLocals maxStack ⟨true, allowWordKinds⟩)
        (.create name scope maxLocals maxStack ⟨false, allowWordKinds⟩)

/-- A step was refused for a mismatch of kinds. -/
def Reply.isKindMismatch : Reply → Bool
  | .refusal (.kindMismatch _ _) => true
  | _ => false

namespace Session

variable {first second : Session}

/-- An edit whose verdict is a mismatch of kinds is refused for it. -/
theorem isKindMismatch_edit {name : String} {edit : Edit String} {frame : Frame}
    {resolved : Edit Frame} {expected actual : Kind} (found : first.builder? name = some frame)
    (resolves : edit.resolve? first.frame? = some resolved) (fits : frame.Fits)
    (sourceFits : ∀ source, resolved.source? = some source → source.Fits)
    (mismatch : frame.contents.verdict (resolved.map Frame.contents) =
      refused (.kindMismatch expected actual)) :
    (first.step (.edit name edit)).reply.isKindMismatch = true := by
  dsimp only [Session.step]
  rw [found, resolves]
  dsimp only
  rw [Edit.perform_of_error fits sourceFits first.reservations mismatch]
  rfl

/-- Sessions whose frames differ in their trust take the same turn, and their frames differ in
nothing else after it, unless the checked one meets a mismatch of kinds. -/
theorem step_eased (related : first.Related (Frame.AlikeUnder Policy.EasedTo) second)
    {step other : Step} (eased : step.EasedTo other)
    (clean : (first.step step).reply.isKindMismatch = false) :
    Turn.Related (Frame.AlikeUnder Policy.EasedTo) (first.step step) (second.step other) := by
  cases eased with
  | unchecked name scope maxLocals maxStack allowWordKinds =>
    dsimp only [Session.step]
    split
    · rename_i countable
      apply related.made name
      apply Holding.Related.builder
      exact ⟨Frame.fits_fresh scope _ countable, Frame.fits_fresh scope _ countable,
        ⟨rfl, nofun⟩, rfl⟩
    · exact related.uncountable
  | same =>
    apply related.step
    · intro frame fits
      exact ⟨fits, fits, ⟨rfl, id⟩, rfl⟩
    · exact Frame.AlikeUnder.render_eq
    · exact Frame.AlikeUnder.copyParts
    · rintro name edit frame copy resolved other rfl found resolves frames sources
      have verdicts : Concurs (frame.contents.verdict (resolved.map Frame.contents))
          ((frame.contents.under copy.policy).verdict (resolved.map Frame.contents)) :=
        Contents.verdict_concurs frames.related _
      have same : frame.contents.verdict (resolved.map Frame.contents) =
          (frame.contents.under copy.policy).verdict (resolved.map Frame.contents) := by
        rcases verdicts with same | ⟨expected, actual, mismatch⟩
        · exact same
        · -- The checked session would have met the mismatch in this very step.
          have refused := isKindMismatch_edit found resolves frames.leftFits
            sources.sources_fit.1 mismatch
          rw [clean] at refused
          cases refused
      exact sources.perform frames first.reservations same.symm

/-- Sessions whose frames differ in their trust show the same in every run that meets no mismatch of
kinds where they are checked, and their frames differ in nothing else after it. -/
theorem run_eased (related : first.Related (Frame.AlikeUnder Policy.EasedTo) second)
    {checked trusted : List Step} (eased : List.Forall₂ Step.EasedTo checked trusted)
    (clean : ∀ shown ∈ first.transcript checked, shown.1.isKindMismatch = false) :
    first.transcript checked = second.transcript trusted ∧
      (first.run checked).Related (Frame.AlikeUnder Policy.EasedTo) (second.run trusted) := by
  -- By induction on the pairs of steps, each of which keeps the sessions related.
  induction eased generalizing first second with
  | nil => exact ⟨rfl, related⟩
  | cons eased rest ih =>
    obtain ⟨own, others⟩ := List.forall_mem_cons.1 clean
    have turn := step_eased related eased own
    have later := ih turn.sessions others
    exact ⟨transcript_cons turn later.1, later.2⟩

/-- What a run shows before the first step that is refused for a mismatch of kinds. -/
def beforeMismatch (session : Session) (steps : List Step) : List (Reply × List String) :=
  (session.transcript steps).takeWhile fun shown => !shown.1.isKindMismatch

/-- No step before the first mismatch is refused for one. -/
theorem no_mismatch_before {session : Session} {steps : List Step} {count : Nat}
    (before : count ≤ (session.beforeMismatch steps).length) :
    ∀ shown ∈ session.transcript (steps.take count), shown.1.isKindMismatch = false := by
  intro shown member
  rw [transcript_take] at member
  have start : (session.transcript steps).take count <+: session.beforeMismatch steps := by
    apply List.prefix_of_prefix_length_le (List.take_prefix _ _) (List.takeWhile_prefix _)
    rw [List.length_take]
    exact Nat.le_trans (Nat.min_le_left _ _) before
  have passes := List.mem_takeWhile_imp (start.subset member)
  rwa [Bool.not_eq_true'] at passes

/-- Trusted frames do what checked frames do, up to the first mismatch of kinds. Of two runs in a
build of either sort, let the second make trusted frames at any of the steps where the first makes
checked ones. Before the first step of the first run that is refused for a mismatch of kinds, both
runs give the same replies and write the same lines to the log. Until then the same lock records are
reported, and each name holds nothing in both, or frames that both may be edited or both are frozen,
that differ at most in the check of kinds that their policies ask for. -/
theorem trusted_run_agrees {checked eased : List Step}
    (pairs : List.Forall₂ Step.EasedTo checked eased) (trusted : Bool) :
    let start := initial trusted
    start.beforeMismatch checked <+: start.transcript eased ∧
      ∀ count ≤ (start.beforeMismatch checked).length,
        let first := start.run (checked.take count)
        let second := start.run (eased.take count)
        first.reservations = second.reservations ∧
          ∀ name, Option.Rel
            (Holding.Related fun frame copy =>
              frame.policy.EasedTo copy.policy ∧
                Frame.agrees { frame with policy := copy.policy } copy = true)
            (first.holding? name) (second.holding? name) := by
  intro start
  have alike : start.Related (Frame.AlikeUnder Policy.EasedTo) start :=
    related_self (every_initial trusted _)
  have runs (count : Nat) (before : count ≤ (start.beforeMismatch checked).length) :=
    run_eased alike (List.forall₂_take count pairs) (no_mismatch_before before)
  constructor
  · have shown := (runs _ (Nat.le_refl _)).1
    rw [transcript_take, transcript_take] at shown
    have first : start.beforeMismatch checked <+: start.transcript checked :=
      List.takeWhile_prefix _
    rw [List.prefix_iff_eq_take.1 first, shown]
    exact List.take_prefix _ _
  · intro count before first second
    have related : first.Related _ second := (runs count before).2
    have reservations : first.reservations = second.reservations := by rw [related.others]
    have agree : first.Related (fun frame copy => frame.policy.EasedTo copy.policy ∧
        Frame.agrees { frame with policy := copy.policy } copy = true) second :=
      related.imp fun frames => ⟨frames.related, frames.agrees⟩
    exact ⟨reservations, agree.holdings⟩

/-- Two of three frames are trusted. Values and a refused pop go through all of them, one is relaxed
by a word and gives its monitors away, and then a frame is asked to store an integer as a float. The
runs agree up to there, where the checked one is refused and the trusted one is not. -/
theorem trusted_run_agrees_until_store :
    let scope := Scope.root ⟨some 0, 0⟩ "A.b()V"
    let narrow : Value := ⟨0, 0, .int, ""⟩
    let word : Value := ⟨0, 1, .word, ""⟩
    let rest : List Step :=
      [.enter "c" scope 1 2 [narrow], .edit "a" (.push .int narrow),
        .edit "b" (.replaceStack "a"), .edit "c" (.push .word word),
        .edit "c" (.lock scope narrow 1), .edit "a" (.replaceMonitors "c"),
        .edit "a" (.pop .long), .freeze "a" "d", .edit "b" (.storeLocal 0 .float narrow)]
    let start := initial false
    let checked := .create "a" scope 1 2 ⟨true, true⟩ :: .create "b" scope 1 2 ⟨true, false⟩ :: rest
    let eased :=
      .create "a" scope 1 2 ⟨false, true⟩ :: .create "b" scope 1 2 ⟨false, false⟩ :: rest
    List.Forall₂ Step.EasedTo checked eased ∧
      (start.beforeMismatch checked).length = 10 ∧
      start.beforeMismatch checked <+: start.transcript eased ∧
      (start.run (checked.take 10)).reservations = (start.run (eased.take 10)).reservations ∧
      ((start.run (checked.take 10)).step (.edit "b" (.storeLocal 0 .float narrow))).reply =
        .refusal (.kindMismatch .float .int) ∧
      ((start.run (eased.take 10)).step (.edit "b" (.storeLocal 0 .float narrow))).reply =
        .answer .done := by
  intro scope narrow word rest start checked eased
  have same : List.Forall₂ Step.EasedTo rest rest := List.forall₂_same.2 fun step _ => .same step
  have pairs : List.Forall₂ Step.EasedTo checked eased :=
    .cons (.unchecked "a" scope 1 2 true) (.cons (.unchecked "b" scope 1 2 false) same)
  have length : (start.beforeMismatch checked).length = 10 := by decide
  obtain ⟨shown, ends⟩ := trusted_run_agrees pairs false
  have reservations := (ends 10 (Nat.le_of_eq length.symm)).1
  exact ⟨pairs, length, shown, reservations, by decide, by decide⟩

end Session
end SymbolicFrame
