import SymbolicFrame.Proofs.Verdicts
import SymbolicFrame.Proofs.Invariants

/-!
# Word-like values and strict frames

Under the strict policy kinds are checked and word-like values are refused, where values are pushed
or stored one by one. A splice looks at neither: it takes over whatever the other frame holds, and
its mode. So the frame of an inlined method, whose policy is the standard one, can put word-like
values into a strict frame and relax its checks for good. Splices and raw pushes are the only way
for that. As long as those of strict frames bring in nothing word-like and no relaxed mode, strict
frames stay unrelaxed and hold no word-like value.
-/

namespace SymbolicFrame

/-- No slot holds a value of a word-like kind. -/
def Wordless (slots : List Slot) : Prop :=
  ∀ slot ∈ slots, ∀ value ∈ slot, value.kind.isWordLike = false

instance (slots : List Slot) : Decidable (Wordless slots) :=
  inferInstanceAs (Decidable (∀ slot ∈ slots, ∀ value ∈ slot, value.kind.isWordLike = false))

/-! ## Wordless slots -/

section Slots

variable {slots : List Slot} {kind : Kind} {value : Value}

/-- Empty slots hold no value at all. -/
theorem wordless_replicate (count : Nat) : Wordless (List.replicate count none) := by
  intro slot member value held
  rw [(List.mem_replicate.1 member).2] at held
  cases held

/-- Writing nothing word-like to a slot keeps slots wordless. -/
theorem Wordless.set (wordless : Wordless slots) (index : Nat) {slot : Slot}
    (plain : ∀ value ∈ slot, value.kind.isWordLike = false) : Wordless (slots.set index slot) := by
  intro other member
  rcases List.mem_or_eq_of_mem_set member with stays | isSlot
  · exact wordless other stays
  · rw [isSlot]
    exact plain

/-- The slots of a value that is not word-like are wordless. -/
theorem wordless_slots (plain : value.kind.isWordLike = false) (kind : Kind) :
    Wordless (kind.slots value) := by
  intro slot member held isHeld
  have isValue : slot = some value ∨ slot = none := by
    unfold Kind.slots at member
    split at member <;> simp_all
  rcases isValue with rfl | rfl
  · cases isHeld
    exact plain
  · cases isHeld

/-- Some of wordless slots are wordless. -/
theorem Wordless.subset {others : List Slot} (wordless : Wordless slots)
    (within : others ⊆ slots) : Wordless others :=
  fun slot member => wordless slot (within member)

/-- Storing a value that is not word-like keeps locals wordless. -/
theorem Wordless.stored (wordless : Wordless slots) (plain : value.kind.isWordLike = false)
    (index : Nat) (kind : Kind) : Wordless (stored slots index kind value) := by
  have emptied : Wordless (emptiedBelow slots index) := by
    unfold emptiedBelow
    split
    · exact wordless.set _ nofun
    · exact wordless
  have own : Wordless ((emptiedBelow slots index).set index (some value)) := by
    apply emptied.set
    intro held isHeld
    cases isHeld
    exact plain
  unfold SymbolicFrame.stored written
  split
  · exact own.set _ nofun
  · exact own

/-- Storing parameters that are not word-like keeps locals wordless. -/
theorem Wordless.storedFrom {parameters : List Value} (wordless : Wordless slots) (index : Nat)
    (plain : ∀ parameter ∈ parameters, parameter.kind.isWordLike = false) :
    Wordless (storedFrom slots index parameters) := by
  induction parameters generalizing slots index with
  | nil => exact wordless
  | cons parameter rest ih =>
    obtain ⟨own, others⟩ := List.forall_mem_cons.1 plain
    exact ih (wordless.stored own index parameter.kind) _ others

end Slots

/-- A policy that refuses word-like kinds lets no value of such a kind be held. -/
theorem Policy.plain_of_holds {policy : Policy} {kind : Kind} (held : policy.holds kind = .ok ())
    (refuses : policy.allowWordKinds = false) : kind.isWordLike = false := by
  cases wordLike : kind.isWordLike with
  | false => rfl
  | true =>
    have allowed := (Policy.holds_iff.1 held).2 wordLike
    rw [refuses] at allowed
    cases allowed

/-! ## Strict contents -/

namespace Contents

/-- Checks are not relaxed, and nothing word-like is held. -/
structure Clean (contents : Contents) : Prop where
  /-- Kinds are checked. -/
  unrelaxed : contents.relaxed = false
  /-- No local holds a word-like value. -/
  locals : Wordless contents.locals
  /-- No stack slot holds a word-like value. -/
  stack : Wordless contents.stack

/-- Contents under the strict policy are clean. -/
def Sealed (contents : Contents) : Prop := contents.policy = Policy.strict → contents.Clean

/-- Strict contents take over slots from strict contents, or else from ones that are not relaxed and
only slots that are wordless. What is pushed raw on them is wordless too. -/
def AdmitsNoWord (contents : Contents) : Edit Contents → Prop
  | .pushRaw slot => contents.policy = Policy.strict → Wordless [slot]
  | .replaceLocals source => contents.policy = Policy.strict →
    source.policy = Policy.strict ∨ source.relaxed = false ∧ Wordless source.locals
  | .replaceStack source => contents.policy = Policy.strict →
    source.policy = Policy.strict ∨ source.relaxed = false ∧ Wordless source.stack
  | _ => True

instance (contents : Contents) : DecidablePred contents.AdmitsNoWord := fun edit =>
  match edit with
  | .pushRaw slot =>
    inferInstanceAs (Decidable (contents.policy = Policy.strict → Wordless [slot]))
  | .replaceLocals source => inferInstanceAs (Decidable (contents.policy = Policy.strict →
    source.policy = Policy.strict ∨ source.relaxed = false ∧ Wordless source.locals))
  | .replaceStack source => inferInstanceAs (Decidable (contents.policy = Policy.strict →
    source.policy = Policy.strict ∨ source.relaxed = false ∧ Wordless source.stack))
  | .push _ _ | .pop _ | .popRaw | .popArguments _ | .truncateStack _ | .clearStack
  | .loadLocal _ _ | .storeLocal _ _ _ | .invalidateLocal _ | .clearLocals | .storeParameters _
  | .replaceMonitors _ | .lock _ _ _ | .unlock => .isTrue trivial

variable {contents : Contents}

/-- Fresh contents are clean. -/
theorem clean_blank (scope : Scope) (maxLocals maxStack : Nat) (policy : Policy) :
    (blank scope maxLocals maxStack policy).Clean :=
  ⟨rfl, wordless_replicate maxLocals, nofun⟩

/-- Copies of any parts of clean contents are clean. -/
theorem Clean.kept (clean : contents.Clean) (parts : Parts) : (contents.kept parts).Clean := by
  unfold Contents.kept
  refine ⟨clean.unrelaxed, ?_, ?_⟩
  · dsimp only
    split
    · exact clean.locals
    · exact wordless_replicate _
  · dsimp only
    split
    · exact clean.stack
    · nofun

/-- An edit that is done keeps strict contents clean, if its source has stayed so and nothing
word-like is brought in unchecked. -/
theorem Clean.change {edit : Edit Contents} {answer : Answer} (clean : contents.Clean)
    (strict : contents.policy = Policy.strict)
    (sources : ∀ source, edit.source? = some source → source.Sealed)
    (admits : contents.AdmitsNoWord edit) (accepted : contents.verdict edit = .ok answer) :
    (contents.change edit).Clean := by
  have refuses : contents.policy.allowWordKinds = false := by rw [strict]; rfl
  have checks : contents.Checks := ⟨by rw [strict]; rfl, clean.unrelaxed⟩
  cases edit with
  | push kind value =>
    obtain ⟨same, solid, allowed, -⟩ := checks.pushes_iff.1 (done_iff.1 ⟨answer, accepted⟩)
    have plain := Policy.plain_of_holds (Policy.holds_iff.2 ⟨solid, allowed⟩) refuses
    refine ⟨Bool.or_eq_false_iff.2 ⟨clean.unrelaxed, plain⟩, clean.locals, ?_⟩
    rw [← same] at plain
    exact List.forall_mem_append.2 ⟨clean.stack, wordless_slots plain kind⟩
  | pushRaw slot =>
    exact ⟨clean.unrelaxed, clean.locals, List.forall_mem_append.2 ⟨clean.stack, admits strict⟩⟩
  | storeLocal index kind value =>
    obtain ⟨same, solid, allowed, -⟩ := checks.stores_iff.1 (done_iff.1 ⟨answer, accepted⟩)
    have plain := Policy.plain_of_holds (Policy.holds_iff.2 ⟨solid, allowed⟩) refuses
    rw [← same] at plain
    exact ⟨clean.unrelaxed, clean.locals.stored plain _ kind, clean.stack⟩
  | storeParameters parameters =>
    obtain ⟨total, measured, -⟩ := storesParameters_iff.1 (done_iff.1 ⟨answer, accepted⟩)
    have plain (parameter : Value) (member : parameter ∈ parameters) :=
      Policy.plain_of_holds (Policy.holds_of_parametersEnd measured parameter member) refuses
    exact ⟨clean.unrelaxed, clean.locals.storedFrom 0 plain, clean.stack⟩
  | invalidateLocal index =>
    exact ⟨clean.unrelaxed, clean.locals.set _ nofun, clean.stack⟩
  | clearLocals => exact ⟨clean.unrelaxed, wordless_replicate _, clean.stack⟩
  | replaceLocals source =>
    have brings : source.relaxed = false ∧ Wordless source.locals := by
      rcases admits strict with sourceStrict | brings
      · have sourceClean := sources source rfl sourceStrict
        exact ⟨sourceClean.unrelaxed, sourceClean.locals⟩
      · exact brings
    exact ⟨Bool.or_eq_false_iff.2 ⟨clean.unrelaxed, brings.1⟩, brings.2, clean.stack⟩
  | replaceStack source =>
    have brings : source.relaxed = false ∧ Wordless source.stack := by
      rcases admits strict with sourceStrict | brings
      · have sourceClean := sources source rfl sourceStrict
        exact ⟨sourceClean.unrelaxed, sourceClean.stack⟩
      · exact brings
    exact ⟨Bool.or_eq_false_iff.2 ⟨clean.unrelaxed, brings.1⟩, clean.locals, brings.2⟩
  | pop | popRaw | popArguments | truncateStack =>
    exact ⟨clean.unrelaxed, clean.locals, clean.stack.subset (List.take_subset _ _)⟩
  | clearStack => exact ⟨clean.unrelaxed, clean.locals, nofun⟩
  | loadLocal | replaceMonitors | lock | unlock =>
    exact ⟨clean.unrelaxed, clean.locals, clean.stack⟩

/-- Strict contents are clean in every session that brings nothing word-like into them
unchecked. -/
theorem sealed_invariant : Invariant (fun _ => True) AdmitsNoWord Sealed where
  created scope maxLocals maxStack policy _ _ := clean_blank scope maxLocals maxStack policy
  entered _ accepted strict := by
    rw [policy_change] at strict
    exact (clean_blank _ _ _ _).change strict nofun trivial accepted
  copied isSealed parts strict := (isSealed strict).kept parts
  edited isSealed sources admits accepted strict := by
    rw [policy_change] at strict
    exact (isSealed strict).change strict sources admits accepted

end Contents

namespace Session

/-- Every strict frame of a session is unrelaxed and holds no value of a word-like kind, neither in
its locals nor on its stack, as long as strict frames take over slots from strict frames only or
else from unrelaxed ones without such values in them, and no such value is pushed raw on them. -/
theorem strict_frames_wordless {trusted : Bool} {steps : List Step}
    (follows : (initial trusted).Follows (Permits (fun _ => True) Contents.AdmitsNoWord) steps)
    {name : String} {frame : Frame}
    (found : ((initial trusted).run steps).frame? name = some frame)
    (strict : frame.policy = Policy.strict) :
    frame.relaxed = false ∧
      (∀ value, some value ∈ frame.buffer.locals → value.kind ≠ .word ∧ value.kind ≠ .jsr) ∧
      ∀ value, some value ∈ frame.buffer.stack → value.kind ≠ .word ∧ value.kind ≠ .jsr := by
  have clean := every_of_invariant Contents.sealed_invariant follows name frame found strict
  have plain {slots : List Slot} (wordless : Wordless slots) (value : Value)
      (member : some value ∈ slots) : value.kind ≠ .word ∧ value.kind ≠ .jsr := by
    have notWordLike := wordless (some value) member value rfl
    rw [← Bool.not_eq_true, Kind.isWordLike_iff] at notWordLike
    exact not_or.1 notWordLike
  exact ⟨clean.unrelaxed, plain clean.locals, plain clean.stack⟩

/-- A strict frame takes over the locals of another one and the stack of an inlined method, beside a
relaxed frame that holds a word. -/
theorem strict_frames_wordless_beside_relaxed :
    let scope := Scope.root ⟨some 0, 0⟩ "A.b()V"
    let object : Value := ⟨0, 0, .object, ""⟩
    let word : Value := ⟨0, 1, .word, ""⟩
    let steps : List Step :=
      [.create "a" scope 1 1 Policy.strict, .create "b" scope 1 1 Policy.strict,
        .edit "b" (.storeLocal 0 .object object), .edit "a" (.replaceLocals "b"),
        .enter "c" scope 1 1 [object], .edit "c" (.push .object object),
        .edit "a" (.replaceStack "c"), .edit "c" .clearStack, .edit "c" (.push .word word),
        .edit "c" (.replaceLocals "a")]
    (initial false).Follows (Permits (fun _ => True) Contents.AdmitsNoWord) steps ∧
      ∃ frame, ((initial false).run steps).frame? "a" = some frame ∧ frame.policy = Policy.strict ∧
        frame.buffer.locals = [some object] ∧ frame.buffer.stack = [some object] ∧
        frame.relaxed = false ∧
        ∀ value, some value ∈ frame.buffer.stack → value.kind ≠ .word ∧ value.kind ≠ .jsr := by
  intro scope object word steps
  have follows : (initial false).Follows
      (Permits (fun _ => True) Contents.AdmitsNoWord) steps := by decide
  let frame : Frame :=
    ⟨⟨1, 1, #[some object, some object]⟩, scope, ⟨none⟩, false, Policy.strict⟩
  have found : ((initial false).run steps).frame? "a" = some frame := by decide
  have ⟨unrelaxed, _, wordless⟩ := strict_frames_wordless follows found rfl
  exact ⟨follows, frame, found, rfl, rfl, rfl, unrelaxed, wordless⟩

/-- Without any raw push, a strict frame takes over the stack of an inlined method, and with it a
word and the relaxed mode. -/
theorem word_taken_over_by_strict_frame :
    let caller := Scope.root ⟨some 0, 0⟩ "A.b()V"
    let inlined := Scope.make ⟨some 0, 1⟩ "C.d()V" (some caller)
    let word : Value := ⟨0, 0, .word, ""⟩
    let steps : List Step :=
      [.addValue .word "", .addScope "A.b()V" none, .addScope "C.d()V" (some caller),
        .create "a" caller 0 1 Policy.strict, .enter "b" inlined 0 1 [],
        .edit "b" (.push .word word), .edit "a" (.replaceStack "b")]
    (initial false).Follows
        (Permits (fun _ => True) fun _ edit => (edit matches .pushRaw _) = false) steps ∧
      ∃ frame, ((initial false).run steps).frame? "a" = some frame ∧ frame.policy = Policy.strict ∧
        frame.relaxed = true ∧ some word ∈ frame.buffer.stack ∧ word.kind = .word := by
  intro caller inlined word steps
  have follows : (initial false).Follows
      (Permits (fun _ => True) fun _ edit => (edit matches .pushRaw _) = false) steps := by decide
  let frame : Frame := ⟨⟨0, 1, #[some word]⟩, caller, ⟨none⟩, true, Policy.strict⟩
  have found : ((initial false).run steps).frame? "a" = some frame := by decide
  exact ⟨follows, frame, found, rfl, rfl, by decide, rfl⟩

end Session
end SymbolicFrame
