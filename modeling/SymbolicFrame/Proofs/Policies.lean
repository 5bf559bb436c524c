import SymbolicFrame.Proofs.Related

/-!
# Frames under different policies

Contents can be seen under another policy. Changes and copies do not look at policies at all, and
of the policy of a source no edit takes notice, so only a verdict can tell contents apart that
differ in their policies. Two frames that fit and differ in nothing else are written alike, their
copies differ in nothing else, and an edit comes to the same end on both, as long as its verdict on
both is the same.
-/

namespace SymbolicFrame

namespace Contents

/-- The same contents under another policy. -/
def under (policy : Policy) (contents : Contents) : Contents := { contents with policy := policy }

variable (contents : Contents) (edit : Edit Contents) (policy : Policy)

@[simp]
theorem under_locals : (contents.under policy).locals = contents.locals := rfl

@[simp]
theorem under_stack : (contents.under policy).stack = contents.stack := rfl

/-- No verdict depends on the policy of a source. -/
theorem verdict_map_under : contents.verdict (edit.map (under policy)) = contents.verdict edit := by
  cases edit <;> rfl

/-- No change depends on the policy of a source. -/
theorem change_map_under : contents.change (edit.map (under policy)) = contents.change edit := by
  cases edit <;> rfl

/-- A change is the same under every policy. -/
theorem change_under :
    (contents.under policy).change edit = (contents.change edit).under policy := by
  cases edit <;> rfl

end Contents

/-- Two frames fit and show the same but for their policies, which are in a relation. -/
structure Frame.AlikeUnder (policies : Policy → Policy → Prop) (left right : Frame) : Prop where
  /-- The first frame fits. -/
  leftFits : left.Fits
  /-- The second frame fits. -/
  rightFits : right.Fits
  /-- The policies are in the relation. -/
  related : policies left.policy right.policy
  /-- Under its policy, the first frame shows what the second one does. -/
  contents_eq : right.contents = left.contents.under right.policy

variable {policies : Policy → Policy → Prop}

namespace Frame.AlikeUnder

variable {left right : Frame} (alike : left.AlikeUnder policies right)

include alike

/-- The frames are equal once the first has the policy of the second. -/
theorem agrees : Frame.agrees { left with policy := right.policy } right = true := by
  have fits : Frame.Fits { left with policy := right.policy } :=
    ⟨alike.leftFits.formed, alike.leftFits.countable⟩
  exact (agrees_iff_contents fits alike.rightFits).2 alike.contents_eq.symm

/-- Texts do not depend on policies. -/
theorem render_eq : left.render = right.render := by
  have same : Frame.contents { left with policy := right.policy } = right.contents :=
    alike.contents_eq.symm
  calc
    left.render = Frame.render { left with policy := right.policy } := rfl
    _ = right.render := render_eq_of_contents same

/-- Copies of the same parts differ in their policies only, as before. -/
theorem copyParts (parts : Parts) :
    (left.copyParts parts).AlikeUnder policies (right.copyParts parts) := by
  have leftCopy := alike.leftFits.copyParts parts
  have rightCopy := alike.rightFits.copyParts parts
  have same : (right.copyParts parts).contents =
      (left.copyParts parts).contents.under right.policy := by
    rw [leftCopy.2, rightCopy.2, alike.contents_eq]
    rfl
  exact ⟨leftCopy.1, rightCopy.1, alike.related, same⟩

end Frame.AlikeUnder

/-! ## Edits -/

namespace Edit.Related

variable {left right : Edit Frame} (related : Edit.Related (Frame.AlikeUnder policies) left right)

include related

/-- Edits whose sources differ in their policies only do so on contents. -/
theorem map_contents : ∃ policy,
    right.map Frame.contents = (left.map Frame.contents).map (Contents.under policy) := by
  obtain ⟨both, rfl, rfl, alike⟩ := related
  cases both with
  | replaceLocals pair =>
    exact ⟨pair.2.policy, congrArg Edit.replaceLocals (alike pair rfl).contents_eq⟩
  | replaceStack pair =>
    exact ⟨pair.2.policy, congrArg Edit.replaceStack (alike pair rfl).contents_eq⟩
  | replaceMonitors pair =>
    exact ⟨pair.2.policy, congrArg Edit.replaceMonitors (alike pair rfl).contents_eq⟩
  | push | pop | pushRaw | popRaw | popArguments | truncateStack | clearStack | loadLocal
  | storeLocal | invalidateLocal | clearLocals | storeParameters | lock | unlock =>
    exact ⟨Policy.standard, rfl⟩

/-- The sources of such edits fit. -/
theorem sources_fit : (∀ source, left.source? = some source → source.Fits) ∧
    ∀ source, right.source? = some source → source.Fits := by
  obtain ⟨both, rfl, rfl, alike⟩ := related
  constructor
  · intro source isSource
    rw [Edit.source?_map] at isSource
    obtain ⟨pair, isPair, rfl⟩ := Option.map_eq_some_iff.1 isSource
    exact (alike pair isPair).leftFits
  · intro source isSource
    rw [Edit.source?_map] at isSource
    obtain ⟨pair, isPair, rfl⟩ := Option.map_eq_some_iff.1 isSource
    exact (alike pair isPair).rightFits

/-- Such edits report the same lock records. -/
theorem reported_eq (reservations : Reservations) :
    left.reported reservations = right.reported reservations := by
  obtain ⟨both, rfl, rfl, -⟩ := related
  cases both <;> rfl

/-- Such edits write the same to the log, on frames that differ in their policies only. -/
theorem lines_eq {frame other : Frame} (frames : frame.AlikeUnder policies other)
    (reservations : Reservations) :
    (left.records frame reservations).map Event.render =
      (right.records other reservations).map Event.render := by
  obtain ⟨both, rfl, rfl, alike⟩ := related
  have texts := frames.render_eq
  have scope : other.scope = frame.scope := congrArg Contents.scope frames.contents_eq
  have relaxed : other.relaxed = frame.relaxed := congrArg Contents.relaxed frames.contents_eq
  cases both with
  | push kind value =>
    change List.map Event.render (if kind.isWordLike && !frame.relaxed then _ else []) =
      List.map Event.render (if kind.isWordLike && !other.relaxed then _ else [])
    rw [relaxed, scope]
  | replaceLocals pair =>
    have line := Event.render_replacingLocals texts (alike pair rfl).render_eq
    exact congrArg (fun line => [line]) line
  | replaceStack pair =>
    have line := Event.render_replacingStack texts (alike pair rfl).render_eq
    exact congrArg (fun line => [line]) line
  | pop | pushRaw | popRaw | popArguments | truncateStack | clearStack | loadLocal | storeLocal
  | invalidateLocal | clearLocals | storeParameters | replaceMonitors | lock | unlock => rfl

/-- Such edits come to the same end, and leave frames that differ in their policies only, if the
verdict on the first edit is the same under both policies. -/
theorem perform {frame other : Frame} (frames : frame.AlikeUnder policies other)
    (reservations : Reservations)
    (verdicts : (frame.contents.under other.policy).verdict (left.map Frame.contents) =
      frame.contents.verdict (left.map Frame.contents)) :
    Performed.Related (Frame.AlikeUnder policies) (left.perform frame reservations)
      (right.perform other reservations) := by
  have sources := related.sources_fit
  obtain ⟨policy, edits⟩ := related.map_contents
  have otherVerdict : other.contents.verdict (right.map Frame.contents) =
      frame.contents.verdict (left.map Frame.contents) := by
    rw [edits, Contents.verdict_map_under, frames.contents_eq, verdicts]
  cases accepted : frame.contents.verdict (left.map Frame.contents) with
  | error stop =>
    rw [Edit.perform_of_error frames.leftFits sources.1 reservations accepted,
      Edit.perform_of_error frames.rightFits sources.2 reservations (otherVerdict.trans accepted)]
    exact ⟨rfl, frames, rfl, rfl⟩
  | ok answer =>
    obtain ⟨leftAfter, leftPerformed, leftFits, leftContents⟩ :=
      Edit.perform_of_ok frames.leftFits sources.1 reservations accepted
    obtain ⟨rightAfter, rightPerformed, rightFits, rightContents⟩ :=
      Edit.perform_of_ok frames.rightFits sources.2 reservations (otherVerdict.trans accepted)
    have leftPolicy : leftAfter.policy = frame.policy :=
      (congrArg Contents.policy leftContents).trans (Contents.policy_change _ _)
    have rightPolicy : rightAfter.policy = other.policy :=
      (congrArg Contents.policy rightContents).trans (Contents.policy_change _ _)
    have stillRelated : policies leftAfter.policy rightAfter.policy := by
      rw [leftPolicy, rightPolicy]
      exact frames.related
    have after : rightAfter.contents = leftAfter.contents.under rightAfter.policy := by
      rw [rightContents, rightPolicy, leftContents, edits, Contents.change_map_under,
        frames.contents_eq, Contents.change_under]
    rw [leftPerformed, rightPerformed]
    exact ⟨rfl, ⟨leftFits, rightFits, stillRelated, after⟩, related.reported_eq reservations,
      related.lines_eq frames reservations⟩

end Edit.Related
end SymbolicFrame
