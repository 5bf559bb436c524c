import SymbolicFrame.Proofs.Histories

/-!
# Invariants of the frames of a session

An invariant is a property of contents that frames have when they are made, and that copies and
edits keep, an edit on the condition that its source has the property too. It may ask that frames
are made under policies of some sort, and that edits are of some sort, given the contents that they
are made on. Every frame of a session has the property then, whatever is spliced and copied between
its frames, if the steps of the session are of these sorts.
-/

namespace SymbolicFrame

/-- Contents have a property when they are made, and copies and edits keep it, for policies and for
edits of some sort. -/
structure Contents.Invariant (policies : Policy → Prop) (edits : Contents → Edit Contents → Prop)
    (good : Contents → Prop) : Prop where
  /-- Fresh contents have the property. -/
  created : ∀ scope maxLocals maxStack {policy}, policies policy →
    good (Contents.blank scope maxLocals maxStack policy)
  /-- Contents at the entry of a method have the property. -/
  entered : ∀ {scope maxLocals maxStack policy parameters answer}, policies policy →
    (Contents.blank scope maxLocals maxStack policy).verdict (.storeParameters parameters) =
        .ok answer →
      good ((Contents.blank scope maxLocals maxStack policy).change (.storeParameters parameters))
  /-- Copies of any parts keep the property. -/
  copied : ∀ {contents : Contents}, good contents → ∀ parts, good (contents.kept parts)
  /-- Edits that are done keep the property if their sources have it. -/
  edited : ∀ {contents : Contents} {edit answer}, good contents →
    (∀ source, edit.source? = some source → good source) → edits contents edit →
      contents.verdict edit = .ok answer → good (contents.change edit)

namespace Session

/-- A step makes frames under some policies only, and edits frames in some ways only. -/
def Permits (policies : Policy → Prop) (edits : Contents → Edit Contents → Prop)
    (session : Session) : Step → Prop
  | .create _ _ _ _ policy => policies policy
  | .enter _ _ _ _ _ => policies session.policy
  | .edit name edit => ∀ frame ∈ session.builder? name, ∀ resolved ∈ edit.resolve? session.frame?,
    edits frame.contents (resolved.map Frame.contents)
  | .addGraph | .useGraph _ | .addValue _ _ | .addScope _ _ | .detachedScope _ _ _ | .report _ _
  | .snapshot _ _ | .freeze _ _ | .duplicate _ _ | .thaw _ _ | .copyParts _ _ _ => True

instance Permits.decidable (policies : Policy → Prop) (edits : Contents → Edit Contents → Prop)
    [DecidablePred policies] [∀ contents, DecidablePred (edits contents)] (session : Session) :
    (step : Step) → Decidable (session.Permits policies edits step)
  | .create _ _ _ _ policy => inferInstanceAs (Decidable (policies policy))
  | .enter _ _ _ _ _ => inferInstanceAs (Decidable (policies session.policy))
  | .edit name edit => inferInstanceAs (Decidable (∀ frame ∈ session.builder? name,
    ∀ resolved ∈ edit.resolve? session.frame?, edits frame.contents (resolved.map Frame.contents)))
  | .addGraph | .useGraph _ | .addValue _ _ | .addScope _ _ | .detachedScope _ _ _ | .report _ _
  | .snapshot _ _ | .freeze _ _ | .duplicate _ _ | .thaw _ _ | .copyParts _ _ _ => .isTrue trivial

variable {policies : Policy → Prop} {edits : Contents → Edit Contents → Prop}
  {good : Contents → Prop} {session : Session} {step : Step} {contents : Contents}

/-- An invariant holds of whatever is held after a permitted step if it held of everything
before. -/
theorem good_of_origin (invariant : Contents.Invariant policies edits good)
    (before : session.Every fun frame => good frame.contents)
    (permitted : session.Permits policies edits step) (origin : session.Origin step contents) :
    good contents := by
  cases origin with
  | stayed found => exact before _ _ found
  | created => exact invariant.created _ _ _ permitted
  | entered accepted => exact invariant.entered permitted accepted
  | copied found => exact invariant.copied (before _ _ found) _
  | @edited name edit frame resolved answer found resolves accepted =>
    have own : good frame.contents := before name frame (frame?_of_builder? found)
    exact invariant.edited own (every_source before resolves)
      (permitted frame found resolved resolves) accepted

/-- An invariant holds of every frame of a session whose steps are all permitted. -/
theorem every_of_invariant (invariant : Contents.Invariant policies edits good) {trusted : Bool}
    {steps : List Step} (follows : (initial trusted).Follows (Permits policies edits) steps) :
    ((initial trusted).run steps).Every fun frame => good frame.contents :=
  every_run (good_of_origin invariant) (every_initial trusted _) (every_initial trusted _) follows

end Session
end SymbolicFrame
