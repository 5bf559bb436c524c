import SymbolicFrame.Proofs.Histories
import SymbolicFrame.Proofs.Equality

/-!
# Sessions frame by frame

A relation on frames is carried over to what names hold, to edits by way of their sources, and to
sessions that are otherwise the same. Related sessions find related frames under every name and
resolve an edit to related edits, and they stay related when related frames are put under a name.
-/

namespace SymbolicFrame

variable {R : Frame → Frame → Prop}

/-- Names hold related things when both frames may be edited or both are frozen, and the frames
are related. -/
inductive Holding.Related (R : Frame → Frame → Prop) : Holding → Holding → Prop where
  /-- Both frames may be edited. -/
  | builder {left right : Frame} (related : R left right) :
      Related R (.builder left) (.builder right)
  /-- Both frames are frozen. -/
  | frozen {left right : Frame} (related : R left right) :
      Related R (.frozen left) (.frozen right)

/-- Names hold things that are related in a wider sense too. -/
theorem Holding.Related.imp {S : Frame → Frame → Prop} {left right : Holding}
    (wider : ∀ {left right}, R left right → S left right) (related : left.Related R right) :
    left.Related S right := by
  cases related with
  | builder frames => exact .builder (wider frames)
  | frozen frames => exact .frozen (wider frames)

/-- Two edits are the same but for their sources, which are related. -/
def Edit.Related (R : Frame → Frame → Prop) (left right : Edit Frame) : Prop :=
  ∃ both : Edit (Frame × Frame), left = both.map Prod.fst ∧ right = both.map Prod.snd ∧
    ∀ pair, both.source? = some pair → R pair.1 pair.2

/-- Two sessions are the same but for their frames, which are related name by name. -/
structure Session.Related (R : Frame → Frame → Prop) (first second : Session) : Prop where
  /-- All but the frames is the same. -/
  others : second = { first with population := second.population }
  /-- Each name holds related things, or nothing in both sessions. -/
  holdings : ∀ name, Option.Rel (Holding.Related R) (first.holding? name) (second.holding? name)

/-- What related holdings are seen as is related if it is for holdings one by one. -/
private theorem rel_bind {view : Holding → Option Frame} {left right : Option Holding}
    (views : ∀ {left right}, Holding.Related R left right → Option.Rel R (view left) (view right))
    (holdings : Option.Rel (Holding.Related R) left right) :
    Option.Rel R (left.bind view) (right.bind view) := by
  cases holdings with
  | none => exact .none
  | some held => exact views held

namespace Session.Related

variable {first second : Session} (related : first.Related R second) (name : String)

include related

/-- The frames under a name that may be edited are related. -/
theorem builder? : Option.Rel R (first.builder? name) (second.builder? name) := by
  apply rel_bind _ (related.holdings name)
  intro left right held
  cases held with
  | builder frames => exact .some frames
  | frozen frames => exact .none

/-- The frozen frames under a name are related. -/
theorem frozen? : Option.Rel R (first.frozen? name) (second.frozen? name) := by
  apply rel_bind _ (related.holdings name)
  intro left right held
  cases held with
  | builder frames => exact .none
  | frozen frames => exact .some frames

/-- The frames under a name are related, frozen or not. -/
theorem frame? : Option.Rel R (first.frame? name) (second.frame? name) := by
  rw [Session.frame?, Session.frame?, Option.map_eq_bind, Option.map_eq_bind]
  apply rel_bind _ (related.holdings name)
  intro left right held
  cases held with
  | builder frames => exact .some frames
  | frozen frames => exact .some frames

/-- Sessions stay related when related things are put under a name. -/
theorem hold {left right : Holding} (held : Holding.Related R left right) :
    (first.hold name left).Related R (second.hold name right) := by
  constructor
  · rw [related.others]
    rfl
  · intro other
    rw [Session.holding?_hold, Session.holding?_hold]
    by_cases isName : other = name
    · rw [if_pos isName, if_pos isName]
      exact .some held
    · rw [if_neg isName, if_neg isName]
      exact related.holdings other

/-- Sessions stay related when a name is left without a frame. -/
theorem drop : (first.drop name).Related R (second.drop name) := by
  constructor
  · rw [related.others]
    rfl
  · intro other
    rw [Session.holding?_drop, Session.holding?_drop]
    by_cases isName : other = name
    · rw [if_pos isName, if_pos isName]
      exact .none
    · rw [if_neg isName, if_neg isName]
      exact related.holdings other

/-- Sessions stay related when the same lock records are reported in both. -/
theorem withReservations {left right : Reservations} (same : left = right) :
    Session.Related R { first with reservations := left }
      { second with reservations := right } := by
  subst same
  constructor
  · rw [related.others]
  · exact related.holdings

/-- An edit is resolved to related edits, or in neither session. -/
theorem resolve? (edit : Edit String) :
    Option.Rel (Edit.Related R) (edit.resolve? first.frame?) (edit.resolve? second.frame?) := by
  have plain (both : Edit (Frame × Frame)) (noSource : both.source? = none) :
      Edit.Related R (both.map Prod.fst) (both.map Prod.snd) := by
    refine ⟨both, rfl, rfl, fun pair isSource => ?_⟩
    rw [noSource] at isSource
    cases isSource
  have splice (source : String) (form : ∀ {Source : Type}, Source → Edit Source)
      (isSource : ∀ pair : Frame × Frame, (form pair).source? = some pair)
      (maps : ∀ (view : Frame × Frame → Frame) pair, (form pair).map view = form (view pair)) :
      Option.Rel (Edit.Related R) ((first.frame? source).map form)
        ((second.frame? source).map form) := by
    have frames := related.frame? source
    generalize first.frame? source = left, second.frame? source = right at frames
    cases frames with
    | none => exact .none
    | @some left right frames =>
      refine .some ⟨form (left, right), (maps Prod.fst (left, right)).symm,
        (maps Prod.snd (left, right)).symm, fun pair found => ?_⟩
      rw [isSource] at found
      cases found
      exact frames
  cases edit with
  | replaceLocals source => exact splice source .replaceLocals (fun _ => rfl) fun _ _ => rfl
  | replaceStack source => exact splice source .replaceStack (fun _ => rfl) fun _ _ => rfl
  | replaceMonitors source => exact splice source .replaceMonitors (fun _ => rfl) fun _ _ => rfl
  | push kind value => exact .some (plain (.push kind value) rfl)
  | pop kind => exact .some (plain (.pop kind) rfl)
  | pushRaw slot => exact .some (plain (.pushRaw slot) rfl)
  | popRaw => exact .some (plain .popRaw rfl)
  | popArguments size => exact .some (plain (.popArguments size) rfl)
  | truncateStack size => exact .some (plain (.truncateStack size) rfl)
  | clearStack => exact .some (plain .clearStack rfl)
  | loadLocal index kind => exact .some (plain (.loadLocal index kind) rfl)
  | storeLocal index kind value => exact .some (plain (.storeLocal index kind value) rfl)
  | invalidateLocal index => exact .some (plain (.invalidateLocal index) rfl)
  | clearLocals => exact .some (plain .clearLocals rfl)
  | storeParameters parameters => exact .some (plain (.storeParameters parameters) rfl)
  | lock scope object total => exact .some (plain (.lock scope object total) rfl)
  | unlock => exact .some (plain .unlock rfl)

end Session.Related

/-- A session whose frames are all related to themselves is related to itself. -/
theorem Session.related_self {session : Session}
    (reflexive : session.Every fun frame => R frame frame) : session.Related R session := by
  constructor
  · rfl
  · intro name
    cases found : session.holding? name with
    | none => exact .none
    | some holding =>
      have held : session.frame? name = some holding.frame := by
        rw [Session.frame?, found]
        rfl
      have self := reflexive name holding.frame held
      cases holding with
      | builder frame => exact .some (.builder self)
      | frozen frame => exact .some (.frozen self)

/-- Sessions are related in a wider sense too. -/
theorem Session.Related.imp {S : Frame → Frame → Prop} {first second : Session}
    (wider : ∀ {left right}, R left right → S left right) (related : first.Related R second) :
    first.Related S second := by
  constructor
  · exact related.others
  · intro name
    have held := related.holdings name
    generalize first.holding? name = left, second.holding? name = right at held ⊢
    cases held with
    | none => exact .none
    | some held => exact .some (held.imp wider)

/-! ## Steps -/

/-- Two edits came to the same end, and left related frames. -/
structure Performed.Related (R : Frame → Frame → Prop) (first second : Performed) : Prop where
  /-- Both edits ended in the same way. -/
  outcome_eq : first.outcome = second.outcome
  /-- The frames are related. -/
  frames : R first.frame second.frame
  /-- The lock records reported are the same. -/
  reservations_eq : first.reservations = second.reservations
  /-- The log reads the same. -/
  lines_eq : first.log.map Event.render = second.log.map Event.render

/-- Two steps are the same to whoever took them, and leave related sessions. -/
structure Turn.Related (R : Frame → Frame → Prop) (first second : Turn) : Prop where
  /-- The replies are the same. -/
  reply_eq : first.reply = second.reply
  /-- The log reads the same. -/
  lines_eq : first.log.map Event.render = second.log.map Event.render
  /-- The sessions are related. -/
  sessions : first.session.Related R second.session

namespace Session.Related

variable {first second : Session}

/-- A step that makes no sense in either session changes neither. -/
theorem unusable (related : first.Related R second) :
    Turn.Related R first.unusable second.unusable := ⟨rfl, rfl, related⟩

/-- A step that asks for too many slots changes neither session. -/
theorem uncountable (related : first.Related R second) :
    Turn.Related R first.uncountable second.uncountable := ⟨rfl, rfl, related⟩

/-- A step that puts related things under a name does so silently in both sessions. -/
theorem made (related : first.Related R second) (name : String) {left right : Holding}
    (held : Holding.Related R left right) :
    Turn.Related R (first.made name left) (second.made name right) :=
  ⟨rfl, rfl, related.hold name held⟩

/-- A step that needs a frame makes sense in both sessions or in neither. -/
theorem needing {left right : Option Frame} {does goes : Frame → Turn}
    (related : first.Related R second)
    (turns : ∀ {left right}, R left right → Turn.Related R (does left) (goes right)) :
    Option.Rel R left right → Turn.Related R
      (match left with
        | some frame => does frame
        | none => first.unusable)
      (match right with
        | some frame => goes frame
        | none => second.unusable) := by
  intro frames
  cases frames with
  | none => exact related.unusable
  | some frames => exact turns frames

/-- A step keeps sessions related if the relation holds of every frame that fits and itself, of
copies of related frames, and of what the edit of the step leaves of them. Its replies and log
records are the same if related frames are written alike. -/
theorem step (related : first.Related R second) {step : Step}
    (reflexive : ∀ {frame : Frame}, frame.Fits → R frame frame)
    (renders : ∀ {left right : Frame}, R left right → left.render = right.render)
    (copies : ∀ {left right : Frame}, R left right → ∀ parts,
      R (left.copyParts parts) (right.copyParts parts))
    (edits : ∀ {name edit left right leftEdit rightEdit}, step = .edit name edit →
      first.builder? name = some left → edit.resolve? first.frame? = some leftEdit →
      R left right → Edit.Related R leftEdit rightEdit →
      Performed.Related R (leftEdit.perform left first.reservations)
        (rightEdit.perform right first.reservations)) :
    Turn.Related R (first.step step) (second.step step) := by
  have others := related.others
  have sameReservations : second.reservations = first.reservations := by rw [others]
  have samePolicy : second.policy = first.policy := by rw [others, Session.policy, Session.policy]
  cases step with
  | addGraph | addValue | addScope | detachedScope | report =>
    rw [others]
    exact ⟨rfl, rfl, rfl, related.holdings⟩
  | useGraph graph =>
    rw [others]
    dsimp only [Session.step]
    split
    · exact ⟨rfl, rfl, rfl, related.holdings⟩
    · exact ⟨rfl, rfl, rfl, related.holdings⟩
  | create name scope maxLocals maxStack policy =>
    dsimp only [Session.step]
    split
    · rename_i countable
      have fits := Frame.fits_fresh scope policy countable
      exact related.made name (.builder (reflexive fits))
    · exact related.uncountable
  | enter name scope maxLocals maxStack parameters =>
    have sameEntry : second.entry scope maxLocals.toNat maxStack.toNat parameters =
        first.entry scope maxLocals.toNat maxStack.toNat parameters := by
      rw [Session.entry, Session.entry, samePolicy, sameReservations]
    dsimp only [Session.step]
    rw [sameEntry]
    split
    · rename_i countable
      have entryFits := first.fits_entry scope countable parameters
      split
      · exact ⟨rfl, rfl, related.hold name (.builder (reflexive entryFits))⟩
      · exact ⟨rfl, rfl, related⟩
    · exact related.uncountable
  | snapshot source target =>
    have turns {left right : Frame} (frames : R left right) :=
      related.made target (.frozen frames)
    exact related.needing turns (related.builder? source)
  | freeze source target =>
    have turns {left right : Frame} (frames : R left right) : Turn.Related R
        ⟨.answer .done, [.freezing left], (first.drop source).hold target (.frozen left)⟩
        ⟨.answer .done, [.freezing right], (second.drop source).hold target (.frozen right)⟩ :=
      ⟨rfl, congrArg (fun line => [line]) (Event.render_freezing (renders frames)),
        (related.drop source).hold target (.frozen frames)⟩
    exact related.needing turns (related.builder? source)
  | duplicate source target =>
    have turns {left right : Frame} (frames : R left right) :=
      related.made target (.frozen frames)
    exact related.needing turns (related.frozen? source)
  | thaw source target =>
    have turns {left right : Frame} (frames : R left right) :=
      related.made target (.builder frames)
    exact related.needing turns (related.frame? source)
  | copyParts source target parts =>
    have turns {left right : Frame} (frames : R left right) :=
      related.made target (.builder (copies frames parts))
    exact related.needing turns (related.frame? source)
  | edit name edit =>
    have frames := related.builder? name
    have resolved := related.resolve? edit
    dsimp only [Session.step]
    rw [sameReservations]
    cases found : first.builder? name with
    | none =>
      rw [found] at frames
      generalize second.builder? name = right at frames
      cases frames
      exact related.unusable
    | some left =>
      rw [found] at frames
      generalize second.builder? name = other at frames
      cases frames with
      | @some _ right frames =>
        cases resolves : edit.resolve? first.frame? with
        | none =>
          rw [resolves] at resolved
          generalize edit.resolve? second.frame? = other at resolved
          cases resolved
          exact related.unusable
        | some leftEdit =>
          rw [resolves] at resolved
          generalize edit.resolve? second.frame? = other at resolved
          cases resolved with
          | @some _ rightEdit sources =>
            have ended := edits rfl found resolves frames sources
            have held := related.hold name (.builder ended.frames)
            exact ⟨congrArg Outcome.reply ended.outcome_eq, ended.lines_eq,
              held.withReservations ended.reservations_eq⟩

end Session.Related
end SymbolicFrame
