import Playback.Proofs.Lockstep
import Playback.Proofs.Passage

namespace Playback

/-- The same content comes under the same path. Only simulation reads the content before an edit. -/
structure Edit.Agrees (mode : Mode) (edit other : Edit) : Prop where
  path : edit.path = other.path
  after : edit.after = other.after
  before : mode = .simulate → edit.before = other.before

/-- The same came of the same file. -/
structure Build.Agrees (build other : Build) : Prop where
  path : build.path = other.path
  succeeded : build.succeeded = other.succeeded
  removed : build.removed = other.removed
  after : build.after = other.after

/-- Steps of one kind that carry the same for the files. -/
structure Step.Agrees (mode : Mode) (step other : Step) : Prop where
  kind : step.kind = other.kind
  edit : Option.Rel (Edit.Agrees mode) step.edit other.edit
  build : Option.Rel Build.Agrees step.build other.build

/-- Journals of as many steps that agree one by one. Only simulation looks up the files from the
start of the recording. -/
structure Journal.Agrees (mode : Mode) (journal other : Journal) : Prop where
  steps : List.Forall₂ (Step.Agrees mode) journal.steps other.steps
  files : mode = .simulate → ∀ path, journal.files.get? path = other.files.get? path

/-- Outcomes of related steps, both skipped or both replayed with the same divergence. -/
inductive Outcome.Echoes (related : Step → Step → Prop) : Outcome → Outcome → Prop where
  | skipped {step other : Step} (same : related step other) :
      Echoes related (.skipped step) (.skipped other)
  | replayed {step other : Step} (same : related step other) (tracked : Option Snapshot)
      (divergence : Option Divergence) :
      Echoes related (step.outcome ⟨step.shownEdits, tracked, divergence⟩)
        (other.outcome ⟨other.shownEdits, tracked, divergence⟩)

/-- The outcomes tell the same about a replay, perhaps of steps with other texts. -/
structure Outcome.SameVerdict (outcome other : Outcome) : Prop where
  status : outcome.status = other.status
  divergence : outcome.divergence = other.divergence

/-- One player replays a journal of related steps and stands in the state of the other one. -/
structure Player.Echoes (mode : Mode) (related : Step → Step → Prop) (player other : Player) :
    Prop where
  follows : player.settings.mode = mode
  steps : List.Forall₂ related player.journal.steps other.journal.steps
  files : mode = .simulate →
    ∀ path, player.journal.files.get? path = other.journal.files.get? path
  settings : other.settings = player.settings
  now : other.now = player.now
  state : other.state = { player.state with journalId := other.state.journalId }

section Options

variable {A B C : Type} {related : A → B → Prop} {option : Option A} {other : Option B}

theorem map_eq_of_rel {first : A → C} {second : B → C} (same : Option.Rel related option other)
    (each : ∀ value another, related value another → first value = second another) :
    option.map first = other.map second := by
  cases same with
  | none => rfl
  | some related => exact congrArg some (each _ _ related)

theorem bind_eq_of_rel {first : A → Option C} {second : B → Option C}
    (same : Option.Rel related option other)
    (each : ∀ value another, related value another → first value = second another) :
    option.bind first = other.bind second := by
  cases same with
  | none => rfl
  | some related => exact each _ _ related

theorem none_of_rel (same : Option.Rel related none other) : other = none := by
  cases same
  rfl

theorem exists_of_rel {value : A} (same : Option.Rel related (some value) other) :
    ∃ another, other = some another ∧ related value another := by
  cases same with
  | some related => exact ⟨_, rfl, related⟩

/-- Lists that are related item by item are so at every position. -/
theorem rel_getElem? {items : List A} {others : List B} (same : List.Forall₂ related items others)
    (index : Nat) : Option.Rel related items[index]? others[index]? := by
  induction same generalizing index with
  | nil => exact .none
  | cons first rest inductionHypothesis =>
      cases index with
      | zero => exact .some first
      | succ index => exact inductionHypothesis index

end Options

namespace Build.Agrees

variable {build other : Build} (agree : build.Agrees other)
include agree

theorem write? (now : Instant) : build.write? now = other.write? now := by
  rw [Build.write?, Build.write?, agree.path, agree.succeeded, agree.removed, agree.after]

theorem defect? (verifies : Bool) : build.defect? verifies = other.defect? verifies := by
  rw [Build.defect?, Build.defect?, agree.path, agree.succeeded, agree.after]

end Build.Agrees

namespace Step.Agrees

variable {mode : Mode} {step other : Step} (agree : step.Agrees mode other)
include agree

theorem path? : step.path? = other.path? := by
  rw [Step.path?, Step.path?, map_eq_of_rel agree.edit fun _ _ same => same.path,
    map_eq_of_rel agree.build fun _ _ same => same.path]

theorem writtenFile (now : Instant) (path : String) :
    step.writtenFile now path = other.writtenFile now path := by
  have built : step.build.bind Build.after = other.build.bind Build.after :=
    bind_eq_of_rel agree.build fun _ _ same => same.after
  have edited := agree.edit
  rw [Step.writtenFile, Step.writtenFile, built]
  generalize step.edit = edit at edited ⊢
  generalize other.edit = another at edited ⊢
  cases edited with
  | none => rfl
  | some same => simp only [same.after]

theorem fileWrite? (now : Instant) : step.fileWrite? now = other.fileWrite? now := by
  have built : (step.build.bind fun build => build.write? now) =
      other.build.bind fun build => build.write? now :=
    bind_eq_of_rel agree.build fun _ _ same => same.write? now
  rw [Step.fileWrite?, Step.fileWrite?, agree.kind, agree.path?, built]
  simp only [agree.writtenFile]

theorem editWrite? (now : Instant) : step.editWrite? now = other.editWrite? now := by
  have edited :
      (step.edit.map fun edit => (edit.path, Snapshot.ofContent now edit.path edit.after)) =
        other.edit.map fun edit => (edit.path, Snapshot.ofContent now edit.path edit.after) :=
    map_eq_of_rel agree.edit fun _ _ same => by rw [same.path, same.after]
  rw [Step.editWrite?, Step.editWrite?, agree.kind, edited]

theorem write? (now : Instant) : step.write? mode now = other.write? mode now := by
  cases mode with
  | readOnly => rfl
  | simulate => exact agree.fileWrite? now
  | apply => rw [Step.write?, Step.write?, agree.editWrite?, agree.fileWrite?]

theorem refusal? (settings : Settings) : step.refusal? settings = other.refusal? settings := by
  have edited :
      (step.edit.bind fun edit => if edit.path = "" then some Rejection.emptyPath else none) =
        other.edit.bind fun edit => if edit.path = "" then some Rejection.emptyPath else none :=
    bind_eq_of_rel agree.edit fun _ _ same => by rw [same.path]
  have built : (step.build.bind fun build => build.defect? settings.verifies) =
      other.build.bind fun build => build.defect? settings.verifies :=
    bind_eq_of_rel agree.build fun _ _ same => same.defect? settings.verifies
  rw [Step.refusal?, Step.refusal?, Step.defect?, Step.defect?, agree.kind, agree.path?, edited,
    built]

/-- The scenes may differ in the recorded files unless simulation looks them up. -/
theorem divergence? {scene : Scene} (follows : scene.settings.mode = mode)
    {recorded : Table Snapshot}
    (files : mode = .simulate → ∀ path, scene.recorded.get? path = recorded.get? path) :
    step.divergence? scene = other.divergence? { scene with recorded := recorded } := by
  rw [Step.divergence?, Step.divergence?]
  cases known : scene.settings.mode with
  | readOnly | apply => rfl
  | simulate =>
      obtain rfl := follows
      have compared : Option.Rel (Edit.Agrees scene.settings.mode) step.comparedEdit?
          other.comparedEdit? := by
        rw [comparedEdit?, comparedEdit?, agree.kind]
        split
        · exact agree.edit
        · exact .none
      refine bind_eq_of_rel compared fun edit another same => ?_
      rw [Divergence.detect?, Divergence.detect?, Evidence.of?, Evidence.of?, same.path,
        same.before known, files known]

/-- Agreeing steps are meant to do the same but for the edits that they show. -/
theorem intended {scene : Scene} (follows : scene.settings.mode = mode)
    {recorded : Table Snapshot}
    (files : mode = .simulate → ∀ path, scene.recorded.get? path = recorded.get? path) :
    other.intended { scene with recorded := recorded } =
      { step.intended scene with edits := other.shownEdits } := by
  rw [Step.intended, Step.intended, ← agree.divergence? follows files]
  dsimp only
  rw [follows, agree.write?]

end Step.Agrees

namespace Outcome.Echoes

variable {related : Step → Step → Prop} {mode : Mode} {outcome other : Outcome}

theorem hasDivergence (echoes : outcome.Echoes related other) :
    outcome.hasDivergence = other.hasDivergence := by
  cases echoes with
  | skipped => rfl
  | replayed => simp only [Outcome.hasDivergence, Step.outcome_divergence]

/-- The status of an outcome is fixed by the kind of its step, unless the step is skipped. -/
theorem sameVerdict (echoes : outcome.Echoes related other)
    (agrees : ∀ step other, related step other → step.Agrees mode other) :
    outcome.SameVerdict other := by
  cases echoes with
  | skipped => exact ⟨rfl, rfl⟩
  | @replayed step other same tracked divergence =>
      refine ⟨?_, by rw [Step.outcome_divergence, Step.outcome_divergence]⟩
      rw [Step.outcome, Step.outcome, (agrees step other same).kind]
      split <;> rfl

end Outcome.Echoes

namespace Player.Echoes

variable {mode : Mode} {related : Step → Step → Prop} {player other : Player}

section Fields

variable (echoes : player.Echoes mode related other)
include echoes

theorem cursor : player.state.cursor = other.state.cursor := by
  rw [echoes.state]

theorem length : player.journal.length = other.journal.length := echoes.steps.length_eq

/-- The steps under the cursors are related. -/
theorem step? : Option.Rel related (player.journal.step? player.state.cursor)
    (other.journal.step? other.state.cursor) := by
  rw [← echoes.cursor]
  exact rel_getElem? echoes.steps player.state.cursor

theorem scene : other.scene = { player.scene with recorded := other.journal.files } := by
  rw [Player.scene, echoes.settings, echoes.now, echoes.state]
  rfl

/-- The players stand in one state again after they did the same to it. -/
theorem withState {state state' : State}
    (same : state' = { state with journalId := state'.journalId }) :
    (player.withState state).Echoes mode related (other.withState state') where
  follows := echoes.follows
  steps := echoes.steps
  files := echoes.files
  settings := echoes.settings
  now := echoes.now
  state := same

end Fields

/-- Related steps that agree are skipped together, rejected for the same reason or replayed to the
same effect on the state. -/
theorem next (agrees : ∀ step other, related step other → step.Agrees mode other)
    (echoes : player.Echoes mode related other) :
    Returned.Alike (Outcome.Echoes related) (.outcome player.next.1) (.outcome other.next.1) ∧
      player.next.2.Echoes mode related other.next.2 := by
  have turn := player.next_turn
  generalize player.next = taken at turn ⊢
  obtain ⟨result, after⟩ := taken
  dsimp only at turn ⊢
  have under := echoes.step?
  have cursor := echoes.cursor
  have settings := echoes.settings
  have state := echoes.state
  cases turn with
  | exhausted finished =>
      rw [finished] at under
      rw [(Turn.exhausted (none_of_rel under)).next, echoes.length]
      exact ⟨.fault _, echoes⟩
  | skipped step found skip =>
      rw [found] at under
      obtain ⟨another, foundAgain, same⟩ := exists_of_rel under
      rw [(Turn.skipped another foundAgain (by rwa [settings, ← cursor])).next]
      refine ⟨.outcome (.skipped same), echoes.withState ?_⟩
      rw [settings, state]
      rfl
  | rejected step found kept rejection refused =>
      rw [found] at under
      obtain ⟨another, foundAgain, same⟩ := exists_of_rel under
      have refusedAgain : another.refusal? other.settings = some rejection := by
        rw [settings, ← (agrees step another same).refusal?, refused]
      rw [(Turn.rejected another foundAgain (by rwa [settings, ← cursor]) rejection
        refusedAgain).next, ← cursor]
      refine ⟨.fault _, echoes.withState ?_⟩
      rw [settings, state]
      rfl
  | replayed step found kept accepted =>
      rw [found] at under
      obtain ⟨another, foundAgain, same⟩ := exists_of_rel under
      have agree := agrees step another same
      have acceptedAgain : another.refusal? other.settings = none := by
        rw [settings, ← agree.refusal?, accepted]
      have intended : another.intended other.scene =
          { step.intended player.scene with edits := another.shownEdits } := by
        rw [echoes.scene]
        exact agree.intended echoes.follows echoes.files
      rw [(Turn.replayed another foundAgain (by rwa [settings, ← cursor]) acceptedAgain).next,
        intended]
      refine ⟨.outcome (.replayed same _ _), echoes.withState ?_⟩
      rw [settings, state]
      rfl

theorem lockstep (agrees : ∀ step other, related step other → step.Agrees mode other) :
    Lockstep (Outcome.Echoes related) (Player.Echoes mode related) where
  cursor := cursor
  length := length
  last echoes := by rw [echoes.settings]
  stops echoes same := by rw [same.hasDivergence, echoes.settings]
  next := next agrees
  moveTo echoes index := echoes.withState <| by
    rw [echoes.settings, echoes.state]
    rfl
  pause echoes := echoes.withState <| by
    rw [echoes.state]
  resume echoes := echoes.withState <| by
    rw [echoes.state]

/-- Players start together on journals of related steps. -/
theorem start (now : Instant) (settings : Settings) {journal other : Journal}
    (steps : List.Forall₂ related journal.steps other.steps)
    (files : settings.mode = .simulate →
      ∀ path, journal.files.get? path = other.files.get? path) :
    (Player.start now journal settings).Echoes settings.mode related
      (Player.start now other settings) where
  follows := rfl
  steps := steps
  files := files
  settings := rfl
  now := rfl
  state := by
    have length : journal.length = other.length := steps.length_eq
    rw [Player.start, Player.start, length]
    rfl

end Player.Echoes

theorem Returned.Alike.mono {alike weaker : Outcome → Outcome → Prop} {returned other : Returned}
    (same : returned.Alike alike other)
    (weakens : ∀ outcome other, alike outcome other → weaker outcome other) :
    returned.Alike weaker other := by
  cases same with
  | fault fault => exact .fault fault
  | outcome same => exact .outcome (weakens _ _ same)
  | passage same => exact .passage ⟨same.outcomes.imp weakens, same.stop⟩
  | moved result => exact .moved result
  | nothing => exact .nothing

/-- The state names the journal through a whole run. -/
theorem Player.journalId_run (now : Instant) (journal : Journal) (settings : Settings)
    (operations : List Operation) :
    ((Player.start now journal settings).run operations).state.journalId = journal.id := by
  have history := (Player.start now journal settings).history_run operations
  exact congrArg State.journalId history.told

/-- Replays of two journals that agree go through the same states but for the name of the journal,
and hand back the same faults, stops, statuses and divergences. What else the journals hold has no
part in it, and without simulation neither have the files and the contents from before. -/
theorem replays_of_agreeing (now : Instant) (journal other : Journal) (settings : Settings)
    (agree : journal.Agrees settings.mode other) (operations : List Operation) :
    let player := (Player.start now journal settings).run operations
    let echo := (Player.start now other settings).run operations
    echo.state = { player.state with journalId := other.id } ∧
      ∀ operation, (player.perform operation).1.Alike Outcome.SameVerdict
        (echo.perform operation).1 := by
  intro player echo
  have lockstep := Player.Echoes.lockstep fun step other (same : step.Agrees settings.mode other) =>
    same
  have echoes : player.Echoes settings.mode (Step.Agrees settings.mode) echo :=
    lockstep.run (.start now settings agree.steps agree.files) operations
  have named : echo.state.journalId = other.id := Player.journalId_run now other settings operations
  refine ⟨named ▸ echoes.state, fun operation => ?_⟩
  exact (lockstep.perform echoes operation).1.mono fun _ _ same => same.sameVerdict fun _ _ => id

/-- The step of an edit too late as told by another recording, which remembers less of the files. -/
def Step.retold (before : String) (step : Step) : Step :=
  { step with
    id := "retold"
    number := step.number + 1
    description := "another recording"
    error := some "late"
    prompt := some "edit again"
    metadata := Table.empty.put "note" .null
    edit := step.edit.map fun edit => { edit with before := before, unified := some "-old" } }

/-- The edit too late as told by another recording, with other contents from before. -/
def Journal.retold (before : String) (files : Table Snapshot) : Journal :=
  { Journal.editedTooLate with
    id := "retold"
    prompt := some "edit again"
    steps := Journal.editedTooLate.steps.map (Step.retold before)
    files := files }

/-- A recording with other texts meets the same divergence. If it knows other contents from before,
it still applies the same changes, but a simulation would tell the two recordings apart. -/
theorem replays_of_retold :
    let simulated := Settings.ofMode .simulate
    let applied := Settings.ofMode .apply
    let known := Table.empty.put "b" (Snapshot.ofContent .epoch "b" "")
    let texts := Journal.retold "old" .empty
    let contents := Journal.retold "older" known
    let player := fun journal settings => (Player.start .epoch journal settings).run [.playToEnd]
    Journal.editedTooLate.Agrees simulated.mode texts ∧
      Journal.editedTooLate.Agrees applied.mode contents ∧
      (player texts simulated).state =
        { (player .editedTooLate simulated).state with journalId := "retold" } ∧
      (player contents applied).state =
        { (player .editedTooLate applied).state with journalId := "retold" } ∧
      (player texts simulated).state.divergences.map Divergence.expected = ["old"] ∧
      (player contents simulated).state.divergences.map Divergence.expected = ["older"] := by
  intro simulated applied known texts contents player
  have textsAgree : Journal.editedTooLate.Agrees simulated.mode texts :=
    ⟨.cons ⟨rfl, .some ⟨rfl, rfl, fun _ => rfl⟩, .none⟩
      (.cons ⟨rfl, .some ⟨rfl, rfl, fun _ => rfl⟩, .none⟩ (.cons ⟨rfl, .none, .none⟩ .nil)),
      fun _ _ => rfl⟩
  have contentsAgree : Journal.editedTooLate.Agrees applied.mode contents :=
    ⟨.cons ⟨rfl, .some ⟨rfl, rfl, nofun⟩, .none⟩
      (.cons ⟨rfl, .some ⟨rfl, rfl, nofun⟩, .none⟩ (.cons ⟨rfl, .none, .none⟩ .nil)), nofun⟩
  obtain ⟨simulates, _⟩ :=
    replays_of_agreeing .epoch .editedTooLate texts simulated textsAgree [.playToEnd]
  obtain ⟨applies, _⟩ :=
    replays_of_agreeing .epoch .editedTooLate contents applied contentsAgree [.playToEnd]
  exact ⟨textsAgree, contentsAgree, simulates, applies, by decide +kernel, by decide +kernel⟩

end Playback
