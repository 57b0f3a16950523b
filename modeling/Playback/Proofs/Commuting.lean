import Mathlib.Logic.Equiv.Basic
import Playback.Proofs.Passage

namespace Playback

namespace Step

/-- The file that a step touches, if its kind is one to touch a file. -/
def touched? (step : Step) : Option String :=
  match step.kind with
  | .fileDiff => step.edit.map Edit.path
  | .fileWrite | .fileRemove => step.path?
  | .buildStart | .buildComplete | .buildError => step.build.map Build.path
  | _ => none

/-- No file is touched by both steps. -/
def Apart (step other : Step) : Prop :=
  ∀ path, step.touched? = some path → other.touched? ≠ some path

/-- The step has an effect somewhere under the settings. -/
def Accepted (step : Step) (settings : Settings) : Prop :=
  ∃ scene effect, scene.settings = settings ∧ step.effect scene = .ok effect

end Step

/-- The step at a position and the one after it change places. -/
def Journal.exchanged (journal : Journal) (index : Nat) : Journal :=
  match journal.step? index, journal.step? (index + 1) with
  | some first, some second =>
      { journal with steps := (journal.steps.set index second).set (index + 1) first }
  | _, _ => journal

/-- The steps at a position and after it are accepted and touch no common file. -/
structure Journal.Independent (journal : Journal) (settings : Settings) (index : Nat)
    (first second : Step) : Prop where
  found : journal.step? index = some first
  next : journal.step? (index + 1) = some second
  accepted : first.Accepted settings
  nextAccepted : second.Accepted settings
  apart : first.Apart second

/-- No step is skipped, and a passage to the end stops at no other place unless it fails. -/
structure Settings.Whole (settings : Settings) : Prop where
  keeps : ∀ index, settings.skips.holds index = false
  unbounded : settings.last = none
  goes : settings.stopsAtDivergence = false

/-- The same divergence of a step that is now at the other one of two neighbouring positions. -/
def Divergence.exchanged (index : Nat) (divergence : Divergence) : Divergence :=
  { divergence with index := Equiv.swap index (index + 1) divergence.index }

def Effect.exchanged (index : Nat) (effect : Effect) : Effect :=
  { effect with divergence := effect.divergence.map (Divergence.exchanged index) }

/-- The states agree on every file. The applied changes and the divergences may come in another
order, the latter after an exchange of two positions. -/
structure State.Exchanged (index : Nat) (state other : State) : Prop where
  same : other =
    { state with
      files := other.files
      divergences := other.divergences
      applied := other.applied }
  tracked : ∀ path, other.tracked? path = state.tracked? path
  applied : other.applied.Perm state.applied
  divergences : other.divergences.Perm (state.divergences.map (Divergence.exchanged index))

/-- One player replays the journal of the other one after an exchange of two steps. -/
structure Player.Exchanged (index : Nat) (player other : Player) : Prop where
  journal : other.journal = player.journal.exchanged index
  settings : other.settings = player.settings
  now : other.now = player.now
  state : player.state.Exchanged index other.state

namespace Journal

variable {journal : Journal} {index : Nat} {first second : Step}

theorem exchanged_of_found (found : journal.step? index = some first)
    (next : journal.step? (index + 1) = some second) :
    journal.exchanged index =
      { journal with steps := (journal.steps.set index second).set (index + 1) first } := by
  rw [exchanged, found, next]

@[simp] theorem length_exchanged (journal : Journal) (index : Nat) :
    (journal.exchanged index).length = journal.length := by
  rw [exchanged]
  split
  · simp [length]
  · rfl

@[simp] theorem files_exchanged (journal : Journal) (index : Nat) :
    (journal.exchanged index).files = journal.files := by
  rw [exchanged]
  split <;> rfl

@[simp] theorem id_exchanged (journal : Journal) (index : Nat) :
    (journal.exchanged index).id = journal.id := by
  rw [exchanged]
  split <;> rfl

/-- All other steps keep their places. -/
theorem step?_exchanged_of_ne {position : Nat} (here : position ≠ index)
    (next : position ≠ index + 1) :
    (journal.exchanged index).step? position = journal.step? position := by
  rw [exchanged]
  split
  · simp only [step?]
    rw [List.getElem?_set_ne (Ne.symm next), List.getElem?_set_ne (Ne.symm here)]
  · rfl

theorem step?_exchanged_first (found : journal.step? index = some first)
    (next : journal.step? (index + 1) = some second) :
    (journal.exchanged index).step? index = some second := by
  rw [exchanged_of_found found next]
  simp only [step?]
  rw [List.getElem?_set_ne (Nat.succ_ne_self index),
    List.getElem?_set_self (lt_length_of_step found)]

theorem step?_exchanged_second (found : journal.step? index = some first)
    (next : journal.step? (index + 1) = some second) :
    (journal.exchanged index).step? (index + 1) = some first := by
  rw [exchanged_of_found found next]
  simp only [step?]
  rw [List.getElem?_set_self]
  rw [List.length_set]
  exact lt_length_of_step next

end Journal

theorem Build.path_of_write {build : Build} {now : Instant} {write : String × Snapshot}
    (written : build.write? now = some write) : write.1 = build.path := by
  rw [Build.write?] at written
  split at written
  · obtain ⟨_, _, rfl⟩ := Option.map_eq_some_iff.mp written
    rfl
  · contradiction

namespace Step

variable {step : Step}

/-- Acceptance is a matter of the settings alone. -/
theorem accepted_iff {settings : Settings} :
    step.Accepted settings ↔ step.refusal? settings = none := by
  constructor
  · rintro ⟨scene, effect, rfl, accepted⟩
    exact (intended_of_ok accepted).1
  · intro accepted
    exact ⟨⟨settings, .epoch, .empty, .empty, 0⟩, _, rfl, effect_of_accepted accepted⟩

theorem touched?_of_editWrite {now : Instant} {write : String × Snapshot}
    (written : step.editWrite? now = some write) : step.touched? = some write.1 := by
  rw [editWrite?] at written
  split at written
  · rename_i kind
    obtain ⟨edit, edited, rfl⟩ := Option.map_eq_some_iff.mp written
    rw [touched?, kind, edited]
    rfl
  · contradiction

theorem touched?_of_fileWrite {now : Instant} {write : String × Snapshot}
    (written : step.fileWrite? now = some write) : step.touched? = some write.1 := by
  cases kind : step.kind with
  | fileWrite | fileRemove =>
      rw [fileWrite?, kind] at written
      obtain ⟨path, touched, rfl⟩ := Option.map_eq_some_iff.mp written
      rw [touched?, kind, touched]
  | buildStart | buildComplete | buildError =>
      rw [fileWrite?, kind] at written
      obtain ⟨build, built, left⟩ := Option.bind_eq_some_iff.mp written
      rw [touched?, kind, built, Option.map_some, Build.path_of_write left]
  | _ =>
      rw [fileWrite?, kind] at written
      contradiction

/-- A step leaves no other file behind than the one that it touches. -/
theorem touched?_of_write {mode : Mode} {now : Instant} {write : String × Snapshot}
    (written : step.write? mode now = some write) : step.touched? = some write.1 := by
  cases mode with
  | readOnly => contradiction
  | simulate => exact touched?_of_fileWrite written
  | apply =>
      rcases Option.or_eq_some_iff.mp written with edited | ⟨_, written⟩
      · exact touched?_of_editWrite edited
      · exact touched?_of_fileWrite written

theorem touched?_of_tracked {scene : Scene} {path : String}
    (tracked : (step.intended scene).tracked.map Snapshot.path = some path) :
    step.touched? = some path := by
  obtain ⟨snapshot, left, rfl⟩ := Option.map_eq_some_iff.mp tracked
  obtain ⟨write, written, rfl⟩ := Option.map_eq_some_iff.mp left
  rw [touched?_of_write written, write?_path written]

/-- A step compares no other file than the one that it touches. -/
theorem touched?_of_comparedEdit {edit : Edit} (compared : step.comparedEdit? = some edit) :
    step.touched? = some edit.path := by
  rw [comparedEdit?] at compared
  split at compared
  · rename_i kind
    rw [touched?, kind, compared]
    rfl
  · contradiction

/-- What a step is meant to do depends on the tracked files through the file that it touches, and on
the position of the step through the record of the divergence. -/
theorem intended_exchanged {scene another : Scene} {index : Nat}
    (same : another =
      { scene with
        tracked := another.tracked
        index := Equiv.swap index (index + 1) scene.index })
    (agree : ∀ path, step.touched? = some path →
      another.tracked.get? path = scene.tracked.get? path) :
    step.intended another = (step.intended scene).exchanged index := by
  rw [same, intended, intended, Effect.exchanged]
  congr 1
  rw [divergence?, divergence?]
  cases mode : scene.settings.mode with
  | readOnly | apply => rfl
  | simulate =>
      cases compared : step.comparedEdit? with
      | none => rfl
      | some edit =>
          have known : Evidence.of? scene.recorded another.tracked edit.path =
              Evidence.of? scene.recorded scene.tracked edit.path := by
            rw [Evidence.of?, agree edit.path (touched?_of_comparedEdit compared), Evidence.of?]
          simp only [Option.bind_some, Divergence.detect?, known]
          split
          · rfl
          · split <;> rfl

end Step

namespace State

variable (state : State) (settings : Settings)

/-- An effect takes over the file that it tracks and no other one. -/
theorem tracked?_absorb (effect : Effect) (path : String) :
    (state.absorb settings effect).tracked? path =
      match effect.tracked with
      | none => state.tracked? path
      | some snapshot => if path = snapshot.path then some snapshot else state.tracked? path := by
  rw [tracked?, absorb]
  cases effect.tracked with
  | none => rfl
  | some snapshot => exact Table.get?_put _ _ _ _

/-- A step leaves all files alone that it does not touch. -/
theorem tracked?_absorb_intended (scene : Scene) {step : Step} {path : String}
    (other : step.touched? ≠ some path) :
    (state.absorb settings (step.intended scene)).tracked? path = state.tracked? path := by
  rw [tracked?_absorb]
  split
  · rfl
  · rename_i snapshot tracked
    rw [if_neg]
    rintro rfl
    exact other (Step.touched?_of_tracked (congrArg (Option.map Snapshot.path) tracked))

end State

namespace State.Exchanged

variable {index : Nat} {state other : State} (exchanged : state.Exchanged index other)
include exchanged

theorem cursor : other.cursor = state.cursor := by
  rw [exchanged.same]

theorem advance (settings : Settings) :
    (state.advance settings).Exchanged index (other.advance settings) where
  same := by
    rw [exchanged.same]
    rfl
  tracked := exchanged.tracked
  applied := exchanged.applied
  divergences := exchanged.divergences

theorem pauseIf (condition : Bool) :
    (state.pauseIf condition).Exchanged index (other.pauseIf condition) where
  same := by
    rw [exchanged.same]
    rfl
  tracked := exchanged.tracked
  applied := exchanged.applied
  divergences := exchanged.divergences

/-- Both states take the same effect into their books. -/
theorem absorb (settings : Settings) (effect : Effect) :
    (state.absorb settings effect).Exchanged index
      (other.absorb settings (effect.exchanged index)) where
  same := by
    rw [exchanged.same]
    rfl
  tracked path := by
    rw [State.tracked?_absorb, State.tracked?_absorb, exchanged.tracked]
    rfl
  applied := by
    simp only [State.absorb]
    split
    · exact exchanged.applied.append_right _
    · exact exchanged.applied
  divergences := by
    simp only [State.absorb]
    rw [List.map_append]
    refine exchanged.divergences.append (.of_eq ?_)
    cases effect
    exact Option.toList_map ..

/-- The effects on different files may come in any order. -/
theorem swapped (settings : Settings) (first second : Effect)
    (apart : ∀ path, first.tracked.map Snapshot.path = some path →
      second.tracked.map Snapshot.path ≠ some path) :
    ((state.absorb settings first).absorb settings second).Exchanged index
      ((other.absorb settings (second.exchanged index)).absorb settings
        (first.exchanged index)) where
  same := by
    rw [exchanged.same]
    rfl
  tracked path := by
    simp only [State.tracked?_absorb, exchanged.tracked, Effect.exchanged]
    cases one : first.tracked with
    | none => rfl
    | some snapshot =>
        cases two : second.tracked with
        | none => rfl
        | some another =>
            have different : snapshot.path ≠ another.path := fun same =>
              apart snapshot.path (by rw [one]; rfl) (by rw [two, same]; rfl)
            dsimp only
            split
            · rename_i here
              rw [if_neg (here ▸ different)]
            · rfl
  applied := by
    simp only [State.absorb]
    split
    · rw [List.append_assoc, List.append_assoc]
      exact exchanged.applied.append List.perm_append_comm
    · exact exchanged.applied
  divergences := by
    simp only [State.absorb]
    rw [List.map_append, List.map_append, List.append_assoc, List.append_assoc]
    refine exchanged.divergences.append (List.perm_append_comm.trans (.of_eq ?_))
    cases first
    cases second
    exact congrArg₂ _ (Option.toList_map ..) (Option.toList_map ..)

end State.Exchanged

/-- The player after a step that is replayed. -/
def Player.replaying (player : Player) (step : Step) : Player :=
  player.withState
    (((player.state.absorb player.settings (step.intended player.scene)).advance
      player.settings).pauseIf (player.settings.pausesAfter.holds player.state.cursor))

/-- The passage of the player ends as the passage of another one does. -/
structure Player.Continues (last : Nat) (player other : Player) : Prop where
  stop : (player.playThrough last).1.stop = (other.playThrough last).1.stop
  after : (player.playThrough last).2 = (other.playThrough last).2

theorem Player.Continues.trans {last : Nat} {player other third : Player}
    (first : player.Continues last other) (second : other.Continues last third) :
    player.Continues last third :=
  ⟨first.stop.trans second.stop, first.after.trans second.after⟩

namespace Player

variable (player : Player) (step : Step)

theorem settings_replaying : (player.replaying step).settings = player.settings := rfl

theorem cursor_replaying : (player.replaying step).state.cursor = player.state.cursor + 1 := rfl

theorem state_replaying :
    (player.replaying step).state =
      ((player.state.absorb player.settings (step.intended player.scene)).advance
        player.settings).pauseIf (player.settings.pausesAfter.holds player.state.cursor) := rfl

theorem scene_replaying :
    (player.replaying step).scene =
      { player.scene with
        tracked := (player.replaying step).state.files
        index := player.state.cursor + 1 } := rfl

variable {player step}

/-- A step that is accepted and not skipped is replayed. -/
theorem exists_replaying (whole : player.settings.Whole)
    (found : player.journal.step? player.state.cursor = some step)
    (accepted : step.Accepted player.settings) :
    ∃ outcome, Turn player (.ok outcome) (player.replaying step) :=
  ⟨_, .replayed step found (whole.keeps _) (Step.accepted_iff.mp accepted)⟩

/-- Without stops at divergences a passage goes on after each turn that succeeds. -/
theorem Continues.of_turn {after : Player} {outcome : Outcome} {last : Nat}
    (due : player.Due last) (turn : Turn player (.ok outcome) after)
    (whole : player.settings.Whole) : player.Continues last after := by
  have goes (stops : player.settings.stopsAtDivergence = true) : outcome.hasDivergence = false :=
    absurd stops (Bool.eq_false_iff.mp whole.goes)
  constructor <;> rw [playThrough_onward due turn goes]

/-- A passage over two steps that are replayed goes on after them. -/
theorem continues_replaying {next : Step} {last : Nat} (whole : player.settings.Whole)
    (within : player.state.cursor < last)
    (found : player.journal.step? player.state.cursor = some step)
    (accepted : step.Accepted player.settings)
    (foundNext : player.journal.step? (player.state.cursor + 1) = some next)
    (acceptedNext : next.Accepted player.settings) :
    player.Continues last ((player.replaying step).replaying next) := by
  obtain ⟨_, turn⟩ := exists_replaying whole found accepted
  have wholeNext : (player.replaying step).settings.Whole := whole
  obtain ⟨_, turnNext⟩ := exists_replaying wholeNext foundNext acceptedNext
  have due : player.Due last := ⟨Nat.le_of_lt within, Journal.lt_length_of_step found⟩
  have dueNext : (player.replaying step).Due last :=
    ⟨within, Journal.lt_length_of_step foundNext⟩
  exact (Continues.of_turn due turn whole).trans (.of_turn dueNext turnNext wholeNext)

end Player

namespace Player.Exchanged

variable {index last : Nat} {player other after : Player} {outcome : Outcome} {fault : PlayFault}

section Fields

variable (exchanged : player.Exchanged index other)
include exchanged

theorem cursor : other.state.cursor = player.state.cursor := exchanged.state.cursor

theorem length : other.journal.length = player.journal.length := by
  rw [exchanged.journal, Journal.length_exchanged]

theorem due_iff : other.Due last ↔ player.Due last := by
  rw [Due, Due, exchanged.cursor, exchanged.length]

theorem scene : other.scene = { player.scene with tracked := other.state.files } := by
  rw [Player.scene, exchanged.settings, exchanged.now, exchanged.cursor, exchanged.journal,
    Journal.files_exchanged]
  rfl

/-- The players stay related if their states do. -/
theorem withState {state state' : State} (related : state.Exchanged index state') :
    (player.withState state).Exchanged index (other.withState state') where
  journal := exchanged.journal
  settings := exchanged.settings
  now := exchanged.now
  state := related

/-- Away from the exchanged steps both players stand on the same step. -/
theorem step? (here : player.state.cursor ≠ index) (next : player.state.cursor ≠ index + 1) :
    other.journal.step? other.state.cursor = player.journal.step? player.state.cursor := by
  rw [exchanged.journal, exchanged.cursor, Journal.step?_exchanged_of_ne here next]

/-- Away from the exchanged steps both players fail together. -/
theorem exists_of_error (here : player.state.cursor ≠ index)
    (next : player.state.cursor ≠ index + 1) (turn : Turn player (.error fault) after) :
    ∃ final, Turn other (.error fault) final ∧ after.Exchanged index final := by
  have under := exchanged.step? here next
  cases turn with
  | exhausted finished =>
      refine ⟨other, ?_, exchanged⟩
      rw [← exchanged.length]
      exact .exhausted (under.trans finished)
  | rejected step found kept rejection refused =>
      have keptAgain : other.settings.skips.holds other.state.cursor = false := by
        rwa [exchanged.settings, exchanged.cursor]
      have refusedAgain : step.refusal? other.settings = some rejection := by
        rwa [exchanged.settings]
      have again := Turn.rejected step (under.trans found) keptAgain rejection refusedAgain
      rw [exchanged.cursor, exchanged.settings] at again
      exact ⟨_, again, exchanged.withState (exchanged.state.advance player.settings)⟩

/-- Away from the exchanged steps both players replay a step to the same effect. -/
theorem exists_of_ok (whole : player.settings.Whole) (here : player.state.cursor ≠ index)
    (next : player.state.cursor ≠ index + 1) (turn : Turn player (.ok outcome) after) :
    ∃ another final, Turn other (.ok another) final ∧ after.Exchanged index final := by
  have under := exchanged.step? here next
  cases turn with
  | skipped step found skip =>
      rw [whole.keeps] at skip
      contradiction
  | replayed step found kept accepted =>
      have intended : step.intended other.scene =
          (step.intended player.scene).exchanged index := by
        refine Step.intended_exchanged ?_ fun path _ => exchanged.state.tracked path
        rw [exchanged.scene, show player.scene.index = player.state.cursor from rfl,
          Equiv.swap_apply_of_ne_of_ne here next]
        rfl
      have keptAgain : other.settings.skips.holds other.state.cursor = false := by
        rwa [exchanged.settings, exchanged.cursor]
      have acceptedAgain : step.refusal? other.settings = none := by
        rwa [exchanged.settings]
      have again := Turn.replayed step (under.trans found) keptAgain acceptedAgain
      rw [exchanged.cursor, exchanged.settings, intended] at again
      exact ⟨_, _, again, exchanged.withState
        (((exchanged.state.absorb _ _).advance _).pauseIf _)⟩

/-- Neither of two steps on different files notices whether the other one comes first. -/
theorem replaying {first second : Step} (apart : first.Apart second)
    (here : player.state.cursor = index) :
    ((player.replaying first).replaying second).Exchanged index
      ((other.replaying second).replaying first) := by
  have firstIntended : first.intended (other.replaying second).scene =
      (first.intended player.scene).exchanged index := by
    refine Step.intended_exchanged ?_ fun path touched => ?_
    · rw [scene_replaying, exchanged.scene, exchanged.cursor,
        show player.scene.index = index from here, Equiv.swap_apply_left, here]
    · have kept := other.state.tracked?_absorb_intended other.settings
        other.scene (apart path touched)
      exact kept.trans (exchanged.state.tracked path)
  have secondIntended : second.intended other.scene =
      (second.intended (player.replaying first).scene).exchanged index := by
    refine Step.intended_exchanged ?_ fun path touched => ?_
    · rw [scene_replaying, exchanged.scene, here, Equiv.swap_apply_right]
      exact congrArg (fun position => { player.scene with
        tracked := other.state.files, index := position }) here
    · have untouched : first.touched? ≠ some path := fun both => apart path both touched
      have kept := player.state.tracked?_absorb_intended player.settings
        player.scene untouched
      exact (exchanged.state.tracked path).trans kept.symm
  have swapped := exchanged.state.swapped player.settings (first.intended player.scene)
    (second.intended (player.replaying first).scene) fun path written again =>
      apart path (Step.touched?_of_tracked written) (Step.touched?_of_tracked again)
  refine exchanged.withState ?_
  rw [firstIntended, Player.cursor_replaying, Player.cursor_replaying, Player.settings_replaying,
    Player.settings_replaying, Player.state_replaying, Player.state_replaying, secondIntended,
    exchanged.settings, exchanged.cursor]
  -- A move of the cursor touches no book, so both effects may be taken in before the moves.
  exact (((swapped.advance _).pauseIf _).advance _).pauseIf _

end Fields

/-- Both players go over the exchanged steps and agree after them. -/
theorem exists_continues {first second : Step} (exchanged : player.Exchanged index other)
    (whole : player.settings.Whole)
    (independent : player.journal.Independent player.settings index first second)
    (far : index < last) (here : player.state.cursor = index) :
    ∃ final final', player.Continues last final ∧ other.Continues last final' ∧
      final.Exchanged index final' ∧ final.state.cursor = index + 2 ∧
      final.journal = player.journal ∧ final.settings = player.settings := by
  obtain ⟨found, next, accepted, nextAccepted, apart⟩ := independent
  have foundAgain := Journal.step?_exchanged_first found next
  have nextAgain := Journal.step?_exchanged_second found next
  rw [← exchanged.journal] at foundAgain nextAgain
  have settings := exchanged.settings
  have hereAgain : other.state.cursor = index := exchanged.cursor.trans here
  refine ⟨(player.replaying first).replaying second, (other.replaying second).replaying first,
    ?_, ?_, exchanged.replaying apart here, ?_, rfl, rfl⟩
  · rw [← here] at found next far
    exact continues_replaying whole far found accepted next nextAccepted
  · rw [← hereAgain] at foundAgain nextAgain far
    rw [← settings] at whole accepted nextAccepted
    exact continues_replaying whole far foundAgain nextAccepted nextAgain accepted
  · rw [cursor_replaying, cursor_replaying, here]

/-- The passages of both players stop alike, whatever comes before and after the exchanged steps. -/
theorem playThrough {first second : Step} (exchanged : player.Exchanged index other)
    (whole : player.settings.Whole)
    (independent : player.journal.Independent player.settings index first second)
    (far : index < last) (place : player.state.cursor ≠ index + 1) :
    (other.playThrough last).1.stop = (player.playThrough last).1.stop ∧
      (player.playThrough last).2.Exchanged index (other.playThrough last).2 := by
  -- The induction is on the steps that are left, of which the exchanged ones are taken together.
  induction left : player.journal.length - player.state.cursor using Nat.strongRecOn
    generalizing player other with
  | _ count inductionHypothesis =>
  have continued {final final' : Player} (continues : player.Continues last final)
      (again : other.Continues last final') (related : final.Exchanged index final')
      (journal : final.journal = player.journal) (settings : final.settings = player.settings)
      (moved : player.state.cursor < final.state.cursor)
      (inside : player.state.cursor < player.journal.length)
      (place : final.state.cursor ≠ index + 1) :
      (other.playThrough last).1.stop = (player.playThrough last).1.stop ∧
        (player.playThrough last).2.Exchanged index (other.playThrough last).2 := by
    rw [continues.stop, continues.after, again.stop, again.after]
    refine inductionHypothesis (final.journal.length - final.state.cursor) ?_ related
      (settings ▸ whole) (by rwa [journal, settings]) place rfl
    rw [journal]
    omega
  by_cases due : player.Due last
  · by_cases here : player.state.cursor = index
    · obtain ⟨final, final', continues, again, related, moved, journal, settings⟩ :=
        exchanged.exists_continues whole independent far here
      exact continued continues again related journal settings (by omega) due.2 (by omega)
    · have dueAgain := exchanged.due_iff.mpr due
      have turn := player.next_turn
      generalize player.next = taken at turn
      rcases taken with ⟨fault | outcome, after⟩
      · obtain ⟨final, again, related⟩ := exchanged.exists_of_error here place turn
        rw [playThrough_of_error due turn, playThrough_of_error dueAgain again]
        exact ⟨rfl, related⟩
      · obtain ⟨another, final, again, related⟩ := exchanged.exists_of_ok whole here place turn
        obtain ⟨journal, settings, _⟩ := turn.fixed
        have moved := turn.cursor_of_ok
        exact continued (.of_turn due turn whole)
          (.of_turn dueAgain again (exchanged.settings ▸ whole)) related journal settings
          (by omega) due.2 (by omega)
  · rw [playThrough_of_ended due, playThrough_of_ended (mt exchanged.due_iff.mp due)]
    exact ⟨rfl, exchanged⟩

/-- Before the first step there is nothing to tell the journals apart. -/
theorem start (now : Instant) (journal : Journal) (settings : Settings) (index : Nat) :
    (Player.start now journal settings).Exchanged index
      (Player.start now (journal.exchanged index) settings) where
  journal := rfl
  settings := rfl
  now := rfl
  state := by
    rw [Player.start, Player.start, Journal.length_exchanged, Journal.id_exchanged]
    exact ⟨rfl, fun _ => rfl, .nil, .nil⟩

end Player.Exchanged

theorem Player.playToEnd_of_whole {player : Player} (whole : player.settings.Whole) :
    player.playToEnd = player.playThrough (player.journal.length - 1) := by
  rw [playToEnd, whole.unbounded]
  rfl

/-- If two neighbouring steps on different files are accepted, then a replay that does not start
between them ends the same way after their exchange, with the same files, with the same changes of
each file, and with the same divergences but for the positions of the two steps. -/
theorem ends_of_independent (now : Instant) (journal : Journal) (settings : Settings) (index : Nat)
    (first second : Step) (independent : journal.Independent settings index first second)
    (whole : settings.Whole) (outside : settings.first.toNat ≠ index + 1) :
    let taken := (Player.start now journal settings).playToEnd
    let again := (Player.start now (journal.exchanged index) settings).playToEnd
    again.2.state.cursor = taken.2.state.cursor ∧ again.1.stop = taken.1.stop ∧
      (∀ path, again.2.state.tracked? path = taken.2.state.tracked? path) ∧
      again.2.state.applied.Perm taken.2.state.applied ∧
      (∀ path, again.2.state.applied.filter (· = path) =
        taken.2.state.applied.filter (· = path)) ∧
      again.2.state.divergences.Perm
        (taken.2.state.divergences.map (Divergence.exchanged index)) := by
  intro taken again
  have inside := Journal.lt_length_of_step independent.next
  have place : (Player.start now journal settings).state.cursor ≠ index + 1 := by
    change min settings.first.toNat journal.length ≠ index + 1
    omega
  have far : index < journal.length - 1 := by omega
  have ended : taken = (Player.start now journal settings).playThrough (journal.length - 1) :=
    Player.playToEnd_of_whole whole
  have endedAgain : again = (Player.start now (journal.exchanged index) settings).playThrough
      ((journal.exchanged index).length - 1) :=
    Player.playToEnd_of_whole whole
  rw [Journal.length_exchanged] at endedAgain
  obtain ⟨stop, related⟩ := (Player.Exchanged.start now journal settings index).playThrough whole
    independent far place
  rw [← ended, ← endedAgain] at stop related
  have state := related.state
  refine ⟨state.cursor, stop, state.tracked, state.applied, fun path => ?_, state.divergences⟩
  rw [List.filter_eq, List.filter_eq, state.applied.count_eq]

/-- A journal of an edit too late, a write of another file and a write without a path. -/
def Journal.editedAndWritten : Journal :=
  { Journal.start .epoch "journal" with
    steps :=
      [{ Step.bare .epoch "removal" 0 .fileRemove with edit := some (.between "a" "old" "") },
        { Step.bare .epoch "edit" 1 .fileDiff with edit := some (.between "a" "old" "new") },
        { Step.bare .epoch "write" 2 .fileWrite with edit := some (.between "b" "" "new") },
        { Step.bare .epoch "unnamed" 3 .fileWrite with edit := some (.between "" "" "new") }] }

/-- With the write before the edit, the divergence is met later in a simulation and the changes are
applied in the other order, and nothing else is different about the failing replays. -/
theorem ends_of_editedAndWritten :
    let journal := Journal.editedAndWritten
    let taken := fun (journal : Journal) mode =>
      (Player.start .epoch journal (.ofMode mode)).playToEnd
    let simulated := taken journal .simulate
    let simulatedAgain := taken (journal.exchanged 1) .simulate
    let applied := taken journal .apply
    let appliedAgain := taken (journal.exchanged 1) .apply
    simulatedAgain.1.stop = simulated.1.stop ∧
      simulated.1.stop = .failed (.rejected 3 "file step has an empty path") ∧
      simulatedAgain.2.state.divergences.Perm
        (simulated.2.state.divergences.map (Divergence.exchanged 1)) ∧
      simulated.2.state.divergences.map Divergence.index = [1] ∧
      simulatedAgain.2.state.divergences.map Divergence.index = [2] ∧
      appliedAgain.2.state.applied.Perm applied.2.state.applied ∧
      applied.2.state.applied = ["a", "a", "b"] ∧
      appliedAgain.2.state.applied = ["a", "b", "a"] := by
  have accepted (mode : Mode) : Journal.editedAndWritten.Independent (.ofMode mode) 1
      { Step.bare .epoch "edit" 1 .fileDiff with edit := some (.between "a" "old" "new") }
      { Step.bare .epoch "write" 2 .fileWrite with edit := some (.between "b" "" "new") } :=
    ⟨rfl, rfl, Step.accepted_iff.mpr (by cases mode <;> rfl),
      Step.accepted_iff.mpr (by cases mode <;> rfl), by
        rintro path touched again
        have both := touched.trans again.symm
        contradiction⟩
  have whole (mode : Mode) : (Settings.ofMode mode).Whole := ⟨fun _ => rfl, rfl, rfl⟩
  obtain ⟨_, stop, _, _, _, divergences⟩ :=
    ends_of_independent .epoch .editedAndWritten (.ofMode .simulate) 1 _ _ (accepted _) (whole _)
      (by decide)
  obtain ⟨_, _, _, applied, _⟩ :=
    ends_of_independent .epoch .editedAndWritten (.ofMode .apply) 1 _ _ (accepted _) (whole _)
      (by decide)
  exact ⟨stop, by decide +kernel, divergences, by decide +kernel, by decide +kernel, applied,
    by decide +kernel, by decide +kernel⟩

end Playback
