import Playback.Overview
import Playback.Proofs.Account

namespace Playback

namespace Turn

variable {player after : Player} {result : Except PlayFault Outcome} {outcome : Outcome}
  {step : Step} {path : String} {snapshot : Snapshot}

/-- A turn on a step that leaves no file behind changes no file. -/
theorem files_of_still (turn : Turn player result after)
    (found : player.journal.step? player.state.cursor = some step)
    (still : step.write? player.settings.mode player.now = none) :
    after.state.files = player.state.files ∧ after.state.applied = player.state.applied := by
  have nothing : Execution.writes player.settings.mode player.now
      (Execution.ofResult player.state.cursor result) = [] := by
    cases turn with
    | exhausted | rejected => rfl
    | skipped other same skip => rfl
    | replayed other same kept accepted =>
        obtain rfl := Option.some.inj (same.symm.trans found)
        simp [Execution.ofResult, still]
  rw [turn.state, State.take, nothing]
  simp

/-- A turn that replays a step takes over the file that it leaves behind. -/
theorem files_of_write (turn : Turn player (.ok outcome) after)
    (found : player.journal.step? player.state.cursor = some step)
    (kept : player.settings.skips.holds player.state.cursor = false)
    (written : step.write? player.settings.mode player.now = some (path, snapshot)) :
    after.state.files = player.state.files.put path snapshot ∧
      after.state.applied =
        player.state.applied ++ if player.settings.mode = .apply then [path] else [] := by
  have one : Execution.writes player.settings.mode player.now
      (Execution.ofResult player.state.cursor (.ok outcome)) = [(path, snapshot)] := by
    cases turn with
    | skipped other same skip =>
        rw [kept] at skip
        contradiction
    | replayed other same _ accepted =>
        obtain rfl := Option.some.inj (same.symm.trans found)
        simp [Execution.ofResult, written]
  rw [turn.state, State.take, one]
  exact ⟨rfl, rfl⟩

end Turn

/-- A successful build that recorded its file in the step of a started or a failed build. -/
structure Step.BuildsAside (step : Step) (build : Build) (after : Snapshot) : Prop where
  kind : step.kind = .buildStart ∨ step.kind = .buildError
  built : step.build = some build
  succeeded : build.succeeded = true
  left : build.after = some after

namespace Step

variable {step : Step} {mode : Mode} {now : Instant} {write : String × Snapshot}
  {build : Build} {after : Snapshot}

theorem write?_of_builds (builds : step.Builds build after) (acting : mode ≠ .readOnly) :
    step.write? mode now = some (build.path, builtSnapshot build now after) := by
  obtain ⟨kind, built, succeeded, left⟩ := builds
  have write : build.write? now = some (build.path, builtSnapshot build now after) := by
    simp [Build.write?, succeeded, left, builtSnapshot]
  have other : step.kind ≠ .fileDiff := by
    rcases kind with kind | kind | kind <;> simp [kind]
  rw [write?_of_not_edit now other acting, fileWrite?]
  rcases kind with kind | kind | kind <;> simp [kind, built, write]

theorem BuildsAside.builds (aside : step.BuildsAside build after) : step.Builds build after :=
  ⟨aside.kind.elim .inl (.inr ∘ .inr), aside.built, aside.succeeded, aside.left⟩

/-- Only a build aside leaves a file behind without being counted. -/
theorem buildsAside_of_write (harmless : step.isDestructive = false)
    (written : step.write? mode now = some write) : ∃ build after, step.BuildsAside build after := by
  have other : step.kind ≠ .fileDiff := by
    intro kind
    simp [isDestructive, kind] at harmless
  have acting : mode ≠ .readOnly := by
    rintro rfl
    contradiction
  rw [write?_of_not_edit now other acting, fileWrite?] at written
  rw [isDestructive] at harmless
  cases kind : step.kind with
  | fileWrite | fileRemove => simp [kind] at harmless
  | buildComplete =>
      rw [kind] at written harmless
      obtain ⟨build, built, left⟩ := Option.bind_eq_some_iff.mp written
      simp [built] at harmless
      simp [Build.write?, harmless] at left
  | buildStart | buildError =>
      rw [kind] at written
      obtain ⟨build, built, left⟩ := Option.bind_eq_some_iff.mp written
      rw [Build.write?] at left
      obtain ⟨succeeded, left⟩ := Option.ite_none_right_eq_some.mp left
      obtain ⟨after, recorded, _⟩ := Option.map_eq_some_iff.mp left
      exact ⟨build, after, by simp [kind], built, succeeded, recorded⟩
  | _ =>
      rw [kind] at written
      contradiction

end Step

/-- A journal of which no step is counted among those that change files. -/
theorem Journal.harmless_of_overview {journal : Journal} (harmless : journal.overview.fileSteps = 0)
    {step : Step} (member : step ∈ journal.steps) : step.isDestructive = false := by
  have none : ∀ step ∈ journal.steps, ¬ step.isDestructive = true := List.countP_eq_zero.mp harmless
  exact Bool.eq_false_iff.mpr (none step member)

/-- Without builds aside, a replay of uncounted steps leaves nothing behind. -/
theorem History.writes_of_harmless {now : Instant} {journal : Journal} {settings : Settings}
    {past : List Execution} {player : Player}
    (history : History (Player.start now journal settings) past player)
    (harmless : ∀ step ∈ journal.steps, step.isDestructive = false)
    (complete : ∀ step ∈ journal.steps, ∀ build after, ¬ step.BuildsAside build after) :
    Execution.writes settings.mode now past = [] := by
  apply List.filterMap_eq_nil_iff.mpr
  intro execution within
  obtain ⟨earlier, _, told⟩ := history.exists_told within
  cases told with
  | skipped index step found skip => rfl
  | replayed index step found kept accepted =>
      have member : step ∈ journal.steps := List.mem_of_getElem? found
      rw [Step.outcome_write?]
      cases written : step.write? settings.mode now with
      | none => rfl
      | some write =>
          obtain ⟨build, after, aside⟩ := Step.buildsAside_of_write (harmless step member) written
          exact absurd aside (complete step member build after)

/-- A turn on an uncounted step changes no file, but for a build aside, whose file it takes over. A
journal without counted steps and builds aside is replayed without touching a file. -/
theorem files_of_harmless (journal : Journal) :
    (∀ (player : Player) (step : Step), player.journal = journal →
      journal.step? player.state.cursor = some step → step.isDestructive = false →
      let state := player.next.2.state
      ((∀ build after, ¬ step.BuildsAside build after) →
        state.files = player.state.files ∧ state.applied = player.state.applied) ∧
      (∀ build after outcome, step.BuildsAside build after → player.settings.mode ≠ .readOnly →
        player.settings.skips.holds player.state.cursor = false → player.next.1 = .ok outcome →
        state.files = player.state.files.put build.path (Step.builtSnapshot build player.now after) ∧
          state.applied = player.state.applied ++
            if player.settings.mode = .apply then [build.path] else [])) ∧
    (journal.overview.fileSteps = 0 →
      (∀ step ∈ journal.steps, ∀ build after, ¬ step.BuildsAside build after) →
      ∀ now settings operations,
        let state := ((Player.start now journal settings).run operations).state
        state.files = .empty ∧ state.applied = []) := by
  constructor
  · rintro player step rfl found harmless state
    have turn := player.next_turn
    constructor
    · intro complete
      apply turn.files_of_still found
      refine Option.eq_none_iff_forall_ne_some.mpr fun write written => ?_
      obtain ⟨build, after, aside⟩ := Step.buildsAside_of_write harmless written
      exact complete build after aside
    · intro build after outcome aside acting kept accepted
      rw [accepted] at turn
      exact turn.files_of_write found kept (Step.write?_of_builds aside.builds acting)
  · intro harmless complete now settings operations state
    have history := (Player.start now journal settings).history_run operations
    have nothing := history.writes_of_harmless
      (fun step member => Journal.harmless_of_overview harmless member) complete
    have files : state.files = .ofList _ := history.files_told
    have applied : state.applied = _ := congrArg State.applied history.told
    rw [nothing] at files
    simp only [State.told, nothing, List.map_nil, ite_self] at applied
    exact ⟨files, applied⟩

/-- A journal of a prompt. -/
def Journal.prompted : Journal :=
  (Journal.start .epoch "journal").append (Step.bare .epoch "prompt" 0 .userPrompt)

/-- A journal of a prompt, and of a build that succeeded and is recorded as started only. -/
def Journal.builtAside : Journal :=
  Journal.prompted.append
    { Step.bare .epoch "build" 1 .buildStart with
      build := some
        { path := "a"
          tokens := 0
          finished := true
          removed := false
          succeeded := true
          error := none
          before := none
          after := some (.placeholder .epoch "a")
          edit := none } }

/-- The prompt changes nothing, and the build adds its file. -/
theorem files_of_builtAside :
    let player := Player.start .epoch .builtAside (.ofMode .apply)
    let built := player.next.2
    built.state.files = player.state.files ∧
      built.next.2.state.files = built.state.files.put "a" (.placeholder .epoch "a") ∧
      built.next.2.state.applied = built.state.applied ++ ["a"] ∧
      Journal.prompted.overview.fileSteps = 0 ∧
      ((Player.start .epoch .prompted (.ofMode .apply)).run [.playToEnd]).state.files = .empty := by
  intro player built
  obtain ⟨turns, _⟩ := files_of_harmless .builtAside
  obtain ⟨_, runs⟩ := files_of_harmless .prompted
  obtain ⟨still, _⟩ := turns player _ rfl rfl rfl
  obtain ⟨_, took⟩ := turns built _ rfl rfl rfl
  have aside : Step.BuildsAside (Journal.builtAside.steps[1]) _ _ := ⟨.inl rfl, rfl, rfl, rfl⟩
  obtain ⟨files, applied⟩ := took _ _ _ aside nofun rfl rfl
  have complete : ∀ step ∈ Journal.prompted.steps, ∀ build after, ¬ step.BuildsAside build after := by
    intro step member build after aside
    obtain rfl := List.mem_singleton.mp member
    exact nomatch aside.built
  exact ⟨(still fun build after aside => nomatch aside.built).1, files, applied, rfl,
    (runs rfl complete .epoch (.ofMode .apply) [.playToEnd]).1⟩

/-- No step of a journal need be counted for a replay to change files. -/
theorem not_harmless_of_builtAside :
    Journal.builtAside.overview.fileSteps = 0 ∧
      (∀ step ∈ Journal.builtAside.steps, step.isDestructive = false) ∧
      let player := Player.start .epoch .builtAside (.ofMode .apply)
      (player.run [.next]).next.2.state.files ≠ (player.run [.next]).state.files ∧
      (player.run [.playToEnd]).state.files ≠ .empty ∧
      (player.run [.playToEnd]).state.applied = ["a"] := by
  decide +kernel

end Playback
