import Playback.Proofs.Books
import Playback.Proofs.Lockstep

namespace Playback

/-- All that an outcome tells besides its divergence. -/
def Outcome.withoutDivergence (outcome : Outcome) : Outcome := { outcome with divergence := none }

def Passage.withoutDivergences (passage : Passage) : Passage :=
  { passage with outcomes := passage.outcomes.map Outcome.withoutDivergence }

def Returned.withoutDivergences : Returned → Returned
  | .outcome result => .outcome (result.map Outcome.withoutDivergence)
  | .passage taken => .passage taken.withoutDivergences
  | .moved result => .moved result
  | .nothing => .nothing

/-- What is alike but for the divergences is the same without them. -/
theorem Returned.Alike.withoutDivergences {returned other : Returned}
    (alike : returned.Alike
      (fun outcome another => outcome.withoutDivergence = another.withoutDivergence) other) :
    returned.withoutDivergences = other.withoutDivergences := by
  cases alike with
  | fault fault => rfl
  | outcome same => exact congrArg (fun outcome => Returned.outcome (.ok outcome)) same
  | @passage passage another same =>
      have outcomes : passage.outcomes.map Outcome.withoutDivergence =
          another.outcomes.map Outcome.withoutDivergence := by
        rw [← List.forall₂_eq_eq_eq, List.forall₂_map_left_iff, List.forall₂_map_right_iff]
        exact same.outcomes
      rw [Returned.withoutDivergences, Returned.withoutDivergences, Passage.withoutDivergences,
        Passage.withoutDivergences, outcomes, same.stop]
  | moved result => rfl
  | nothing => rfl

namespace Execution

def withoutDivergence (execution : Execution) : Execution :=
  { execution with outcome := execution.outcome.withoutDivergence }

/-- The last execution that left a file behind under a path. -/
def lastOn? (mode : Mode) (now : Instant) (path : String) (past : List Execution) :
    Option Execution :=
  (past.filter fun execution =>
    (execution.outcome.write? mode now).map Prod.fst == some path).getLast?

end Execution

/-- Two states stand at the same step, pause alike and have skipped the same steps. -/
structure State.Alongside (state other : State) : Prop where
  cursor : state.cursor = other.cursor
  paused : state.paused = other.paused
  skipped : state.skipped = other.skipped

namespace State.Alongside

variable {state other : State} (alongside : state.Alongside other)
include alongside

theorem noteSkip (index : Nat) : (state.noteSkip index).Alongside (other.noteSkip index) where
  cursor := alongside.cursor
  paused := alongside.paused
  skipped := congrArg (fun skipped => skipped ++ [index]) alongside.skipped

theorem moveTo (settings : Settings) (mode : Mode) (index : Nat) :
    (state.moveTo settings index).Alongside (other.moveTo (settings.withMode mode) index) where
  cursor := rfl
  paused := congrArg (fun paused => paused || settings.pausesBefore.holds index) alongside.paused
  skipped := alongside.skipped

theorem advance (settings : Settings) (mode : Mode) :
    (state.advance settings).Alongside (other.advance (settings.withMode mode)) := by
  rw [State.advance, State.advance, alongside.cursor]
  exact alongside.moveTo settings mode (other.cursor + 1)

theorem pauseIf (condition : Bool) :
    (state.pauseIf condition).Alongside (other.pauseIf condition) where
  cursor := alongside.cursor
  paused := congrArg (fun paused => paused || condition) alongside.paused
  skipped := alongside.skipped

/-- What the effects of steps add to the books does not matter. -/
theorem absorb (settings : Settings) (mode : Mode) (effect another : Effect) :
    (state.absorb settings effect).Alongside (other.absorb (settings.withMode mode) another) where
  cursor := alongside.cursor
  paused := alongside.paused
  skipped := alongside.skipped

end State.Alongside

/-- One player simulates and the other one applies the same journal under the same settings, and
neither stops at divergences. -/
structure Rehearses (simulated applied : Player) : Prop where
  journal : simulated.journal = applied.journal
  simulating : simulated.settings.mode = .simulate
  applying : simulated.settings.withMode .apply = applied.settings
  endless : simulated.settings.stopsAtDivergence = false
  alongside : simulated.state.Alongside applied.state

namespace Step

variable (step : Step)

/-- Apart from the divergence an outcome depends on the shown edits only. -/
theorem outcome_withoutDivergence (effect : Effect) :
    (step.outcome effect).withoutDivergence = step.outcome (.shown effect.edits) := by
  rw [outcome, outcome]
  split <;> rfl

/-- Simulation and application refuse the same steps. -/
theorem refusal?_apply {settings : Settings} (simulating : settings.mode = .simulate) :
    step.refusal? (settings.withMode .apply) = step.refusal? settings := by
  rw [refusal?, refusal?, simulating]
  rfl

end Step

namespace Rehearses

variable {simulated applied : Player}

/-- Beyond their states nothing about the players changes. -/
theorem withState (related : Rehearses simulated applied) {state other : State}
    (alongside : state.Alongside other) :
    Rehearses (simulated.withState state) (applied.withState other) where
  journal := related.journal
  simulating := related.simulating
  applying := related.applying
  endless := related.endless
  alongside := alongside

/-- A turn of the application is the one of its rehearsal, but for the divergence. -/
theorem next (related : Rehearses simulated applied) :
    simulated.next.1.map Outcome.withoutDivergence =
        applied.next.1.map Outcome.withoutDivergence ∧
      Rehearses simulated.next.2 applied.next.2 := by
  have turn := simulated.next_turn
  generalize simulated.next = taken at turn ⊢
  obtain ⟨result, after⟩ := taken
  obtain ⟨journal, settings, now, state⟩ := simulated
  obtain ⟨recorded, following, clock, other⟩ := applied
  obtain rfl : journal = recorded := related.journal
  obtain rfl : settings.withMode .apply = following := related.applying
  have simulating : settings.mode = .simulate := related.simulating
  have alongside : state.Alongside other := related.alongside
  have cursor := alongside.cursor
  let application : Player := ⟨journal, settings.withMode .apply, clock, other⟩
  dsimp only at turn ⊢
  cases turn with
  | exhausted finished =>
      have again : Turn application (.error (.exhausted journal.length)) application :=
        .exhausted (cursor ▸ finished)
      rw [again.next]
      exact ⟨rfl, related⟩
  | skipped step found skip =>
      have again : Turn application (.ok (.skipped step)) _ :=
        .skipped step (cursor ▸ found) (cursor ▸ skip)
      rw [again.next, cursor]
      exact ⟨rfl, related.withState ((alongside.noteSkip _).advance settings .apply)⟩
  | rejected step found kept rejection refused =>
      have again : Turn application (.error (.rejected other.cursor rejection.message)) _ :=
        .rejected step (cursor ▸ found) (cursor ▸ kept) rejection
          ((step.refusal?_apply simulating).trans refused)
      rw [again.next, cursor]
      exact ⟨rfl, related.withState (alongside.advance settings .apply)⟩
  | replayed step found kept accepted =>
      have again : Turn application (.ok (step.outcome (step.intended application.scene))) _ :=
        .replayed step (cursor ▸ found) (cursor ▸ kept)
          ((step.refusal?_apply simulating).trans accepted)
      rw [again.next]
      constructor
      · change Except.ok (step.outcome _).withoutDivergence =
          Except.ok (step.outcome _).withoutDivergence
        rw [step.outcome_withoutDivergence, step.outcome_withoutDivergence]
        rfl
      · rw [cursor]
        exact related.withState
          (((alongside.absorb settings .apply _ _).advance settings .apply).pauseIf _)

/-- A divergence ends neither of the players, so they go along. -/
theorem lockstep :
    Lockstep (fun outcome other => outcome.withoutDivergence = other.withoutDivergence)
      Rehearses where
  cursor related := related.alongside.cursor
  length related := congrArg Journal.length related.journal
  last related := by
    rw [← related.applying]
    rfl
  stops {simulated applied _ _} related _ := by
    have endless : applied.settings.stopsAtDivergence = false := by
      rw [← related.applying]
      exact related.endless
    rw [related.endless, endless, Bool.and_false, Bool.and_false]
  next related := ⟨Returned.alike_of_map related.next.1, related.next.2⟩
  moveTo {simulated _} related index := by
    rw [← related.applying]
    exact related.withState (related.alongside.moveTo simulated.settings .apply index)
  pause related :=
    related.withState ⟨related.alongside.cursor, rfl, related.alongside.skipped⟩
  resume related :=
    related.withState ⟨related.alongside.cursor, rfl, related.alongside.skipped⟩

/-- Every operation returns the same on both sides but for the divergences. -/
theorem perform (related : Rehearses simulated applied) (operation : Operation) :
    (simulated.perform operation).1.withoutDivergences =
        (applied.perform operation).1.withoutDivergences ∧
      Rehearses (simulated.perform operation).2 (applied.perform operation).2 := by
  obtain ⟨alike, later⟩ := lockstep.perform related operation
  exact ⟨alike.withoutDivergences, later⟩

end Rehearses

namespace Execution

theorem ofOutcomes_withoutDivergence (index : Nat) (outcomes : List Outcome) :
    ofOutcomes index (outcomes.map Outcome.withoutDivergence) =
      (ofOutcomes index outcomes).map withoutDivergence := by
  induction outcomes generalizing index with
  | nil => rfl
  | cons outcome rest inductionHypothesis =>
      rw [List.map_cons, ofOutcomes, ofOutcomes, inductionHypothesis, List.map_cons]
      rfl

end Execution

/-- The executions behind what is returned without divergences are those without them. -/
theorem Returned.executions_withoutDivergences (index : Nat) (returned : Returned) :
    returned.withoutDivergences.executions index =
      (returned.executions index).map Execution.withoutDivergence := by
  cases returned with
  | outcome result => cases result <;> rfl
  | passage taken => exact Execution.ofOutcomes_withoutDivergence index taken.outcomes
  | moved result => rfl
  | nothing => rfl

/-- A rehearsal goes along through all operations, with the same executions but for the divergences. -/
theorem Rehearses.run {simulated applied : Player} (related : Rehearses simulated applied)
    (operations : List Operation) :
    (simulated.executions operations).map Execution.withoutDivergence =
        (applied.executions operations).map Execution.withoutDivergence ∧
      Rehearses (simulated.run operations) (applied.run operations) := by
  induction operations generalizing simulated applied with
  | nil => exact ⟨rfl, related⟩
  | cons operation rest inductionHypothesis =>
      obtain ⟨alike, later⟩ := related.perform operation
      obtain ⟨following, final⟩ := inductionHypothesis later
      refine ⟨?_, final⟩
      rw [Player.executions, Player.executions, List.map_append, List.map_append, following,
        ← Returned.executions_withoutDivergences, ← Returned.executions_withoutDivergences, alike,
        related.alongside.cursor]

/-- The rehearsal begins with the application. -/
theorem Rehearses.start (now : Instant) (journal : Journal) {settings : Settings}
    (endless : settings.stopsAtDivergence = false) :
    Rehearses (Player.start now journal (settings.withMode .simulate))
      (Player.start now journal (settings.withMode .apply)) where
  journal := rfl
  simulating := rfl
  applying := rfl
  endless := endless
  alongside := ⟨rfl, rfl, rfl⟩

namespace Outcome

variable {outcome : Outcome} {now : Instant} {write : String × Snapshot}

/-- But for the edits, simulation leaves the same files behind as application. -/
theorem write?_simulate_of_not_edit (now : Instant) (kind : outcome.step.kind ≠ .fileDiff) :
    outcome.write? .simulate now = outcome.write? .apply now := by
  have applied : outcome.step.write? .apply now = outcome.step.fileWrite? now :=
    Step.write?_of_not_edit now kind nofun
  rw [write?, write?, applied]
  rfl

/-- What simulation leaves behind, application leaves behind as well. -/
theorem write?_apply_of_simulate (written : outcome.write? .simulate now = some write) :
    outcome.write? .apply now = some write := by
  by_cases kind : outcome.step.kind = .fileDiff
  · have noFile : outcome.step.write? .simulate now = none := by
      rw [Step.write?, Step.fileWrite?, kind]
    rw [write?, noFile] at written
    split at written <;> contradiction
  · rwa [← write?_simulate_of_not_edit now kind]

end Outcome

namespace Execution

variable {mode : Mode} {now : Instant} {path : String} {past : List Execution}
  {execution : Execution}

theorem writes_withoutDivergence (mode : Mode) (now : Instant) (past : List Execution) :
    writes mode now (past.map withoutDivergence) = writes mode now past :=
  List.filterMap_map

theorem lastOn?_concat (mode : Mode) (now : Instant) (path : String) (past : List Execution)
    (execution : Execution) :
    lastOn? mode now path (past ++ [execution]) =
      if (execution.outcome.write? mode now).map Prod.fst = some path then some execution
      else lastOn? mode now path past := by
  by_cases touches : (execution.outcome.write? mode now).map Prod.fst = some path
  · simp [lastOn?, touches]
  · simp [lastOn?, touches]

/-- The last execution on a path tells what the books hold under it. -/
theorem last?_writes (last : lastOn? mode now path past = some execution) :
    ∃ snapshot, execution.outcome.write? mode now = some (path, snapshot) ∧
      Table.last? path (writes mode now past) = some snapshot := by
  induction past using List.reverseRecOn with
  | nil => contradiction
  | append_singleton past latest inductionHypothesis =>
      rw [lastOn?_concat] at last
      rw [writes_append, writes_singleton]
      split at last
      · rename_i touches
        obtain rfl := Option.some.inj last
        obtain ⟨⟨_, snapshot⟩, written, rfl⟩ := Option.map_eq_some_iff.mp touches
        refine ⟨snapshot, written, ?_⟩
        rw [written, Option.toList_some, Table.last?_concat, if_pos rfl]
      · rename_i untouched
        obtain ⟨snapshot, written, found⟩ := inductionHypothesis last
        refine ⟨snapshot, written, ?_⟩
        cases added : latest.outcome.write? mode now with
        | none => rwa [Option.toList_none, List.append_nil]
        | some write =>
            have other : path ≠ write.1 := by
              intro same
              rw [added, same] at untouched
              exact untouched rfl
            rwa [Option.toList_some, Table.last?_concat, if_neg other]

/-- Of a path that no execution was on the books hold nothing. -/
theorem last?_writes_of_untouched (untouched : lastOn? mode now path past = none) :
    Table.last? path (writes mode now past) = none := by
  rw [← Option.not_isSome_iff_eq_none, Table.last?_isSome_iff]
  intro member
  obtain ⟨write, within, same⟩ := List.mem_map.mp member
  obtain ⟨execution, happened, written⟩ := List.mem_filterMap.mp within
  have none := List.filter_eq_nil_iff.mp (List.getLast?_eq_none_iff.mp untouched)
  exact none execution happened (by simp [written, same])

/-- If no edit came last on a path, then the same execution came last in the simulation. -/
theorem lastOn?_simulate (last : lastOn? .apply now path past = some execution)
    (kind : execution.outcome.step.kind ≠ .fileDiff) :
    lastOn? .simulate now path past = some execution := by
  induction past using List.reverseRecOn with
  | nil => contradiction
  | append_singleton past latest inductionHypothesis =>
      rw [lastOn?_concat] at last ⊢
      split at last
      · rename_i touches
        obtain rfl := Option.some.inj last
        rw [Outcome.write?_simulate_of_not_edit now kind, if_pos touches]
      · rename_i untouched
        have unsimulated : ¬ (latest.outcome.write? .simulate now).map Prod.fst = some path := by
          intro touches
          obtain ⟨write, written, same⟩ := Option.map_eq_some_iff.mp touches
          rw [Outcome.write?_apply_of_simulate written] at untouched
          exact untouched (congrArg some same)
        rw [if_neg unsimulated]
        exact inductionHypothesis last

/-- Simulation leaves no file behind that application does not. -/
theorem writes_simulate_subset (now : Instant) (past : List Execution) :
    writes .simulate now past ⊆ writes .apply now past := by
  intro write member
  obtain ⟨execution, within, written⟩ := List.mem_filterMap.mp member
  exact List.mem_filterMap.mpr ⟨execution, within, Outcome.write?_apply_of_simulate written⟩

end Execution

/-- After every sequence of operations a simulation that does not stop at divergences stands where
the application stands, returns the same but for the divergences, tracks no other paths, and agrees
about every path on which an edit was not the last change. -/
theorem rehearsal_of_run (now : Instant) (journal : Journal) (settings : Settings)
    (endless : settings.stopsAtDivergence = false) (operations : List Operation) :
    let simulation := Player.start now journal (settings.withMode .simulate)
    let application := Player.start now journal (settings.withMode .apply)
    let simulated := (simulation.run operations).state
    let applied := (application.run operations).state
    let past := application.executions operations
    simulated.cursor = applied.cursor ∧ simulated.paused = applied.paused ∧
      simulated.skipped = applied.skipped ∧
      (∀ operation,
        ((simulation.run operations).perform operation).1.withoutDivergences =
          ((application.run operations).perform operation).1.withoutDivergences) ∧
      (∀ path, (simulated.tracked? path).isSome = true → (applied.tracked? path).isSome = true) ∧
      (∀ path, Execution.lastOn? .apply now path past = none →
        simulated.tracked? path = none ∧ applied.tracked? path = none) ∧
      ∀ path execution, Execution.lastOn? .apply now path past = some execution →
        execution.outcome.step.kind ≠ .fileDiff →
          ∃ snapshot, execution.outcome.write? .apply now = some (path, snapshot) ∧
            simulated.tracked? path = some snapshot ∧ applied.tracked? path = some snapshot := by
  intro simulation application simulated applied past
  obtain ⟨alike, related⟩ := (Rehearses.start now journal endless).run operations
  have simulatedFiles (path : String) :
      simulated.tracked? path = Table.last? path (Execution.writes .simulate now past) := by
    have same : Execution.writes .simulate now (simulation.executions operations) =
        Execution.writes .simulate now past := by
      rw [← Execution.writes_withoutDivergence, alike, Execution.writes_withoutDivergence]
    rw [← same]
    exact (simulation.history_run operations).tracked?_told path
  have appliedFiles (path : String) :
      applied.tracked? path = Table.last? path (Execution.writes .apply now past) :=
    (application.history_run operations).tracked?_told path
  have included (path : String) (tracked : (simulated.tracked? path).isSome = true) :
      (applied.tracked? path).isSome = true := by
    rw [simulatedFiles, Table.last?_isSome_iff] at tracked
    rw [appliedFiles, Table.last?_isSome_iff]
    exact List.map_subset Prod.fst (Execution.writes_simulate_subset now past) tracked
  refine ⟨related.alongside.cursor, related.alongside.paused, related.alongside.skipped,
    fun operation => (related.perform operation).1, included, fun path untouched => ?_,
    fun path execution last kind => ?_⟩
  · have absent : applied.tracked? path = none :=
      (appliedFiles path).trans (Execution.last?_writes_of_untouched untouched)
    refine ⟨Option.not_isSome_iff_eq_none.mp fun tracked => ?_, absent⟩
    have present := included path tracked
    rw [absent] at present
    contradiction
  · obtain ⟨snapshot, written, appliedLast⟩ := Execution.last?_writes last
    obtain ⟨other, rewritten, simulatedLast⟩ :=
      Execution.last?_writes (Execution.lastOn?_simulate last kind)
    rw [Outcome.write?_simulate_of_not_edit now kind, written] at rewritten
    obtain rfl : snapshot = other := congrArg Prod.snd (Option.some.inj rewritten)
    exact ⟨snapshot, written, (simulatedFiles path).trans simulatedLast,
      (appliedFiles path).trans appliedLast⟩

/-- A journal in which one file is edited and then written, and another one is only edited. -/
def Journal.editedThenWritten : Journal :=
  (((Journal.start .epoch "journal").append
      { Step.bare .epoch "edit" 0 .fileDiff with
        edit := some (.between "a" "old" "edited") }).append
      { Step.bare .epoch "write" 1 .fileWrite with
        edit := some (.between "a" "edited" "written") }).append
    { Step.bare .epoch "other" 2 .fileDiff with
      edit := some (.between "b" "old" "new") }

/-- The write of the first file brings the simulation and the application together again, while the
edit of the second one keeps them apart. -/
theorem rehearsal_of_editedThenWritten :
    let settings := Settings.standard
    let simulation := Player.start .epoch .editedThenWritten (settings.withMode .simulate)
    let application := Player.start .epoch .editedThenWritten (settings.withMode .apply)
    let simulated := (simulation.run [.playToEnd]).state
    let applied := (application.run [.playToEnd]).state
    settings.stopsAtDivergence = false ∧ simulated.cursor = applied.cursor ∧
      (∃ snapshot, simulated.tracked? "a" = some snapshot ∧
        applied.tracked? "a" = some snapshot) ∧
      simulated.tracked? "b" = none ∧ (applied.tracked? "b").isSome = true := by
  intro settings simulation application simulated applied
  obtain ⟨cursor, _, _, _, _, _, agrees⟩ :=
    rehearsal_of_run .epoch .editedThenWritten settings rfl [.playToEnd]
  obtain ⟨execution, last, written⟩ : ∃ execution,
      Execution.lastOn? .apply .epoch "a" (application.executions [.playToEnd]) = some execution ∧
        execution.outcome.step.kind = .fileWrite := ⟨_, rfl, rfl⟩
  obtain ⟨snapshot, _, same⟩ := agrees "a" execution last (by rw [written]; decide)
  exact ⟨rfl, cursor, ⟨snapshot, same⟩, rfl, rfl⟩

end Playback
