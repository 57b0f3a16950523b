import Playback.Proofs.Interruption
import Playback.Proofs.Logs
import Playback.Proofs.Numbering
import Playback.Proofs.Output
import Playback.Proofs.Rejection

namespace Playback

/-- A step that is to work on a file without a path. A build works on a file only if it succeeded
and recorded one. -/
inductive Step.Unnamed (step : Step) : Prop where
  | edit (edit : Edit) (kind : step.kind = .fileDiff) (edited : step.edit = some edit)
      (empty : edit.path = "")
  | file (kind : step.kind = .fileWrite ∨ step.kind = .fileRemove)
      (empty : step.path? = some "")
  | build (build : Build) (after : Snapshot)
      (kind : step.kind = .buildStart ∨ step.kind = .buildComplete ∨ step.kind = .buildError)
      (built : step.build = some build) (succeeded : build.succeeded = true)
      (left : build.after = some after) (empty : build.path = "")

namespace Journal

/-- A replay cannot get past the position. -/
structure Blocks (journal : Journal) (settings : Settings) (index : Nat) : Prop where
  acting : settings.mode ≠ .readOnly
  kept : settings.skips.holds index = false
  unnamed : ∃ step, journal.step? index = some step ∧ step.Unnamed

/-- The first position from the start to the last one that a replay cannot get past. -/
structure FirstBlock (journal : Journal) (settings : Settings) (start last index : Nat) : Prop where
  after : start ≤ index
  within : index ≤ last
  blocks : journal.Blocks settings index
  first : ∀ earlier, start ≤ earlier → earlier < index → ¬ journal.Blocks settings earlier

end Journal

namespace Step

variable {step : Step}

/-- Whether files are verified plays no part in an empty path. -/
theorem defective_emptyPath_iff {verifies : Bool} :
    step.Defective verifies .emptyPath ↔ step.Unnamed := by
  constructor
  · intro defective
    cases defective with
    | edit edit kind edited empty => exact .edit edit kind edited empty
    | fileOfEdit edit kind edited empty =>
        exact .file kind (path?_eq_some_iff.mpr (.inl ⟨edit, edited, empty⟩))
    | fileOfBuild build kind unedited built empty =>
        exact .file kind (path?_eq_some_iff.mpr (.inr ⟨unedited, build, built, empty⟩))
    | buildPath build after kind built succeeded left empty =>
        exact .build build after kind built succeeded left empty
  · intro unnamed
    cases unnamed with
    | edit edit kind edited empty => exact .edit edit kind edited empty
    | file kind empty =>
        rcases path?_eq_some_iff.mp empty with
          ⟨edit, edited, empty⟩ | ⟨unedited, build, built, empty⟩
        · exact .fileOfEdit edit kind edited empty
        · exact .fileOfBuild build kind unedited built empty
    | build build after kind built succeeded left empty =>
        exact .buildPath build after kind built succeeded left empty

end Step

/-- On a checked journal a turn within it fails exactly at a block. -/
theorem Turn.error_iff_blocks {player after : Player} {result : Except PlayFault Outcome}
    (turn : Turn player result after) (checked : player.journal.check = .ok ())
    (inside : player.state.cursor < player.journal.length) (fault : PlayFault) :
    result = .error fault ↔
      player.journal.Blocks player.settings player.state.cursor ∧
        fault = .rejected player.state.cursor Rejection.emptyPath.message := by
  obtain ⟨step, found⟩ : ∃ step, player.journal.step? player.state.cursor = some step :=
    ⟨_, List.getElem?_eq_getElem inside⟩
  rw [turn.error_iff found]
  constructor
  · rintro ⟨kept, acting, rejection, defective, rfl⟩
    obtain rfl := Step.rejection_of_checked checked (List.mem_of_getElem? found) defective
    exact ⟨⟨acting, kept, step, found, Step.defective_emptyPath_iff.mp defective⟩, rfl⟩
  · rintro ⟨⟨acting, kept, other, same, unnamed⟩, rfl⟩
    obtain rfl := Option.some.inj (found.symm.trans same)
    exact ⟨kept, acting, .emptyPath, Step.defective_emptyPath_iff.mpr unnamed, rfl⟩

namespace Journal.FirstBlock

variable {journal : Journal} {settings : Settings} {start last index : Nat}

/-- Whether a replay is to stop at a divergence has no part in what blocks it. -/
theorem withStop (block : journal.FirstBlock settings start last index) (stops : Bool) :
    journal.FirstBlock (settings.withStop stops) start last index where
  after := block.after
  within := block.within
  blocks := ⟨block.blocks.acting, block.blocks.kept, block.blocks.unnamed⟩
  first earlier later before blocks :=
    block.first earlier later before ⟨blocks.acting, blocks.kept, blocks.unnamed⟩

theorem withStop_iff (stops : Bool) :
    journal.FirstBlock (settings.withStop stops) start last index ↔
      journal.FirstBlock settings start last index := by
  constructor
  · intro block
    exact block.withStop settings.stopsAtDivergence
  · intro block
    exact block.withStop stops

theorem inside (block : journal.FirstBlock settings start last index) : index < journal.length := by
  obtain ⟨_, found, _⟩ := block.blocks.unnamed
  exact lt_length_of_step found

/-- Nothing blocks a replay at its first step, so the first block is that of the later steps. -/
theorem onward_iff (free : ¬ journal.Blocks settings start) :
    journal.FirstBlock settings start last index ↔
      journal.FirstBlock settings (start + 1) last index := by
  constructor
  · intro block
    have different : start ≠ index := by
      rintro rfl
      exact free block.blocks
    have after := block.after
    exact ⟨by omega, block.within, block.blocks,
      fun earlier later before => block.first earlier (by omega) before⟩
  · intro block
    have after := block.after
    refine ⟨by omega, block.within, block.blocks, fun earlier later before => ?_⟩
    by_cases here : earlier = start
    · rwa [here]
    · exact block.first earlier (by omega) before

end Journal.FirstBlock

/-- A passage that does not stop at divergences fails exactly at its first block. -/
theorem Passes.failed_iff {last : Nat} {player final : Player} {passage : Passage}
    (passes : Passes last player passage final) (checked : player.journal.check = .ok ())
    (endless : player.settings.stopsAtDivergence = false) (fault : PlayFault) :
    passage.stop = .failed fault ↔
      ∃ index, player.journal.FirstBlock player.settings player.state.cursor last index ∧
        fault = .rejected index Rejection.emptyPath.message := by
  induction passes with
  | arrived ended =>
      refine iff_of_false nofun ?_
      rintro ⟨index, block, _⟩
      exact ended ⟨Nat.le_trans block.after block.within,
        Nat.lt_of_le_of_lt block.after block.inside⟩
  | @failed player after other due turn =>
      obtain ⟨blocks, rfl⟩ := (turn.error_iff_blocks checked due.2 other).mp rfl
      constructor
      · intro same
        obtain rfl := Stop.failed.inj same
        exact ⟨player.state.cursor, ⟨Nat.le_refl _, due.1, blocks,
          fun earlier later before => absurd before (Nat.not_lt.mpr later)⟩, rfl⟩
      · rintro ⟨index, block, rfl⟩
        have here : index = player.state.cursor := by
          by_contra different
          have after := block.after
          exact block.first _ (Nat.le_refl _) (by omega) blocks
        rw [here]
  | diverged due turn met stops =>
      rw [endless] at stops
      contradiction
  | @onward player after final outcome rest due turn goes passes inductionHypothesis =>
      obtain ⟨journal, settings, _⟩ := turn.fixed
      have free : ¬ player.journal.Blocks player.settings player.state.cursor := fun blocks => by
        have failed := (turn.error_iff_blocks checked due.2 _).mpr ⟨blocks, rfl⟩
        contradiction
      rw [inductionHypothesis (journal ▸ checked) (settings ▸ endless), journal, settings,
        turn.cursor_of_ok]
      simp only [Journal.FirstBlock.onward_iff free]

/-- A passage fails exactly at its first block, unless it stops at a divergence before it. -/
theorem Player.failed_iff (player : Player) (last : Nat) (checked : player.journal.check = .ok ())
    (fault : PlayFault) :
    (player.playThrough last).1.stop = .failed fault ↔
      (∃ index, player.journal.FirstBlock player.settings player.state.cursor last index ∧
        fault = .rejected index Rejection.emptyPath.message) ∧
      (player.settings.stopsAtDivergence = true →
        ∀ outcome ∈ ((player.withStop false).playThrough last).1.outcomes,
          outcome.hasDivergence = false) := by
  have through := (player.withStop false).passes_playThrough last
  have failed := through.failed_iff checked rfl fault
  simp only [show (player.withStop false).settings = player.settings.withStop false from rfl,
    Journal.FirstBlock.withStop_iff] at failed
  cases stops : player.settings.stopsAtDivergence with
  | false =>
      have same : player.withStop false = player := by
        rw [withStop, Settings.withStop, ← stops]
      rw [same] at failed
      rw [failed]
      simp only [Bool.false_eq_true, false_imp_iff, and_true]
  | true =>
      have same : (player.withStop false).withStop true = player := by
        rw [withStop, withStop, Settings.withStop, Settings.withStop, ← stops]
      by_cases quiet : ∀ outcome ∈ ((player.withStop false).playThrough last).1.outcomes,
          outcome.hasDivergence = false
      · have stopping := through.stopping quiet rfl
        rw [same] at stopping
        rw [stopping.playThrough, failed]
        exact (and_iff_left fun _ => quiet).symm
      · cases first : List.findIdx? Outcome.hasDivergence
            ((player.withStop false).playThrough last).1.outcomes with
        | none => exact absurd (List.findIdx?_eq_none_iff.mp first) quiet
        | some offset =>
            obtain ⟨_, _, stopping⟩ := through.cut rfl first
            rw [same] at stopping
            rw [stopping.playThrough]
            exact iff_of_false nofun fun blocked => quiet (blocked.2 rfl)

/-- The outcomes are those of the consecutive steps from the start. -/
theorem Passage.Accounted.map_step {journal : Journal} {last start final : Nat}
    {passage : Passage} (accounted : passage.Accounted journal last start final) :
    passage.outcomes.map Outcome.step =
      (journal.steps.drop start).take passage.outcomes.length := by
  apply List.ext_getElem?
  intro offset
  rw [List.getElem?_map, List.getElem?_take, List.getElem?_drop]
  by_cases within : offset < passage.outcomes.length
  · rw [if_pos within, List.getElem?_eq_getElem within]
    exact (accounted.steps offset _ (List.getElem?_eq_getElem within)).symm
  · rw [if_neg within, List.getElem?_eq_none (Nat.le_of_not_lt within), Option.map_none]

namespace ReplayArguments

/-- The journal that the file of the journal tells of. -/
structure Loads (arguments : ReplayArguments) (now : Instant) (files : Files)
    (journal : Journal) : Prop where
  reads : ∃ text, files.readText arguments.journal = .ok text ∧
    Journal.ofText now text = .ok journal
  checked : journal.check = .ok ()

/-- The settings of the options file, or the standard ones if no file is given. -/
def Bases (arguments : ReplayArguments) (files : Files) (settings : Settings) : Prop :=
  match arguments.options with
  | none => settings = .standard
  | some path => ∃ text, files.readText path = .ok text ∧ Settings.ofText text = .ok settings

/-- The settings that the file and the command line make together. Application must be allowed. -/
structure Resolves (arguments : ReplayArguments) (files : Files) (settings : Settings) :
    Prop where
  made : ∃ base, arguments.Bases files base ∧ Command.override base arguments = settings
  allowed : settings.mode = .apply → arguments.allowsApply = true

variable {arguments : ReplayArguments} {now : Instant} {files : Files} {journal : Journal}
  {settings : Settings}

theorem loadJournal_eq_ok_iff :
    Command.loadJournal now files arguments.journal = .ok journal ↔
      arguments.Loads now files journal := by
  rw [Command.loadJournal, Json.mapError_eq_ok_iff, Command.readJournal]
  cases read : files.readText arguments.journal with
  | error fault =>
      refine iff_of_false nofun ?_
      rintro ⟨⟨text, same, _⟩, _⟩
      rw [read] at same
      contradiction
  | ok text =>
      dsimp only
      rw [Journal.load_eq_ok_iff]
      constructor
      · rintro ⟨parsed, checked⟩
        exact ⟨⟨text, read, parsed⟩, checked⟩
      · rintro ⟨⟨other, same, parsed⟩, checked⟩
        obtain rfl := Except.ok.inj (read.symm.trans same)
        exact ⟨parsed, checked⟩

theorem fileSettings_eq_ok_iff :
    Command.fileSettings files arguments.options = .ok settings ↔
      arguments.Bases files settings := by
  rw [Bases]
  cases arguments.options with
  | none => simp only [Command.fileSettings, Except.ok.injEq, eq_comm]
  | some path =>
      dsimp only [Command.fileSettings]
      cases read : files.readText path with
      | error fault => simp
      | ok text => simp [Json.mapError_eq_ok_iff]

/-- Only application is not safe. -/
theorem refused_eq_true_iff :
    (!settings.isSafe && !arguments.allowsApply) = true ↔
      ¬ (settings.mode = .apply → arguments.allowsApply = true) := by
  rw [Settings.isSafe]
  cases settings.mode <;> cases arguments.allowsApply <;> decide

theorem settings_eq_ok_iff :
    Command.settings files arguments = .ok settings ↔ arguments.Resolves files settings := by
  rw [Command.settings]
  cases based : Command.fileSettings files arguments.options with
  | error faults =>
      refine iff_of_false nofun ?_
      rintro ⟨⟨base, bases, _⟩, _⟩
      rw [fileSettings_eq_ok_iff.mpr bases] at based
      contradiction
  | ok base =>
      dsimp only
      constructor
      · intro made
        split at made
        · contradiction
        · rename_i accepted
          obtain rfl := Except.ok.inj made
          rw [refused_eq_true_iff, not_not] at accepted
          exact ⟨⟨base, fileSettings_eq_ok_iff.mp based, rfl⟩, accepted⟩
      · rintro ⟨⟨other, bases, rfl⟩, allowed⟩
        obtain rfl := Except.ok.inj (based.symm.trans (fileSettings_eq_ok_iff.mpr bases))
        rw [if_neg (mt refused_eq_true_iff.mp (not_not.mpr allowed))]

end ReplayArguments

namespace Command

variable {now : Instant} {elapsed : Nat → Nat} {files : Files} {given : List String}
  {arguments : ReplayArguments} {journal : Journal} {settings : Settings}

/-- The command replays the journal that loads under the settings that are made. -/
theorem answer_of_resolved (accepted : Arguments.read? given = some (.replay arguments))
    (loads : arguments.Loads now files journal) (resolves : arguments.Resolves files settings) :
    answer now files given elapsed = perform now elapsed journal settings arguments.asJson := by
  rw [answer, accepted]
  dsimp only [run]
  rw [ReplayArguments.loadJournal_eq_ok_iff.mpr loads]
  dsimp only
  rw [ReplayArguments.settings_eq_ok_iff.mpr resolves]

/-- Nothing is replayed and nothing told unless a journal loads and the settings are made. -/
theorem answer_of_unresolved (accepted : Arguments.read? given = some (.replay arguments))
    (unresolved : ¬ ∃ journal settings,
      arguments.Loads now files journal ∧ arguments.Resolves files settings) :
    ∃ faults, answer now files given elapsed = failure faults := by
  rw [answer, accepted]
  dsimp only [run]
  cases loaded : loadJournal now files arguments.journal with
  | error faults => exact ⟨faults, rfl⟩
  | ok journal =>
      dsimp only
      cases made : Command.settings files arguments with
      | error faults => exact ⟨faults, rfl⟩
      | ok settings =>
          exact absurd ⟨journal, settings, ReplayArguments.loadJournal_eq_ok_iff.mp loaded,
            ReplayArguments.settings_eq_ok_iff.mp made⟩ unresolved

/-- The code tells whether the replay ended with a fault. -/
theorem perform_code (now : Instant) (elapsed : Nat → Nat) (journal : Journal)
    (settings : Settings) (asJson : Bool) :
    (perform now elapsed journal settings asJson).code =
      if (Player.start now journal settings).playToEnd.1.fault? = none then 0 else 1 := by
  rw [perform]
  generalize (Player.start now journal settings).playToEnd = taken
  dsimp only
  cases taken.1.fault? <;> rfl

theorem code_eq_zero_or_one (accepted : Arguments.read? given = some (.replay arguments)) :
    (answer now files given elapsed).code = 0 ∨ (answer now files given elapsed).code = 1 := by
  by_cases resolved : ∃ journal settings,
      arguments.Loads now files journal ∧ arguments.Resolves files settings
  · obtain ⟨journal, settings, loads, resolves⟩ := resolved
    rw [answer_of_resolved accepted loads resolves, perform_code]
    split
    · exact .inl rfl
    · exact .inr rfl
  · obtain ⟨faults, failed⟩ := answer_of_unresolved accepted resolved
    rw [failed]
    exact .inr rfl

/-- The command succeeds exactly with a replay that ends without a fault. -/
theorem code_eq_zero_iff (accepted : Arguments.read? given = some (.replay arguments)) :
    (answer now files given elapsed).code = 0 ↔
      ∃ journal settings, arguments.Loads now files journal ∧ arguments.Resolves files settings ∧
        (Player.start now journal settings).playToEnd.1.fault? = none := by
  constructor
  · intro zero
    by_cases resolved : ∃ journal settings,
        arguments.Loads now files journal ∧ arguments.Resolves files settings
    · obtain ⟨journal, settings, loads, resolves⟩ := resolved
      rw [answer_of_resolved accepted loads resolves, perform_code] at zero
      refine ⟨journal, settings, loads, resolves, ?_⟩
      by_contra faulty
      rw [if_neg faulty] at zero
      contradiction
    · obtain ⟨faults, failed⟩ := answer_of_unresolved accepted resolved
      rw [failed] at zero
      contradiction
  · rintro ⟨journal, settings, loads, resolves, none⟩
    rw [answer_of_resolved accepted loads resolves, perform_code, if_pos none]

/-- The outcomes before a fault are told with the report, and the fault comes after them. -/
theorem perform_of_failed {fault : PlayFault}
    (failed : (Player.start now journal settings).playToEnd.1.stop = .failed fault)
    (asJson : Bool) :
    let taken := (Player.start now journal settings).playToEnd
    let report := Report.of taken.2.state taken.1.outcomes
    perform now elapsed journal settings asJson =
      ⟨1,
        if asJson then jsonOutput elapsed taken.1 report
        else String.join (taken.1.outcomes.map Outcome.text) ++
          report.text (totalTime elapsed taken.1),
        [fault.message]⟩ := by
  intro taken report
  have told : textOutput elapsed taken.1 report =
      String.join (taken.1.outcomes.map Outcome.text) ++
        report.text (totalTime elapsed taken.1) := by
    have silent : stopText (.failed fault) = "" := rfl
    rw [textOutput, failed, silent, String.append_empty]
  rw [← told, perform]
  dsimp only
  rw [Passage.fault?_eq_some_iff.mpr failed]

end Command

namespace Journal

variable {now : Instant} {journal : Journal} {settings : Settings} {fault : PlayFault}

/-- The position of the last step that a replay goes to. -/
def ending (journal : Journal) (settings : Settings) : Nat :=
  (settings.last.map UInt64.toNat).getD (journal.length - 1)

/-- A replay of the journal can get past all positions before this one, but not past this one. -/
def BlockedAt (journal : Journal) (settings : Settings) (index : Nat) : Prop :=
  journal.FirstBlock settings (min settings.first.toNat journal.length) (journal.ending settings)
    index

/-- The first steps of a replay, up to a position. -/
def stepsBefore (journal : Journal) (settings : Settings) (index : Nat) : List Step :=
  journal.steps.extract (min settings.first.toNat journal.length) index

/-- A replay of a checked journal fails exactly at its block, unless it stops at a divergence that
it would meet before. -/
theorem failed_iff (checked : journal.check = .ok ()) :
    (Player.start now journal settings).playToEnd.1.stop = .failed fault ↔
      (∃ index, journal.BlockedAt settings index ∧
        fault = .rejected index Rejection.emptyPath.message) ∧
      (settings.stopsAtDivergence = true →
        ∀ outcome ∈ (Player.start now journal (settings.withStop false)).playToEnd.1.outcomes,
          outcome.hasDivergence = false) :=
  (Player.start now journal settings).failed_iff (journal.ending settings) checked fault

/-- Before its fault a replay hands out the outcomes of all steps up to the rejected one. -/
theorem steps_of_failed {index : Nat} {reason : String}
    (failed : (Player.start now journal settings).playToEnd.1.stop =
      .failed (.rejected index reason)) :
    (Player.start now journal settings).playToEnd.1.outcomes.map Outcome.step =
      journal.stepsBefore settings index := by
  have passes :=
    (Player.start now journal settings).passes_playThrough (journal.ending settings)
  obtain ⟨_, _, same, _, count⟩ := passes.accounted.failed _ failed
  obtain ⟨rfl, _⟩ := PlayFault.rejected.inj same
  change min settings.first.toNat journal.length + _ = index at count
  have between : index - min settings.first.toNat journal.length =
      ((Player.start now journal settings).playThrough
        (journal.ending settings)).1.outcomes.length := by
    omega
  rw [stepsBefore, List.extract_eq_take_drop, between]
  exact passes.accounted.map_step

/-- A replay that goes on at divergences gets to the block. -/
theorem steps_of_blockedAt (checked : journal.check = .ok ()) {index : Nat}
    (blocked : journal.BlockedAt settings index) :
    (Player.start now journal (settings.withStop false)).playToEnd.1.outcomes.map Outcome.step =
      journal.stepsBefore settings index := by
  have failed : (Player.start now journal (settings.withStop false)).playToEnd.1.stop =
      .failed (.rejected index Rejection.emptyPath.message) :=
    (failed_iff checked).mpr ⟨⟨index, blocked.withStop false, rfl⟩, nofun⟩
  exact steps_of_failed failed

end Journal

section Telling

variable {now : Instant} {journal : Journal} {settings : Settings} {past : List Execution}
  {player : Player}

/-- A text can tell of the outcomes of a journal that it can tell of. -/
theorem History.legible (history : History (Player.start now journal settings) past player)
    (steps : ∀ step ∈ journal.steps, step.Legible) (small : journal.length < UInt64.size) :
    ∀ execution ∈ past, execution.outcome.Legible := by
  intro execution member
  obtain ⟨_, _, told⟩ := history.exists_told member
  refine ⟨steps _ (List.mem_of_getElem? told.step), fun divergence met => ?_⟩
  rw [told.divergence_index met]
  exact Nat.lt_trans (Journal.lt_length_of_step told.step) small

/-- All numbers in a report on a replay are bounded by the length of its journal. -/
theorem Report.sized_of (history : History (Player.start now journal settings) past player)
    (steps : ∀ step ∈ journal.steps, step.Legible) (small : journal.length < UInt64.size)
    {outcomes : List Outcome} (fewer : outcomes.length ≤ journal.length) :
    (Report.of player.state outcomes).Sized where
  total := Nat.lt_of_le_of_lt fewer small
  completed := Nat.lt_of_le_of_lt (Nat.le_trans List.countP_le_length fewer) small
  skipped := Nat.lt_of_le_of_lt (Nat.le_trans List.countP_le_length fewer) small
  failed := Nat.lt_of_le_of_lt (Nat.le_trans List.countP_le_length fewer) small
  divergences := by
    intro divergence known
    rw [Report.of, history.told] at known
    obtain ⟨execution, member, met⟩ := List.mem_filterMap.mp known
    exact (history.legible steps small execution member).divergence divergence met
  cursor := Nat.lt_of_le_of_lt history.cursor_le small

/-- The outcomes of a whole replay and its report are read back from the JSON text. -/
theorem Command.read_jsonOutput_of_replay (elapsed : Nat → Nat)
    (steps : ∀ step ∈ journal.steps, step.Legible) (small : journal.length < UInt64.size)
    (later : Instant) :
    let taken := (Player.start now journal settings).playToEnd
    let report := Report.of taken.2.state taken.1.outcomes
    (Output.reader later).run (jsonOutput elapsed taken.1 report) =
      .ok ⟨taken.1.outcomes.mapIdx fun index outcome =>
          ⟨outcome.number, outcome.outlined, (milliseconds (elapsed index)).toUInt64⟩,
        report, (milliseconds (totalTime elapsed taken.1)).toUInt64⟩ := by
  intro taken report
  have history := (Player.start now journal settings).history_playToEnd
  have legible : ∀ outcome ∈ taken.1.outcomes, outcome.Legible := by
    have each := List.forall_mem_map.mpr (history.legible steps small)
    rwa [Execution.ofOutcomes_outcome] at each
  have passes := (Player.start now journal settings).passes_playThrough (journal.ending settings)
  have fewer : taken.1.outcomes.length ≤ journal.length := by
    have same := congrArg List.length passes.accounted.map_step
    rw [List.length_map, List.length_take, List.length_drop] at same
    exact Nat.le_trans (Nat.le_of_eq same)
      (Nat.le_trans (Nat.min_le_right _ _) (Nat.sub_le _ _))
  exact read_jsonOutput later elapsed legible (Report.sized_of history steps small fewer)

end Telling

/-- A replay command ends with code zero exactly if its journal loads, its settings can be made and
the replay ends without a fault, and otherwise with code one. A loaded journal fails exactly at the
first step that is to work on a file without a path, unless it stops at a divergence before. The
outcomes of all steps before it are told together with the fault, in lines that show one outcome
after another or in a JSON text from which they are read back, where positions have 64 bits. -/
theorem exitCode_of_replay (now : Instant) (elapsed : Nat → Nat) (files : Files)
    (given : List String) (arguments : ReplayArguments)
    (accepted : Arguments.read? given = some (.replay arguments)) :
    let answer := Command.answer now files given elapsed
    (answer.code = 0 ∨ answer.code = 1) ∧
    (answer.code = 0 ↔
      ∃ journal settings, arguments.Loads now files journal ∧ arguments.Resolves files settings ∧
        let stop := (Player.start now journal settings).playToEnd.1.stop
        stop = .reached ∨ ∃ index, stop = .diverged index) ∧
    ∀ journal, arguments.Loads now files journal → ∀ settings : Settings,
      let taken := (Player.start now journal settings).playToEnd
      let through := (Player.start now journal (settings.withStop false)).playToEnd
      (∀ step ∈ journal.steps, ∀ cause,
        ¬ step.Defective settings.verifies (.badSnapshot cause)) ∧
      ((∃ fault, taken.1.stop = .failed fault) ↔
        ∃ index, journal.BlockedAt settings index ∧
          (settings.stopsAtDivergence = true →
            ∀ outcome ∈ through.1.outcomes, outcome.hasDivergence = false)) ∧
      (∀ index, journal.BlockedAt settings index →
        through.1.outcomes.map Outcome.step = journal.stepsBefore settings index) ∧
      ∀ fault, taken.1.stop = .failed fault → ∃ index,
        journal.BlockedAt settings index ∧
        fault = .rejected index "file step has an empty path" ∧
        taken.1.outcomes.map Outcome.step = journal.stepsBefore settings index ∧
        (arguments.Resolves files settings →
          let report := Report.of taken.2.state taken.1.outcomes
          let total := Command.totalTime elapsed taken.1
          answer =
            ⟨1,
              if arguments.asJson then Command.jsonOutput elapsed taken.1 report
              else String.join (taken.1.outcomes.map Outcome.text) ++ report.text total,
              [fault.message]⟩ ∧
            (arguments.asJson = false →
              ∃ blocks, List.Forall₂ Outcome.ShownBy taken.1.outcomes blocks ∧
                answer.output =
                  String.join (blocks.flatten.map fun line => line ++ "\n") ++ report.text total) ∧
            (arguments.asJson = true → journal.length < UInt64.size →
              ∀ later, (Output.reader later).run answer.output =
                .ok ⟨taken.1.outcomes.mapIdx fun index outcome =>
                    ⟨outcome.number, outcome.outlined, (milliseconds (elapsed index)).toUInt64⟩,
                  report, (milliseconds total).toUInt64⟩)) := by
  intro answer
  refine ⟨Command.code_eq_zero_or_one accepted, ?_, fun journal loads settings => ?_⟩
  · simp only [← Passage.fault?_eq_none_iff]
    exact Command.code_eq_zero_iff accepted
  · intro taken through
    refine ⟨fun step member cause defective => ?_, ?_, fun index =>
      Journal.steps_of_blockedAt loads.checked, fun fault failed => ?_⟩
    · have named := Step.rejection_of_checked loads.checked member defective
      contradiction
    · constructor
      · rintro ⟨fault, failed⟩
        obtain ⟨⟨index, blocked, _⟩, quiet⟩ := (Journal.failed_iff loads.checked).mp failed
        exact ⟨index, blocked, quiet⟩
      · rintro ⟨index, blocked, quiet⟩
        exact ⟨_, (Journal.failed_iff loads.checked).mpr ⟨⟨index, blocked, rfl⟩, quiet⟩⟩
    · obtain ⟨⟨index, blocked, rfl⟩, _⟩ := (Journal.failed_iff loads.checked).mp failed
      refine ⟨index, blocked, rfl, Journal.steps_of_failed failed, fun resolves => ?_⟩
      intro report total
      have performed : answer = _ := (Command.answer_of_resolved accepted loads resolves).trans
        (Command.perform_of_failed failed arguments.asJson)
      refine ⟨performed, fun asText => ?_, fun asJson small later => ?_⟩
      · obtain ⟨blocks, shown, text⟩ := Outcome.exists_shownBy taken.1.outcomes
        refine ⟨blocks, shown, ?_⟩
        rw [← text, performed, asText]
        rfl
      · obtain ⟨_, _, read⟩ := loads.reads
        have steps := (Journal.legible_of_ofText read).steps
        rw [performed, asJson]
        exact Command.read_jsonOutput_of_replay elapsed steps small later

/-- A journal of a write and of a write without a path. -/
def Journal.partlyNamed : Journal :=
  { Journal.start .epoch "journal" with
    progress := .completed
    steps :=
      [{ Step.bare .epoch "named" 0 .fileWrite with edit := some (.between "a" "" "") },
        { Step.bare .epoch "unnamed" 1 .fileWrite with edit := some (.between "" "" "") }] }

open Json in
def Journal.partlyNamedText : String :=
  let step (id : String) (number : Nat) (path : String) : Json :=
    .object
      [("id", .text id), ("step_number", natural number), ("type", .text "file_write"),
        ("file_diff", .object [("path", .text path)])]
  (Json.object
    [("id", .text "journal"),
      ("steps", .list [step "named" 0 "a", step "unnamed" 1 ""])]).compact

/-- The journal is the only file. -/
def Files.partlyNamed : Files := fun path =>
  if path = "journal.json" then .ok Journal.partlyNamedText.toUTF8 else .error .notFound

/-- The write with a path is told before the command fails at the other one. -/
theorem exitCode_of_partlyNamed :
    let given := ["replay", "--session", "journal.json", "--mode", "simulate", "--json"]
    let settings := Settings.ofMode .simulate
    let taken := (Player.start .epoch .partlyNamed settings).playToEnd
    Journal.partlyNamed.BlockedAt settings 1 ∧
      taken.1.outcomes.map Outcome.step = Journal.partlyNamed.steps.take 1 ∧
      let answer := Command.answer .epoch .partlyNamed given fun _ => 1500000
      answer.code = 1 ∧
        answer.faults = ["Step 1 cannot be replayed: file step has an empty path"] ∧
        (Output.reader .epoch).run answer.output =
          .ok ⟨taken.1.outcomes.mapIdx fun _ outcome => ⟨outcome.number, outcome.outlined, 1⟩,
            Report.of taken.2.state taken.1.outcomes, 1⟩ := by
  intro given settings taken
  let arguments : ReplayArguments :=
    ⟨"journal.json", some .simulate, none, none, [], false, none, false, true⟩
  have loads : arguments.Loads .epoch .partlyNamed .partlyNamed := by
    have loaded : Command.loadJournal .epoch .partlyNamed "journal.json" = .ok .partlyNamed :=
      Json.eq_ok_of_toOption (by decide +kernel)
    exact ReplayArguments.loadJournal_eq_ok_iff.mp loaded
  have resolves : arguments.Resolves .partlyNamed settings := ⟨⟨.standard, rfl, rfl⟩, nofun⟩
  obtain ⟨_, _, replays⟩ :=
    exitCode_of_replay .epoch (fun _ => 1500000) .partlyNamed given arguments (by decide +kernel)
  obtain ⟨_, _, _, fails⟩ := replays .partlyNamed loads settings
  have failed : taken.1.stop = .failed (.rejected 1 "file step has an empty path") := by
    decide +kernel
  obtain ⟨index, blocked, same, steps, told⟩ := fails _ failed
  obtain ⟨rfl, _⟩ := PlayFault.rejected.inj same
  obtain ⟨performed, _, reads⟩ := told resolves
  have each : (milliseconds 1500000).toUInt64 = 1 := rfl
  have total : (milliseconds (Command.totalTime (fun _ => 1500000) taken.1)).toUInt64 = 1 := by
    decide +kernel
  have read := reads rfl (by decide) .epoch
  rw [total, each] at read
  exact ⟨blocked, steps, congrArg Answer.code performed, congrArg Answer.faults performed, read⟩

end Playback
