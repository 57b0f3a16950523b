import Playback.Proofs.Soundness

namespace Playback

/-- The earlier writes tell about a path, and the start of the recording tells about the rest. -/
def Journal.known? (journal : Journal) (writes : List (String × Snapshot)) (path : String) :
    Option Evidence :=
  match Table.last? path writes, journal.file? path with
  | some snapshot, _ => some (.tracked snapshot)
  | none, some snapshot => some (.recorded snapshot)
  | none, none => none

/-- Evidence contradicts a text whose digest it does not have. -/
def Evidence.Contradicts (evidence : Evidence) (text : String) : Prop :=
  evidence.snapshot.effectiveDigest ≠ some (Digest.ofText text)

/-- The divergence of an edit from the evidence against it. -/
def Evidence.divergence (evidence : Evidence) (now : Instant) (limit index : Nat) (edit : Edit) :
    Divergence where
  index := index
  kind := .contentMismatch
  description := evidence.description edit.path
  expected := Text.shorten limit edit.before
  actual := Text.shorten limit (evidence.snapshot.content.getD "")
  detectedAt := now

/-- The edit that an outcome compares, if its step is about an edit and is not skipped. -/
def Outcome.comparedEdit? (outcome : Outcome) : Option Edit :=
  match outcome.status with
  | .skipped => none
  | .completed | .failed => outcome.step.comparedEdit?

/-- The verdict of a simulation on an execution after the earlier ones. -/
structure Execution.Judged (now : Instant) (journal : Journal) (settings : Settings)
    (earlier : List Execution) (execution : Execution) : Prop where
  step : journal.step? execution.index = some execution.outcome.step
  silent : execution.outcome.comparedEdit? = none → execution.outcome.divergence = none
  diverges : ∀ edit, execution.outcome.comparedEdit? = some edit →
    (execution.outcome.divergence.isSome = true ↔
      ∃ evidence, journal.known? (writes .simulate now earlier) edit.path = some evidence ∧
        evidence.Contradicts edit.before)
  record : ∀ edit divergence, execution.outcome.comparedEdit? = some edit →
    execution.outcome.divergence = some divergence →
      ∃ evidence, journal.known? (writes .simulate now earlier) edit.path = some evidence ∧
        divergence = evidence.divergence now settings.limit.toNat execution.index edit
  content : journal.check = .ok () → ∀ edit evidence content,
    execution.outcome.comparedEdit? = some edit →
    journal.known? (writes .simulate now earlier) edit.path = some evidence →
    evidence.snapshot.content = some content →
    (Digest.ofText content = Digest.ofText edit.before → content = edit.before) →
      (execution.outcome.divergence.isSome = true ↔ content ≠ edit.before)

/-- What is known about a path is the evidence that the tables hold. -/
theorem Evidence.of?_ofList (journal : Journal) (writes : List (String × Snapshot))
    (path : String) :
    Evidence.of? journal.files (.ofList writes) path = journal.known? writes path := by
  rw [Evidence.of?, Table.get?_ofList, Journal.known?, Journal.file?]
  cases Table.last? path writes with
  | some snapshot => rfl
  | none => cases journal.files.get? path <;> rfl

/-- A detected divergence is the one of the evidence that contradicts the edit. -/
theorem Divergence.detect?_eq_some_iff {now : Instant} {recorded tracked : Table Snapshot}
    {limit index : Nat} {edit : Edit} {divergence : Divergence} :
    detect? now recorded tracked limit index edit.path edit.before = some divergence ↔
      ∃ evidence, Evidence.of? recorded tracked edit.path = some evidence ∧
        evidence.Contradicts edit.before ∧
        divergence = evidence.divergence now limit index edit := by
  rw [detect?]
  cases known : Evidence.of? recorded tracked edit.path with
  | none => simp
  | some evidence =>
      simp only [Option.some.injEq, exists_eq_left']
      by_cases against : evidence.Contradicts edit.before
      · have differs : evidence.snapshot.hasDigest (Digest.ofText edit.before) = false :=
          beq_eq_false_iff_ne.mpr against
        rw [differs]
        exact ⟨fun met => ⟨against, (Option.some.inj met).symm⟩, fun met => congrArg some met.2.symm⟩
      · have agrees : evidence.snapshot.hasDigest (Digest.ofText edit.before) = true :=
          beq_iff_eq.mpr (not_not.mp against)
        rw [agrees]
        exact ⟨nofun, fun met => absurd met.1 against⟩

/-- A replayed step compares the edit that it is about. -/
@[simp] theorem Step.outcome_comparedEdit? (step : Step) (effect : Effect) :
    (step.outcome effect).comparedEdit? = step.comparedEdit? := by
  rw [Outcome.comparedEdit?, outcome_step]
  cases status : (step.outcome effect).status with
  | skipped => exact absurd status (step.outcome_status_ne_skipped effect)
  | completed | failed => rfl

/-- The evidence on a checked journal is sound. -/
theorem Journal.sound_of_known {journal : Journal} {now : Instant} {mode : Mode}
    {earlier : List Execution} {path : String} {evidence : Evidence}
    (checked : journal.check = .ok ())
    (own : ∀ execution ∈ earlier, journal.step? execution.index = some execution.outcome.step)
    (known : journal.known? (Execution.writes mode now earlier) path = some evidence) :
    evidence.snapshot.Sound := by
  rw [known?] at known
  cases last : Table.last? path (Execution.writes mode now earlier) with
  | some snapshot =>
      rw [last] at known
      obtain rfl := Option.some.inj known
      obtain ⟨execution, member, written⟩ := List.mem_filterMap.mp (Table.mem_of_last? last)
      exact Outcome.sound_of_write checked (own execution member) written
  | none =>
      rw [last] at known
      cases recorded : journal.file? path with
      | none =>
          rw [recorded] at known
          contradiction
      | some snapshot =>
          rw [recorded] at known
          obtain rfl := Option.some.inj known
          exact Journal.sound_of_file checked recorded

namespace Execution.Told

variable {now : Instant} {journal : Journal} {settings : Settings} {earlier : List Execution}
  {execution : Execution}

/-- An execution that compares no edit does not diverge. -/
theorem silent (told : execution.Told now journal settings earlier)
    (other : execution.outcome.comparedEdit? = none) : execution.outcome.divergence = none := by
  cases told with
  | skipped index step found skip => rfl
  | replayed index step found kept accepted =>
      rw [Step.outcome_comparedEdit?] at other
      rw [Step.outcome_divergence, Step.intended, Step.divergence?, other]
      split <;> rfl

/-- An execution that compares an edit diverges by the evidence against it. -/
theorem divergence_iff (told : execution.Told now journal settings earlier)
    (simulating : settings.mode = .simulate) {edit : Edit}
    (compared : execution.outcome.comparedEdit? = some edit) (divergence : Divergence) :
    execution.outcome.divergence = some divergence ↔
      ∃ evidence, journal.known? (writes .simulate now earlier) edit.path = some evidence ∧
        evidence.Contradicts edit.before ∧
        divergence = evidence.divergence now settings.limit.toNat execution.index edit := by
  cases told with
  | skipped index step found skip => contradiction
  | replayed index step found kept accepted =>
      rw [Step.outcome_comparedEdit?] at compared
      rw [Step.outcome_divergence, Step.intended, Step.divergence?, Scene.told, simulating,
        compared, ← Evidence.of?_ofList]
      exact Divergence.detect?_eq_some_iff

/-- A simulation judges an execution by the earlier ones. -/
theorem judged (told : execution.Told now journal settings earlier)
    (own : ∀ execution ∈ earlier, journal.step? execution.index = some execution.outcome.step)
    (simulating : settings.mode = .simulate) :
    execution.Judged now journal settings earlier := by
  have diverges (edit : Edit) (compared : execution.outcome.comparedEdit? = some edit) :
      execution.outcome.divergence.isSome = true ↔
        ∃ evidence, journal.known? (writes .simulate now earlier) edit.path = some evidence ∧
          evidence.Contradicts edit.before := by
    rw [Option.isSome_iff_exists]
    constructor
    · rintro ⟨divergence, met⟩
      obtain ⟨evidence, known, against, _⟩ := (told.divergence_iff simulating compared _).mp met
      exact ⟨evidence, known, against⟩
    · rintro ⟨evidence, known, against⟩
      exact ⟨_, (told.divergence_iff simulating compared _).mpr ⟨evidence, known, against, rfl⟩⟩
  refine ⟨told.step, told.silent, diverges, fun edit divergence compared met => ?_,
    fun checked edit evidence content compared known kept injective => ?_⟩
  · obtain ⟨evidence, known, _, record⟩ := (told.divergence_iff simulating compared _).mp met
    exact ⟨evidence, known, record⟩
  · have digest := Journal.sound_of_known checked own known content kept
    have effective : evidence.snapshot.effectiveDigest = some (Digest.ofText content) := by
      rw [Snapshot.effectiveDigest, digest, Option.some_or]
    have against : evidence.Contradicts edit.before ↔ content ≠ edit.before := by
      rw [Evidence.Contradicts, effective, ne_eq, Option.some.injEq]
      exact not_congr ⟨injective, congrArg Digest.ofText⟩
    rw [diverges edit compared, ← against]
    exact ⟨fun ⟨_, same, found⟩ => Option.some.inj (known.symm.trans same) ▸ found,
      fun found => ⟨evidence, known, found⟩⟩

end Execution.Told

/-- Every run of a simulation records exactly the divergences of its executions, each judged by the
executions before it. -/
theorem divergences_of_run (now : Instant) (journal : Journal) (settings : Settings)
    (operations : List Operation) (simulating : settings.mode = .simulate) :
    let start := Player.start now journal settings
    let past := start.executions operations
    (start.run operations).state.divergences =
        past.filterMap (fun execution => execution.outcome.divergence) ∧
      ∀ earlier execution, earlier ++ [execution] <+: past →
        execution.Judged now journal settings earlier := by
  intro start past
  have history : History start past (start.run operations) := start.history_run operations
  refine ⟨congrArg State.divergences history.told, fun earlier execution within => ?_⟩
  have own (other : Execution) (member : other ∈ earlier) :
      journal.step? other.index = some other.outcome.step := by
    have earlierPast : earlier <+: past := (List.prefix_append earlier [execution]).trans within
    obtain ⟨_, _, told⟩ := history.exists_told (earlierPast.subset member)
    exact told.step
  exact (history.execution_told within).judged own simulating

/-- A journal in which a file is edited after it was removed. -/
def Journal.removedThenEdited : Journal :=
  ((Journal.start .epoch "journal").append
      { Step.bare .epoch "removal" 0 .fileRemove with
        edit := some (.between "a" "old" "") }).append
    { Step.bare .epoch "edit" 1 .fileDiff with
      edit := some (.between "a" "old" "new") }

/-- The edit of a removed file diverges. -/
theorem divergences_of_removed :
    let settings := Settings.ofMode .simulate
    let start := Player.start .epoch .removedThenEdited settings
    let past := start.executions [.playToEnd]
    settings.mode = .simulate ∧
      (start.run [.playToEnd]).state.divergences.map Divergence.index = [1] ∧
      (start.run [.playToEnd]).state.divergences.map Divergence.description =
        ["File was removed earlier in the replay: a"] ∧
      ∀ earlier execution, earlier ++ [execution] <+: past →
        execution.Judged .epoch .removedThenEdited settings earlier :=
  ⟨rfl, by rfl, by rfl,
    (divergences_of_run .epoch .removedThenEdited (.ofMode .simulate) [.playToEnd] rfl).2⟩

end Playback
