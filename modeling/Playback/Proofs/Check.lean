import Playback.Journal

namespace Playback

namespace Snapshot

/-- A snapshot agrees with its digest if a kept content comes with its own digest. -/
def Sound (snapshot : Snapshot) : Prop :=
  ∀ content, snapshot.content = some content → snapshot.digest = some (Digest.ofText content)

theorem verify_ok_iff (snapshot : Snapshot) : snapshot.verify = .ok () ↔ snapshot.Sound := by
  rw [verify, Sound]
  cases snapshot.content with
  | none => simp
  | some content =>
      by_cases same : snapshot.digest = some (Digest.ofText content)
      · simp [same]
      · simp [same]

end Snapshot

/-- This library reads the editions of its own first part. -/
theorem Edition.reads_iff (edition : Edition) :
    Edition.current.reads edition = true ↔ edition.major = 1 := by
  rw [reads, beq_iff_eq, eq_comm]
  rfl

/-- The snapshots in the build of a step. -/
def Step.snapshots (step : Step) : List Snapshot := (step.build.map Build.snapshots).getD []

namespace Journal

theorem checkSnapshots_ok_iff (snapshots : List Snapshot) :
    checkSnapshots snapshots = .ok () ↔ ∀ snapshot ∈ snapshots, snapshot.Sound := by
  induction snapshots with
  | nil => simp [checkSnapshots]
  | cons snapshot rest inductionHypothesis =>
      rw [checkSnapshots, List.forall_mem_cons, ← snapshot.verify_ok_iff, ← inductionHypothesis]
      cases snapshot.verify <;> simp

theorem checkSteps_ok_iff (seen : List Nat) (steps : List Step) :
    checkSteps seen steps = .ok () ↔
      (∀ step ∈ steps, step.number ∉ seen) ∧ (steps.map Step.number).Nodup ∧
        ∀ step ∈ steps, ∀ snapshot ∈ step.snapshots, snapshot.Sound := by
  induction steps generalizing seen with
  | nil => simp [checkSteps]
  | cons step rest inductionHypothesis =>
      rw [checkSteps]
      by_cases known : step.number ∈ seen
      · simp [known]
      · have first := checkSnapshots_ok_iff step.snapshots
        have others := inductionHypothesis (step.number :: seen)
        rw [if_neg known]
        rw [Step.snapshots] at first
        cases checked : checkSnapshots ((step.build.map Build.snapshots).getD []) with
        | error fault =>
            simp only [checked, reduceCtorEq, false_iff] at first
            simp only [reduceCtorEq, false_iff]
            rintro ⟨_, _, sound⟩
            exact first (sound step List.mem_cons_self)
        | ok passed =>
            have fresh : step.number ∉ rest.map Step.number ↔
                ∀ other ∈ rest, other.number ≠ step.number := by
              simp
            simp only [checked, true_iff] at first
            dsimp only
            rw [others, List.forall_mem_cons, List.forall_mem_cons, List.map_cons,
              List.nodup_cons, fresh]
            constructor
            · rintro ⟨new, distinct, sound⟩
              refine ⟨⟨known, fun other member same => ?_⟩,
                ⟨fun other member same => ?_, distinct⟩, first, sound⟩
              · exact new other member (List.mem_cons_of_mem _ same)
              · exact new other member (same ▸ List.mem_cons_self)
            · rintro ⟨⟨_, unseen⟩, ⟨new, distinct⟩, _, sound⟩
              refine ⟨fun other member same => ?_, distinct, sound⟩
              rcases List.mem_cons.mp same with same | same
              · exact new other member same
              · exact unseen other member same

theorem checkFiles_ok_iff (entries : List (String × Snapshot)) :
    checkFiles entries = .ok () ↔
      ∀ entry ∈ entries, entry.1 = entry.2.path ∧ entry.2.Sound := by
  induction entries with
  | nil => simp [checkFiles]
  | cons entry rest inductionHypothesis =>
      rw [List.forall_mem_cons, ← inductionHypothesis, ← entry.2.verify_ok_iff, checkFiles]
      by_cases own : entry.1 = entry.2.path
      · cases entry.2.verify <;> simp [own]
      · simp [own]

/-- The check of a journal passes exactly if nothing is wrong with it. -/
theorem check_ok_iff (journal : Journal) :
    journal.check = .ok () ↔
      journal.edition.major = 1 ∧ (journal.steps.map Step.number).Nodup ∧
        (∀ step ∈ journal.steps, ∀ snapshot ∈ step.snapshots, snapshot.Sound) ∧
        ∀ entry ∈ journal.files.entries, entry.1 = entry.2.path ∧ entry.2.Sound := by
  have steps := checkSteps_ok_iff [] journal.steps
  have files := checkFiles_ok_iff journal.files.entries
  rw [check, ← journal.edition.reads_iff, ← files]
  by_cases readable : Edition.current.reads journal.edition = true
  · rw [if_pos readable]
    cases checked : checkSteps [] journal.steps with
    | error fault =>
        simp only [checked, reduceCtorEq, false_iff] at steps
        simp only [reduceCtorEq, false_iff]
        rintro ⟨_, distinct, sound, _⟩
        exact steps ⟨fun _ _ => List.not_mem_nil, distinct, sound⟩
    | ok passed =>
        simp only [checked, true_iff] at steps
        obtain ⟨_, distinct, sound⟩ := steps
        exact ⟨fun passes => ⟨readable, distinct, sound, passes⟩, fun valid => valid.2.2.2⟩
  · simp [readable]

/-- The files that the builds of a checked journal leave behind are sound. -/
theorem sound_of_after {journal : Journal} {step : Step} {build : Build} {after : Snapshot}
    (checked : journal.check = .ok ()) (member : step ∈ journal.steps)
    (built : step.build = some build) (left : build.after = some after) : after.Sound := by
  obtain ⟨_, _, sound, _⟩ := (check_ok_iff journal).mp checked
  exact sound step member after (by simp [Step.snapshots, built, Build.snapshots, left])

/-- The files that a checked journal starts from are sound. -/
theorem sound_of_file {journal : Journal} {path : String} {snapshot : Snapshot}
    (checked : journal.check = .ok ()) (known : journal.file? path = some snapshot) :
    snapshot.Sound := by
  obtain ⟨_, _, _, sound⟩ := (check_ok_iff journal).mp checked
  exact (sound (path, snapshot) (Table.mem_of_get? known)).2

end Journal

end Playback
