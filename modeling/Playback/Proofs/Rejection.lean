import Playback.Proofs.Check
import Playback.Proofs.Turn

namespace Playback

/-- The defects of the steps on files. The edit of a step is asked for the path before the build,
and the path of a build before its file. -/
inductive Step.Defective (step : Step) (verifies : Bool) : Rejection → Prop where
  | edit (edit : Edit) (kind : step.kind = .fileDiff) (edited : step.edit = some edit)
      (empty : edit.path = "") : Defective step verifies .emptyPath
  | fileOfEdit (edit : Edit) (kind : step.kind = .fileWrite ∨ step.kind = .fileRemove)
      (edited : step.edit = some edit) (empty : edit.path = "") :
      Defective step verifies .emptyPath
  | fileOfBuild (build : Build) (kind : step.kind = .fileWrite ∨ step.kind = .fileRemove)
      (unedited : step.edit = none) (built : step.build = some build) (empty : build.path = "") :
      Defective step verifies .emptyPath
  | buildPath (build : Build) (after : Snapshot)
      (kind : step.kind = .buildStart ∨ step.kind = .buildComplete ∨ step.kind = .buildError)
      (built : step.build = some build) (succeeded : build.succeeded = true)
      (left : build.after = some after) (empty : build.path = "") :
      Defective step verifies .emptyPath
  | buildFile (build : Build) (after : Snapshot) (cause : Fault)
      (kind : step.kind = .buildStart ∨ step.kind = .buildComplete ∨ step.kind = .buildError)
      (built : step.build = some build) (succeeded : build.succeeded = true)
      (left : build.after = some after) (named : build.path ≠ "") (verified : verifies = true)
      (unsound : after.verify = .error cause) : Defective step verifies (.badSnapshot cause)

/-- A successful build with a file is defective for its path or else for its file. -/
theorem Build.defect?_eq_some_iff {build : Build} {verifies : Bool} {rejection : Rejection} :
    build.defect? verifies = some rejection ↔
      build.succeeded = true ∧ ∃ after, build.after = some after ∧
        (build.path = "" ∧ .emptyPath = rejection ∨
          build.path ≠ "" ∧ verifies = true ∧
            ∃ cause, after.verify = .error cause ∧ .badSnapshot cause = rejection) := by
  rw [defect?]
  cases succeeded : build.succeeded with
  | false => simp
  | true =>
      cases left : build.after with
      | none => simp
      | some after =>
          by_cases empty : build.path = ""
          · simp [empty]
          · cases verifies <;> cases sound : after.verify <;> simp [empty, sound]

namespace Step

variable {step : Step} {verifies : Bool} {rejection : Rejection}

/-- The path of a step is that of its edit, or else that of its build. -/
theorem path?_eq_some_iff {path : String} :
    step.path? = some path ↔
      (∃ edit, step.edit = some edit ∧ edit.path = path) ∨
        step.edit = none ∧ ∃ build, step.build = some build ∧ build.path = path := by
  rw [path?, Option.or_eq_some_iff, Option.map_eq_some_iff, Option.map_eq_none_iff,
    Option.map_eq_some_iff]

/-- A defective step is one that has no path for its file, or an unsound file. -/
theorem defective_of_defect? (defect : step.defect? verifies = some rejection) :
    step.Defective verifies rejection := by
  cases kind : step.kind with
  | fileDiff =>
      rw [defect?, kind] at defect
      obtain ⟨edit, edited, defect⟩ := Option.bind_eq_some_iff.mp defect
      obtain ⟨empty, same⟩ := Option.ite_none_right_eq_some.mp defect
      obtain rfl := Option.some.inj same
      exact .edit edit kind edited empty
  | fileWrite | fileRemove =>
      rw [defect?, kind] at defect
      obtain ⟨path, touched, defect⟩ := Option.bind_eq_some_iff.mp defect
      obtain ⟨rfl, same⟩ := Option.ite_none_right_eq_some.mp defect
      obtain rfl := Option.some.inj same
      rcases path?_eq_some_iff.mp touched with ⟨edit, edited, empty⟩ | ⟨unedited, build, built, empty⟩
      · exact .fileOfEdit edit (by simp [kind]) edited empty
      · exact .fileOfBuild build (by simp [kind]) unedited built empty
  | buildStart | buildComplete | buildError =>
      rw [defect?, kind] at defect
      obtain ⟨build, built, defect⟩ := Option.bind_eq_some_iff.mp defect
      obtain ⟨succeeded, after, left, reason⟩ := Build.defect?_eq_some_iff.mp defect
      rcases reason with ⟨empty, rfl⟩ | ⟨named, verified, cause, unsound, rfl⟩
      · exact .buildPath build after (by simp [kind]) built succeeded left empty
      · exact .buildFile build after cause (by simp [kind]) built succeeded left named verified
          unsound
  | _ =>
      rw [defect?, kind] at defect
      contradiction

/-- The defect of a step is the reason to reject it. -/
theorem defect?_of_defective (defective : step.Defective verifies rejection) :
    step.defect? verifies = some rejection := by
  cases defective with
  | edit edit kind edited empty => simp [defect?, kind, edited, empty]
  | fileOfEdit edit kind edited empty =>
      rcases kind with kind | kind <;> simp [defect?, kind, path?, edited, empty]
  | fileOfBuild build kind unedited built empty =>
      rcases kind with kind | kind <;> simp [defect?, kind, path?, unedited, built, empty]
  | buildPath build after kind built succeeded left empty =>
      have defect : build.defect? verifies = some .emptyPath :=
        Build.defect?_eq_some_iff.mpr ⟨succeeded, after, left, .inl ⟨empty, rfl⟩⟩
      rcases kind with kind | kind | kind <;> simp [defect?, kind, built, defect]
  | buildFile build after cause kind built succeeded left named verified unsound =>
      have defect : build.defect? verifies = some (.badSnapshot cause) :=
        Build.defect?_eq_some_iff.mpr
          ⟨succeeded, after, left, .inr ⟨named, verified, cause, unsound, rfl⟩⟩
      rcases kind with kind | kind | kind <;> simp [defect?, kind, built, defect]

/-- A step is refused for its defects, unless the replay only reads. -/
theorem refusal?_eq_some_iff {settings : Settings} :
    step.refusal? settings = some rejection ↔
      settings.mode ≠ .readOnly ∧ step.Defective settings.verifies rejection := by
  rw [refusal?]
  by_cases reading : settings.mode = .readOnly
  · simp [reading]
  · rw [if_neg reading]
    exact ⟨fun defect => ⟨reading, defective_of_defect? defect⟩,
      fun defective => defect?_of_defective defective.2⟩

/-- On a checked journal a step is rejected only for an empty path. -/
theorem rejection_of_checked {journal : Journal} (checked : journal.check = .ok ())
    (member : step ∈ journal.steps) (defective : step.Defective verifies rejection) :
    rejection = .emptyPath := by
  cases defective with
  | edit | fileOfEdit | fileOfBuild | buildPath => rfl
  | buildFile build after cause kind built succeeded left named verified unsound =>
      have sound := after.verify_ok_iff.mpr (Journal.sound_of_after checked member built left)
      rw [unsound] at sound
      contradiction

end Step

/-- A failed turn keeps all books, moves past its step and pauses there if it is to pause. -/
def Player.afterRejection (player : Player) : Player :=
  player.withState
    { player.state with
      cursor := player.state.cursor + 1
      paused := player.state.paused ||
        player.settings.pausesBefore.holds (player.state.cursor + 1) }

namespace Turn

variable {player after : Player} {result : Except PlayFault Outcome}

/-- A turn on a step fails exactly for a defect of a step that is not skipped or only read. -/
theorem error_iff (turn : Turn player result after) {step : Step}
    (found : player.journal.step? player.state.cursor = some step) (fault : PlayFault) :
    result = .error fault ↔
      player.settings.skips.holds player.state.cursor = false ∧
        player.settings.mode ≠ .readOnly ∧
        ∃ rejection, step.Defective player.settings.verifies rejection ∧
          fault = .rejected player.state.cursor rejection.message := by
  cases turn with
  | exhausted finished =>
      rw [finished] at found
      contradiction
  | skipped other same skip => simp [skip]
  | rejected other same kept rejection refused =>
      obtain rfl := Option.some.inj (same.symm.trans found)
      obtain ⟨acting, defective⟩ := Step.refusal?_eq_some_iff.mp refused
      constructor
      · intro failed
        exact ⟨kept, acting, rejection, defective, (Except.error.inj failed).symm⟩
      · rintro ⟨_, _, again, defectiveAgain, rfl⟩
        have refusedAgain := Step.refusal?_eq_some_iff.mpr ⟨acting, defectiveAgain⟩
        obtain rfl := Option.some.inj (refused.symm.trans refusedAgain)
        rfl
  | replayed other same kept accepted =>
      obtain rfl := Option.some.inj (same.symm.trans found)
      constructor
      · intro failed
        contradiction
      · rintro ⟨_, acting, rejection, defective, _⟩
        rw [Step.refusal?_eq_some_iff.mpr ⟨acting, defective⟩] at accepted
        contradiction

/-- A turn that fails on a step takes nothing into the books. -/
theorem after_of_error (turn : Turn player result after) {step : Step}
    (found : player.journal.step? player.state.cursor = some step) {fault : PlayFault}
    (failed : result = .error fault) : after = player.afterRejection := by
  cases turn with
  | exhausted finished =>
      rw [finished] at found
      contradiction
  | skipped other same skip => contradiction
  | rejected other same kept rejection refused => rfl
  | replayed other same kept accepted => contradiction

end Turn

/-- Past the journal there is nothing to replay. -/
theorem Player.next_of_length_le {player : Player}
    (finished : player.journal.length ≤ player.state.cursor) :
    player.next = (.error (.exhausted player.journal.length), player) := by
  have nothing : player.journal.step? player.state.cursor = none :=
    List.getElem?_eq_none finished
  simp only [next, nothing]

/-- A jump out of the journal changes nothing. -/
theorem Player.jump_of_length_le {player : Player} {index : Nat}
    (outside : player.journal.length ≤ index) :
    player.jump index = (.error (.outOfRange index player.journal.length), player) := by
  rw [jump, if_neg (Nat.not_lt.mpr outside)]

/-- A jump fails only out of the journal. -/
theorem Player.jump_error_iff {player : Player} {index : Nat} :
    (∃ fault, (player.jump index).1 = .error fault) ↔ player.journal.length ≤ index := by
  constructor
  · rintro ⟨fault, failed⟩
    apply Nat.le_of_not_lt
    intro inside
    rw [jump, if_pos inside] at failed
    contradiction
  · intro outside
    rw [jump_of_length_le outside]
    exact ⟨_, rfl⟩

/-- Every player fails exactly for the defects of the steps and out of the journal, and a failure
takes nothing into the books. -/
theorem failures_of_player (player : Player) :
    (∀ step, player.journal.step? player.state.cursor = some step →
      (∀ fault, player.next.1 = .error fault ↔
        player.settings.skips.holds player.state.cursor = false ∧
          player.settings.mode ≠ .readOnly ∧
          ∃ rejection, step.Defective player.settings.verifies rejection ∧
            fault = .rejected player.state.cursor rejection.message) ∧
      (∀ fault, player.next.1 = .error fault → player.next.2 = player.afterRejection) ∧
      (player.journal.check = .ok () → ∀ rejection,
        step.Defective player.settings.verifies rejection → rejection = .emptyPath)) ∧
      (player.journal.length ≤ player.state.cursor →
        player.next = (.error (.exhausted player.journal.length), player)) ∧
      ∀ index, ((∃ fault, (player.jump index).1 = .error fault) ↔
          player.journal.length ≤ index) ∧
        (player.journal.length ≤ index →
          player.jump index = (.error (.outOfRange index player.journal.length), player)) := by
  have turn := player.next_turn
  refine ⟨fun step found => ⟨turn.error_iff found, fun fault => turn.after_of_error found,
    fun checked rejection defective => ?_⟩, Player.next_of_length_le,
    fun index => ⟨Player.jump_error_iff, Player.jump_of_length_le⟩⟩
  exact Step.rejection_of_checked checked (List.mem_of_getElem? found) defective

/-- A journal in which a file without a path is written. -/
def Journal.unnamed : Journal :=
  (Journal.start .epoch "journal").append
    { Step.bare .epoch "write" 0 .fileWrite with edit := some (.between "" "old" "new") }

/-- The write of a file without a path is rejected. -/
theorem failures_of_unnamed :
    let player := Player.start .epoch .unnamed (.ofMode .apply)
    player.next.1 = .error (.rejected 0 "file step has an empty path") ∧
      player.next.2 = player.afterRejection := by
  intro player
  obtain ⟨fails, keeps, _⟩ := (failures_of_player player).1 _ rfl
  have failed : player.next.1 = .error (.rejected 0 "file step has an empty path") :=
    (fails _).mpr ⟨rfl, nofun, .emptyPath, .fileOfEdit _ (.inl rfl) rfl rfl, rfl⟩
  exact ⟨failed, keeps _ failed⟩

end Playback
