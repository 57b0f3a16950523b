import Playback.Proofs.Evidence
import Playback.Proofs.Tracked

namespace Playback

/-- What a divergence says of a file that is known to be absent. -/
def Evidence.absence : Evidence → String
  | .tracked _ => "File was removed earlier in the replay: "
  | .recorded _ => "File did not exist in recorded state: "

/-- The divergence of an edit from a file that is absent. -/
def Divergence.ofAbsence (now : Instant) (limit index : Nat) (edit : Edit)
    (absence content : String) : Divergence where
  index := index
  kind := .contentMismatch
  description := absence ++ edit.path
  expected := Text.shorten limit edit.before
  actual := Text.shorten limit content
  detectedAt := now

/-- An absent file agrees with an edit by its digest only. -/
theorem Divergence.detect?_of_absent {now : Instant} {recorded tracked : Table Snapshot}
    {limit index : Nat} {edit : Edit} {evidence : Evidence}
    (known : Evidence.of? recorded tracked edit.path = some evidence)
    (absent : evidence.snapshot.present = false) :
    detect? now recorded tracked limit index edit.path edit.before =
      if evidence.snapshot.effectiveDigest = some (Digest.ofText edit.before) then none
      else some (ofAbsence now limit index edit evidence.absence
        (evidence.snapshot.content.getD "")) := by
  have described : evidence.description edit.path = evidence.absence ++ edit.path := by
    cases evidence with
    | tracked snapshot | recorded snapshot =>
        have gone : snapshot.present = false := absent
        simp [Evidence.description, Evidence.absence, gone]
  simp only [detect?, known, Snapshot.hasDigest, beq_iff_eq, described, ofAbsence]

/-- A tracked file that is missing has no digest to agree with. -/
theorem Snapshot.Kept.effectiveDigest_of_absent {path : String} {snapshot : Snapshot}
    (kept : snapshot.Kept path) (absent : snapshot.present = false) :
    snapshot.effectiveDigest = none := by
  obtain ⟨content, digest, _⟩ := kept.bare absent
  rw [effectiveDigest, content, digest]
  rfl

/-- A tracked file was left behind by an accepted step, so it is kept well. -/
theorem History.kept_of_tracked {now : Instant} {journal : Journal} {settings : Settings}
    {past : List Execution} {player : Player} {path : String} {snapshot : Snapshot}
    (history : History (Player.start now journal settings) past player)
    (tracked : player.state.tracked? path = some snapshot) : snapshot.Kept path := by
  obtain ⟨step, _, accepted, written⟩ :=
    history.accepted_of_tracked (Table.mem_of_get? tracked)
  exact Step.kept_of_accepted accepted written

/-- A simulated edit is compared with the files as they are before its turn. -/
theorem Turn.divergence_of_edit {player after : Player} {outcome : Outcome} {edit : Edit}
    (turn : Turn player (.ok outcome) after) (simulating : player.settings.mode = .simulate)
    (compared : outcome.comparedEdit? = some edit) :
    outcome.divergence =
      Divergence.detect? player.now player.journal.files player.state.files
        player.settings.limit.toNat player.state.cursor edit.path edit.before := by
  cases turn with
  | skipped step found skip => contradiction
  | replayed step found kept accepted =>
      rw [Step.outcome_comparedEdit?] at compared
      rw [Step.outcome_divergence, Step.intended, Step.divergence?, Player.scene, simulating,
        compared]
      rfl

/-- In any simulation an edit of a file that was removed earlier diverges. An edit of a file that was
absent from the start diverges exactly if the recorded digest, or else that of the recorded content,
is not the one of the content before the edit. -/
theorem divergence_of_absent {now : Instant} {journal : Journal} {settings : Settings}
    {past : List Execution} {player after : Player} {outcome : Outcome} {edit : Edit}
    (simulating : settings.mode = .simulate)
    (history : History (Player.start now journal settings) past player)
    (taken : player.next = (.ok outcome, after)) (compared : outcome.comparedEdit? = some edit) :
    let limit := settings.limit.toNat
    let index := player.state.cursor
    (∀ snapshot, player.state.tracked? edit.path = some snapshot → snapshot.present = false →
      outcome.divergence =
        some (.ofAbsence now limit index edit "File was removed earlier in the replay: " "")) ∧
    ∀ snapshot, player.state.tracked? edit.path = none →
      journal.file? edit.path = some snapshot → snapshot.present = false →
      outcome.divergence =
        if snapshot.effectiveDigest = some (Digest.ofText edit.before) then none
        else some (.ofAbsence now limit index edit "File did not exist in recorded state: "
          (snapshot.content.getD "")) := by
  intro limit index
  obtain ⟨recorded, following, clock⟩ := history.fixed
  have turn := player.next_turn
  rw [taken] at turn
  have met := turn.divergence_of_edit (by rw [following]; exact simulating) compared
  rw [recorded, following, clock] at met
  refine ⟨fun snapshot tracked absent => ?_, fun snapshot untracked listed absent => ?_⟩
  · have known : Evidence.of? journal.files player.state.files edit.path =
        some (.tracked snapshot) := by
      rw [Evidence.of?, show player.state.files.get? edit.path = _ from tracked]
      rfl
    have kept := history.kept_of_tracked tracked
    have bare : snapshot.effectiveDigest = none := kept.effectiveDigest_of_absent absent
    have empty : snapshot.content = none := (kept.bare absent).1
    refine (met.trans (Divergence.detect?_of_absent known absent)).trans ?_
    rw [Evidence.snapshot, bare, empty]
    rfl
  · have known : Evidence.of? journal.files player.state.files edit.path =
        some (.recorded snapshot) := by
      rw [Evidence.of?, show player.state.files.get? edit.path = _ from untracked,
        show journal.files.get? edit.path = _ from listed]
      rfl
    exact met.trans (Divergence.detect?_of_absent known absent)

/-- A journal in which a file is edited that was absent from the start, with what is recorded of the
file. -/
def Journal.editedAbsent (digest : Option Digest) : Journal :=
  { Journal.start .epoch "journal" with
    steps := [{ Step.bare .epoch "edit" 0 .fileDiff with edit := some (.between "a" "old" "new") }]
    files := Table.empty.put "a" { Snapshot.missing .epoch "a" with digest := digest } }

/-- The file that a simulation has removed is missed by the edit after the removal, and the file that
the recording started without is missed by the first edit. -/
theorem divergence_of_absent_files :
    let settings := Settings.ofMode .simulate
    let edit := Edit.between "a" "old" "new"
    let removing := Player.start .epoch .removedThenEdited settings
    let lacking := Player.start .epoch (.editedAbsent none) settings
    settings.mode = .simulate ∧
      (∃ outcome, removing.next.2.next = (.ok outcome, removing.next.2.next.2) ∧
        outcome.comparedEdit? = some edit ∧
        removing.next.2.state.tracked? "a" = some (.missing .epoch "a") ∧
        outcome.divergence =
          some (.ofAbsence .epoch 200 1 edit "File was removed earlier in the replay: " "")) ∧
      ∃ outcome, lacking.next = (.ok outcome, lacking.next.2) ∧
        outcome.comparedEdit? = some edit ∧ lacking.state.tracked? "a" = none ∧
        lacking.journal.file? "a" = some (.missing .epoch "a") ∧
        outcome.divergence =
          some (.ofAbsence .epoch 200 0 edit "File did not exist in recorded state: " "") := by
  intro settings edit removing lacking
  have history : History removing _ removing.next.2 := History.start.turn removing.next_turn
  obtain ⟨outcome, taken, compared⟩ : ∃ outcome,
      removing.next.2.next = (.ok outcome, removing.next.2.next.2) ∧
        outcome.comparedEdit? = some edit := ⟨_, rfl, rfl⟩
  obtain ⟨first, begun, asked⟩ : ∃ outcome, lacking.next = (.ok outcome, lacking.next.2) ∧
      outcome.comparedEdit? = some edit := ⟨_, rfl, rfl⟩
  obtain ⟨removed, _⟩ := divergence_of_absent rfl history taken compared
  obtain ⟨_, lacked⟩ := divergence_of_absent rfl History.start begun asked
  exact ⟨rfl, ⟨outcome, taken, compared, rfl, removed _ rfl rfl⟩,
    first, begun, asked, rfl, rfl, lacked _ rfl rfl rfl⟩

/-- Whatever a simulation has done, an edit of content in a file that is known to be absent diverges,
and the divergence tells whether the replay has removed the file or it was not there. -/
def Journal.MissesAbsent (journal : Journal) (now : Instant) : Prop :=
  ∀ settings past player after outcome edit snapshot, settings.mode = .simulate →
    History (Player.start now journal settings) past player →
    player.next = (.ok outcome, after) → outcome.comparedEdit? = some edit → edit.before ≠ "" →
    (player.state.tracked? edit.path).or (journal.file? edit.path) = some snapshot →
    snapshot.present = false →
      ∃ divergence, outcome.divergence = some divergence ∧ divergence.kind = .contentMismatch ∧
        divergence.description =
          (if (player.state.tracked? edit.path).isSome then
            "File was removed earlier in the replay: "
          else "File did not exist in recorded state: ") ++ edit.path

/-- If the recording kept the digest of the content before an edit and yet tells that the file was
absent, then the journal passes its check, and the edit does not diverge. -/
theorem not_missesAbsent_of_editedAbsent :
    let journal := Journal.editedAbsent (some (Digest.ofText "old"))
    journal.check = .ok () ∧ ¬ journal.MissesAbsent .epoch := by
  intro journal
  refine ⟨rfl, fun misses => ?_⟩
  let player := Player.start .epoch journal (.ofMode .simulate)
  obtain ⟨outcome, taken, compared⟩ : ∃ outcome, player.next = (.ok outcome, player.next.2) ∧
      outcome.comparedEdit? = some (.between "a" "old" "new") := ⟨_, rfl, rfl⟩
  have known : Evidence.of? journal.files player.state.files "a" =
      some (.recorded { Snapshot.missing .epoch "a" with digest := some (Digest.ofText "old") }) :=
    rfl
  have turn := player.next_turn
  rw [taken] at turn
  have agrees : outcome.divergence = none :=
    (turn.divergence_of_edit rfl compared).trans
      ((Divergence.detect?_of_absent known rfl).trans (if_pos rfl))
  obtain ⟨divergence, met, _⟩ := misses _ _ player _ outcome _ _ rfl .start taken compared
    (by decide) rfl rfl
  exact Option.some_ne_none divergence (met.symm.trans agrees)

end Playback
