import Playback.Proofs.Numbering
import Playback.Proofs.Passage
import Playback.Proofs.Rejection
import Playback.Proofs.Soundness
import Playback.Proofs.Table

namespace Playback

/-- What a recorder may do to a journal. -/
inductive Recording where
  | push (now : Instant) (token : String) (kind : StepKind)
  | amend (index : Nat) (payload : Step)
  | append (step : Step)
  | file (snapshot : Snapshot)
  | finish (now : Instant) (progress : Progress)

namespace Recording

/-- The snapshots that a recording brings agree with their digests. -/
def Sound : Recording → Prop
  | .push .. | .finish .. => True
  | .amend _ step | .append step => ∀ snapshot ∈ step.snapshots, snapshot.Sound
  | .file snapshot => snapshot.Sound

def file? : Recording → Option (String × Snapshot)
  | .file snapshot => some (snapshot.path, snapshot)
  | .push .. | .amend .. | .append _ | .finish .. => none

/-- The files that were recorded, in order and with repeats. -/
def files (recordings : List Recording) : List (String × Snapshot) := recordings.filterMap file?

end Recording

namespace Journal

/-- A step takes over everything but its number. -/
def amend (journal : Journal) (index : Nat) (payload : Step) : Journal :=
  { journal with
    steps := journal.steps.modify index fun step => { payload with number := step.number } }

def record (journal : Journal) : Recording → Journal
  | .push now token kind => journal.append (.bare now (Step.freshId token) journal.length kind)
  | .amend index payload => journal.amend index payload
  | .append step => journal.append step
  | .file snapshot => journal.addFile snapshot
  | .finish now progress => journal.finish now progress

def recordAll (journal : Journal) (recordings : List Recording) : Journal :=
  recordings.foldl record journal

section Steps

variable {journal : Journal} {step found : Step} {index place : Nat}

/-- A step of a longer journal is an old one, or the new one with its position as its number. -/
theorem step_of_append (known : (journal.append step).step? index = some found) :
    journal.step? index = some found ∨
      index = journal.length ∧ found = { step with number := journal.length } := by
  rcases Nat.lt_or_ge index journal.length with inside | outside
  · rw [step?, append, List.getElem?_append_left inside] at known
    exact .inl known
  · have within := lt_length_of_step known
    have longer : (journal.append step).length = journal.length + 1 := List.length_append
    obtain rfl : index = journal.length := by
      omega
    rw [step?, append, length, List.getElem?_concat_length] at known
    exact .inr ⟨rfl, (Option.some.inj known).symm⟩

/-- A step of an amended journal is an old one, or the payload with the number of an old one. -/
theorem step_of_amend (known : (journal.amend index step).step? place = some found) :
    ∃ old, journal.step? place = some old ∧
      (found = old ∨ found = { step with number := old.number }) := by
  rw [step?, amend, List.getElem?_modify] at known
  obtain ⟨old, same, rfl⟩ := Option.map_eq_some_iff.mp known
  refine ⟨old, same, ?_⟩
  split
  · exact .inr rfl
  · exact .inl rfl

end Steps

/-- The numbers of numbered steps are all different, because they are their positions. -/
theorem numbers_of_numbered {journal : Journal} (numbered : journal.Numbered) :
    journal.steps.map Step.number = List.range journal.length := by
  apply List.ext_getElem?
  intro index
  rw [List.getElem?_map]
  cases found : journal.steps[index]? with
  | none =>
      have outside : journal.length ≤ index := List.getElem?_eq_none_iff.mp found
      rw [List.getElem?_eq_none (by rwa [List.length_range])]
      rfl
  | some step =>
      rw [List.getElem?_range (lt_length_of_step found), Option.map_some, numbered index step found]

/-- What holds of a journal at any time of its recording. -/
structure Recorded (journal : Journal) : Prop where
  edition : journal.edition = .current
  numbered : journal.Numbered
  sound : ∀ step ∈ journal.steps, ∀ snapshot ∈ step.snapshots, snapshot.Sound
  files : ∀ entry ∈ journal.files.entries, entry.1 = entry.2.path ∧ entry.2.Sound

namespace Recorded

variable {journal : Journal}

theorem start (now : Instant) (id : String) : (Journal.start now id).Recorded where
  edition := rfl
  numbered _ _ found := absurd found (Option.some_ne_none _).symm
  sound _ member := absurd member List.not_mem_nil
  files _ member := absurd member List.not_mem_nil

theorem append (recorded : journal.Recorded) {step : Step}
    (sound : ∀ snapshot ∈ step.snapshots, snapshot.Sound) : (journal.append step).Recorded where
  edition := recorded.edition
  numbered index other found := by
    rcases step_of_append found with known | ⟨rfl, rfl⟩
    · exact recorded.numbered index other known
    · rfl
  sound other member := by
    obtain ⟨index, found⟩ := List.mem_iff_getElem?.mp member
    rcases step_of_append found with known | ⟨_, rfl⟩
    · exact recorded.sound other (List.mem_of_getElem? known)
    · exact sound
  files := recorded.files

theorem amend (recorded : journal.Recorded) (index : Nat) {payload : Step}
    (sound : ∀ snapshot ∈ payload.snapshots, snapshot.Sound) :
    (journal.amend index payload).Recorded where
  edition := recorded.edition
  numbered place other found := by
    obtain ⟨old, known, rfl | rfl⟩ := step_of_amend found
    · exact recorded.numbered place other known
    · exact recorded.numbered place old known
  sound other member := by
    obtain ⟨place, found⟩ := List.mem_iff_getElem?.mp member
    obtain ⟨old, known, rfl | rfl⟩ := step_of_amend found
    · exact recorded.sound other (List.mem_of_getElem? known)
    · exact sound
  files := recorded.files

theorem addFile (recorded : journal.Recorded) {snapshot : Snapshot} (sound : snapshot.Sound) :
    (journal.addFile snapshot).Recorded where
  edition := recorded.edition
  numbered := recorded.numbered
  sound := recorded.sound
  files entry member := by
    rcases Table.mem_of_mem_putEntry member with rfl | known
    · exact ⟨rfl, sound⟩
    · exact recorded.files entry known

/-- A recording keeps what holds of the journal. -/
theorem record (recorded : journal.Recorded) {recording : Recording} (sound : recording.Sound) :
    (journal.record recording).Recorded := by
  cases recording with
  | push now token kind => exact recorded.append fun _ member => absurd member List.not_mem_nil
  | amend index payload => exact recorded.amend index sound
  | append step => exact recorded.append sound
  | file snapshot => exact recorded.addFile sound
  | finish now progress => exact ⟨recorded.edition, recorded.numbered, recorded.sound, recorded.files⟩

theorem recordAll (recorded : journal.Recorded) {recordings : List Recording}
    (sound : ∀ recording ∈ recordings, recording.Sound) :
    (journal.recordAll recordings).Recorded := by
  induction recordings generalizing journal with
  | nil => exact recorded
  | cons recording rest inductionHypothesis =>
      obtain ⟨first, others⟩ := List.forall_mem_cons.mp sound
      exact inductionHypothesis (recorded.record first) others

theorem check (recorded : journal.Recorded) : journal.check = .ok () := by
  rw [check_ok_iff, recorded.edition, numbers_of_numbered recorded.numbered]
  exact ⟨rfl, List.nodup_range, recorded.sound, recorded.files⟩

end Recorded

/-- The files of a recorded journal are those that were recorded, one after the other. -/
theorem files_recordAll (journal : Journal) (recordings : List Recording) :
    (journal.recordAll recordings).files = journal.files.overwrite (Recording.files recordings) := by
  induction recordings generalizing journal with
  | nil => rfl
  | cons recording rest inductionHypothesis =>
      rw [recordAll, List.foldl_cons]
      exact (inductionHypothesis _).trans (by cases recording <;> rfl)

end Journal

/-- A fault that rejects a step rejects it for an empty path. -/
def PlayFault.OfPath (fault : PlayFault) : Prop :=
  ∀ index reason, fault = .rejected index reason → reason = Rejection.emptyPath.message

def Returned.fault? : Returned → Option PlayFault
  | .outcome (.error fault) | .moved (.error fault) => some fault
  | .outcome (.ok _) | .moved (.ok _) | .nothing => none
  | .passage taken => taken.fault?

/-- The faults of a sequence of operations, in order. -/
def Player.faults (player : Player) : List Operation → List PlayFault
  | [] => []
  | operation :: rest =>
      (player.perform operation).1.fault?.toList ++ (player.perform operation).2.faults rest

section Checked

variable {player after : Player} {fault : PlayFault}

theorem Turn.fault_ofPath (turn : Turn player (.error fault) after)
    (checked : player.journal.check = .ok ()) : fault.OfPath := by
  cases turn with
  | exhausted finished => exact nofun
  | rejected step found kept rejection refused =>
      rintro index reason ⟨⟩
      obtain ⟨_, defective⟩ := Step.refusal?_eq_some_iff.mp refused
      rw [Step.rejection_of_checked checked (List.mem_of_getElem? found) defective]

theorem Passes.fault_ofPath {last : Nat} {passage : Passage}
    (passes : Passes last player passage after) (checked : player.journal.check = .ok ())
    (failed : passage.stop = .failed fault) : fault.OfPath := by
  induction passes with
  | arrived | diverged => contradiction
  | failed due turn =>
      obtain rfl := Stop.failed.inj failed
      exact turn.fault_ofPath checked
  | onward due turn goes passes inductionHypothesis =>
      obtain ⟨journal, _, _⟩ := turn.fixed
      exact inductionHypothesis (journal ▸ checked) failed

theorem Player.fault_ofPath_of_perform {operation : Operation}
    (checked : player.journal.check = .ok ())
    (faulty : (player.perform operation).1.fault? = some fault) : fault.OfPath := by
  have passing {last : Nat} (failed : (player.playThrough last).1.fault? = some fault) :
      fault.OfPath :=
    (player.passes_playThrough last).fault_ofPath checked (Passage.fault?_eq_some_iff.mp failed)
  cases operation with
  | next =>
      have turn := player.next_turn
      change (Returned.outcome player.next.1).fault? = some fault at faulty
      generalize player.next = taken at turn faulty
      obtain ⟨result | outcome, after⟩ := taken
      · obtain rfl := Option.some.inj faulty
        exact turn.fault_ofPath checked
      · contradiction
  | playThrough last => exact passing faulty
  | playToEnd => exact passing faulty
  | jump index =>
      change (Returned.moved (player.jump index).1).fault? = some fault at faulty
      rw [jump] at faulty
      split at faulty
      · contradiction
      · obtain rfl := Option.some.inj faulty
        intro index reason same
        contradiction
  | pause | resume => contradiction

/-- No replay of a checked journal rejects a step for its file. -/
theorem Player.faults_ofPath (player : Player) (operations : List Operation)
    (checked : player.journal.check = .ok ()) (member : fault ∈ player.faults operations) :
    fault.OfPath := by
  induction operations generalizing player with
  | nil => contradiction
  | cons operation rest inductionHypothesis =>
      obtain ⟨journal, _, _⟩ := (player.history_run [operation]).fixed
      rcases List.mem_append.mp member with here | later
      · exact fault_ofPath_of_perform checked (Option.mem_toList.mp here)
      · exact inductionHypothesis _ (journal ▸ checked) later

end Checked

/-- At any time of its recording a journal has its steps numbered by their positions and the last
snapshot that was recorded of each file under the path of the file. It passes the check, so no step of
it is defective for its file, and every step that a replay of it rejects is rejected for an empty
path. -/
theorem journals_of_recordings (now : Instant) (id : String) (recordings : List Recording)
    (sound : ∀ recording ∈ recordings, recording.Sound) :
    ∀ past, past <+: recordings →
      let journal := (Journal.start now id).recordAll past
      journal.Numbered ∧
        (∀ path, journal.file? path = Table.last? path (Recording.files past)) ∧
        (∀ entry ∈ journal.files.entries, entry.1 = entry.2.path) ∧
        journal.check = .ok () ∧
        (∀ step ∈ journal.steps, ∀ verifies cause, ¬ step.Defective verifies (.badSnapshot cause)) ∧
        ∀ clock settings operations,
          ∀ fault ∈ (Player.start clock journal settings).faults operations, fault.OfPath := by
  rintro past ⟨later, rfl⟩ journal
  have recorded : journal.Recorded := by
    apply (Journal.Recorded.start now id).recordAll
    exact fun recording member => sound recording (List.mem_append_left later member)
  have checked := recorded.check
  refine ⟨recorded.numbered, fun path => ?_, fun entry member => (recorded.files entry member).1,
    checked, fun step member verifies cause defective => ?_,
    fun clock settings operations fault member => ?_⟩
  · have files : journal.files = .ofList (Recording.files past) := Journal.files_recordAll _ past
    rw [Journal.file?, files, Table.get?_ofList]
  · exact nomatch Step.rejection_of_checked checked member defective
  · exact (Player.start clock journal settings).faults_ofPath operations checked member

/-- A build of a file `a` that ended with the given snapshot. -/
def Step.built (after : Snapshot) : Step :=
  { Step.bare .epoch "build" 7 .buildComplete with
    build := some
      { path := "a"
        tokens := 0
        finished := true
        removed := false
        succeeded := true
        error := none
        before := none
        after := some after
        edit := none } }

/-- A pushed step that becomes a build, a step that comes with a number, and two snapshots of a file. -/
def Recording.session : List Recording :=
  let snapshot := Snapshot.ofContent .epoch "a"
  [.push .epoch "token" .userPrompt, .amend 0 (.built (snapshot "new")), .file (snapshot "old"),
    .append (.built (snapshot "newer")), .file (snapshot "older"), .finish .epoch .completed]

theorem journals_of_session :
    let journal := (Journal.start .epoch "journal").recordAll Recording.session
    (∀ recording ∈ Recording.session, recording.Sound) ∧ journal.steps.map Step.number = [0, 1] ∧
      journal.file? "a" = some (.ofContent .epoch "a" "older") ∧ journal.check = .ok () := by
  intro journal
  have built (content : String) :
      ∀ snapshot ∈ (Step.built (.ofContent .epoch "a" content)).snapshots, snapshot.Sound := by
    intro snapshot member
    obtain rfl := List.mem_singleton.mp member
    exact Snapshot.sound_ofContent .epoch "a" content
  have sound : ∀ recording ∈ Recording.session, recording.Sound := by
    simp only [Recording.session, List.forall_mem_cons, Recording.Sound]
    exact ⟨trivial, built "new", Snapshot.sound_ofContent .epoch "a" "old", built "newer",
      Snapshot.sound_ofContent .epoch "a" "older", trivial, fun _ none => absurd none List.not_mem_nil⟩
  obtain ⟨numbered, files, _, checked, _⟩ :=
    journals_of_recordings .epoch "journal" Recording.session sound _ (List.prefix_refl _)
  have last : Table.last? "a" (Recording.files Recording.session) =
      some (.ofContent .epoch "a" "older") :=
    (Table.last?_concat "a" "a" _ [("a", .ofContent .epoch "a" "old")]).trans (if_pos rfl)
  exact ⟨sound, Journal.numbers_of_numbered numbered, (files "a").trans last, checked⟩

end Playback
