import Playback.Proofs.Check

namespace Playback

/-- A build records what a file looked like before it and after it. -/
inductive Moment where
  | before
  | after

def Build.snapshotAt (build : Build) : Moment → Option Snapshot
  | .before => build.before
  | .after => build.after

/-- A place at which a journal can be wrong. Steps and files are told by their positions. -/
inductive Spot where
  | edition
  | number (index : Nat)
  | recorded (index : Nat) (moment : Moment)
  | key (index : Nat)
  | content (index : Nat)

namespace Spot

/-- The number of a step comes before the snapshots of its build. -/
def ofStep (index : Nat) : List Spot := [.number index, .recorded index .before, .recorded index .after]

/-- The key of a file comes before its content. -/
def ofFile (index : Nat) : List Spot := [.key index, .content index]

end Spot

namespace Snapshot

/-- The snapshot does not agree with its digest, and the fault tells both digests. -/
inductive Mismatches (snapshot : Snapshot) : Fault → Prop where
  | content (content : String) (kept : snapshot.content = some content)
      (differs : snapshot.digest ≠ some (Digest.ofText content)) :
      snapshot.Mismatches
        (.digestMismatch snapshot.path ((snapshot.digest.map Digest.hex).getD "")
          (Digest.ofText content).hex)

theorem verify_eq_error_iff (snapshot : Snapshot) (fault : Fault) :
    snapshot.verify = .error fault ↔ snapshot.Mismatches fault := by
  constructor
  · intro failed
    rw [verify] at failed
    cases kept : snapshot.content with
    | none => simp [kept] at failed
    | some content =>
        simp only [kept] at failed
        split at failed
        · contradiction
        · rename_i differs
          obtain rfl := Except.error.inj failed
          exact .content content kept differs
  · rintro ⟨content, kept, differs⟩
    simp only [verify, kept, if_neg differs]

end Snapshot

/-- The snapshots of a step are those before and after its build. -/
theorem Step.sound_snapshots_iff (step : Step) :
    (∀ snapshot ∈ step.snapshots, snapshot.Sound) ↔
      ∀ build ∈ step.build, ∀ moment, ∀ snapshot ∈ build.snapshotAt moment, snapshot.Sound := by
  rw [snapshots]
  cases step.build with
  | none => simp
  | some build =>
      simp only [Option.map_some, Option.getD_some, Build.snapshots, List.forall_mem_append,
        Option.mem_toList, Option.mem_some_iff, forall_eq']
      constructor
      · rintro ⟨before, after⟩ (_ | _)
        · exact before
        · exact after
      · exact fun each => ⟨each .before, each .after⟩

namespace Journal

/-- All places of a journal in the order in which they are checked. -/
def spots (journal : Journal) : List Spot :=
  .edition ::
    ((List.range journal.length).flatMap Spot.ofStep ++
      (List.range journal.files.entries.length).flatMap Spot.ofFile)

/-- What is wrong with the journal at a place, and the fault that tells it. -/
inductive Violates (journal : Journal) : Spot → Fault → Prop where
  | edition (other : journal.edition.major ≠ 1) :
      journal.Violates .edition (.unreadableEdition "1.0.0" journal.edition.text)
  | number (first second : Nat) (step other : Step) (earlier : first < second)
      (found : journal.step? first = some step) (found' : journal.step? second = some other)
      (same : step.number = other.number) :
      journal.Violates (.number second)
        (.invalid "steps" ("duplicate step number " ++ toString other.number))
  | recorded (index : Nat) (moment : Moment) (step : Step) (build : Build) (snapshot : Snapshot)
      (fault : Fault) (found : journal.step? index = some step) (built : step.build = some build)
      (recorded : build.snapshotAt moment = some snapshot)
      (mismatches : snapshot.Mismatches fault) :
      journal.Violates (.recorded index moment) fault
  | key (index : Nat) (key : String) (snapshot : Snapshot)
      (found : journal.files.entries[index]? = some (key, snapshot))
      (other : key ≠ snapshot.path) :
      journal.Violates (.key index)
        (.invalid "initial_file_snapshots"
          ("snapshot for " ++ snapshot.path ++ " is keyed under " ++ key))
  | content (index : Nat) (key : String) (snapshot : Snapshot) (fault : Fault)
      (found : journal.files.entries[index]? = some (key, snapshot))
      (mismatches : snapshot.Mismatches fault) :
      journal.Violates (.content index) fault

/-- The fault tells what is wrong at the first of the places at which anything is wrong. -/
def FirstViolation (journal : Journal) (spots : List Spot) (fault : Fault) : Prop :=
  ∃ earlier spot later, spots = earlier ++ spot :: later ∧ journal.Violates spot fault ∧
    ∀ other ∈ earlier, ∀ reason, ¬ journal.Violates other reason

/-- The result is a fault exactly if it is the first one at the places. -/
def Finds (journal : Journal) (spots : List Spot) (result : Except Fault Unit) : Prop :=
  ∀ fault, result = .error fault ↔ journal.FirstViolation spots fault

section Finding

variable {journal : Journal}

theorem firstViolation_cons {spot : Spot} {spots : List Spot} {fault : Fault} :
    journal.FirstViolation (spot :: spots) fault ↔
      journal.Violates spot fault ∨
        (∀ reason, ¬ journal.Violates spot reason) ∧ journal.FirstViolation spots fault := by
  constructor
  · rintro ⟨earlier, first, later, same, violates, clear⟩
    cases earlier with
    | nil =>
        obtain ⟨rfl, rfl⟩ := List.cons.inj same
        exact .inl violates
    | cons other earlier =>
        obtain ⟨rfl, rfl⟩ := List.cons.inj same
        obtain ⟨here, clear⟩ := List.forall_mem_cons.mp clear
        exact .inr ⟨here, earlier, first, later, rfl, violates, clear⟩
  · rintro (violates | ⟨here, earlier, first, later, rfl, violates, clear⟩)
    · exact ⟨[], spot, spots, rfl, violates, nofun⟩
    · exact ⟨spot :: earlier, first, later, rfl, violates, List.forall_mem_cons.mpr ⟨here, clear⟩⟩

theorem finds_nil : journal.Finds [] (.ok ()) := by
  intro fault
  refine iff_of_false nofun ?_
  rintro ⟨earlier, spot, later, same, _⟩
  exact List.append_ne_nil_of_right_ne_nil earlier (List.cons_ne_nil spot later) same.symm

/-- A place is looked at before the others, and they count if nothing is wrong there. -/
theorem Finds.cons {spot : Spot} {spots : List Spot} {first second : Except Fault Unit}
    (here : ∀ fault, first = .error fault ↔ journal.Violates spot fault)
    (others : journal.Finds spots second) :
    journal.Finds (spot :: spots) (first >>= fun _ => second) := by
  intro fault
  rw [firstViolation_cons, ← others fault]
  simp only [← here]
  cases first with
  | error found => simp [bind, Except.bind]
  | ok passed => simp [bind, Except.bind]

/-- What the build of a step recorded of a file is verified by itself. -/
theorem checkSnapshots_toList (recorded : Option Snapshot) (fault : Fault) :
    checkSnapshots recorded.toList = .error fault ↔
      ∃ snapshot, recorded = some snapshot ∧ snapshot.Mismatches fault := by
  cases recorded with
  | none => simp [checkSnapshots]
  | some snapshot =>
      have verified := snapshot.verify_eq_error_iff fault
      rw [Option.toList_some, checkSnapshots]
      cases verify : snapshot.verify with
      | error found => simpa [verify] using verified
      | ok passed => simpa [verify, checkSnapshots] using verified

theorem checkSnapshots_append (front back : List Snapshot) :
    checkSnapshots (front ++ back) = checkSnapshots front >>= fun _ => checkSnapshots back := by
  induction front with
  | nil => rfl
  | cons snapshot front inductionHypothesis =>
      rw [List.cons_append, checkSnapshots, checkSnapshots, inductionHypothesis]
      cases snapshot.verify <;> rfl

/-- One step is checked by its number, by the snapshot before its build and by the one after it. -/
theorem checkSteps_cons (seen : List Nat) (step : Step) (rest : List Step) :
    checkSteps seen (step :: rest) =
      (if step.number ∈ seen then
          .error (.invalid "steps" ("duplicate step number " ++ toString step.number))
        else .ok ()) >>= fun _ =>
      checkSnapshots (step.build.bind fun build => build.snapshotAt .before).toList >>= fun _ =>
      checkSnapshots (step.build.bind fun build => build.snapshotAt .after).toList >>= fun _ =>
      checkSteps (step.number :: seen) rest := by
  have snapshots : (step.build.map Build.snapshots).getD [] =
      (step.build.bind fun build => build.snapshotAt .before).toList ++
        (step.build.bind fun build => build.snapshotAt .after).toList := by
    cases step.build <;> rfl
  rw [checkSteps]
  split
  · rfl
  · rw [snapshots, checkSnapshots_append]
    cases checkSnapshots (step.build.bind fun build => build.snapshotAt .before).toList with
    | error fault => rfl
    | ok passed =>
        cases checkSnapshots (step.build.bind fun build => build.snapshotAt .after).toList <;> rfl

theorem checkFiles_cons (key : String) (snapshot : Snapshot) (rest : List (String × Snapshot)) :
    checkFiles ((key, snapshot) :: rest) =
      (if key ≠ snapshot.path then
          .error (.invalid "initial_file_snapshots"
            ("snapshot for " ++ snapshot.path ++ " is keyed under " ++ key))
        else .ok ()) >>= fun _ =>
      snapshot.verify >>= fun _ => checkFiles rest := by
  rw [checkFiles]
  split
  · rfl
  · cases snapshot.verify <;> rfl

section Places

variable {index : Nat} {step : Step} {fault : Fault}

/-- A number was seen exactly if an earlier step has it. -/
theorem number_of_seen {front rest : List Step} {seen : List Nat}
    (parts : journal.steps = front ++ step :: rest)
    (known : ∀ number, number ∈ seen ↔ number ∈ front.map Step.number) :
    (if step.number ∈ seen then
        .error (.invalid "steps" ("duplicate step number " ++ toString step.number))
      else .ok () : Except Fault Unit) = .error fault ↔
      journal.Violates (.number front.length) fault := by
  have here : journal.step? front.length = some step := by
    simp [step?, parts]
  constructor
  · intro failed
    split at failed
    · rename_i repeated
      obtain ⟨other, member, same⟩ := List.mem_map.mp ((known _).mp repeated)
      obtain ⟨first, inside, found⟩ := List.mem_iff_getElem.mp member
      have found : journal.step? first = some other := by
        rw [step?, parts, List.getElem?_append_left inside, List.getElem?_eq_getElem inside, found]
      obtain rfl := Except.error.inj failed
      exact .number first front.length other step inside found here same
    · contradiction
  · intro violates
    cases violates with
    | number first _ other same earlier found found' equal =>
        obtain rfl := Option.some.inj (here.symm.trans found')
        rw [step?, parts, List.getElem?_append_left earlier] at found
        have member : step.number ∈ front.map Step.number :=
          List.mem_map.mpr ⟨other, List.mem_of_getElem? found, equal⟩
        rw [if_pos ((known _).mpr member)]

theorem recorded_of_found (found : journal.step? index = some step) (moment : Moment) :
    checkSnapshots (step.build.bind fun build => build.snapshotAt moment).toList = .error fault ↔
      journal.Violates (.recorded index moment) fault := by
  rw [checkSnapshots_toList]
  constructor
  · rintro ⟨snapshot, recorded, mismatches⟩
    obtain ⟨build, built, recorded⟩ := Option.bind_eq_some_iff.mp recorded
    exact .recorded index moment step build snapshot fault found built recorded mismatches
  · intro violates
    cases violates with
    | recorded _ _ other build snapshot _ found' built recorded mismatches =>
        obtain rfl := Option.some.inj (found.symm.trans found')
        exact ⟨snapshot, Option.bind_eq_some_iff.mpr ⟨build, built, recorded⟩, mismatches⟩

end Places

/-- The steps after some others are checked in order. The numbers of the others are known. -/
theorem finds_steps {spots : List Spot} {result : Except Fault Unit} (front : List Step)
    {rest : List Step} {seen : List Nat} (parts : journal.steps = front ++ rest)
    (known : ∀ number, number ∈ seen ↔ number ∈ front.map Step.number)
    (others : journal.Finds spots result) :
    journal.Finds ((List.range' front.length rest.length).flatMap Spot.ofStep ++ spots)
      (checkSteps seen rest >>= fun _ => result) := by
  induction rest generalizing front seen with
  | nil => exact others
  | cons step rest inductionHypothesis =>
      have found : journal.step? front.length = some step := by
        simp [step?, parts]
      have later : journal.Finds
          ((List.range' (front.length + 1) rest.length).flatMap Spot.ofStep ++ spots)
          (checkSteps (step.number :: seen) rest >>= fun _ => result) := by
        have moved := inductionHypothesis (front ++ [step]) (by simp [parts])
          (fun number => show number ∈ step.number :: seen ↔ _ by simp [known, or_comm])
        rwa [List.length_append, List.length_singleton] at moved
      rw [List.length_cons, List.range'_succ, List.flatMap_cons, List.append_assoc, checkSteps_cons]
      simp only [bind_assoc]
      refine .cons (fun fault => ?_) (.cons (fun fault => ?_) (.cons (fun fault => ?_) later))
      · exact number_of_seen parts known
      · exact recorded_of_found found .before
      · exact recorded_of_found found .after

theorem key_of_found {key : String} {snapshot : Snapshot} {index : Nat} {fault : Fault}
    (found : journal.files.entries[index]? = some (key, snapshot)) :
    (if key ≠ snapshot.path then
        .error (.invalid "initial_file_snapshots"
          ("snapshot for " ++ snapshot.path ++ " is keyed under " ++ key))
      else .ok () : Except Fault Unit) = .error fault ↔ journal.Violates (.key index) fault := by
  constructor
  · intro failed
    split at failed
    · rename_i other
      obtain rfl := Except.error.inj failed
      exact .key index key snapshot found other
    · contradiction
  · intro violates
    cases violates with
    | key _ other same found' different =>
        obtain ⟨rfl, rfl⟩ := Prod.mk.inj (Option.some.inj (found.symm.trans found'))
        rw [if_pos different]

theorem content_of_found {key : String} {snapshot : Snapshot} {index : Nat} {fault : Fault}
    (found : journal.files.entries[index]? = some (key, snapshot)) :
    snapshot.verify = .error fault ↔ journal.Violates (.content index) fault := by
  rw [snapshot.verify_eq_error_iff]
  constructor
  · exact .content index key snapshot fault found
  · intro violates
    cases violates with
    | content _ other same _ found' mismatches =>
        obtain ⟨rfl, rfl⟩ := Prod.mk.inj (Option.some.inj (found.symm.trans found'))
        exact mismatches

/-- The files after some others are checked in order. -/
theorem finds_files (front : List (String × Snapshot)) {rest : List (String × Snapshot)}
    (parts : journal.files.entries = front ++ rest) :
    journal.Finds ((List.range' front.length rest.length).flatMap Spot.ofFile)
      (checkFiles rest) := by
  induction rest generalizing front with
  | nil => exact finds_nil
  | cons entry rest inductionHypothesis =>
      have found : journal.files.entries[front.length]? = some (entry.1, entry.2) := by
        simp [parts]
      have later : journal.Finds
          ((List.range' (front.length + 1) rest.length).flatMap Spot.ofFile) (checkFiles rest) := by
        have moved := inductionHypothesis (front ++ [entry]) (by simp [parts])
        rwa [List.length_append, List.length_singleton] at moved
      rw [List.length_cons, List.range'_succ, List.flatMap_cons, checkFiles_cons]
      exact .cons (fun fault => key_of_found found) (.cons (fun fault => content_of_found found) later)

theorem edition_of_reads (fault : Fault) :
    (if Edition.current.reads journal.edition then .ok ()
      else .error (.unreadableEdition Edition.current.text journal.edition.text) :
        Except Fault Unit) = .error fault ↔ journal.Violates .edition fault := by
  have text : Edition.current.text = "1.0.0" := by decide +kernel
  rw [text]
  constructor
  · intro failed
    split at failed
    · contradiction
    · rename_i other
      obtain rfl := Except.error.inj failed
      exact .edition (mt journal.edition.reads_iff.mpr other)
  · intro violates
    cases violates with
    | edition other => rw [if_neg (mt journal.edition.reads_iff.mp other)]

/-- A check finds the first of all places at which anything is wrong. -/
theorem finds_check (journal : Journal) : journal.Finds journal.spots journal.check := by
  have files := @finds_files journal [] _ rfl
  have steps := @finds_steps journal _ _ [] _ [] rfl (fun _ => Iff.rfl) files
  have parts : journal.check =
      (if Edition.current.reads journal.edition then .ok ()
        else .error (.unreadableEdition Edition.current.text journal.edition.text)) >>= fun _ =>
      checkSteps [] journal.steps >>= fun _ => checkFiles journal.files.entries := by
    rw [check]
    split
    · cases checkSteps [] journal.steps <;> rfl
    · rfl
  rw [parts, spots, length, List.range_eq_range', List.range_eq_range']
  exact .cons edition_of_reads steps

end Finding

end Journal

/-- A check passes exactly for the journals of a known edition whose step numbers differ, whose
snapshots agree with their digests and whose files stand under their own paths. Otherwise it names
the first violation in its order. -/
theorem verdict_of_check (journal : Journal) :
    (journal.check = .ok () ↔
      journal.edition.major = 1 ∧ (journal.steps.map Step.number).Nodup ∧
        (∀ step ∈ journal.steps, ∀ build ∈ step.build, ∀ moment,
          ∀ snapshot ∈ build.snapshotAt moment, snapshot.Sound) ∧
        ∀ entry ∈ journal.files.entries, entry.1 = entry.2.path ∧ entry.2.Sound) ∧
      ∀ fault, journal.check = .error fault ↔ journal.FirstViolation journal.spots fault := by
  refine ⟨?_, journal.finds_check⟩
  rw [Journal.check_ok_iff]
  simp only [Step.sound_snapshots_iff]

end Playback
