import Playback.Command
import Playback.Proofs.Json.Normal
import Playback.Proofs.Persistence
import Playback.Proofs.Resaving

namespace Playback

open Json

namespace Step

/-- The line gives the number, the kind, the path and the beginning of the description of the step.
The other blanks only align them. -/
def ShownBy (step : Step) (line : String) : Prop :=
  ∃ front gap, (∀ letter ∈ front ++ gap, letter = ' ') ∧
    line = String.ofList front ++ toString step.number ++ "  " ++ step.kind.name ++
      String.ofList gap ++
      (match step.path? with
        | some path => " " ++ path
        | none => "") ++
      (if step.description = "" then "" else " " ++ Text.shorten 60 step.description)

theorem shownBy_line (step : Step) : step.ShownBy step.line := by
  refine ⟨List.replicate (4 - (toString step.number).length) ' ',
    List.replicate (20 - step.kind.name.length) ' ', ?_, ?_⟩
  · intro letter member
    rcases List.mem_append.mp member with front | gap
    · exact List.eq_of_mem_replicate front
    · exact List.eq_of_mem_replicate gap
  · have path : step.pathPart =
        (match step.path? with
          | some path => " " ++ path
          | none => "") := by
      rw [pathPart]
      cases step.path? <;> rfl
    have description : step.descriptionPart =
        if step.description = "" then "" else " " ++ Text.shorten 60 step.description := by
      simp only [descriptionPart, String.isEmpty_iff, preview, previewLimit]
    rw [line, path, description, Text.alignRight, Text.alignLeft, Text.blanks, Text.blanks,
      ← String.append_assoc]

end Step

namespace Outcome

/-- The lines give the status and the step of the outcome, then its edits, its divergence and its
error. -/
def ShownBy (outcome : Outcome) (lines : List String) : Prop :=
  ∃ mark line, (outcome.status, mark) ∈
      [(Status.completed, "done"), (Status.skipped, "skip"), (Status.failed, "fail")] ∧
    outcome.step.ShownBy line ∧
    lines = ["[" ++ mark ++ "] " ++ line] ++
      (outcome.edits.map fun edit =>
        "       ~ " ++ edit.path ++ " (" ++ toString edit.before.utf8ByteSize ++ " -> " ++
          toString edit.after.utf8ByteSize ++ " bytes)") ++
      (match outcome.divergence with
        | some divergence =>
            ["       divergence: " ++ divergence.description,
              "         expected: " ++ Text.quoted divergence.expected,
              "         actual:   " ++ Text.quoted divergence.actual]
        | none => []) ++
      (match outcome.error with
        | some error => ["       error: " ++ error]
        | none => [])

theorem shownBy_lines (outcome : Outcome) : outcome.ShownBy outcome.lines := by
  refine ⟨outcome.status.label, outcome.step.line, ?_, outcome.step.shownBy_line, ?_⟩
  · cases outcome.status <;> simp [Status.label]
  · rw [lines]
    cases outcome.divergence <;> cases outcome.error <;> rfl

/-- The texts of outcomes are their lines in a row. -/
theorem join_text (outcomes : List Outcome) :
    String.join (outcomes.map text) = Text.ofLines (outcomes.map lines).flatten := by
  induction outcomes with
  | nil => rfl
  | cons outcome rest inductionHypothesis =>
      rw [List.map_cons, String.join_cons, inductionHypothesis, text, Text.ofLines, Text.ofLines,
        Text.ofLines, List.map_cons, List.flatten_cons, List.map_append, String.join_append]

/-- The texts of outcomes are made of lines that show one outcome after another. -/
theorem exists_shownBy (outcomes : List Outcome) :
    ∃ blocks, List.Forall₂ ShownBy outcomes blocks ∧
      String.join (outcomes.map text) = String.join (blocks.flatten.map fun line => line ++ "\n") := by
  refine ⟨outcomes.map lines, ?_, join_text outcomes⟩
  induction outcomes with
  | nil => exact .nil
  | cons outcome rest inductionHypothesis => exact .cons outcome.shownBy_lines inductionHypothesis

end Outcome

/-- Any value is passed over. -/
def Json.Reader.ignored : Reader Unit := fun _ document => flawed document.skip

theorem Json.Reader.ignored_normal {value : Json} (room : Nat)
    (fitting : AllNumbers Number.Fitting value) :
    ignored room value.normal.document = .ok () := by
  have whole := Document.whole_document _ (clear_normal value fitting)
  rw [ignored, (Document.skip_eq_ok_iff _).mpr whole, flawed]

/-- A member that is passed over may also be left out. -/
theorem Json.Form.Writes.ignored {types : List Type} {room : Nat} {name : String}
    {rest : Form types} {front members : List (String × Json)} {values : Form.Values types}
    (each : front = [] ∨ ∃ value, front = [(name, value)] ∧
      Reader.ignored room value.document = .ok ())
    (others : Writes room rest members values) :
    Writes room (.field name .ignored (.filled ()) rest) (front ++ members) ((), values) := by
  rcases each with rfl | ⟨value, rfl, passed⟩
  · exact .omitted others
  · exact .given passed others

theorem Edit.sorts (edit : Edit) : Edit.reader.Sorts edit.toJson := by
  refine (form.sorts _ ?_).map _
  simp only [List.forall_mem_append, List.forall_mem_cons, forall_mem_given, forall_mem_givenList]
  simp [form, Form.SortsAt]

theorem Snapshot.sorts (now : Instant) (snapshot : Snapshot) :
    (Snapshot.reader now).Sorts snapshot.toJson := by
  refine ((form now).sorts _ ?_).map _
  simp only [List.forall_mem_append, List.forall_mem_cons, forall_mem_given]
  simp [form, Form.SortsAt, Digest.toJson, Instant.toJson]

theorem Build.sorts (now : Instant) (build : Build) :
    (Build.reader now).Sorts build.toJson := by
  have snapshot (snapshot : Snapshot) :
      (Reader.optional (Snapshot.reader now)).Sorts snapshot.toJson :=
    (snapshot.sorts now).optional
  have edit (edit : Edit) : (Reader.optional Edit.reader).Sorts edit.toJson := edit.sorts.optional
  refine ((form now).sorts _ ?_).map _
  simp [form, Form.SortsAt, snapshot, edit]

theorem Reply.sorts (reply : Reply) : Reply.reader.Sorts reply.toJson := by
  refine (form.sorts _ ?_).map _
  simp [form, Form.SortsAt]

theorem Divergence.sorts (divergence : Divergence) :
    Divergence.reader.Sorts divergence.toJson := by
  refine (form.sorts _ ?_).map _
  simp [form, Form.SortsAt, Kind.toJson, Instant.toJson]

theorem Divergence.fitting {divergence : Divergence} (small : divergence.index < UInt64.size) :
    AllNumbers Number.Fitting divergence.toJson := by
  simp [toJson, Kind.toJson, Instant.toJson, allNumbers_fitting_natural small]

namespace Step

/-- The step without its model request and its metadata. -/
def outlined (step : Step) : Step := { step with request := none, metadata := .empty }

/-- The model request and the metadata are passed over. -/
def outlineForm (now : Instant) :
    Form [String, Nat, StepKind, String, Instant, Option Instant, Unit, Option Reply, Option Edit,
      Option Build, List String, Option String, Option String, Unit] :=
  .field "id" .text .refused <|
  .field "step_number" (.natural UInt64.size "usize") .refused <|
  .field "type" StepKind.reader .refused <|
  .field "description" .text .refused <|
  .field "started_at" Instant.reader .refused <|
  .field "completed_at" (.optional Instant.reader) (.filled none) <|
  .field "model_request" .ignored (.filled ()) <|
  .field "model_response" (.optional Reply.reader) (.filled none) <|
  .field "file_diff" (.optional Edit.reader) (.filled none) <|
  .field "build_info" (.optional (Build.reader now)) (.filled none) <|
  .field "context_files" (.list .text) (.filled []) <|
  .field "user_prompt" (.optional .text) (.filled none) <|
  .field "error" (.optional .text) (.filled none) <|
  .field "metadata" .ignored (.filled ()) <|
  .done

def outlineReader (now : Instant) : Reader Step :=
  ((outlineForm now).reader "struct ReplayStep").map
    fun (id, number, kind, description, startedAt, completedAt, (), reply, edit, build,
        contextFiles, prompt, error, (), ()) =>
      ⟨id, number, kind, description, startedAt, completedAt, none, reply, edit, build,
        contextFiles, prompt, error, .empty⟩

theorem outlineReader_normal (now : Instant) (room : Nat) {step : Step} (legible : step.Legible) :
    Step.outlineReader now (room + 4) step.toJson.normal.document = .ok step.outlined := by
  obtain ⟨requestFitting, metadataFitting⟩ := forall_parts (fitting legible)
  have request : normalMembers (given "model_request" Request.toJson step.request) = [] ∨
      ∃ value, normalMembers (given "model_request" Request.toJson step.request) =
        [("model_request", value)] ∧ Reader.ignored (room + 3) value.document = .ok () := by
    cases same : step.request with
    | none => exact .inl rfl
    | some request => exact .inr ⟨_, rfl, Reader.ignored_normal _ (requestFitting request same)⟩
  have metadata : normalMembers (step.metadata.givenJson "metadata" fun value => value) = [] ∨
      ∃ value, normalMembers (step.metadata.givenJson "metadata" fun value => value) =
        [("metadata", value)] ∧ Reader.ignored (room + 3) value.document = .ok () := by
    rw [Table.givenJson]
    split
    · exact .inl rfl
    · exact .inr ⟨_, rfl, Reader.ignored_normal _ (Table.allNumbers_toJson.mpr metadataFitting)⟩
  simp only [toJson, List.cons_append, List.nil_append, List.append_assoc]
  rw [← List.append_nil (Table.givenJson _ _ _)]
  refine Reader.map_ok _ ((outlineForm now).reader_normal "struct ReplayStep"
    (step.id, step.number, step.kind, step.description, step.startedAt, step.completedAt, (),
      step.reply, step.edit, step.build, step.contextFiles, step.prompt, step.error, (), ())
    (by simp [outlineForm, Form.names]) ?_)
  simp only [normalMembers, normalMembers_append]
  have kind : StepKind.reader (room + 3) step.kind.toJson.normal.document = .ok step.kind :=
    (Reader.map_ok StepKind.ofName
      (show Reader.text (room + 3) step.kind.toJson.document = .ok step.kind.name from rfl)).trans
      (congrArg Except.ok legible.kind)
  refine .given rfl <| .given (Reader.natural_natural _ _ legible.number) <| .given kind <|
    .given rfl <| .given (step.startedAt.reader_toJson _) ?_
  rw [normalMembers_given]
  refine .givenOption (fun _ => document_text_ne _) (fun instant _ => instant.reader_toJson _) ?_
  refine .ignored request ?_
  simp only [normalMembers_given, normalMembers_givenList]
  exact .givenOption (fun _ => document_object_ne _)
      (fun reply _ => reply.sorts _ _ (reply.reader_toJson _)) <|
    .givenOption (fun _ => document_object_ne _)
      (fun edit _ => edit.sorts _ _ (edit.reader_toJson _)) <|
    .givenOption (fun _ => document_object_ne _)
      (fun build _ => build.sorts now _ _ (build.reader_toJson now room)) <|
    .givenList (fun _ _ => rfl) <| .givenOption (fun _ => document_text_ne _) (fun _ _ => rfl) <|
    .givenOption (fun _ => document_text_ne _) (fun _ _ => rfl) <| .ignored metadata .done

end Step

/-- An outcome without what is passed over of its step. -/
def Outcome.outlined (outcome : Outcome) : Outcome :=
  { outcome with step := outcome.step.outlined }

/-- An outcome as it stands in the output. -/
structure Entry where
  number : Nat
  outcome : Outcome
  millis : UInt64
deriving DecidableEq

namespace Entry

def form (now : Instant) :
    Form [Nat, Outcome.Status, Step, List Edit, Option Divergence, Option String, UInt64] :=
  .field "step_number" (.natural UInt64.size "usize") .refused <|
  .field "status" Outcome.Status.reader .refused <|
  .field "step" (Step.outlineReader now) .refused <|
  .field "file_changes" (.list Edit.reader) (.filled []) <|
  .field "divergence" (.optional Divergence.reader) (.filled none) <|
  .field "error" (.optional .text) (.filled none) <|
  .field "execution_ms" (.word64 "u64") .refused <|
  .done

def reader (now : Instant) : Reader Entry :=
  ((form now).reader "struct ReplayStepResult").map
    fun (number, status, step, edits, divergence, error, millis, ()) =>
      ⟨number, ⟨status, step, edits, divergence, error⟩, millis⟩

end Entry

namespace Outcome

/-- A text can tell of the step, and the position of the divergence has 64 bits. -/
structure Legible (outcome : Outcome) : Prop where
  step : outcome.step.Legible
  divergence : ∀ divergence ∈ outcome.divergence, divergence.index < UInt64.size

theorem Status.reader_toJson (room : Nat) (status : Status) :
    Status.reader room status.toJson.document = .ok status := by
  cases status <;> rfl

theorem fitting (elapsed : Nat) {outcome : Outcome} (legible : outcome.Legible) :
    AllNumbers Number.Fitting (outcome.toJson elapsed) := by
  have step := Step.fitting legible.step
  have number : AllNumbers Number.Fitting (natural outcome.number) :=
    allNumbers_fitting_natural legible.step.number
  have divergence (divergence : Divergence) (known : divergence ∈ outcome.divergence) :
      AllNumbers Number.Fitting divergence.toJson :=
    divergence.fitting (legible.divergence divergence known)
  simp only [toJson, allNumbers_object, List.forall_mem_append, forall_mem_given,
    forall_mem_givenList]
  refine ⟨⟨⟨⟨?_, ?_⟩, divergence⟩, ?_⟩, ?_⟩
  · simp [step, number, Status.toJson]
  all_goals simp [Edit.fitting]

theorem reader_normal (now : Instant) (room elapsed : Nat) {outcome : Outcome}
    (legible : outcome.Legible) :
    Entry.reader now (room + 5) (outcome.toJson elapsed).normal.document =
      .ok ⟨outcome.number, outcome.outlined, (milliseconds elapsed).toUInt64⟩ := by
  simp only [toJson, List.cons_append, List.nil_append, List.append_assoc]
  refine Reader.map_ok _ ((Entry.form now).reader_normal "struct ReplayStepResult"
    (outcome.number, outcome.status, outcome.step.outlined, outcome.edits, outcome.divergence,
      outcome.error, (milliseconds elapsed).toUInt64, ()) (by simp [Entry.form, Form.names]) ?_)
  simp only [normalMembers, normalMembers_append, normalMembers_given, normalMembers_givenList]
  exact .given (Reader.natural_natural _ _ legible.step.number) <|
    .given (outcome.status.reader_toJson _) <|
    .given (Step.outlineReader_normal now room legible.step) <|
    .givenList (fun edit _ => edit.sorts _ _ (edit.reader_toJson _)) <|
    .givenOption (fun _ => document_object_ne _) (fun divergence known =>
      divergence.sorts _ _ (divergence.reader_toJson _ (legible.divergence divergence known))) <|
    .givenOption (fun _ => document_text_ne _) (fun _ _ => rfl) <|
    .given (Reader.word64_word _ _ _) .done

end Outcome

namespace Report

/-- The positions and the numbers of outcomes have 64 bits. -/
structure Sized (report : Report) : Prop where
  total : report.total < UInt64.size
  completed : report.completed < UInt64.size
  skipped : report.skipped < UInt64.size
  failed : report.failed < UInt64.size
  divergences : ∀ divergence ∈ report.divergences, divergence.index < UInt64.size
  cursor : report.cursor < UInt64.size

def form :
    Form [String, Mode, Nat, Nat, Nat, Nat, List Divergence, List String, Nat, UInt64] :=
  .field "session_id" .text .refused <|
  .field "mode" Mode.reader .refused <|
  .field "total_results" (.natural UInt64.size "usize") .refused <|
  .field "completed_count" (.natural UInt64.size "usize") .refused <|
  .field "skipped_count" (.natural UInt64.size "usize") .refused <|
  .field "failed_count" (.natural UInt64.size "usize") .refused <|
  .field "divergences" (.list Divergence.reader) .refused <|
  .field "applied_changes" (.list .text) .refused <|
  .field "cursor" (.natural UInt64.size "usize") .refused <|
  .field "total_ms" (.word64 "u64") .refused <|
  .done

/-- The report and the time that the replay took. -/
def reader : Reader (Report × UInt64) :=
  (form.reader "struct ReplayReport").map
    fun (journalId, mode, total, completed, skipped, failed, divergences, applied, cursor, millis,
        ()) =>
      (⟨journalId, mode, total, completed, skipped, failed, divergences, applied, cursor⟩, millis)

theorem fitting (elapsed : Nat) {report : Report} (sized : report.Sized) :
    AllNumbers Number.Fitting (report.toJson elapsed) := by
  have divergences (divergence : Divergence) (known : divergence ∈ report.divergences) :
      AllNumbers Number.Fitting divergence.toJson :=
    divergence.fitting (sized.divergences divergence known)
  simpa [toJson, Mode.toJson, allNumbers_fitting_natural sized.total,
    allNumbers_fitting_natural sized.completed, allNumbers_fitting_natural sized.skipped,
    allNumbers_fitting_natural sized.failed, allNumbers_fitting_natural sized.cursor] using
    divergences

theorem reader_normal (room elapsed : Nat) {report : Report} (sized : report.Sized) :
    Report.reader (room + 3) (report.toJson elapsed).normal.document =
      .ok (report, (milliseconds elapsed).toUInt64) := by
  refine Reader.map_ok _ (form.reader_normal "struct ReplayReport"
    (report.journalId, report.mode, report.total, report.completed, report.skipped, report.failed,
      report.divergences, report.applied, report.cursor, (milliseconds elapsed).toUInt64, ())
    (by simp [form, Form.names]) ?_)
  simp only [normalMembers, normal_listOf]
  exact .given rfl <| .given (report.mode.reader_toJson _) <|
    .given (Reader.natural_natural _ _ sized.total) <|
    .given (Reader.natural_natural _ _ sized.completed) <|
    .given (Reader.natural_natural _ _ sized.skipped) <|
    .given (Reader.natural_natural _ _ sized.failed) <|
    .given (Reader.list_listOf fun divergence known =>
      divergence.sorts _ _ (divergence.reader_toJson _ (sized.divergences divergence known))) <|
    .given (Reader.list_listOf fun _ _ => rfl) <|
    .given (Reader.natural_natural _ _ sized.cursor) <|
    .given (Reader.word64_word _ _ _) .done

end Report

/-- The results and the report of a replay, as they stand in the output. -/
structure Output where
  entries : List Entry
  report : Report
  millis : UInt64
deriving DecidableEq

namespace Output

def form (now : Instant) : Form [List Entry, Report × UInt64] :=
  .field "results" (.list (Entry.reader now)) .refused <|
  .field "report" Report.reader .refused <|
  .done

def reader (now : Instant) : Reader Output :=
  ((form now).reader "a map").map fun (entries, (report, millis), ()) => ⟨entries, report, millis⟩

end Output

/-- The outcomes and the report are read back from the JSON text. -/
theorem Command.read_jsonOutput (later : Instant) (elapsed : Nat → Nat) {passage : Passage}
    {report : Report} (legible : ∀ outcome ∈ passage.outcomes, outcome.Legible)
    (sized : report.Sized) :
    (Output.reader later).run (jsonOutput elapsed passage report) =
      .ok ⟨passage.outcomes.mapIdx fun index outcome =>
          ⟨outcome.number, outcome.outlined, (milliseconds (elapsed index)).toUInt64⟩,
        report, (milliseconds (totalTime elapsed passage)).toUInt64⟩ := by
  have each : ∀ taken ∈ passage.outcomes.zipIdx, taken.1.Legible := fun taken known =>
    legible _ (List.fst_mem_of_mem_zipIdx known)
  have fitting : AllNumbers Number.Fitting (.object
      [("results", listOf (fun taken : Outcome × Nat => taken.1.toJson (elapsed taken.2))
          passage.outcomes.zipIdx),
        ("report", report.toJson (totalTime elapsed passage))]) := by
    have outcomes (outcome : Outcome) (index : Nat) (known : (outcome, index) ∈ passage.outcomes.zipIdx) :
        AllNumbers Number.Fitting (outcome.toJson (elapsed index)) :=
      Outcome.fitting _ (each _ known)
    simpa [Report.fitting _ sized] using outcomes
  obtain ⟨_, pretty⟩ := Document.spells_texts (clear_normal _ fitting)
  rw [jsonOutput, List.mapIdx_eq_zipIdx_map, List.mapIdx_eq_zipIdx_map]
  refine (Reader.run_of_spells pretty.append_feed).trans ?_
  refine Reader.map_ok _ ((Output.form later).reader_normal "a map"
    (_, (report, (milliseconds (totalTime elapsed passage)).toUInt64), ())
    (by simp [Output.form, Form.names]) ?_)
  simp only [normalMembers, normal_listOf]
  exact .given (Reader.list_map fun taken known =>
      Outcome.reader_normal later 120 (elapsed taken.2) (each taken known)) <|
    .given (Report.reader_normal 123 _ sized) .done

end Playback
