import Playback.Proofs.Check
import Playback.Proofs.Records

namespace Playback

open Json

/-- The members of one object after those of another. -/
theorem Json.compactMembers_append (front back : List (String × Json)) :
    compactMembers (front ++ back) = compactMembers front ++ compactMembers back := by
  induction front with
  | nil => rfl
  | cons member front inductionHypothesis =>
      rw [List.cons_append, compactMembers, compactMembers, inductionHypothesis, List.cons_append]

namespace Step

/-- The step without infinite sampling parameters. -/
def settled (step : Step) : Step := { step with request := step.request.map Request.settled }

/-- The step that is read in the place of a step. -/
def restored (step : Step) : Step :=
  { step with
    kind := .ofName step.kind.name
    request := step.request.map Request.restored
    metadata := step.metadata.map reread }

/-- A number of 64 bits, and metadata whose objects are sorted. -/
structure Regular (step : Step) : Prop where
  number : step.number < UInt64.size
  metadata : ∀ entry ∈ step.metadata.entries, entry.2.Regular

/-- What a text can tell of a step. -/
structure Legible (step : Step) : Prop where
  number : step.number < UInt64.size
  kind : StepKind.ofName step.kind.name = step.kind
  metadata : ∀ entry ∈ step.metadata.entries, entry.2.Legible

theorem Legible.regular {step : Step} (legible : step.Legible) : step.Regular :=
  ⟨legible.number, fun entry member => (legible.metadata entry member).regular⟩

/-- The metadata can be read again, if that many containers may be opened. -/
def isReadable (room : Nat) (step : Step) : Bool :=
  step.metadata.entries.all fun entry => entry.2.isReadable room

/-- A property of all numbers of a step is one of those in its request and in its metadata. -/
theorem forall_parts {holds : Number → Prop} {step : Step} (all : AllNumbers holds step.toJson) :
    (∀ request ∈ step.request, AllNumbers holds request.toJson) ∧
      ∀ entry ∈ step.metadata.entries, AllNumbers holds entry.2 := by
  have all := allNumbers_object.mp all
  simp only [List.forall_mem_append, forall_mem_given, forall_mem_givenList,
    Table.forall_mem_givenJson] at all
  obtain ⟨⟨⟨⟨⟨⟨⟨⟨⟨_, _⟩, request⟩, _⟩, _⟩, _⟩, _⟩, _⟩, _⟩, metadata⟩ := all
  exact ⟨request, metadata⟩

/-- A step that can be told, with floats that are read back, only loses infinite sampling
parameters. -/
theorem restored_of_returns {step : Step} (legible : step.Legible)
    (returns : AllNumbers Number.Returns step.toJson) : step.restored = step.settled := by
  obtain ⟨request, metadata⟩ := forall_parts returns
  have request : step.request.map Request.restored = step.request.map Request.settled :=
    Option.map_congr fun request' given => Request.restored_of_returns (request request' given)
  rw [restored, settled, legible.kind, request, Table.map_of_same fun entry member =>
    reread_of_returns (legible.metadata entry member) (metadata entry member)]

theorem reader_toJson (now : Instant) (room : Nat) {step : Step} (regular : step.Regular)
    (readable : step.isReadable (room + 2) = true)
    (clear : AllNumbers Number.Clear step.toJson) :
    Step.reader now (room + 4) step.toJson.document = .ok step.restored := by
  obtain ⟨requestClear, metadataClear⟩ := forall_parts clear
  have metadata : ∀ entry ∈ step.metadata.entries,
      Reader.value (room + 2) entry.2.document = .ok entry.2.reread := fun entry member =>
    Reader.value_document (regular.metadata entry member)
      (List.all_eq_true.mp readable entry member) (metadataClear entry member)
  have kind : StepKind.reader (room + 3) step.kind.toJson.document =
      .ok (.ofName step.kind.name) :=
    Reader.map_ok StepKind.ofName
      (show Reader.text (room + 3) step.kind.toJson.document = .ok step.kind.name from rfl)
  simp only [toJson, List.cons_append, List.nil_append, List.append_assoc]
  rw [← List.append_nil (Table.givenJson _ _ _)]
  refine Reader.map_ok _ ((form now).reader_of_writes "struct ReplayStep"
    (step.id, step.number, .ofName step.kind.name, step.description, step.startedAt,
      step.completedAt, step.request.map Request.restored, step.reply, step.edit, step.build,
      step.contextFiles, step.prompt, step.error, step.metadata.map reread, ())
    (by simp [form, Form.names]) ?_)
  exact .given rfl <| .given (Reader.natural_natural _ _ regular.number) <| .given kind <|
    .given rfl <| .given (step.startedAt.reader_toJson _) <|
    .givenOption (fun _ => document_text_ne _) (fun instant _ => instant.reader_toJson _) <|
    .givenMap (fun _ => document_object_ne _)
      (fun request given => Request.reader_toJson room (requestClear request given)) <|
    .givenOption (fun _ => document_object_ne _) (fun reply _ => reply.reader_toJson _) <|
    .givenOption (fun _ => document_object_ne _) (fun edit _ => edit.reader_toJson _) <|
    .givenOption (fun _ => document_object_ne _) (fun build _ => build.reader_toJson now room) <|
    .givenList (fun _ _ => rfl) <| .givenOption (fun _ => document_text_ne _) (fun _ _ => rfl) <|
    .givenOption (fun _ => document_text_ne _) (fun _ _ => rfl) <|
    Table.writes_givenJson metadata .done

theorem fitting {step : Step} (legible : step.Legible) :
    AllNumbers Number.Fitting step.toJson := by
  have metadata : ∀ entry ∈ step.metadata.entries, AllNumbers Number.Fitting entry.2 :=
    fun entry member number known => ((legible.metadata entry member).numeric number known).fitting
  simp only [toJson, allNumbers_object, List.forall_mem_append, forall_mem_given,
    forall_mem_givenList, Table.forall_mem_givenJson]
  refine ⟨⟨⟨⟨⟨⟨⟨⟨⟨?_, ?_⟩, ?_⟩, ?_⟩, ?_⟩, ?_⟩, ?_⟩, ?_⟩, ?_⟩, metadata⟩
  · simp [allNumbers_fitting_natural legible.number, StepKind.toJson, Instant.toJson]
  all_goals simp [Instant.toJson, Request.fitting, Reply.fitting, Edit.fitting, Build.fitting]

theorem compact_settled (step : Step) : step.settled.toJson.compact = step.toJson.compact := by
  have request : compactMembers (given "model_request" Request.toJson
      (step.request.map Request.settled)) =
      compactMembers (given "model_request" Request.toJson step.request) := by
    cases step.request with
    | none => rfl
    | some request =>
        simp only [Option.map_some, given, compactMembers, Request.compact_settled]
  simp only [toJson, settled, compact, compactMembers_append, request]

section Reading

variable {now : Instant} {holds : Token → Prop} {room : Nat} {document : Document} {step : Step}

/-- The fields of a step that was read. -/
theorem each_of_reader (lawful : document.Holds holds)
    (read : Step.reader now room document = .ok step) :
    ∃ left, room = left + 1 ∧
      (step.number < UInt64.size ∧ StepKind.ofName step.kind.name = step.kind) ∧
      ((∃ part : Document, part.Holds holds ∧
        Table.reader .value left part = .ok step.metadata) ∨ step.metadata = .empty) := by
  obtain ⟨values, read, same⟩ := map_eq_ok.mp read
  obtain ⟨left, rfl, each⟩ := Form.each_of_reader lawful read
  obtain ⟨id, number, kind, description, startedAt, completedAt, request, reply, edit, build,
    contextFiles, prompt, error, metadata, _⟩ := values
  obtain rfl := same
  obtain ⟨_, number, kind, _, _, _, _, _, _, _, _, _, _, metadata, _⟩ := each
  refine ⟨left, rfl, ⟨?_, ?_⟩, ?_⟩
  · rcases number with ⟨part, _, found⟩ | omitted | omitted
    · exact Reader.lt_of_natural found
    · cases omitted
    · cases omitted
  · rcases kind with ⟨part, _, found⟩ | omitted | omitted
    · obtain ⟨name, _, rfl⟩ := map_eq_ok.mp found
      rw [StepKind.name_ofName]
    · cases omitted
    · cases omitted
  · rcases metadata with known | omitted | omitted
    · exact .inl known
    · exact .inr (Omission.filled.inj omitted).symm
    · cases omitted

/-- The metadata of a step that was read come from parts of its document. -/
theorem mem_metadata (lawful : document.Holds holds)
    (read : Step.reader now (room + 2) document = .ok step) :
    ∀ entry ∈ step.metadata.entries, ∃ part : Document, part.Holds holds ∧
      Reader.value room part = .ok entry.2 := by
  obtain ⟨left, same, _, metadata⟩ := each_of_reader lawful read
  obtain rfl := Nat.succ.inj same
  rcases metadata with ⟨part, lawful, found⟩ | none
  · obtain ⟨_, same, each⟩ := Table.mem_reader lawful found
    obtain rfl := Nat.succ.inj same
    exact each
  · rw [none]
    exact nofun

end Reading

end Step

namespace Journal

/-- The journal without infinite sampling parameters. -/
def settled (journal : Journal) : Journal :=
  { journal with steps := journal.steps.map Step.settled }

/-- The journal that is read in the place of a journal. -/
def restored (journal : Journal) : Journal :=
  { journal with
    steps := journal.steps.map Step.restored
    metadata := journal.metadata.map reread }

/-- Every step is regular, and all metadata has sorted objects. -/
structure Regular (journal : Journal) : Prop where
  steps : ∀ step ∈ journal.steps, step.Regular
  metadata : ∀ entry ∈ journal.metadata.entries, entry.2.Regular

/-- What a text can tell of a journal. -/
structure Legible (journal : Journal) : Prop where
  steps : ∀ step ∈ journal.steps, step.Legible
  metadata : ∀ entry ∈ journal.metadata.entries, entry.2.Legible

theorem Legible.regular {journal : Journal} (legible : journal.Legible) : journal.Regular :=
  ⟨fun step member => (legible.steps step member).regular,
    fun entry member => (legible.metadata entry member).regular⟩

/-- All metadata can be read again at the place where the text of the journal has it. -/
def isReadable (journal : Journal) : Bool :=
  (journal.metadata.entries.all fun entry => entry.2.isReadable (Reader.greatestDepth - 2)) &&
    journal.steps.all fun step => step.isReadable (Reader.greatestDepth - 4)

theorem forall_parts {holds : Number → Prop} {journal : Journal}
    (all : AllNumbers holds journal.toJson) :
    (∀ step ∈ journal.steps, AllNumbers holds step.toJson) ∧
      ∀ entry ∈ journal.metadata.entries, AllNumbers holds entry.2 := by
  have all := allNumbers_object.mp all
  simp only [List.forall_mem_append, forall_mem_given, Table.forall_mem_givenJson] at all
  obtain ⟨⟨⟨⟨⟨_, _⟩, _⟩, _⟩, listed⟩, metadata⟩ := all
  exact ⟨allNumbers_listOf.mp (listed _ List.mem_cons_self), metadata⟩

theorem restored_of_returns {journal : Journal} (legible : journal.Legible)
    (returns : AllNumbers Number.Returns journal.toJson) : journal.restored = journal.settled := by
  obtain ⟨steps, metadata⟩ := forall_parts returns
  rw [restored, settled, List.map_congr_left fun step member =>
      Step.restored_of_returns (legible.steps step member) (steps step member),
    Table.map_of_same fun entry member =>
      reread_of_returns (legible.metadata entry member) (metadata entry member)]

theorem reader_toJson (now : Instant) {journal : Journal} (regular : journal.Regular)
    (readable : journal.isReadable = true) (clear : AllNumbers Number.Clear journal.toJson) :
    Journal.reader now Reader.greatestDepth journal.toJson.document = .ok journal.restored := by
  obtain ⟨stepsClear, metadataClear⟩ := forall_parts clear
  obtain ⟨metadataReadable, stepsReadable⟩ := Bool.and_eq_true_iff.mp readable
  have metadata : ∀ entry ∈ journal.metadata.entries,
      Reader.value 125 entry.2.document = .ok entry.2.reread := fun entry member =>
    Reader.value_document (regular.metadata entry member)
      (List.all_eq_true.mp metadataReadable entry member) (metadataClear entry member)
  have steps : ∀ step ∈ journal.steps,
      Step.reader now 125 step.toJson.document = .ok step.restored := fun step member =>
    Step.reader_toJson now 121 (regular.steps step member)
      (List.all_eq_true.mp stepsReadable step member) (stepsClear step member)
  simp only [toJson, List.cons_append, List.nil_append, List.append_assoc]
  rw [← List.append_nil (Table.givenJson _ _ _)]
  refine Reader.map_ok _ ((form now).reader_of_writes "struct ReplaySession"
    (journal.id, journal.edition, journal.progress, journal.prompt, journal.startedAt,
      journal.completedAt, journal.steps.map Step.restored, journal.files,
      journal.metadata.map reread, ()) (by simp [form, Form.names]) ?_)
  exact .given rfl <| .given (journal.edition.reader_toJson _) <|
    .given (journal.progress.reader_toJson _) <|
    .givenOption (fun _ => document_text_ne _) (fun _ _ => rfl) <|
    .given (journal.startedAt.reader_toJson _) <|
    .givenOption (fun _ => document_text_ne _) (fun instant _ => instant.reader_toJson _) <|
    .given (Reader.list_map steps) <|
    .given (Table.reader_toJson fun entry _ => entry.2.reader_toJson now _) <|
    Table.writes_givenJson metadata .done

theorem fitting {journal : Journal} (legible : journal.Legible) :
    AllNumbers Number.Fitting journal.toJson := by
  have metadata : ∀ entry ∈ journal.metadata.entries, AllNumbers Number.Fitting entry.2 :=
    fun entry member number known => ((legible.metadata entry member).numeric number known).fitting
  have steps : ∀ step ∈ journal.steps, AllNumbers Number.Fitting step.toJson :=
    fun step member => Step.fitting (legible.steps step member)
  simp only [toJson, allNumbers_object, List.forall_mem_append, forall_mem_given,
    Table.forall_mem_givenJson]
  refine ⟨⟨⟨⟨⟨?_, ?_⟩, ?_⟩, ?_⟩, ?_⟩, metadata⟩
  case refine_5 => simpa [Snapshot.fitting] using steps
  all_goals simp [Edition.toJson, Progress.toJson, Instant.toJson]

theorem compact_settled (journal : Journal) :
    journal.settled.toJson.compact = journal.toJson.compact := by
  have steps (steps : List Step) :
      compactItems ((steps.map Step.settled).map Step.toJson) =
        compactItems (steps.map Step.toJson) := by
    induction steps with
    | nil => rfl
    | cons step steps inductionHypothesis =>
        simp only [List.map_cons, compactItems, step.compact_settled, inductionHypothesis]
  simp only [toJson, settled, compact, compactMembers_append, compactMembers, listOf, steps]

/-- The check of a step asks for its number and its build only. -/
theorem checkSteps_map {change : Step → Step} (number : ∀ step, (change step).number = step.number)
    (build : ∀ step, (change step).build = step.build) (seen : List Nat) (steps : List Step) :
    checkSteps seen (steps.map change) = checkSteps seen steps := by
  induction steps generalizing seen with
  | nil => rfl
  | cons step steps inductionHypothesis =>
      simp only [List.map_cons, checkSteps, number, build, inductionHypothesis]

theorem check_settled (journal : Journal) : journal.settled.check = journal.check := by
  have steps := @checkSteps_map Step.settled (fun _ => rfl) (fun _ => rfl) [] journal.steps
  simp only [check, settled, steps]

theorem check_restored (journal : Journal) : journal.restored.check = journal.check := by
  have steps := @checkSteps_map Step.restored (fun _ => rfl) (fun _ => rfl) [] journal.steps
  simp only [check, restored, steps]

/-- No request of the journal has an infinite sampling parameter. -/
def FiniteSampling (journal : Journal) : Prop :=
  ∀ step ∈ journal.steps, ∀ request ∈ step.request, request.FiniteSampling

theorem settled_of_finite {journal : Journal} (finite : journal.FiniteSampling) :
    journal.settled = journal := by
  have step : ∀ step ∈ journal.steps, step.settled = step := by
    intro step member
    have request : step.request.map Request.settled = step.request := by
      cases given : step.request with
      | none => rfl
      | some request =>
          rw [Option.map_some, Request.settled_of_finite (finite step member request given)]
    rw [Step.settled, request]
  have steps : journal.steps.map Step.settled = journal.steps := by
    conv => rhs; rw [← List.map_id journal.steps]
    exact List.map_congr_left step
  rw [settled, steps]

section Reading

variable {now : Instant} {holds : Token → Prop} {text : String} {journal : Journal}

/-- The steps and the metadata of a journal that was read come from parts of its document. -/
theorem parts_of_ofText (lawful : ∀ token ∈ Token.scan text.toList, holds token)
    (read : Journal.ofText now text = .ok journal) :
    (∀ step ∈ journal.steps, ∃ part : Document, part.Holds holds ∧
      Step.reader now 125 part = .ok step) ∧
      ∀ entry ∈ journal.metadata.entries, ∃ part : Document, part.Holds holds ∧
        Reader.value 125 part = .ok entry.2 := by
  have whole := Document.holds_ofText holds lawful
  rw [ofText] at read
  cases run : (reader now).run text with
  | error fault => simp [run, Except.mapError] at read
  | ok same =>
      simp only [run, Except.mapError, Except.ok.injEq] at read
      obtain rfl := read
      obtain ⟨values, read, same⟩ := map_eq_ok.mp (Reader.read_of_run run)
      obtain ⟨left, room, each⟩ := Form.each_of_reader whole read
      obtain rfl : left = 126 := (Nat.succ.inj room).symm
      obtain ⟨id, edition, progress, prompt, startedAt, completedAt, steps, files, metadata, _⟩ :=
        values
      obtain rfl := same
      obtain ⟨_, _, _, _, _, _, steps, _, metadata, _⟩ := each
      constructor
      · rcases steps with ⟨part, lawful, found⟩ | omitted | omitted
        · obtain ⟨left, room, each⟩ := Reader.mem_list lawful found
          obtain rfl : left = 125 := (Nat.succ.inj room).symm
          exact each
        · obtain rfl := Omission.filled.inj omitted
          exact fun step member => absurd member List.not_mem_nil
        · cases omitted
      · rcases metadata with ⟨part, lawful, found⟩ | omitted | omitted
        · obtain ⟨left, room, each⟩ := Table.mem_reader lawful found
          obtain rfl : left = 125 := (Nat.succ.inj room).symm
          exact each
        · obtain rfl := Omission.filled.inj omitted
          exact fun entry member => absurd member List.not_mem_nil
        · cases omitted

/-- A journal that was read is legible. -/
theorem legible_of_ofText (read : Journal.ofText now text = .ok journal) : journal.Legible := by
  obtain ⟨steps, metadata⟩ := parts_of_ofText (numeric_of_scan text.toList) read
  constructor
  · intro step member
    obtain ⟨part, lawful, found⟩ := steps step member
    obtain ⟨_, _, ⟨number, kind⟩, _⟩ := Step.each_of_reader lawful found
    refine ⟨number, kind, fun entry known => ?_⟩
    obtain ⟨part, lawful, found⟩ := Step.mem_metadata lawful found entry known
    exact legible_of_value lawful found
  · intro entry member
    obtain ⟨part, lawful, found⟩ := metadata entry member
    exact legible_of_value lawful found

/-- Metadata without the key of embedded texts can be read again. -/
theorem isReadable_of_ofText (read : Journal.ofText now text = .ok journal)
    (ordinary : .text (.plain Reader.holderKey) ∉ Token.scan text.toList) :
    journal.isReadable = true := by
  have lawful : ∀ token ∈ Token.scan text.toList, token.Ordinary := by
    rintro token member rfl
    exact ordinary member
  obtain ⟨steps, metadata⟩ := parts_of_ofText lawful read
  rw [isReadable, Bool.and_eq_true, List.all_eq_true, List.all_eq_true]
  constructor
  · intro entry member
    obtain ⟨part, lawful, found⟩ := metadata entry member
    exact isReadable_of_value lawful found
  · intro step member
    obtain ⟨part, lawful, found⟩ := steps step member
    refine List.all_eq_true.mpr fun entry known => ?_
    obtain ⟨part, lawful, found⟩ := Step.mem_metadata lawful found entry known
    exact isReadable_of_value lawful found

/-- Both texts of a journal are read by its document. -/
theorem ofText_texts (clear : AllNumbers Number.Clear journal.toJson) (later : Instant) :
    Journal.ofText later journal.toJson.compact =
        (Journal.reader later Reader.greatestDepth journal.toJson.document).mapError
          (fun fault => .unreadableText fault.message) ∧
      Journal.ofText later journal.savedText =
        (Journal.reader later Reader.greatestDepth journal.toJson.document).mapError
          (fun fault => .unreadableText fault.message) := by
  obtain ⟨compact, saved⟩ := Document.ofText_texts clear
  constructor
  · rw [ofText, Reader.run_of_document compact]
  · rw [ofText, savedText, Reader.run_of_document saved]

/-- Both texts of a journal are read as one journal, at any time. -/
theorem ofText_restored (regular : journal.Regular) (readable : journal.isReadable = true)
    (clear : AllNumbers Number.Clear journal.toJson) (later : Instant) :
    Journal.ofText later journal.toJson.compact = .ok journal.restored ∧
      Journal.ofText later journal.savedText = .ok journal.restored := by
  obtain ⟨compact, saved⟩ := ofText_texts clear later
  rw [compact, saved, reader_toJson later regular readable clear]
  exact ⟨rfl, rfl⟩

/-- A journal that was read is read again as the journal without infinite sampling parameters, if
its metadata can be read again and the texts of its floats are read back. -/
theorem settled_of_texts (read : Journal.ofText now text = .ok journal)
    (readable : journal.isReadable = true) (returns : AllNumbers Number.Returns journal.toJson)
    (later : Instant) :
    Journal.ofText later journal.toJson.compact = .ok journal.settled ∧
      Journal.ofText later journal.savedText = .ok journal.settled := by
  have legible := legible_of_ofText read
  rw [← restored_of_returns legible returns]
  exact ofText_restored legible.regular readable (allNumbers_clear (fitting legible) returns) later

end Reading

end Journal

/-- A journal that was read, if its metadata can be read again, has two texts that are both read as
one journal at any later time. That journal has the same compact text and passes the same check, and
it is the first journal if all sampling parameters are finite. Metadata can always be read again
when no string of the text is the key of embedded texts. -/
theorem resaved_of_ofText {now : Instant} {text : String} {journal : Journal}
    (read : Journal.ofText now text = .ok journal)
    (returns : AllNumbers Number.Returns journal.toJson) :
    (journal.isReadable = true → ∃ again : Journal,
      (∀ later, Journal.ofText later journal.toJson.compact = .ok again ∧
        Journal.ofText later journal.savedText = .ok again) ∧
      again.toJson.compact = journal.toJson.compact ∧ again.check = journal.check ∧
      (journal.FiniteSampling → again = journal ∧
        (journal.check = .ok () → ∀ later, Journal.load later journal.savedText = .ok journal))) ∧
    (.text (.plain Reader.holderKey) ∉ Token.scan text.toList → journal.isReadable = true) := by
  refine ⟨fun readable => ?_, Journal.isReadable_of_ofText read⟩
  have texts := Journal.settled_of_texts read readable returns
  refine ⟨journal.settled, texts, journal.compact_settled, journal.check_settled,
    fun finite => ?_⟩
  have same := Journal.settled_of_finite finite
  refine ⟨same, fun passes later => ?_⟩
  rw [Journal.load, (texts later).2, same]
  simp only [passes]

/-- A journal with a sampled request and with a float in its metadata. -/
def Journal.sampled : Journal :=
  let request : Request :=
    { modelName := ""
      modelId := ""
      provider := ""
      temperature := some ⟨false, .nearest .single 7 10⟩
      topShare := some ⟨false, .nearest .single 1 1⟩
      greatestTokens := none
      inputTokens := 0
      systemPrompt := none
      messages := []
      stops := [] }
  { Journal.start .epoch "journal" with
    progress := .completed
    steps := [{ Step.bare .epoch "request" 0 .modelRequest with request := some request }]
    metadata := Table.empty.put "note" (.number (.double ⟨true, .nearest .double 1 10⟩)) }

/-- The request stands as a list, and an integer and an exponent stand for floats. -/
def Journal.sampledText : String :=
  "\x7b\"metadata\": \x7b\"note\": -1e-1\x7d, \"steps\": [\x7b\"type\": \"model_request\", " ++
    "\"step_number\": 0, \"id\": \"request\", \"model_request\": [\"\", \"\", \"\", 0.7, 1]\x7d], " ++
    "\"id\": \"journal\"\x7d"

theorem Journal.ofText_sampled : ofText .epoch sampledText = .ok sampled :=
  eq_ok_of_toOption (by decide +kernel)

/-- That journal is loaded again from the text that was saved for it, at any time. -/
theorem resaved_of_sampled :
    Journal.ofText .epoch Journal.sampledText = .ok .sampled ∧
      Journal.sampledText ≠ Journal.sampled.savedText ∧
      ∀ later, Journal.load later Journal.sampled.savedText = .ok .sampled := by
  obtain ⟨resaved, ordinary⟩ := resaved_of_ofText Journal.ofText_sampled (by decide +kernel)
  obtain ⟨again, _, _, _, same⟩ := resaved (ordinary (by decide +kernel))
  have finite : Journal.sampled.FiniteSampling := by
    simp [Journal.FiniteSampling, Journal.sampled, Request.FiniteSampling]
    decide +kernel
  obtain ⟨_, loads⟩ := same finite
  exact ⟨Journal.ofText_sampled, by decide +kernel, loads (by decide +kernel)⟩

/-- A journal whose metadata hold an object that seems to hold the text of a value. -/
def Journal.holding : Journal :=
  { Journal.start .epoch "journal" with
    progress := .completed
    metadata := Table.empty.put "note"
      (.object [(Reader.holderKey, .text "5"), ("a", natural 1)]) }

/-- The key of embedded texts does not come first. -/
def Journal.holdingText : String :=
  (Json.object
    [("id", .text "journal"),
      ("metadata", .object
        [("note", .object [("a", natural 1), (Reader.holderKey, .text "5")])])]).compact

theorem Journal.ofText_holding : ofText .epoch holdingText = .ok holding := by
  decide +kernel

/-- Sorting the members has moved the key of embedded texts to the front, so neither text of the
journal is read again. -/
theorem not_resaved_of_holding :
    Journal.ofText .epoch Journal.holdingText = .ok .holding ∧
      AllNumbers Number.Returns Journal.holding.toJson ∧ Journal.holding.check = .ok () ∧
      Journal.ofText .epoch Journal.holding.toJson.compact =
        .error (.unreadableText "trailing comma") ∧
      Journal.ofText .epoch Journal.holding.savedText =
        .error (.unreadableText "trailing comma") := by
  have returns : AllNumbers Number.Returns Journal.holding.toJson := by decide +kernel
  have legible := Journal.legible_of_ofText Journal.ofText_holding
  obtain ⟨compact, saved⟩ :=
    Journal.ofText_texts (allNumbers_clear (Journal.fitting legible) returns) .epoch
  have refused : (Journal.reader .epoch Reader.greatestDepth Journal.holding.toJson.document) =
      .error (.flawed .trailingComma) := by
    decide +kernel
  rw [compact, saved, refused]
  exact ⟨Journal.ofText_holding, returns, by decide +kernel, rfl, rfl⟩

end Playback
