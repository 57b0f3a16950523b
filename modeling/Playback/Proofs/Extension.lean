import Playback.Journal.Encoding
import Playback.Proofs.Json.Extension
import Playback.Proofs.Json.Scalars

namespace Playback

open Json

namespace Message

/-- What may become of a message. -/
def Extends : Change := .Record form.names []

theorem kept_reader : Extends.Kept Message.reader :=
  (form.kept_reader (by simp [form, Form.names]) (List.forall_mem_nil _) _).map _

theorem demanding_reader : Reader.Demanding Message.reader :=
  (Form.Demanding.reader (by simp [form, Form.Demanding, Reader.demanding_text]) _).map _

end Message

namespace Request

/-- What may become of a request and its messages. -/
def Extends : Change := .Record form.names [("messages", .Items Message.Extends)]

theorem kept_reader : Extends.Kept Request.reader := by
  refine (form.kept_reader (by simp [form, Form.names]) ?_ _).map _
  rw [List.forall_mem_singleton]
  simp [form, Form.KeepsAt, Message.kept_reader.list]

theorem demanding_reader : Reader.Demanding Request.reader := by
  refine (Form.Demanding.reader ?_ _).map _
  exact ⟨Reader.demanding_text, Reader.demanding_text, Reader.demanding_text,
    Reader.demanding_single.optional, Reader.demanding_single.optional,
    Reader.demanding_word32.optional, Reader.demanding_word64 _, Reader.demanding_text.optional,
    Message.demanding_reader.list, Reader.demanding_text.list, trivial⟩

end Request

namespace Reply

/-- What may become of a reply. -/
def Extends : Change := .Record form.names []

theorem kept_reader : Extends.Kept Reply.reader :=
  (form.kept_reader (by simp [form, Form.names]) (List.forall_mem_nil _) _).map _

theorem demanding_reader : Reader.Demanding Reply.reader := by
  refine (Form.Demanding.reader ?_ _).map _
  exact ⟨Reader.demanding_text, Reader.demanding_text.optional, Reader.demanding_word64 _,
    Reader.demanding_word64 _, Reader.demanding_word64 _, Reader.demanding_word64 _,
    Reader.demanding_boolean, Reader.demanding_text.optional, trivial⟩

end Reply

namespace Edit

/-- What may become of an edit. -/
def Extends : Change := .Record form.names []

theorem kept_reader : Extends.Kept Edit.reader :=
  (form.kept_reader (by simp [form, Form.names]) (List.forall_mem_nil _) _).map _

theorem demanding_reader : Reader.Demanding Edit.reader := by
  refine (Form.Demanding.reader ?_ _).map _
  exact ⟨Reader.demanding_text, Reader.demanding_text, Reader.demanding_text,
    Reader.demanding_text.optional, Reader.demanding_text.list, trivial⟩

end Edit

theorem Instant.demanding_reader : Reader.Demanding Instant.reader :=
  (Reader.demanding_textAs _).refine _

theorem Table.demanding_reader {A : Type} {read : Reader A} (demanding : Reader.Demanding read) :
    Reader.Demanding (Table.reader read) :=
  demanding.entries.map _

namespace Snapshot

variable (now : Instant)

/-- What may become of a snapshot. -/
def Extends : Change := .Record (form now).names []

theorem kept_reader : (Extends now).Kept (Snapshot.reader now) :=
  ((form now).kept_reader (by simp [form, Form.names]) (List.forall_mem_nil _) _).map _

theorem demanding_reader : Reader.Demanding (Snapshot.reader now) := by
  refine (Form.Demanding.reader ?_ _).map _
  exact ⟨Reader.demanding_text, Reader.demanding_text.optional,
    Reader.Demanding.optional (Reader.demanding_text.refine _), Reader.demanding_word64 _,
    Reader.demanding_boolean, Instant.demanding_reader, trivial⟩

end Snapshot

namespace Build

variable (now : Instant)

/-- What may become of a build, its snapshots and its edit. -/
def Extends : Change := .Record (form now).names
  [("before_snapshot", Snapshot.Extends now), ("after_snapshot", Snapshot.Extends now),
    ("diff", Edit.Extends)]

theorem kept_reader : (Extends now).Kept (Build.reader now) := by
  have snapshot := (Snapshot.kept_reader now).optional Change.Record.proper
  have edit := Edit.kept_reader.optional Change.Record.proper
  refine ((form now).kept_reader (by simp [form, Form.names]) ?_ _).map _
  simp only [List.forall_mem_cons]
  simp [form, Form.KeepsAt, snapshot, edit]

theorem demanding_reader : Reader.Demanding (Build.reader now) := by
  refine (Form.Demanding.reader ?_ _).map _
  exact ⟨Reader.demanding_text, Reader.demanding_word64 _, Reader.demanding_boolean,
    Reader.demanding_boolean, Reader.demanding_boolean, Reader.demanding_text.optional,
    (Snapshot.demanding_reader now).optional, (Snapshot.demanding_reader now).optional,
    Edit.demanding_reader.optional, trivial⟩

end Build

namespace Step

variable (now : Instant)

/-- What may become of a step and its parts. -/
def Extends : Change := .Record (form now).names
  [("model_request", Request.Extends), ("model_response", Reply.Extends),
    ("file_diff", Edit.Extends), ("build_info", Build.Extends now)]

theorem kept_reader : (Extends now).Kept (Step.reader now) := by
  have request := Request.kept_reader.optional Change.Record.proper
  have reply := Reply.kept_reader.optional Change.Record.proper
  have edit := Edit.kept_reader.optional Change.Record.proper
  have build := (Build.kept_reader now).optional Change.Record.proper
  refine ((form now).kept_reader (by simp [form, Form.names]) ?_ _).map _
  simp only [List.forall_mem_cons]
  simp [form, Form.KeepsAt, request, reply, edit, build]

theorem demanding_reader : Reader.Demanding (Step.reader now) := by
  refine (Form.Demanding.reader ?_ _).map _
  exact ⟨Reader.demanding_text, Reader.demanding_natural _ _, Reader.demanding_text.map _,
    Reader.demanding_text, Instant.demanding_reader, Instant.demanding_reader.optional,
    Request.demanding_reader.optional, Reply.demanding_reader.optional,
    Edit.demanding_reader.optional, (Build.demanding_reader now).optional,
    Reader.demanding_text.list, Reader.demanding_text.optional, Reader.demanding_text.optional,
    Table.demanding_reader Reader.demanding_value, trivial⟩

end Step

namespace Journal

variable (now : Instant)

/-- What may become of a journal, its steps and its files. -/
def Extends : Change := .Record (form now).names
  [("steps", .Items (Step.Extends now)), ("initial_file_snapshots", .Values (Snapshot.Extends now))]

theorem kept_reader : (Extends now).Kept (Journal.reader now) := by
  have steps := (Step.kept_reader now).list
  have files := (Snapshot.kept_reader now).entries.map Table.ofList
  refine ((form now).kept_reader (by simp [form, Form.names]) ?_ _).map _
  simp only [List.forall_mem_cons]
  simp [form, Form.KeepsAt, steps, Table.reader, files]

theorem demanding_reader : Reader.Demanding (Journal.reader now) := by
  refine (Form.Demanding.reader ?_ _).map _
  exact ⟨Reader.demanding_text, Reader.demanding_text.refine _, Reader.demanding_choice _,
    Reader.demanding_text.optional, Instant.demanding_reader, Instant.demanding_reader.optional,
    (Step.demanding_reader now).list, Table.demanding_reader (Snapshot.demanding_reader now),
    Table.demanding_reader Reader.demanding_value, trivial⟩

end Journal

/-- A text that is read as a journal is JSON. If its records get members of unknown names with values
of any kind, or if their members are put into another order, the text is read as the same journal and
passes the check as it did. -/
theorem journal_of_extended (now : Instant) {text : String} {journal : Journal}
    (accepted : Journal.ofText now text = .ok journal) :
    (∃ document : Document, document.Spells text) ∧
      ∀ document other : Document, ∀ later, document.Spells text →
        Journal.Extends now document other → other.Spells later →
          Journal.ofText now later = .ok journal ∧
            Journal.load now later = Journal.load now text := by
  have found := mapError_eq_ok_iff.mp accepted
  obtain ⟨document, spells, _⟩ := Reader.spells_of_run (Journal.demanding_reader now) found
  refine ⟨⟨document, spells⟩, fun document other later spells grown respells => ?_⟩
  rw [Reader.run_of_spells spells] at found
  have kept := Journal.kept_reader now grown respells.1 found
  have again : Journal.ofText now later = .ok journal := by
    rw [Journal.ofText, Reader.run_of_spells respells, kept]
    rfl
  refine ⟨again, ?_⟩
  rw [Journal.load, Journal.load, again, accepted]

/-- Lists in lists. -/
def Json.Document.nested : Nat → Document
  | 0 => .list [] .closed
  | depth + 1 => .list [nested depth] .closed

theorem Json.Document.whole_nested (depth : Nat) : (nested depth).Whole := by
  induction depth with
  | zero => exact ⟨trivial, rfl⟩
  | succ depth inductionHypothesis => exact ⟨⟨inductionHypothesis, trivial⟩, rfl⟩

/-- The members of a step. -/
def Step.briefMembers : List (Quoted × Document) :=
  [(.plain "id", .text (.plain "step")), (.plain "step_number", (natural 0).document),
    (.plain "type", .text (.plain "user_prompt"))]

/-- Members that no step has, a deep one and a number that no reader takes. -/
def Step.laterMembers : List (Quoted × Document) :=
  [(.plain "depth", .nested 200), (.plain "size", .number .tooLarge)]

def Step.brief : Document := .object briefMembers .closed

def Step.briefExtended : Document := .object (briefMembers.reverse ++ laterMembers) .closed

theorem Step.extends_brief : Step.Extends .epoch Step.brief Step.briefExtended := by
  refine Change.Record.of_perm ?_ ?_ ((List.reverse_perm _).append_right _)
  · simp [briefMembers]
  · simp [laterMembers, form, Form.names]

/-- The document of a journal of one step. -/
def Journal.brief : Document :=
  .object
    [(.plain "id", .text (.plain "journal")), (.plain "steps", .list [Step.brief] .closed)] .closed

def Journal.briefExtended : Document :=
  .object
    [(.plain "steps", .list [Step.briefExtended] .closed),
      (.plain "id", .text (.plain "journal"))] .closed

theorem Journal.extends_brief : Journal.Extends .epoch Journal.brief Journal.briefExtended := by
  have steps : Change.Items (Step.Extends .epoch) (.list [Step.brief] .closed)
      (.list [Step.briefExtended] .closed) :=
    .each (.cons Step.extends_brief .nil)
  exact .members (.cons ⟨"id", rfl, rfl, .inl rfl⟩ <|
    .cons ⟨"steps", rfl, rfl, .inr ⟨_, List.mem_cons_self, steps⟩⟩ .nil) (List.forall_mem_nil _)
    (.swap ..)

def Journal.briefText : String :=
  "\x7b\"id\":\"journal\",\"steps\":[" ++
    "\x7b\"id\":\"step\",\"step_number\":0,\"type\":\"user_prompt\"\x7d]\x7d"

def Journal.briefExtendedText : String :=
  let step := "\x7b\"type\":\"user_prompt\", \"step_number\":0, \"id\":\"step\", \"depth\":" ++
    String.ofList (List.replicate 201 '[' ++ List.replicate 201 ']') ++ ", \"size\":1e999\x7d"
  "\x7b\"steps\": [" ++ step ++ "], \"id\": \"journal\"\x7d"

/-- The deep member is deeper than any value that is read. -/
theorem journal_of_briefExtended :
    let journal : Journal :=
      { Journal.start .epoch "journal" with
        progress := .completed
        steps := [.bare .epoch "step" 0 .userPrompt] }
    Journal.brief.Spells Journal.briefText ∧
      Journal.Extends .epoch Journal.brief Journal.briefExtended ∧
      Journal.briefExtended.Spells Journal.briefExtendedText ∧
      Journal.ofText .epoch Journal.briefText = .ok journal ∧
      Journal.ofText .epoch Journal.briefExtendedText = .ok journal := by
  intro journal
  have accepted : Journal.ofText .epoch Journal.briefText = .ok journal :=
    eq_ok_of_toOption (by decide +kernel)
  have position := document_natural (show 0 < UInt64.size by decide)
  have spells : Journal.brief.Spells Journal.briefText := by
    refine Document.spells_of_scan ?_ (by decide +kernel)
    simp [Journal.brief, Step.brief, Step.briefMembers, Document.Whole, Document.WholeMembers,
      Document.WholeItems, Token.Sound, position]
  have respells : Journal.briefExtended.Spells Journal.briefExtendedText := by
    have scanned : Token.scan Journal.briefExtendedText.toList = Journal.briefExtended.tokens := by
      simp only [Journal.briefExtendedText, String.toList_append, String.toList_ofList]
      decide +kernel
    refine Document.spells_of_scan ?_ scanned
    simp [Journal.briefExtended, Step.briefExtended, Step.briefMembers, Step.laterMembers,
      Document.whole_nested, Document.Whole, Document.WholeMembers, Document.WholeItems,
      Token.Sound, position]
  obtain ⟨_, extended⟩ := journal_of_extended .epoch accepted
  have grown := Journal.extends_brief
  exact ⟨spells, grown, respells, accepted, (extended _ _ _ spells grown respells).1⟩

end Playback
