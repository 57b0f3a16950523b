import Playback.Proofs.Json.Scalars

namespace Playback

open Json

theorem Json.document_text_ne (value : String) : (Json.text value).document ≠ .null := nofun

theorem Json.document_object_ne (members : List (String × Json)) :
    (Json.object members).document ≠ .null := nofun

namespace Message

theorem reader_toJson (room : Nat) (message : Message) :
    Message.reader (room + 1) message.toJson.document = .ok message := by
  refine Reader.map_ok _ (form.reader_of_writes "struct ReplayMessage"
    (message.role, message.content, ()) (by simp [form, Form.names]) ?_)
  exact .given rfl <| .given rfl .done

theorem fitting (message : Message) : AllNumbers Number.Fitting message.toJson := by
  simp [toJson]

end Message

namespace Request

/-- A sampling parameter that has become infinite is dropped. -/
def finite? (value : Binary.Single) : Option Binary.Single :=
  if value.magnitude.isFinite then some value else none

/-- The request without infinite sampling parameters. -/
def settled (request : Request) : Request :=
  { request with
    temperature := request.temperature.bind finite?
    topShare := request.topShare.bind finite? }

/-- No sampling parameter is infinite. -/
def FiniteSampling (request : Request) : Prop :=
  (∀ value ∈ request.temperature, value.magnitude.isFinite = true) ∧
    ∀ value ∈ request.topShare, value.magnitude.isFinite = true

theorem settled_of_finite {request : Request} (finite : request.FiniteSampling) :
    request.settled = request := by
  have kept {option : Option Binary.Single}
      (finite : ∀ value ∈ option, value.magnitude.isFinite = true) :
      option.bind finite? = option := by
    cases option with
    | none => rfl
    | some value => exact if_pos (finite value rfl)
  rw [settled, kept finite.1, kept finite.2]

/-- The single that the text of a sampling parameter is read as. An infinite one is read as null. -/
def reread? (value : Binary.Single) : Option Binary.Single :=
  (Numeral.scan (Number.single value).text.toList).1.single?

/-- The request that is read in the place of a request. -/
def restored (request : Request) : Request :=
  { request with
    temperature := request.temperature.bind reread?
    topShare := request.topShare.bind reread? }

theorem reread?_of_returns {value : Binary.Single} (returns : (Number.single value).Returns) :
    reread? value = finite? value := by
  rw [finite?]
  cases finite : value.magnitude.isFinite with
  | true => exact (returns finite).1
  | false =>
      have null : (Number.single value).text = "null" := by
        simp [Number.text, Number.text_of_infinite finite]
      rw [reread?, null]
      rfl

/-- The sampling parameters are numbers of a request. -/
theorem forall_sampling {holds : Number → Prop} {request : Request}
    (all : AllNumbers holds request.toJson) :
    (∀ value ∈ request.temperature, holds (.single value)) ∧
      ∀ value ∈ request.topShare, holds (.single value) := by
  have all := allNumbers_object.mp all
  have temperature := all ("temperature", optional singleJson request.temperature) (by simp)
  have topShare := all ("top_p", optional singleJson request.topShare) (by simp)
  exact ⟨fun value given => allNumbers_number.mp (allNumbers_optional.mp temperature value given),
    fun value given => allNumbers_number.mp (allNumbers_optional.mp topShare value given)⟩

/-- A request whose floats are read back only loses infinite sampling parameters. -/
theorem restored_of_returns {request : Request}
    (returns : AllNumbers Number.Returns request.toJson) : request.restored = request.settled := by
  have kept {option : Option Binary.Single}
      (returns : ∀ value ∈ option, (Number.single value).Returns) :
      option.bind reread? = option.bind finite? :=
    Option.bind_congr fun value given => reread?_of_returns (returns value given)
  obtain ⟨temperature, topShare⟩ := forall_sampling returns
  rw [restored, settled, kept temperature, kept topShare]

theorem optional_singleJson {room : Nat} {option : Option Binary.Single}
    (clear : ∀ value ∈ option, (Number.single value).Clear) :
    Reader.optional .single room (optional singleJson option).document =
      .ok (option.bind reread?) := by
  cases option with
  | none => rfl
  | some value =>
      rw [Json.optional, Option.bind_some, singleJson, Json.document, reread?]
      rcases clear value rfl with null | ⟨same, scanned⟩
      · rw [Number.document, if_pos null, null]
        rfl
      · rw [Number.document_of_scan scanned, scanned]
        obtain ⟨single, found⟩ : ∃ single, (Written.exact same).single? = some single := by
          cases same <;> exact ⟨_, rfl⟩
        rw [found]
        refine Reader.optional_some (fun null => ?_) (Reader.single_of_written room found)
        contradiction

theorem reader_toJson (room : Nat) {request : Request}
    (clear : AllNumbers Number.Clear request.toJson) :
    Request.reader (room + 3) request.toJson.document = .ok request.restored := by
  obtain ⟨temperature, topShare⟩ := forall_sampling clear
  have present (count : UInt32) : (natural count.toNat).document ≠ .null := by
    rw [document_natural (Nat.lt_trans count.toNat_lt_size (by decide))]
    exact nofun
  refine Reader.map_ok _ (form.reader_of_writes "struct ModelRequest"
    (request.modelName, request.modelId, request.provider, request.temperature.bind reread?,
      request.topShare.bind reread?, request.greatestTokens, request.inputTokens,
      request.systemPrompt, request.messages, request.stops, ())
    (by simp [form, Form.names]) ?_)
  exact .given rfl <| .given rfl <| .given rfl <| .given (optional_singleJson temperature) <|
    .given (optional_singleJson topShare) <|
    .optional present (fun count _ => Reader.word32_natural _ count) <|
    .given (Reader.word64_word _ _ _) <| .optional (fun _ => document_text_ne _) (fun _ _ => rfl) <|
    .given (Reader.list_listOf fun message _ => message.reader_toJson room) <|
    .given (Reader.list_listOf fun _ _ => rfl) .done

theorem fitting (request : Request) : AllNumbers Number.Fitting request.toJson := by
  have single (value : Binary.Single) : (Number.single value).Fitting := trivial
  have count (value : UInt32) : AllNumbers Number.Fitting (natural value.toNat) :=
    allNumbers_fitting_natural (Nat.lt_trans value.toNat_lt_size (by decide))
  simp [toJson, singleJson, single, count, Message.fitting]

theorem compact_singleJson (option : Option Binary.Single) :
    (Json.optional singleJson (option.bind finite?)).compact =
      (Json.optional singleJson option).compact := by
  cases option with
  | none => rfl
  | some value =>
      rw [Option.bind_some, finite?]
      cases finite : value.magnitude.isFinite with
      | true => rfl
      | false => simp [Json.optional, singleJson, compact, Number.text, Number.text_of_infinite finite]

/-- Dropping infinite sampling parameters does not change the text. -/
theorem compact_settled (request : Request) :
    request.settled.toJson.compact = request.toJson.compact := by
  simp only [toJson, settled, compact, compactMembers, compact_singleJson]

end Request

namespace Reply

theorem reader_toJson (room : Nat) (reply : Reply) :
    Reply.reader (room + 1) reply.toJson.document = .ok reply := by
  refine Reader.map_ok _ (form.reader_of_writes "struct ModelResponse"
    (reply.content, reply.finishReason, reply.inputTokens, reply.outputTokens, reply.totalTokens,
      reply.cachedTokens, reply.stopped, reply.error, ()) (by simp [form, Form.names]) ?_)
  exact .given rfl <| .optional (fun _ => document_text_ne _) (fun _ _ => rfl) <|
    .given (Reader.word64_word _ _ _) <|
    .given (Reader.word64_word _ _ _) <| .given (Reader.word64_word _ _ _) <|
    .given (Reader.word64_word _ _ _) <| .given rfl <|
    .optional (fun _ => document_text_ne _) (fun _ _ => rfl) .done

theorem fitting (reply : Reply) : AllNumbers Number.Fitting reply.toJson := by
  simp [toJson]

end Reply

namespace Edit

theorem reader_toJson (room : Nat) (edit : Edit) :
    Edit.reader (room + 2) edit.toJson.document = .ok edit := by
  simp only [toJson, List.cons_append, List.nil_append]
  rw [← List.append_nil (givenList _ _ _)]
  refine Reader.map_ok _ (form.reader_of_writes "struct ReplayDiff"
    (edit.path, edit.before, edit.after, edit.unified, edit.hunks, ())
    (by simp [form, Form.names]) ?_)
  exact .given rfl <| .given rfl <| .given rfl <|
    .givenOption (fun _ => document_text_ne _) (fun _ _ => rfl) <|
    .givenList (fun _ _ => rfl) .done

theorem fitting (edit : Edit) : AllNumbers Number.Fitting edit.toJson := by
  simp only [toJson, allNumbers_object, List.forall_mem_append, forall_mem_given,
    forall_mem_givenList]
  simp

end Edit

namespace Snapshot

theorem reader_toJson (now : Instant) (room : Nat) (snapshot : Snapshot) :
    Snapshot.reader now (room + 1) snapshot.toJson.document = .ok snapshot := by
  simp only [toJson, List.cons_append, List.nil_append, List.append_assoc]
  refine Reader.map_ok _ ((form now).reader_of_writes "struct ReplayFileSnapshot"
    (snapshot.path, snapshot.content, snapshot.digest, snapshot.size, snapshot.present,
      snapshot.capturedAt, ()) (by simp [form, Form.names]) ?_)
  exact .given rfl <| .givenOption (fun _ => document_text_ne _) (fun _ _ => rfl) <|
    .givenOption (fun _ => document_text_ne _) (fun digest _ => digest.reader_toJson _) <|
    .given (Reader.word64_word _ _ _) <| .given rfl <|
    .given (snapshot.capturedAt.reader_toJson _) .done

theorem fitting (snapshot : Snapshot) : AllNumbers Number.Fitting snapshot.toJson := by
  simp only [toJson, allNumbers_object, List.forall_mem_append, forall_mem_given]
  simp [Digest.toJson, Instant.toJson]

end Snapshot

namespace Build

theorem reader_toJson (now : Instant) (room : Nat) (build : Build) :
    Build.reader now (room + 3) build.toJson.document = .ok build := by
  refine Reader.map_ok _ ((form now).reader_of_writes "struct BuildInfo"
    (build.path, build.tokens, build.finished, build.removed, build.succeeded, build.error,
      build.before, build.after, build.edit, ()) (by simp [form, Form.names]) ?_)
  exact .given rfl <| .given (Reader.word64_word _ _ _) <| .given rfl <| .given rfl <| .given rfl <|
    .optional (fun _ => document_text_ne _) (fun _ _ => rfl) <|
    .optional (fun _ => document_object_ne _) (fun snapshot _ => snapshot.reader_toJson now _) <|
    .optional (fun _ => document_object_ne _) (fun snapshot _ => snapshot.reader_toJson now _) <|
    .optional (fun _ => document_object_ne _) (fun edit _ => edit.reader_toJson room) .done

theorem fitting (build : Build) : AllNumbers Number.Fitting build.toJson := by
  simp [toJson, Edit.fitting, Snapshot.fitting]

end Build

end Playback
