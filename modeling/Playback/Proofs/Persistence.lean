import Playback.Proofs.IndexSet
import Playback.Proofs.Json.Extension
import Playback.Proofs.Records
import Playback.State.Encoding

namespace Playback

open Json

namespace Json.Form

variable {types : List Type} {room : Nat}

/-- Every field that is left out has a value. -/
def FilledBy : {types : List Type} → Form types → Values types → Prop
  | _, .done, _ => True
  | _, .field _ _ omission rest, (default, defaults) =>
      omission = .filled default ∧ FilledBy rest defaults

/-- The fields of the given names have their own values, and the others have defaults. -/
def mixed (names : List String) :
    {types : List Type} → Form types → Values types → Values types → Values types
  | _, .done, _, _ => ()
  | _, .field name _ _ rest, (value, values), (default, defaults) =>
      (if name ∈ names then value else default, mixed names rest values defaults)

/-- Only names of fields count. -/
theorem mixed_congr {form : Form types} {names others : List String} {values defaults : Values types}
    (same : ∀ name ∈ form.names, name ∈ names ↔ name ∈ others) :
    form.mixed names values defaults = form.mixed others values defaults := by
  induction form with
  | done => rfl
  | field name read omission rest inductionHypothesis =>
      obtain ⟨first, rest⟩ := List.forall_mem_cons.mp same
      rw [mixed, mixed, inductionHypothesis rest]
      simp only [first]

/-- Some of the members of a record give their fields the same values as all of them. -/
theorem Writes.sublist {form : Form types} {members kept : List (String × Json)}
    {values defaults : Values types} (writes : Writes room form members values)
    (distinct : form.names.Nodup) (filled : form.FilledBy defaults) (part : kept.Sublist members) :
    Writes room form kept (form.mixed (kept.map Prod.fst) values defaults) := by
  induction writes generalizing kept with
  | done =>
      obtain rfl := List.eq_nil_of_sublist_nil part
      exact .done
  | @given A types name read omission rest json members value values first others
      inductionHypothesis =>
      obtain ⟨new, apart⟩ := List.nodup_cons.mp distinct
      obtain ⟨default, defaults⟩ := defaults
      obtain ⟨rfl, filled⟩ := filled
      cases part with
      | cons _ part =>
          have absent : name ∉ kept.map Prod.fst := by
            rintro member
            obtain ⟨entry, known, rfl⟩ := List.mem_map.mp member
            exact new (others.names entry (part.subset known))
          rw [mixed, if_neg absent]
          exact .omitted (inductionHypothesis apart filled part)
      | @cons_cons kept _ _ part =>
          have same : rest.mixed ((name, json) :: kept |>.map Prod.fst) values defaults =
              rest.mixed (kept.map Prod.fst) values defaults := by
            refine mixed_congr fun other known => ?_
            have different : other ≠ name := fun equal => new (equal ▸ known)
            simp [different]
          rw [mixed, if_pos (by simp), same]
          exact .given first (inductionHypothesis apart filled part)
  | @omitted A types name read rest members value values others inductionHypothesis =>
      obtain ⟨_, distinct⟩ := List.nodup_cons.mp distinct
      obtain ⟨default, defaults⟩ := defaults
      obtain ⟨same, filled⟩ := filled
      obtain rfl := Omission.filled.inj same
      rw [mixed, ite_self]
      exact .omitted (inductionHypothesis distinct filled part)

/-- Some members of a record, in any order, are read like the record with defaults elsewhere. -/
theorem reader_of_subperm (form : Form types) {members others : List (String × Json)}
    (title : String) (values : Values types) {defaults : Values types} (distinct : form.names.Nodup)
    (writes : Writes room form members values) (filled : form.FilledBy defaults)
    (part : others.Subperm members) (whole : (Json.object others).document.Whole) :
    form.reader title (room + 1) (Json.object others).document =
      .ok (form.mixed (others.map Prod.fst) values defaults) := by
  obtain ⟨kept, order, part⟩ := part
  have read := form.reader_of_writes title _ distinct (writes.sublist distinct filled part)
  have grown : Change.Record form.names [] (Json.object kept).document
      (Json.object others).document := by
    have documents := order.symm.map fun member : String × Json =>
      (Quoted.plain member.1, member.2.document)
    rw [Json.document, Json.document, documentsOfMembers_eq, documentsOfMembers_eq]
    refine Change.Record.of_perm ?_ (List.forall_mem_nil _) (by rwa [List.append_nil])
    rintro _ member
    obtain ⟨_, _, rfl⟩ := List.mem_map.mp member
    exact ⟨_, rfl⟩
  rw [form.kept_reader distinct (List.forall_mem_nil _) title grown whole read]
  refine congrArg Except.ok (mixed_congr fun name _ => ?_)
  exact (order.map Prod.fst).mem_iff

end Json.Form

/-- The text of a number of 64 bits is one token. -/
theorem Json.allNumbers_clear_natural {value : Nat} (small : value < UInt64.size) :
    AllNumbers Number.Clear (natural value) :=
  allNumbers_number.mpr (.inr ⟨_, Numeral.scan_integer (fits_of_lt small)⟩)

@[simp] theorem Json.allNumbers_clear_word (value : UInt64) :
    AllNumbers Number.Clear (word value) :=
  allNumbers_clear_natural value.toNat_lt_size

theorem Mode.reader_toJson (room : Nat) (mode : Mode) :
    Mode.reader room mode.toJson.document = .ok mode := by
  cases mode <;> rfl

@[simp] theorem IndexSet.clear (set : IndexSet) : AllNumbers Number.Clear set.toJson := by
  simp [toJson]

namespace Settings

/-- The settings of the given names, with standard values in the place of the others. -/
def keeping (names : List String) (settings : Settings) : Settings where
  mode := if "mode" ∈ names then settings.mode else standard.mode
  first := if "start_from_step" ∈ names then settings.first else standard.first
  last := if "end_at_step" ∈ names then settings.last else standard.last
  skips := if "skip_steps" ∈ names then settings.skips else standard.skips
  pausesBefore := if "pause_before_steps" ∈ names then settings.pausesBefore else standard.pausesBefore
  pausesAfter := if "pause_after_steps" ∈ names then settings.pausesAfter else standard.pausesAfter
  autoAdvance := if "auto_advance" ∈ names then settings.autoAdvance else standard.autoAdvance
  delay := if "step_delay_ms" ∈ names then settings.delay else standard.delay
  stopsAtDivergence :=
    if "stop_on_divergence" ∈ names then settings.stopsAtDivergence else standard.stopsAtDivergence
  verifies := if "validate_checksums" ∈ names then settings.verifies else standard.verifies
  limit := if "truncate_limit" ∈ names then settings.limit else standard.limit

theorem clear (settings : Settings) : AllNumbers Number.Clear settings.toJson := by
  simp [toJson, Mode.toJson]

theorem keeping_names {settings : Settings} {members : List (String × Json)}
    (all : settings.toJson = .object members) :
    settings.keeping (members.map Prod.fst) = settings := by
  obtain rfl := Json.object.inj all
  simp [keeping]

/-- Any part of the settings is read, in any order. -/
theorem reader_of_subperm {settings : Settings} {members others : List (String × Json)} (room : Nat)
    (all : settings.toJson = .object members) (part : others.Subperm members)
    (whole : (Json.object others).document.Whole) :
    Settings.reader (room + 2) (Json.object others).document =
      .ok (settings.keeping (others.map Prod.fst)) := by
  have present (value : UInt64) : (word value).document ≠ .null := by
    rw [word, document_natural value.toNat_lt_size]
    exact nofun
  obtain rfl := Json.object.inj all
  have filled : form.FilledBy (standard.mode, standard.first, standard.last, standard.skips,
      standard.pausesBefore, standard.pausesAfter, standard.autoAdvance, standard.delay,
      standard.stopsAtDivergence, standard.verifies, standard.limit, ()) :=
    ⟨rfl, rfl, rfl, rfl, rfl, rfl, rfl, rfl, rfl, rfl, rfl, trivial⟩
  refine Reader.map_ok _ (form.reader_of_subperm "struct ReplayOptions"
    (settings.mode, settings.first, settings.last, settings.skips, settings.pausesBefore,
      settings.pausesAfter, settings.autoAdvance, settings.delay, settings.stopsAtDivergence,
      settings.verifies, settings.limit, ()) (by simp [form, Form.names]) ?_ filled part whole)
  exact .given (settings.mode.reader_toJson _) <| .given (Reader.word64_word _ _ _) <|
    .optional present (fun value _ => Reader.word64_word _ _ value) <|
    .given (settings.skips.reader_toJson _) <| .given (settings.pausesBefore.reader_toJson _) <|
    .given (settings.pausesAfter.reader_toJson _) <| .given rfl <|
    .given (Reader.word64_word _ _ _) <| .given rfl <| .given rfl <|
    .given (Reader.word64_word _ _ _) .done

end Settings

namespace Divergence

theorem reader_toJson (room : Nat) {divergence : Divergence}
    (small : divergence.index < UInt64.size) :
    Divergence.reader (room + 1) divergence.toJson.document = .ok divergence := by
  have kind : Kind.reader room divergence.kind.toJson.document = .ok divergence.kind := by
    cases divergence.kind
    rfl
  refine Reader.map_ok _ (form.reader_of_writes "struct ReplayDivergence"
    (divergence.index, divergence.kind, divergence.description, divergence.expected,
      divergence.actual, divergence.detectedAt, ()) (by simp [form, Form.names]) ?_)
  exact .given (Reader.natural_natural _ _ small) <| .given kind <| .given rfl <| .given rfl <|
    .given rfl <| .given (divergence.detectedAt.reader_toJson _) .done

theorem clear {divergence : Divergence} (small : divergence.index < UInt64.size) :
    AllNumbers Number.Clear divergence.toJson := by
  simp [toJson, Kind.toJson, Instant.toJson, allNumbers_clear_natural small]

end Divergence

theorem Snapshot.clear (snapshot : Snapshot) : AllNumbers Number.Clear snapshot.toJson := by
  simp only [toJson, allNumbers_object, List.forall_mem_append, forall_mem_given]
  simp [Digest.toJson, Instant.toJson]

namespace State

/-- The positions in the state have 64 bits. -/
structure Sized (state : State) : Prop where
  cursor : state.cursor < UInt64.size
  divergences : ∀ divergence ∈ state.divergences, divergence.index < UInt64.size
  skipped : ∀ index ∈ state.skipped, index < UInt64.size

variable {state : State}

theorem reader_toJson (now : Instant) (room : Nat) (sized : state.Sized) :
    State.reader now (room + 3) state.toJson.document = .ok state := by
  refine Reader.map_ok _ ((form now).reader_of_writes "struct ReplayExecutionState"
    (state.journalId, state.mode, state.cursor, state.paused, state.autoAdvance, state.delay,
      state.files, state.divergences, state.applied, state.skipped, ())
    (by simp [form, Form.names]) ?_)
  exact .given rfl <| .given (state.mode.reader_toJson _) <|
    .given (Reader.natural_natural _ _ sized.cursor) <| .given rfl <| .given rfl <|
    .given (Reader.word64_word _ _ _) <|
    .given (Table.reader_toJson fun entry _ => entry.2.reader_toJson now room) <|
    .given (Reader.list_listOf fun divergence known =>
      divergence.reader_toJson room (sized.divergences divergence known)) <|
    .given (Reader.list_listOf fun _ _ => rfl) <|
    .given (Reader.list_listOf fun index known =>
      Reader.natural_natural _ _ (sized.skipped index known)) .done

theorem clear (sized : state.Sized) : AllNumbers Number.Clear state.toJson := by
  have divergences : ∀ divergence ∈ state.divergences, AllNumbers Number.Clear divergence.toJson :=
    fun divergence known => divergence.clear (sized.divergences divergence known)
  have skipped : ∀ index ∈ state.skipped, AllNumbers Number.Clear (natural index) :=
    fun index known => allNumbers_clear_natural (sized.skipped index known)
  simpa [toJson, Mode.toJson, Snapshot.clear, allNumbers_clear_natural sized.cursor] using
    ⟨divergences, skipped⟩

end State

/-- Settings are read back from their texts. From any of their members, in any order, these settings
are read with standard values in the place of the others. A state is read back from its texts too. -/
theorem settings_and_states_of_texts :
    (∀ settings : Settings,
      Settings.ofText settings.toJson.compact = .ok settings ∧
        Settings.ofText settings.toJson.pretty = .ok settings) ∧
    (∀ (settings : Settings) members others text, settings.toJson = .object members →
      others.Subperm members → (Json.object others).document.Spells text →
        Settings.ofText text = .ok (settings.keeping (others.map Prod.fst))) ∧
    ∀ (now : Instant) (state : State), state.Sized →
      (State.reader now).run state.toJson.compact = .ok state ∧
        (State.reader now).run state.toJson.pretty = .ok state := by
  have part (settings : Settings) (members others : List (String × Json)) (text : String)
      (all : settings.toJson = .object members) (part : others.Subperm members)
      (spells : (Json.object others).document.Spells text) :
      Settings.ofText text = .ok (settings.keeping (others.map Prod.fst)) := by
    refine mapError_eq_ok_iff.mpr ?_
    rw [Reader.run_of_spells spells]
    exact Settings.reader_of_subperm _ all part spells.1
  refine ⟨fun settings => ?_, part, fun now state sized => ?_⟩
  · obtain ⟨members, all⟩ : ∃ members, settings.toJson = .object members := ⟨_, rfl⟩
    have whole (text : String) (spells : settings.toJson.document.Spells text) :
        Settings.ofText text = .ok settings := by
      have read := part settings members members text all (List.Subperm.refl _) (all ▸ spells)
      rwa [Settings.keeping_names all] at read
    obtain ⟨compact, pretty⟩ := Document.spells_texts settings.clear
    exact ⟨whole _ compact, whole _ pretty⟩
  · obtain ⟨compact, pretty⟩ := Document.spells_texts (State.clear sized)
    rw [Reader.run_of_spells compact, Reader.run_of_spells pretty]
    exact ⟨State.reader_toJson now _ sized, State.reader_toJson now _ sized⟩

/-- Settings whose mode and skips stand in a text, in the other order. -/
def Settings.unchecked : Settings :=
  { ofMode .apply with skips := .ofList [18446744073709551615], verifies := false }

/-- The text has only two of the settings. -/
def Settings.uncheckedText : String :=
  "\x7b \"skip_steps\": [18446744073709551615], \"mode\": \"apply\" \x7d"

/-- A state with a file whose path has to be escaped. -/
def State.escaping : State :=
  { fresh "journal" .unchecked with
    cursor := 18446744073709551615
    files := .ofList [("b\n\"", .missing .epoch "b\n\""), ("a", .ofContent .epoch "a" "\\\t")]
    skipped := [7] }

/-- The checksums are checked again, as their setting is left out of the text. -/
theorem settings_of_unchecked :
    Settings.ofText Settings.uncheckedText = .ok { Settings.unchecked with verifies := true } ∧
      (State.reader .epoch).run State.escaping.toJson.compact = .ok .escaping := by
  obtain ⟨_, part, states⟩ := settings_and_states_of_texts
  have sized : State.escaping.Sized := ⟨by decide +kernel, by decide +kernel, by decide +kernel⟩
  refine ⟨?_, (states .epoch .escaping sized).1⟩
  let mode : String × Json := ("mode", Settings.unchecked.mode.toJson)
  let skips : String × Json := ("skip_steps", Settings.unchecked.skips.toJson)
  have whole : (Json.object [skips, mode]).document.Whole :=
    Document.whole_document _ (allNumbers_object.mpr (by simp [skips, mode, Mode.toJson]))
  have read := part .unchecked _ [skips, mode] Settings.uncheckedText rfl
    ⟨[mode, skips], .swap .., .cons_cons _ <| .cons _ <| .cons _ <| .cons_cons _ <|
      List.nil_sublist _⟩
    (Document.spells_of_scan whole (by decide +kernel))
  exact read.trans (congrArg Except.ok (by decide +kernel))

end Playback
