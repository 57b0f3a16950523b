/-
This file compares the replay of a journal with that of the journal that is read from its text.
-/

import Playback.Proofs.Json.Floats
import Playback.Proofs.Payload
import Playback.Proofs.Resaving

namespace Playback

open Json

namespace Json

mutual

/-- The values differ at most in their floats. A float may become another number, or null. -/
inductive Near : Json → Json → Prop where
  | same (value : Json) : Near value value
  | float {number : Number} {other : Json} (inexact : ∀ value, number ≠ .integer value)
      (told : other = .null ∨ ∃ same, other = .number same) : Near (.number number) other
  | list {items others : List Json} (each : NearItems items others) :
      Near (.list items) (.list others)
  | object {members others : List (String × Json)} (each : NearMembers members others) :
      Near (.object members) (.object others)

inductive NearItems : List Json → List Json → Prop where
  | nil : NearItems [] []
  | cons {item other : Json} {items others : List Json} (first : Near item other)
      (rest : NearItems items others) : NearItems (item :: items) (other :: others)

inductive NearMembers : List (String × Json) → List (String × Json) → Prop where
  | nil : NearMembers [] []
  | cons {key : String} {value other : Json} {members others : List (String × Json)}
      (first : Near value other) (rest : NearMembers members others) :
      NearMembers ((key, value) :: members) ((key, other) :: others)

end

theorem Number.near_reread {number : Number} (lawful : number.Lawful) :
    Near (.number number) number.reread := by
  have told : number.reread = .null ∨ ∃ same, number.reread = .number same := by
    rw [Number.reread]
    split
    · exact .inr ⟨_, rfl⟩
    · exact .inl rfl
    · exact .inl rfl
  cases number with
  | integer value =>
      have scanned : Numeral.scan (Number.integer value).text.toList =
          (.exact (.integer value), []) := Numeral.scan_integer lawful
      rw [Number.reread_of_scan scanned]
      exact .same _
  | double value | single value =>
      refine .float (fun integer same => ?_) told
      contradiction

mutual

/-- Integers of 64 bits are read back. -/
theorem near_reread (value : Json) (lawful : ∀ number ∈ value.numbers, number.Lawful) :
    Near value value.reread := by
  match value with
  | .null | .boolean _ | .text _ => exact .same _
  | .number value => exact Number.near_reread (lawful value List.mem_cons_self)
  | .list items => exact .list (near_rereadItems items lawful)
  | .object members => exact .object (near_rereadMembers members lawful)

theorem near_rereadItems (items : List Json)
    (lawful : ∀ number ∈ numbersOfItems items, number.Lawful) :
    NearItems items (rereadItems items) := by
  match items with
  | [] => exact .nil
  | item :: rest =>
      obtain ⟨first, others⟩ := List.forall_mem_append.mp lawful
      exact .cons (near_reread item first) (near_rereadItems rest others)

theorem near_rereadMembers (members : List (String × Json))
    (lawful : ∀ number ∈ numbersOfMembers members, number.Lawful) :
    NearMembers members (rereadMembers members) := by
  match members with
  | [] => exact .nil
  | (_, value) :: rest =>
      obtain ⟨first, others⟩ := List.forall_mem_append.mp lawful
      exact .cons (near_reread value first) (near_rereadMembers rest others)

end

end Json

/-- The tables have the same keys, and their values differ at most in floats. -/
def Table.Near (table other : Table Json) : Prop :=
  List.Forall₂ (fun entry same => entry.1 = same.1 ∧ entry.2.Near same.2) table.entries
    other.entries

theorem Table.near_reread {table : Table Json}
    (lawful : ∀ entry ∈ table.entries, AllNumbers Number.Lawful entry.2) :
    table.Near (table.map reread) := by
  refine List.forall₂_map_right_iff.mpr (List.forall₂_same.mpr fun entry member => ?_)
  exact ⟨rfl, Json.near_reread entry.2 (lawful entry member)⟩

namespace StepKind

/-- A kind that is not known does not bear a known name. -/
def Proper : StepKind → Prop
  | .other name => name ∉ known.map StepKind.name
  | _ => True

instance : DecidablePred Proper := fun kind => by
  cases kind with
  | other name => exact inferInstanceAs (Decidable (name ∉ _))
  | _ => exact .isTrue trivial

/-- A proper kind is read back from its name. -/
theorem ofName_name {kind : StepKind} (proper : kind.Proper) : ofName kind.name = kind := by
  cases kind with
  | other name =>
      have none : (known.find? fun kind => kind.name == name) = none := by
        refine List.find?_eq_none.mpr fun kind member same => proper ?_
        exact List.mem_map.mpr ⟨kind, member, beq_iff_eq.mp same⟩
      rw [StepKind.name, ofName, none]
      rfl
  | _ => rfl

end StepKind

/-- A kind that bears a known name is read as the known kind. -/
theorem StepKind.ofName_known {kind : StepKind} (member : kind ∈ known) :
    ofName kind.name = kind := by
  revert kind
  decide

/-- The requests differ at most in their sampling parameters. -/
def Request.Resembles (request other : Request) : Prop :=
  other = { request with temperature := other.temperature, topShare := other.topShare }

/-- The steps differ at most in floats, and in kinds that are not known but bear known names. -/
structure Step.Resembles (step other : Step) : Prop where
  kept : step.kind.Proper → other.kind = step.kind
  known : ∀ kind ∈ StepKind.known, step.kind.name = kind.name → other.kind = kind
  request : Option.Rel Request.Resembles step.request other.request
  metadata : step.metadata.Near other.metadata
  rest : other =
    { step with kind := other.kind, request := other.request, metadata := other.metadata }

theorem Step.resembles_restored {step : Step} (lawful : AllNumbers Number.Lawful step.toJson) :
    step.Resembles step.restored where
  kept proper := StepKind.ofName_name proper
  known kind member same := by
    change StepKind.ofName step.kind.name = kind
    rw [same, StepKind.ofName_known member]
  request := by
    change Option.Rel _ step.request (step.request.map Request.restored)
    cases step.request with
    | none => exact .none
    | some request => exact .some rfl
  metadata := Table.near_reread (Step.forall_parts lawful).2
  rest := rfl

/-- The journals have steps that resemble each other, and differ otherwise at most in floats. -/
structure Journal.Resembles (journal other : Journal) : Prop where
  steps : List.Forall₂ Step.Resembles journal.steps other.steps
  metadata : journal.metadata.Near other.metadata
  rest : other = { journal with steps := other.steps, metadata := other.metadata }

/-- The same outcome of the step that is read in the place of its step. -/
def Outcome.restored (outcome : Outcome) : Outcome := { outcome with step := outcome.step.restored }

namespace Step

variable {step other : Step}

/-- The other step is read in the place of a step of a proper kind. -/
structure Restores (step other : Step) : Prop where
  proper : step.kind.Proper
  same : other = step.restored

/-- The kind, the edit and the build of a step are read back. -/
theorem Restores.agrees (restores : step.Restores other) (mode : Mode) :
    step.Agrees mode other := by
  obtain ⟨proper, rfl⟩ := restores
  refine ⟨(StepKind.ofName_name proper).symm, ?_, ?_⟩
  · change Option.Rel _ step.edit step.edit
    cases step.edit with
    | none => exact .none
    | some edit => exact .some ⟨rfl, rfl, fun _ => rfl⟩
  · change Option.Rel _ step.build step.build
    cases step.build with
    | none => exact .none
    | some build => exact .some ⟨rfl, rfl, rfl, rfl⟩

theorem Restores.outcome (restores : step.Restores other) (tracked : Option Snapshot)
    (divergence : Option Divergence) :
    other.outcome ⟨other.shownEdits, tracked, divergence⟩ =
      (step.outcome ⟨step.shownEdits, tracked, divergence⟩).restored := by
  obtain ⟨proper, rfl⟩ := restores
  have kind : step.restored.kind = step.kind := StepKind.ofName_name proper
  have shown : step.restored.shownEdits = step.shownEdits := by
    rw [shownEdits, shownEdits, kind]
    rfl
  rw [shown, outcome, outcome, kind]
  cases step.kind <;> rfl

end Step

theorem Outcome.Echoes.restored {outcome other : Outcome}
    (echoes : outcome.Echoes Step.Restores other) : other = outcome.restored := by
  cases echoes with
  | skipped restores => rw [restores.same]; rfl
  | replayed restores tracked divergence => exact restores.outcome tracked divergence

section Saving

variable {journal : Journal} (lawful : AllNumbers Number.Lawful journal.toJson)
include lawful

theorem Journal.clear_of_lawful : AllNumbers Number.Clear journal.toJson :=
  fun number member => (lawful number member).clear

/-- The journal that is read in the place of a journal resembles it. -/
theorem Journal.resembles_restored : journal.Resembles journal.restored := by
  obtain ⟨steps, metadata⟩ := Journal.forall_parts lawful
  refine ⟨?_, Table.near_reread metadata, rfl⟩
  refine List.forall₂_map_right_iff.mpr (List.forall₂_same.mpr fun step member => ?_)
  exact Step.resembles_restored (steps step member)

/-- A journal of lawful numbers is read again from its text, and the check passes again. -/
theorem Journal.load_savedText (regular : journal.Regular) (readable : journal.isReadable = true)
    (later : Instant) :
    Journal.ofText later journal.savedText = .ok journal.restored ∧
      (journal.check = .ok () → Journal.load later journal.savedText = .ok journal.restored) := by
  obtain ⟨_, saved⟩ := ofText_restored regular readable (clear_of_lawful lawful) later
  refine ⟨saved, fun passes => ?_⟩
  rw [load, saved]
  simp only [journal.check_restored, passes]

end Saving

/-- A journal whose metadata can be read again is loaded from its saved text at any time. The journal
that is loaded resembles it, and if no kind bears the name of another one, then it replays through
the same states, with the same faults and stops, and with the same outcomes of the same steps. -/
theorem replays_of_saved (now : Instant) {journal : Journal} (regular : journal.Regular)
    (readable : journal.isReadable = true) (lawful : AllNumbers Number.Lawful journal.toJson) :
    (∀ later, Journal.ofText later journal.savedText = .ok journal.restored ∧
      (journal.check = .ok () → Journal.load later journal.savedText = .ok journal.restored)) ∧
    journal.Resembles journal.restored ∧
    ((∀ step ∈ journal.steps, step.kind.Proper) → ∀ settings operations,
      let player := (Player.start now journal settings).run operations
      let echo := (Player.start now journal.restored settings).run operations
      echo.state = player.state ∧
        ∀ operation, (player.perform operation).1.Alike
          (fun outcome other => other = outcome.restored) (echo.perform operation).1) := by
  refine ⟨Journal.load_savedText lawful regular readable, Journal.resembles_restored lawful,
    fun proper settings operations => ?_⟩
  intro player echo
  have lockstep := Player.Echoes.lockstep fun step other (restores : step.Restores other) =>
    restores.agrees settings.mode
  have steps : List.Forall₂ Step.Restores journal.steps journal.restored.steps := by
    refine List.forall₂_map_right_iff.mpr (List.forall₂_same.mpr fun step member => ?_)
    exact ⟨proper step member, rfl⟩
  have echoes : player.Echoes settings.mode Step.Restores echo :=
    lockstep.run (.start now settings steps fun _ _ => rfl) operations
  have named : echo.state.journalId = player.state.journalId := by
    rw [Player.journalId_run, Player.journalId_run]
    rfl
  refine ⟨?_, fun operation => ?_⟩
  · rw [echoes.state, named]
  · exact (lockstep.perform echoes operation).1.mono fun _ _ same => same.restored

/-- A journal with a divergence, with a kind that is not known, and with a float in its metadata
that is read as its neighbour. -/
def Journal.imprecise : Journal :=
  { Journal.editedTooLate.append (Step.bare .epoch "checkpoint" 3 (.other "checkpoint")) with
    metadata := Table.empty.put "limit" (.number (.double ⟨false, .finite (2 ^ 53 - 2) 2045⟩)) }

/-- The journal that is loaded has another float and meets the same divergence. -/
theorem replays_of_imprecise :
    let player := fun journal : Journal =>
      (Player.start .epoch journal (Settings.ofMode .simulate)).run [.playToEnd]
    Journal.imprecise.restored ≠ .imprecise ∧
      (∀ later, Journal.load later Journal.imprecise.savedText = .ok Journal.imprecise.restored) ∧
      (player Journal.imprecise.restored).state = (player .imprecise).state ∧
      (player .imprecise).state.divergences.map Divergence.index = [1] := by
  intro player
  have numbers : ∀ step ∈ Journal.imprecise.steps, step.number < UInt64.size := by decide +kernel
  have plain : ∀ step ∈ Journal.imprecise.steps, step.metadata.entries = [] := by decide +kernel
  have regular : Journal.imprecise.Regular := by
    refine ⟨fun step member => ⟨numbers step member, ?_⟩, fun entry member => ?_⟩
    · rw [plain step member]
      exact nofun
    · obtain rfl := List.mem_singleton.mp member
      trivial
  have proper : ∀ step ∈ Journal.imprecise.steps, step.kind.Proper := by decide +kernel
  obtain ⟨loads, _, replays⟩ := replays_of_saved .epoch regular (by decide +kernel)
    (by decide +kernel)
  obtain ⟨same, _⟩ := replays proper (Settings.ofMode .simulate) [.playToEnd]
  exact ⟨by decide +kernel, fun later => (loads later).2 (by decide +kernel), same,
    by decide +kernel⟩

/-- A journal of one write. -/
def Journal.writing (kind : StepKind) (metadata : Table Json) : Journal :=
  (Journal.start .epoch "journal").append
    { Step.bare .epoch "write" 0 kind with
      edit := some (.between "a" "" "new")
      metadata := metadata }

/-- If the write is of a kind that is not known, but bears the name of the kind of writes, then the
journal is loaded with a write in its place, and a file is tracked that was not tracked before. If
its metadata seem to hold an embedded text, then the journal is not loaded. -/
theorem not_replays_of_writing :
    let misnamed := Journal.writing (.other "file_write") .empty
    let holding := Journal.writing .fileWrite
      (Table.empty.put "note" (.object [(Reader.holderKey, .text "5"), ("a", natural 1)]))
    let files := fun journal : Journal =>
      ((Player.start .epoch journal (Settings.ofMode .simulate)).run [.playToEnd]).state.files.keys
    misnamed.check = .ok () ∧ AllNumbers Number.Lawful misnamed.toJson ∧
      Journal.load .epoch misnamed.savedText = .ok misnamed.restored ∧
      files misnamed = [] ∧ files misnamed.restored = ["a"] ∧
      holding.check = .ok () ∧ AllNumbers Number.Lawful holding.toJson ∧
      Journal.load .epoch holding.savedText = .error (.unreadableText "trailing comma") := by
  intro misnamed holding files
  have passes : misnamed.check = .ok () := by decide +kernel
  have lawful : AllNumbers Number.Lawful misnamed.toJson := by decide +kernel
  have regular : misnamed.Regular :=
    ⟨fun step member => by obtain rfl := List.mem_singleton.mp member; exact ⟨by decide, nofun⟩,
      nofun⟩
  obtain ⟨_, loads⟩ := Journal.load_savedText lawful regular (by decide +kernel) .epoch
  have held : AllNumbers Number.Lawful holding.toJson := by decide +kernel
  obtain ⟨_, saved⟩ := Journal.ofText_texts (Journal.clear_of_lawful held) .epoch
  have refused : Journal.reader .epoch Reader.greatestDepth holding.toJson.document =
      .error (.flawed .trailingComma) := by
    decide +kernel
  refine ⟨passes, lawful, loads passes, by decide +kernel, by decide +kernel, by decide +kernel,
    held, ?_⟩
  rw [Journal.load, saved, refused]
  rfl

end Playback
