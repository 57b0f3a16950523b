import Playback.Proofs.Passage
import Playback.Proofs.Rejection

namespace Playback

/-- The positions of the steps that executions replayed, without those that were skipped. -/
def Execution.performed (past : List Execution) : List Nat :=
  (past.filter fun execution => execution.outcome.status ≠ .skipped).map index

theorem Execution.performed_append (past more : List Execution) :
    performed (past ++ more) = performed past ++ performed more := by
  simp [performed]

/-- What happens to a player that its driver may have to know of. -/
inductive Event where
  | arrived (index : Nat)
  | executed (index : Nat)
  | paused
  | resumed
deriving DecidableEq

namespace Event

/-- The events that tell the driver to pause. -/
def Pauses (settings : Settings) : Event → Prop
  | .arrived index => settings.pausesBefore.holds index = true
  | .executed index => settings.pausesAfter.holds index = true
  | .paused => True
  | .resumed => False

/-- Some event of a log tells the driver to pause, and the player is not resumed after it. -/
def Pending (settings : Settings) (log : List Event) : Prop :=
  ∃ earlier event later, log = earlier ++ event :: later ∧ event.Pauses settings ∧
    .resumed ∉ later

/-- The position at which the cursor arrives. -/
def arrival? : Event → Option Nat
  | .arrived index => some index
  | .executed _ | .paused | .resumed => none

/-- The position of the step that is executed. -/
def execution? : Event → Option Nat
  | .executed index => some index
  | .arrived _ | .paused | .resumed => none

/-- The cursor moves on from a step that is skipped or rejected, but the step is not executed. -/
def ofResult (index : Nat) : Except PlayFault Outcome → List Event
  | .ok outcome =>
      match outcome.status with
      | .skipped => [.arrived (index + 1)]
      | .completed | .failed => [.arrived (index + 1), .executed index]
  | .error (.rejected _ _) => [.arrived (index + 1)]
  | .error _ => []

/-- Outcomes belong to consecutive steps, and a fault after them to the next one. -/
def ofOutcomes (index : Nat) : List Outcome → Option PlayFault → List Event
  | [], none => []
  | [], some fault => ofResult index (.error fault)
  | outcome :: rest, fault? => ofResult index (.ok outcome) ++ ofOutcomes (index + 1) rest fault?

theorem executions_ofResult (index : Nat) (result : Except PlayFault Outcome) :
    (ofResult index result).filterMap execution? =
      Execution.performed (Execution.ofResult index result) := by
  cases result with
  | error fault => cases fault <;> rfl
  | ok outcome =>
      cases status : outcome.status <;>
        simp [ofResult, status, execution?, Execution.ofResult, Execution.performed,
          List.filterMap_cons]

theorem executions_ofOutcomes (index : Nat) (outcomes : List Outcome) (fault? : Option PlayFault) :
    (ofOutcomes index outcomes fault?).filterMap execution? =
      Execution.performed (Execution.ofOutcomes index outcomes) := by
  induction outcomes generalizing index with
  | nil =>
      cases fault? with
      | none => rfl
      | some fault => exact executions_ofResult index (.error fault)
  | cons outcome rest inductionHypothesis =>
      rw [ofOutcomes, List.filterMap_append, executions_ofResult, inductionHypothesis,
        ← Execution.performed_append]
      rfl

variable {settings : Settings} {log : List Event} {event : Event}

theorem not_pending_nil : ¬ Pending settings [] := by
  rintro ⟨earlier, event, later, parts, _⟩
  simp at parts

/-- A pause lasts until the player is resumed. -/
theorem pending_concat :
    Pending settings (log ++ [event]) ↔
      event ≠ .resumed ∧ (Pending settings log ∨ event.Pauses settings) := by
  constructor
  · rintro ⟨earlier, cause, later, parts, pauses, since⟩
    -- Either nothing came after the cause, or the last event did.
    induction later using List.reverseRecOn with
    | nil =>
        obtain ⟨rfl, same⟩ := List.append_inj' parts rfl
        obtain rfl := List.singleton_inj.mp same
        exact ⟨fun resumed => by simp [resumed, Pauses] at pauses, .inr pauses⟩
    | append_singleton later last =>
        rw [← List.cons_append, ← List.append_assoc] at parts
        obtain ⟨rfl, same⟩ := List.append_inj' parts rfl
        obtain rfl := List.singleton_inj.mp same
        rw [List.mem_append, not_or, List.mem_singleton] at since
        exact ⟨Ne.symm since.2, .inl ⟨earlier, cause, later, rfl, pauses, since.1⟩⟩
  · rintro ⟨kept, ⟨earlier, cause, later, rfl, pauses, since⟩ | pauses⟩
    · exact ⟨earlier, cause, later ++ [event], by simp, pauses, by simp [since, kept.symm]⟩
    · exact ⟨log, event, [], rfl, pauses, List.not_mem_nil⟩

end Event

/-- The events of a passage, when the cursor stood at the index. -/
def Passage.events (index : Nat) (passage : Passage) : List Event :=
  Event.ofOutcomes index passage.outcomes passage.fault?

namespace Player

/-- The events of an operation, as far as what is returned tells. -/
def events (player : Player) : Operation → List Event
  | .next => Event.ofResult player.state.cursor player.next.1
  | .playThrough last => (player.playThrough last).1.events player.state.cursor
  | .playToEnd => player.playToEnd.1.events player.state.cursor
  | .jump index =>
      match (player.jump index).1 with
      | .ok _ => [.arrived index]
      | .error _ => []
  | .pause => [.paused]
  | .resume => [.resumed]

theorem executions_of_events (player : Player) (operation : Operation) :
    (player.events operation).filterMap Event.execution? =
      Execution.performed ((player.perform operation).1.executions player.state.cursor) := by
  cases operation with
  | next => exact Event.executions_ofResult _ _
  | playThrough last => exact Event.executions_ofOutcomes _ _ _
  | playToEnd => exact Event.executions_ofOutcomes _ _ _
  | jump index =>
      rw [events]
      split <;> rfl
  | pause | resume => rfl

/-- The log of a sequence of operations. -/
def log (player : Player) : List Operation → List Event
  | [] => []
  | operation :: rest => player.events operation ++ (player.perform operation).2.log rest

/-- The log holds the executions of the operations, but for the skipped ones. -/
theorem executions_of_log (player : Player) (operations : List Operation) :
    (player.log operations).filterMap Event.execution? =
      Execution.performed (player.executions operations) := by
  induction operations generalizing player with
  | nil => rfl
  | cons operation rest inductionHypothesis =>
      rw [log, executions, List.filterMap_append, Execution.performed_append,
        inductionHypothesis, executions_of_events]

/-- A log tells of a player whether it is paused and where its cursor stands. -/
structure Logged (player : Player) (log : List Event) : Prop where
  paused : player.state.paused = true ↔ Event.Pending player.settings log
  cursor : (log.filterMap Event.arrival?).getLast? = some player.state.cursor

end Player

namespace Player.Logged

variable {player after : Player} {log : List Event}

theorem congr (logged : player.Logged log) {state : State}
    (paused : state.paused = player.state.paused) (cursor : state.cursor = player.state.cursor) :
    (player.withState state).Logged log :=
  ⟨(paused ▸ logged.paused : state.paused = true ↔ _), cursor ▸ logged.cursor⟩

theorem moveTo (logged : player.Logged log) (index : Nat) :
    (player.withState (player.state.moveTo player.settings index)).Logged
      (log ++ [.arrived index]) where
  paused := by
    rw [Event.pending_concat]
    simp [withState, State.moveTo, Event.Pauses, logged.paused]
  cursor := by simp [withState, State.moveTo, Event.arrival?]

/-- A step was executed after which the driver may have to pause. -/
theorem pauseIf (logged : player.Logged log) (index : Nat) :
    (player.withState (player.state.pauseIf (player.settings.pausesAfter.holds index))).Logged
      (log ++ [.executed index]) where
  paused := by
    rw [Event.pending_concat]
    simp [withState, State.pauseIf, Event.Pauses, logged.paused]
  cursor := by simpa [withState, State.pauseIf, Event.arrival?] using logged.cursor

theorem pause (logged : player.Logged log) : player.pause.Logged (log ++ [.paused]) where
  paused := by
    rw [Event.pending_concat]
    simp [Player.pause, withState, Event.Pauses]
  cursor := by simpa [Player.pause, withState, Event.arrival?] using logged.cursor

theorem resume (logged : player.Logged log) : player.resume.Logged (log ++ [.resumed]) where
  paused := by
    rw [Event.pending_concat]
    simp [Player.resume, withState]
  cursor := by simpa [Player.resume, withState, Event.arrival?] using logged.cursor

/-- A turn adds its events to the log. -/
theorem turn (logged : player.Logged log) {result : Except PlayFault Outcome}
    (turn : Turn player result after) :
    after.Logged (log ++ Event.ofResult player.state.cursor result) := by
  cases turn with
  | exhausted finished => simpa [Event.ofResult] using logged
  | skipped step found skip =>
      have noted : (player.withState (player.state.noteSkip player.state.cursor)).Logged log :=
        logged.congr rfl rfl
      exact noted.moveTo (player.state.cursor + 1)
  | rejected step found kept rejection refused => exact logged.moveTo (player.state.cursor + 1)
  | replayed step found kept accepted =>
      have absorbed : (player.withState
          (player.state.absorb player.settings (step.intended player.scene))).Logged log :=
        logged.congr rfl rfl
      have moved := (absorbed.moveTo (player.state.cursor + 1)).pauseIf player.state.cursor
      rw [List.append_assoc] at moved
      have executed : Event.ofResult player.state.cursor
          (.ok (step.outcome (step.intended player.scene))) =
            [.arrived (player.state.cursor + 1), .executed player.state.cursor] := by
        rw [Event.ofResult]
        cases status : (step.outcome (step.intended player.scene)).status with
        | skipped => exact absurd status (step.outcome_status_ne_skipped _)
        | completed | failed => rfl
      rw [executed]
      exact moved

/-- A passage adds the events of its turns. -/
theorem passes (logged : player.Logged log) {last : Nat} {passage : Passage}
    (passes : Passes last player passage after) :
    after.Logged (log ++ passage.events player.state.cursor) := by
  induction passes generalizing log with
  | arrived ended =>
      simpa [Passage.events, Event.ofOutcomes, Passage.fault?] using logged
  | failed due turn => exact logged.turn turn
  | diverged due turn met stops =>
      simpa [Passage.events, Event.ofOutcomes, Passage.fault?] using logged.turn turn
  | onward due turn goes passes inductionHypothesis =>
      have later := inductionHypothesis (logged.turn turn)
      rw [turn.cursor_of_ok, List.append_assoc] at later
      exact later

/-- Every operation adds its events. -/
theorem perform (logged : player.Logged log) (operation : Operation) :
    (player.perform operation).2.Logged (log ++ player.events operation) := by
  cases operation with
  | next => exact logged.turn player.next_turn
  | playThrough last => exact logged.passes (player.passes_playThrough last)
  | playToEnd => exact logged.passes (player.passes_playThrough _)
  | jump index =>
      change (player.jump index).2.Logged _
      rw [events, jump]
      split
      · exact logged.moveTo index
      · simpa using logged
  | pause => exact logged.pause
  | resume => exact logged.resume

theorem run (logged : player.Logged log) (operations : List Operation) :
    (player.run operations).Logged (log ++ player.log operations) := by
  induction operations generalizing player log with
  | nil => simpa [Player.run, Player.log] using logged
  | cons operation rest inductionHypothesis =>
      have later := inductionHypothesis (logged.perform operation)
      rw [List.append_assoc] at later
      exact later

end Player.Logged

/-- The cursor of a fresh player arrives where it starts. -/
theorem Player.logged_start (now : Instant) (journal : Journal) (settings : Settings) :
    (Player.start now journal settings).Logged
      [.arrived (min settings.first.toNat journal.length)] where
  paused := by
    rw [← List.nil_append [_], Event.pending_concat]
    simp [start, State.fresh, State.moveTo, Event.not_pending_nil, Event.Pauses]
  cursor := rfl

theorem Turn.stays_of_exhausted {player after : Player} {length : Nat}
    (turn : Turn player (.error (.exhausted length)) after) : after = player := by
  cases turn
  rfl

/-- In every state of a run the player is paused exactly if, since it was last resumed or else since
its start, it was told to pause, or its cursor arrived before a step to pause at, or it executed a step
to pause after. A jump that fails and a turn at the end of the journal leave the player as it is. -/
theorem pauses_of_run (now : Instant) (journal : Journal) (settings : Settings)
    (operations : List Operation) :
    let start := Player.start now journal settings
    let player := start.run operations
    let log := .arrived (min settings.first.toNat journal.length) :: start.log operations
    (player.state.paused = true ↔
      ∃ earlier event later, log = earlier ++ event :: later ∧ event.Pauses settings ∧
        .resumed ∉ later) ∧
      (log.filterMap Event.arrival?).getLast? = some player.state.cursor ∧
      log.filterMap Event.execution? = Execution.performed (start.executions operations) ∧
      (∀ index fault, (player.jump index).1 = .error fault → (player.jump index).2 = player) ∧
      ∀ length, player.next.1 = .error (.exhausted length) → player.next.2 = player := by
  intro start player log
  have logged : player.Logged log := (Player.logged_start now journal settings).run operations
  have history : History start _ player := start.history_run operations
  obtain ⟨_, following, _⟩ := history.fixed
  have paused := logged.paused
  rw [following] at paused
  refine ⟨paused, logged.cursor, start.executions_of_log operations,
    fun index fault failed => ?_, fun length exhausted => ?_⟩
  · have outside := Player.jump_error_iff.mp ⟨fault, failed⟩
    rw [Player.jump_of_length_le outside]
  · have turn := player.next_turn
    rw [exhausted] at turn
    exact turn.stays_of_exhausted

/-- A replay that was paused and resumed is paused again by a jump, and a jump out of the journal does
not matter after that. -/
theorem pauses_of_editedTooLate :
    let settings := ((Settings.ofMode .simulate).pauseBefore 1).pauseAfter 2
    let start := Player.start .epoch .editedTooLate settings
    let operations := [.playToEnd, .resume, .jump 1, .jump 7]
    start.log operations =
        [.arrived 1, .executed 0, .arrived 2, .executed 1, .arrived 3, .executed 2] ++
          [.resumed, .arrived 1] ∧
      (start.run [.playToEnd]).state.paused = true ∧
      (start.run [.playToEnd, .resume]).state.paused = false ∧
      (start.run operations).state.paused = true ∧
      ((start.run operations).jump 7).2 = start.run operations := by
  intro settings start operations
  have log : start.log operations =
      [.arrived 1, .executed 0, .arrived 2, .executed 1, .arrived 3, .executed 2] ++
        [.resumed, .arrived 1] := by
    decide +kernel
  obtain ⟨paused, _, _, stays, _⟩ := pauses_of_run .epoch .editedTooLate settings operations
  refine ⟨log, by decide +kernel, by decide +kernel, paused.mpr ?_, stays 7 _ rfl⟩
  exact ⟨.arrived 0 :: (start.log operations).dropLast, .arrived 1, [], by rw [log]; rfl, rfl,
    nofun⟩

end Playback
