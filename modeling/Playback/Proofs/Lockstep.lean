/-
This file carries a relation between two players from their turns to their runs.
-/

import Mathlib.Data.List.Forall2
import Playback.Proofs.History

namespace Playback

variable {alike : Outcome → Outcome → Prop}

/-- Passages with as many outcomes, each like the other one at its place, and the same end. -/
structure Passage.Alike (alike : Outcome → Outcome → Prop) (passage other : Passage) : Prop where
  outcomes : List.Forall₂ alike passage.outcomes other.outcomes
  stop : passage.stop = other.stop

/-- Two operations hand back the same faults and outcomes that are alike. -/
inductive Returned.Alike (alike : Outcome → Outcome → Prop) : Returned → Returned → Prop where
  | fault (fault : PlayFault) : Alike alike (.outcome (.error fault)) (.outcome (.error fault))
  | outcome {outcome other : Outcome} (same : alike outcome other) :
      Alike alike (.outcome (.ok outcome)) (.outcome (.ok other))
  | passage {passage other : Passage} (same : passage.Alike alike other) :
      Alike alike (.passage passage) (.passage other)
  | moved (result : Except PlayFault Unit) : Alike alike (.moved result) (.moved result)
  | nothing : Alike alike .nothing .nothing

/-- Results that look the same in one view are alike in it. -/
theorem Returned.alike_of_map {view : Outcome → Outcome} {result other : Except PlayFault Outcome}
    (same : result.map view = other.map view) :
    Returned.Alike (fun outcome another => view outcome = view another)
      (.outcome result) (.outcome other) := by
  rcases result with fault | outcome <;> rcases other with fault' | another
  · obtain rfl : fault = fault' := Except.error.inj same
    exact .fault fault
  · contradiction
  · contradiction
  · exact .outcome (Except.ok.inj same)

/-- A relation keeps players in lockstep if it holds of players at the same place only, and outlasts
their turns, jumps and pauses. -/
structure Lockstep (alike : Outcome → Outcome → Prop) (related : Player → Player → Prop) :
    Prop where
  cursor : ∀ {player other}, related player other → player.state.cursor = other.state.cursor
  length : ∀ {player other}, related player other → player.journal.length = other.journal.length
  last : ∀ {player other}, related player other → player.settings.last = other.settings.last
  stops : ∀ {player other outcome another}, related player other → alike outcome another →
    (outcome.hasDivergence && player.settings.stopsAtDivergence) =
      (another.hasDivergence && other.settings.stopsAtDivergence)
  next : ∀ {player other}, related player other →
    Returned.Alike alike (.outcome player.next.1) (.outcome other.next.1) ∧
      related player.next.2 other.next.2
  moveTo : ∀ {player other}, related player other → ∀ index,
    related (player.withState (player.state.moveTo player.settings index))
      (other.withState (other.state.moveTo other.settings index))
  pause : ∀ {player other}, related player other → related player.pause other.pause
  resume : ∀ {player other}, related player other → related player.resume other.resume

namespace Lockstep

variable {related : Player → Player → Prop} {player other : Player}

/-- Passages of as many steps end at the same step, because a divergence ends both or none. -/
theorem play (lockstep : Lockstep alike related) (together : related player other) (count : Nat) :
    (Player.play count player).1.Alike alike (Player.play count other).1 ∧
      related (Player.play count player).2 (Player.play count other).2 := by
  induction count generalizing player other with
  | zero => exact ⟨⟨.nil, rfl⟩, together⟩
  | succ count inductionHypothesis =>
      obtain ⟨turns, later⟩ := lockstep.next together
      rw [Player.play, Player.play]
      generalize player.next = taken at turns later ⊢
      generalize other.next = taken' at turns later ⊢
      obtain ⟨result, after⟩ := taken
      obtain ⟨result', after'⟩ := taken'
      dsimp only at turns later
      cases turns with
      | fault fault => exact ⟨⟨.nil, rfl⟩, later⟩
      | @outcome outcome another same =>
          dsimp only
          rw [lockstep.stops together same]
          split
          · exact ⟨⟨.cons same .nil, congrArg Stop.diverged (lockstep.cursor together)⟩, later⟩
          · obtain ⟨rest, final⟩ := inductionHypothesis later
            exact ⟨⟨.cons same rest.outcomes, rest.stop⟩, final⟩

theorem playThrough (lockstep : Lockstep alike related) (together : related player other)
    (last : Nat) :
    (player.playThrough last).1.Alike alike (other.playThrough last).1 ∧
      related (player.playThrough last).2 (other.playThrough last).2 := by
  rw [Player.playThrough, Player.playThrough, lockstep.length together, lockstep.cursor together]
  exact lockstep.play together _

theorem jump (lockstep : Lockstep alike related) (together : related player other) (index : Nat) :
    (player.jump index).1 = (other.jump index).1 ∧
      related (player.jump index).2 (other.jump index).2 := by
  rw [Player.jump, Player.jump, lockstep.length together]
  split
  · exact ⟨rfl, lockstep.moveTo together index⟩
  · exact ⟨rfl, together⟩

/-- Every operation hands back what is alike. -/
theorem perform (lockstep : Lockstep alike related) (together : related player other)
    (operation : Operation) :
    (player.perform operation).1.Alike alike (other.perform operation).1 ∧
      related (player.perform operation).2 (other.perform operation).2 := by
  cases operation with
  | next => exact lockstep.next together
  | playThrough last =>
      obtain ⟨same, later⟩ := lockstep.playThrough together last
      exact ⟨.passage same, later⟩
  | playToEnd =>
      rw [Player.perform, Player.perform, Player.playToEnd, Player.playToEnd,
        lockstep.last together, lockstep.length together]
      obtain ⟨same, later⟩ := lockstep.playThrough together _
      exact ⟨.passage same, later⟩
  | jump index =>
      obtain ⟨same, later⟩ := lockstep.jump together index
      rw [Player.perform, Player.perform]
      refine ⟨?_, later⟩
      simp only [Prod.map_fst, same]
      exact .moved _
  | pause => exact ⟨.nothing, lockstep.pause together⟩
  | resume => exact ⟨.nothing, lockstep.resume together⟩

/-- A relation that outlasts every operation outlasts every run. -/
theorem run (lockstep : Lockstep alike related) (together : related player other)
    (operations : List Operation) :
    related (player.run operations) (other.run operations) := by
  induction operations generalizing player other with
  | nil => exact together
  | cons operation rest inductionHypothesis =>
      exact inductionHypothesis (lockstep.perform together operation).2

end Lockstep

end Playback
