import Playback.Proofs.Account
import Playback.Proofs.Check

namespace Playback

namespace Snapshot

theorem sound_ofContent (now : Instant) (path content : String) :
    (ofContent now path content).Sound := by
  intro kept same
  rw [← Option.some.inj same]
  rfl

theorem sound_placeholder (now : Instant) (path : String) : (placeholder now path).Sound := nofun

theorem sound_missing (now : Instant) (path : String) : (missing now path).Sound := nofun

end Snapshot

namespace Step

variable {step : Step} {now : Instant} {write : String × Snapshot}

/-- A step leaves a sound file behind if its build recorded a sound one. -/
theorem Leaves.sound (leaves : step.Leaves now write)
    (sound : ∀ build after, step.Builds build after → after.Sound) :
    write.2.Sound := by
  cases leaves with
  | content path content => exact Snapshot.sound_ofContent now path content
  | placeholder path => exact Snapshot.sound_placeholder now path
  | missing path => exact Snapshot.sound_missing now path
  | built build after builds => exact sound build after builds

end Step

/-- The outcomes of steps of a checked journal leave sound files behind. -/
theorem Outcome.sound_of_write {journal : Journal} {mode : Mode} {now : Instant} {index : Nat}
    {outcome : Outcome} {write : String × Snapshot} (checked : journal.check = .ok ())
    (own : journal.step? index = some outcome.step)
    (written : outcome.write? mode now = some write) : write.2.Sound := by
  have member : outcome.step ∈ journal.steps := List.mem_of_getElem? own
  have sound (build : Build) (after : Snapshot) (builds : outcome.step.Builds build after) :
      after.Sound :=
    Journal.sound_of_after checked member builds.built builds.left
  rw [write?] at written
  split at written
  · contradiction
  · exact (Step.leaves_of_write written).sound sound
  · exact (Step.leaves_of_write written).sound sound

end Playback
