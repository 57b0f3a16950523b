import Playback.Proofs.Intent

namespace Playback

namespace Step

theorem requirePath_bind {A : Type} (path : String) (rest : Unit → Except Rejection A) :
    (requirePath path >>= rest) = if path = "" then .error .emptyPath else rest () := by
  rw [requirePath]
  by_cases empty : path = ""
  · rw [if_pos (String.isEmpty_iff.mpr empty), if_pos empty]
    rfl
  · rw [if_neg (fun blank => empty (String.isEmpty_iff.mp blank)), if_neg empty]
    rfl

theorem requireSnapshot_bind {A : Type} (settings : Settings) (snapshot : Snapshot)
    (rest : Unit → Except Rejection A) :
    (requireSnapshot settings snapshot >>= rest) =
      match settings.verifies, snapshot.verify with
      | true, .error cause => .error (.badSnapshot cause)
      | _, _ => rest () := by
  rw [requireSnapshot]
  cases snapshot.verify <;> cases settings.verifies <;> rfl

/-- An edit is compared or taken over only under a path. -/
theorem diffEffect_eq (step : Step) (scene : Scene) (kind : step.kind = .fileDiff) :
    step.diffEffect scene = step.verdict scene := by
  rw [diffEffect, verdict, refusal?, intended]
  cases edited : step.edit with
  | none =>
      cases mode : scene.settings.mode <;>
        simp [defect?, shownEdits, write?, editWrite?, fileWrite?, divergence?, comparedEdit?, kind,
          edited, mode, Effect.none]
  | some edit =>
      cases mode : scene.settings.mode with
      | readOnly => simp [shownEdits, write?, divergence?, kind, edited, mode, Effect.shown]
      | simulate =>
          by_cases empty : edit.path = "" <;>
            simp [defect?, shownEdits, write?, fileWrite?, divergence?, comparedEdit?, kind, edited,
              mode, empty, requirePath_bind, pure, Except.pure]
      | apply =>
          by_cases empty : edit.path = "" <;>
            simp [defect?, shownEdits, write?, editWrite?, divergence?, kind, edited, mode, empty,
              requirePath_bind, pure, Except.pure, Effect.tracking]

/-- The written file is the one that the step tells of. -/
theorem writtenSnapshot_eq (step : Step) (now : Instant) (path : String) :
    step.writtenSnapshot now path = step.writtenFile now path := by
  rw [writtenSnapshot, writtenContent?, writtenFile]
  cases step.edit with
  | none => rfl
  | some edit => rfl

/-- A write or a removal happens only under a path. -/
theorem fileEffect_eq (step : Step) (scene : Scene) (snapshot : String → Snapshot)
    (shown : step.shownEdits = step.edit.toList)
    (silent : step.divergence? scene = none)
    (defect : step.defect? scene.settings.verifies =
      step.path?.bind fun path => if path = "" then some .emptyPath else none)
    (write : scene.settings.mode ≠ .readOnly →
      step.write? scene.settings.mode scene.now = step.path?.map fun path => (path, snapshot path)) :
    step.fileEffect scene snapshot = step.verdict scene := by
  rw [fileEffect, verdict, refusal?, intended, shown, silent, defect]
  by_cases reading : scene.settings.mode = .readOnly
  · simp [reading, write?, Effect.shown]
  · rw [write reading]
    cases touched : step.path? with
    | none => simp [reading, Effect.shown]
    | some path =>
        by_cases empty : path = "" <;>
          simp [reading, empty, requirePath_bind, pure, Except.pure, Effect.tracking]

/-- A build is taken over when it succeeded and nothing is wrong with its file. -/
theorem buildEffect_eq (step : Step) (scene : Scene)
    (shown : step.shownEdits = (step.build.bind Build.edit).toList)
    (silent : step.divergence? scene = none)
    (defect : step.defect? scene.settings.verifies =
      step.build.bind fun build => build.defect? scene.settings.verifies)
    (write : scene.settings.mode ≠ .readOnly →
      step.write? scene.settings.mode scene.now =
        step.build.bind fun build => build.write? scene.now) :
    step.buildEffect scene = step.verdict scene := by
  rw [buildEffect, verdict, refusal?, intended, shown, silent, defect]
  cases built : step.build with
  | none =>
      by_cases reading : scene.settings.mode = .readOnly
      · simp [reading, write?, Effect.none]
      · simp [reading, write reading, built, Effect.none]
  | some build =>
      by_cases reading : scene.settings.mode = .readOnly
      · simp [reading, write?, Effect.shown]
      · rw [write reading, built]
        cases succeeded : build.succeeded with
        | false => simp [reading, succeeded, Build.defect?, Build.write?, Effect.shown]
        | true =>
            cases recorded : build.after with
            | none => simp [reading, succeeded, recorded, Build.defect?, Build.write?, Effect.shown]
            | some after =>
                by_cases empty : build.path = ""
                · simp [reading, succeeded, recorded, empty, Build.defect?, requirePath_bind]
                · cases verifies : scene.settings.verifies <;> cases sound : after.verify <;>
                    simp [reading, succeeded, recorded, empty, verifies, sound, Build.defect?,
                      Build.write?, requirePath_bind, requireSnapshot_bind, builtSnapshot, pure,
                      Except.pure, Effect.tracking]

/-- The verdict on a step decides what it does. -/
theorem effect_eq (step : Step) (scene : Scene) : step.effect scene = step.verdict scene := by
  have write (other : step.kind ≠ .fileDiff) (acting : scene.settings.mode ≠ .readOnly) :=
    write?_of_not_edit scene.now other acting
  have silent (other : step.kind ≠ .fileDiff) := divergence?_of_not_edit scene other
  rw [effect]
  cases kind : step.kind with
  | fileDiff => exact step.diffEffect_eq scene kind
  | fileWrite =>
      apply step.fileEffect_eq scene
      · rw [shownEdits, kind]
      · exact silent (by simp [kind])
      · rw [defect?, kind]
      · intro acting
        rw [write (by simp [kind]) acting, fileWrite?, kind]
        simp only [writtenSnapshot_eq]
  | fileRemove =>
      apply step.fileEffect_eq scene
      · rw [shownEdits, kind]
      · exact silent (by simp [kind])
      · rw [defect?, kind]
      · intro acting
        rw [write (by simp [kind]) acting, fileWrite?, kind]
  | buildStart | buildComplete | buildError =>
      apply step.buildEffect_eq scene
      · rw [shownEdits, kind]
      · exact silent (by simp [kind])
      · rw [defect?, kind]
      · intro acting
        rw [write (by simp [kind]) acting, fileWrite?, kind]
  | _ =>
      have shown : step.shownEdits = [] := by rw [shownEdits, kind]
      have sound : step.defect? scene.settings.verifies = none := by rw [defect?, kind]
      have still : step.write? scene.settings.mode scene.now = none := by
        by_cases reading : scene.settings.mode = .readOnly
        · rw [reading, write?]
        · rw [write (by simp [kind]) reading, fileWrite?, kind]
      simp [verdict, refusal?, intended, shown, sound, still, silent, kind, Effect.none]

theorem effect_of_refusal {step : Step} {scene : Scene} {rejection : Rejection}
    (refused : step.refusal? scene.settings = some rejection) :
    step.effect scene = .error rejection := by
  rw [effect_eq, verdict, refused]

theorem effect_of_accepted {step : Step} {scene : Scene}
    (accepted : step.refusal? scene.settings = none) :
    step.effect scene = .ok (step.intended scene) := by
  rw [effect_eq, verdict, accepted]

/-- A rejection is the reason to reject the step. -/
theorem refusal?_of_error {step : Step} {scene : Scene} {rejection : Rejection}
    (refused : step.effect scene = .error rejection) :
    step.refusal? scene.settings = some rejection := by
  rw [effect_eq, verdict] at refused
  cases reason : step.refusal? scene.settings with
  | none =>
      rw [reason] at refused
      contradiction
  | some found =>
      rw [reason] at refused
      exact congrArg some (Except.error.inj refused)

/-- A step that is not rejected has the intended effect. -/
theorem intended_of_ok {step : Step} {scene : Scene} {effect : Effect}
    (accepted : step.effect scene = .ok effect) :
    step.refusal? scene.settings = none ∧ step.intended scene = effect := by
  rw [effect_eq, verdict] at accepted
  cases reason : step.refusal? scene.settings with
  | none =>
      rw [reason] at accepted
      exact ⟨rfl, Except.ok.inj accepted⟩
  | some found =>
      rw [reason] at accepted
      contradiction

end Step

end Playback
