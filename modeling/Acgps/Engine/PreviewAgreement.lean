import Acgps.Engine.FirstMoves

/-!
# Previews and calls

What a preview of a transition says is what the call does, as long as the arguments are admissible
that only the call looks at.

## Main Definitions

* `PreviewsAgree` - what a caller expects of the two previews

## Key Theorems

* `previews_agree_iff` - **the previews agree with `advance` exactly where the arguments that they do
  not look at are admissible**
-/

namespace Acgps

open Checked Interleaving

section Agreement

variable [Platform]

/-! ## Section 1: Agreement -/

/-- What a caller expects of the previews: a direct preview is followed by one transition to its
target, a direct transition has a preview, and a resumption has a preview exactly if it moves the
task. -/
structure PreviewsAgree (engine : Engine) (args : TransitionArgs) (w : World) : Prop where
  advances : (∃ preview, (directTransitionGatePreview engine args).run w = .ok preview) →
    ∃ source target, target.name = args.toState ∧
      w.Moves ((advance engine args.direct).run w).2 args.taskId source target
  previewed : ∀ source target, source ≠ .waitingHuman → target ≠ .waitingHuman →
    w.Moves ((advance engine args).run w).2 args.taskId source target →
    ∃ preview, (directTransitionGatePreview engine args).run w = .ok preview
  resumes : (∃ preview, (waitingHumanResumeGatePreview engine args).run w = .ok preview) ↔
    ∃ target, target.name = args.toState ∧ target ≠ .waitingHuman ∧
      w.Moves ((advance engine args).run w).2 args.taskId .waitingHuman target

/-- **The previews agree with `advance` exactly where the arguments that they do not look at are
admissible**, in every world that a run reaches. -/
theorem previews_agree_iff (hhex : HexDigests) {engine : Engine} (hloaded : engine.bundle.Loaded)
    {w : World} (hreach : w.Reachable (fun _ => True)) (args : TransitionArgs) :
    PreviewsAgree engine args w ↔
      ((∃ preview, (directTransitionGatePreview engine args).run w = .ok preview) →
        Admissible engine args.direct w) ∧
      ((∃ preview, (waitingHumanResumeGatePreview engine args).run w = .ok preview) →
        Admissible engine args w) := by
  have hbound : TaskBound w.store args.taskId := hreach.taskBound args.taskId
  constructor
  · intro hagree
    refine ⟨fun hpreview => ?_, fun hpreview => ?_⟩
    · obtain ⟨source, target, -, hmoves⟩ := hagree.advances hpreview
      obtain ⟨p, hprepared, -, htarget, hsource⟩ := directPreview_iff.mp hpreview
      exact (@moves_direct_iff _ hhex _ hloaded args.direct _ _ hbound hprepared htarget hsource
        rfl).mp ⟨source, target, hmoves⟩
    · have hmoves := hagree.resumes.mp hpreview
      obtain ⟨p, hprepared, hname, bound, hresolved⟩ := resumePreview_iff.mp hpreview
      exact (moves_resume_iff hhex hloaded hbound hprepared hname hresolved).mp hmoves
  · rintro ⟨hdirect, hresume⟩
    refine ⟨fun hpreview => ?_, fun source target hsource htarget hmoves => ?_,
      ⟨fun hpreview => ?_, fun hmoves => ?_⟩⟩
    · obtain ⟨p, hprepared, hname, htarget, hsource⟩ := directPreview_iff.mp hpreview
      obtain ⟨source, target, hmoves⟩ := (@moves_direct_iff _ hhex _ hloaded args.direct _ _ hbound
        hprepared htarget hsource rfl).mpr (hdirect hpreview)
      obtain ⟨p', _, _, _, hpasses, -, -, rfl⟩ := exists_passes_of_moves hmoves
      obtain rfl : p = p' := Except.ok.inj (hprepared.symm.trans hpasses.prepared)
      exact ⟨source, p.target, hname, hmoves⟩
    · obtain ⟨p, _, _, _, hpasses, -, rfl, rfl⟩ := exists_passes_of_moves hmoves
      exact directPreview_iff.mpr ⟨p, hpasses.prepared, hpasses.preparation.name_of_ne htarget,
        htarget, hsource⟩
    · obtain ⟨p, hprepared, hname, bound, hresolved⟩ := resumePreview_iff.mp hpreview
      exact (moves_resume_iff hhex hloaded hbound hprepared hname hresolved).mpr (hresume hpreview)
    · obtain ⟨target, hname, htarget, hmoved⟩ := hmoves
      obtain ⟨p, _, _, _, hpasses, -, hsource, rfl⟩ := exists_passes_of_moves hmoved
      obtain ⟨bound, hresolved⟩ := hpasses.exists_bound hsource htarget
      rw [hname] at hresolved
      exact resumePreview_iff.mpr ⟨p, hpasses.prepared, hname, bound, hresolved⟩

end Agreement

/-! ## Section 2: A task behind its intake -/

/-- The previews of the classification agree with the call. -/
theorem previews_agree_classification :
    letI := demoPlatform
    PreviewsAgree demoEngine demoArgs₁ demoWorld := by
  let _ := demoPlatform
  have hp := demoTransition_passes.preparation
  have hadmissible : Admissible demoEngine demoArgs₁ demoWorld :=
    (admissible_iff_committable hp (demoWorld_reachable.taskBound _) rfl).mpr
      ⟨rfl, by decide, demoTransition_committable⟩
  apply (previews_agree_iff demoPlatform_hex referenceBundle_loaded demoWorld_reachable _).mpr
  exact ⟨fun _ => hadmissible, fun _ => hadmissible⟩

/-- A fraction of a second in a timestamp passes the preview and stops the call. -/
theorem preview_passes_fraction :
    letI := demoPlatform
    demoWorld.Reachable (fun _ => True) ∧
      (∃ preview, (directTransitionGatePreview demoEngine (demoArgs "2026-01-01T00:00:01.500Z")).run
        demoWorld = .ok preview) ∧
      ¬ PreviewsAgree demoEngine (demoArgs "2026-01-01T00:00:01.500Z") demoWorld := by
  let _ := demoPlatform
  have hprepared := (demoArgs_firstMove (by decide :
    isRfc3339Utc "2026-01-01T00:00:01.500Z" = true)).prepared (demoWorld_leads _)
  have hpreview := directPreview_iff.mpr ⟨_, hprepared, rfl, by simp [plannedTransition],
    by simp [plannedTransition, stateOfCreation]⟩
  refine ⟨demoWorld_reachable, hpreview, fun hagree => ?_⟩
  obtain ⟨source, target, -, hmoves⟩ := hagree.advances hpreview
  have hadmissible := (moves_direct_iff demoPlatform_hex referenceBundle_loaded
    (demoWorld_reachable.taskBound _) hprepared (by simp [plannedTransition])
    (by simp [plannedTransition, stateOfCreation]) rfl).mp ⟨source, target, hmoves⟩
  have hutc : isUtc "2026-01-01T00:00:01.500Z" = true := hadmissible.createdAtUtc
  exact absurd hutc (by decide)

end Acgps
