import Acgps.Engine.Closure
import Acgps.Engine.FirstMoves

/-!
# Next actions

A preview of the next actions lists the transitions of a task, each with the actor and with the
number of evidence files that its gate needs. The numbers come from a table of their own; the gates
count in a dozen validators.

## Main Definitions

* `nextActionPreview` - the preview
* `previewEvidenceContract` - its table of evidence
* `EvidenceContract.Admits` - a number of files that a row of the table allows

## Key Theorems

* `previewEvidenceContract_admits` - **a gate takes only what the table allows**
* `preview_states_gate` - the preview states the gate of every transition
-/

namespace Acgps

open Checked Interleaving

variable [Platform]

/-! ## Section 1: The preview -/

/-- What a preview says of the evidence of an option. -/
structure EvidenceContract where
  status : String
  minimumCount : Nat
  maximumCount : Option Nat
  orderedKinds : List String
  repeatableTail : Bool

namespace EvidenceContract

/-- `bound`. -/
def bound (orderedKinds : List String) (minimumCount : Nat) (maximumCount : Option Nat)
    (repeatableTail : Bool) : EvidenceContract :=
  ⟨"BOUND_EXISTING_CONTRACT", minimumCount, maximumCount, orderedKinds, repeatableTail⟩

/-- A number of files that a contract allows. -/
structure Admits (contract : EvidenceContract) (count : Nat) : Prop where
  minimum : contract.minimumCount ≤ count
  maximum : ∀ most ∈ contract.maximumCount, count ≤ most

end EvidenceContract

/-- The number of files of a review; one that integrates has to close the blockers of the fix
cycle. -/
def reviewerMinimumCount (engine : Engine) (current : WorkflowTaskState) (target : TaskState) :
    EngineQuery Nat :=
  if target = .integrating then do
    let ids ← currentFixCycleBlockerIds engine current
    return 2 + ids.dedup.length
  else return 3

/-- `_preview_evidence_contract`. -/
def previewEvidenceContract (engine : Engine) (current : WorkflowTaskState)
    (source target : TaskState) : EngineQuery EvidenceContract :=
  match gateEvidenceKind source target with
  | .plannerResult =>
      return .bound ["PLANNER_TASK_PACKET", "PLANNER_RESULT"] 2 (some 2) false
  | .coderHandoff => return .bound ["CODER_TASK_PACKET"] 1 (some 1) false
  | .coderRemediationHandoff => do
      let blockers ← currentFixCycleBlockers engine current
      let evidenceCount := 1 + blockers.length
      return .bound ["CODER_TASK_PACKET", "CURRENT_BLOCKING_REMEDIATION_EVIDENCE"] evidenceCount
        (some evidenceCount) true
  | .verifiedClosureEvidence => do
      let bindings ← latestVerifiedEvidenceBindings current
      return .bound ["VERIFIER_TASK_PACKET", "VERIFIER_RESULT", "VERIFICATION_RECORD"]
        bindings.length (some bindings.length) true
  | .verifierResult =>
      return .bound ["VERIFIER_TASK_PACKET", "VERIFIER_RESULT", "VERIFICATION_RECORD"] 3 none true
  | .reviewerResult => do
      let minimumCount ← reviewerMinimumCount engine current target
      return .bound ["REVIEWER_TASK_PACKET", "REVIEWER_RESULT", "REVIEW_FINDING"] minimumCount none
        true
  | .fixRequiredFindings => return .bound ["REVIEW_FINDING"] 1 none true
  | .integratingFindings => do
      let ids ← currentFixCycleBlockerIds engine current
      return .bound ["REVIEW_FINDING"] (max 1 ids.dedup.length) none true
  | .coderResult => return .bound ["CODER_TASK_PACKET", "CODER_RESULT"] 2 (some 2) false
  | .releaseCandidateManifest => return .bound ["RELEASE_CANDIDATE_MANIFEST"] 1 (some 1) false
  | .genericEvidence => return ⟨"UNSPECIFIED_EXISTING_CONTRACT", 1, none, [], false⟩

/-- The decision that a task waits for. -/
structure PendingDecisionRequirement where
  decisionId : String
  status : String
  requiredResumeState : TaskState
  allowedOptionIds : List String
  defaultWithoutResponse : String

/-- The only request of a task among those that wait. -/
def matchingDecision (current : WorkflowTaskState) (pending : List Mapping) : Outcome Mapping :=
  match pending.filter (fun record => record.get "task_id" = .str current.taskId.val) with
  | [request] => .ok request
  | _ => .error (engineError "WAITING_HUMAN requires exactly one matching pending decision")

/-- `_pending_decision_requirement`. -/
def pendingDecisionRequirement (engine : Engine) (current : WorkflowTaskState)
    (legalTransitions : List TaskState) : EngineQuery PendingDecisionRequirement := do
  let pending ← Query.mapError asQueueError listPending
  let request ← Query.lift (matchingDecision current pending)
  Query.lift (require (request.get "project_id" = .str current.projectId.val)
    (engineError "pending decision project does not match WAITING_HUMAN state"))
  let stage := request.word "stage"
  let target ← Query.lift (expect (legalTransitions.find? (fun state => state.name = stage))
    (engineError [.text "pending decision target ", .text stage,
      .text " is not legal from WAITING_HUMAN"]))
  let source ← transitionGateSourceState current
  Query.lift (require (target ∈ engine.bundle.targets source)
    (engineError [.text "pending decision target ", .text stage,
      .text " is not legal from original state ", .text source.name]))
  return { decisionId := request.word "decision_id"
           status := request.word "status"
           requiredResumeState := target
           allowedOptionIds := ((request.get "options").asList.getD []).map (·.word "id")
           defaultWithoutResponse := request.word "default_without_response" }

/-- A transition that a preview lists. -/
structure NextActionOption where
  targetState : TaskState
  requiredActor : Option Actor
  evidenceContract : EvidenceContract

/-- What `next_action_preview` returns. -/
structure NextActionPreview where
  current : WorkflowTaskState
  pendingDecisionRequirement : Option PendingDecisionRequirement
  options : List NextActionOption

/-- The option of a target. -/
def nextActionOption (engine : Engine) (current : WorkflowTaskState) (source target : TaskState) :
    EngineQuery NextActionOption := do
  let contract ← previewEvidenceContract engine current source target
  return ⟨target, requiredTransitionActor source target, contract⟩

/-- The decision that a task waits for, if it waits. -/
def decisionRequirement (engine : Engine) (current : WorkflowTaskState)
    (legalTransitions : List TaskState) : EngineQuery (Option PendingDecisionRequirement) :=
  if current.currentState = .waitingHuman then
    some <$> pendingDecisionRequirement engine current legalTransitions
  else return none

/-- `next_action_preview`. -/
def nextActionPreview (engine : Engine) (taskId : String) : EngineQuery NextActionPreview := do
  let current ← status taskId
  let _ ← trustedLineage current
  let source ← transitionGateSourceState current
  let legal := engine.bundle.targets current.currentState
  let requirement ← decisionRequirement engine current legal
  let listed := requirement.elim legal (fun pending => [pending.requiredResumeState])
  let options ← listed.mapM (nextActionOption engine current source)
  return ⟨current, requirement, options⟩

/-! ## Section 2: What the gates count -/

omit [Platform] in
theorem length_of_asPair {paths : List EvidencePath} {x : EvidencePath × EvidencePath}
    (h : asPair paths = some x) : paths.length = 2 := by
  unfold asPair at h
  split at h
  · rfl
  · cases h

omit [Platform] in
theorem length_of_asSingle {paths : List EvidencePath} {path : EvidencePath}
    (h : asSingle paths = some path) : paths.length = 1 := by
  unfold asSingle at h
  split at h
  · rfl
  · cases h

omit [Platform] in
theorem eq_of_asPairWithTail {paths : List EvidencePath}
    {x : EvidencePath × EvidencePath × List EvidencePath} (h : asPairWithTail paths = some x) :
    paths = x.1 :: x.2.1 :: x.2.2 := by
  unfold asPairWithTail at h
  split at h
  · cases h
    rfl
  · cases h

omit [Platform] in
/-- Records close no more findings than there are records. -/
theorem length_dedup_le_of_requireClosed {required : List String} {records : List Mapping}
    {u : Unit} (h : requireClosed required records = .ok u) :
    required.dedup.length ≤ records.length := by
  have hclosed := requireClosed_eq_ok.mp h
  have hsubset : required.dedup ⊆ closedIds records := fun id hid =>
    hclosed id (List.mem_dedup.mp hid)
  calc required.dedup.length
      ≤ (closedIds records).length := (required.nodup_dedup.subperm hsubset).length_le
    _ ≤ records.length := by
        rw [closedIds, List.length_map]
        exact List.length_filter_le _ _

section Gate

variable {engine : Engine} {w : World} {target : TaskState} {paths : List EvidencePath}
  {current : WorkflowTaskState} {snapshots : List Snapshot}

omit [Platform] in
/-- A review finding is read for every path. -/
theorem length_validateReviewFindings {records : List Mapping}
    (h : (validateReviewFindings engine paths).May (· = w) (.ok records)) :
    records.length = paths.length := by
  simp only [validateReviewFindings, Query.may_bind, Query.may_mapM, Query.may_lift,
    Query.may_pure] at h
  obtain ⟨_, hread, _, _, rfl⟩ := h
  exact hread.length_eq.symm

theorem length_plannerEvidence
    (h : (validatePlannerTransitionEvidence engine target paths current).May (· = w)
      (.ok snapshots)) : paths.length = 2 := by
  simp only [validatePlannerTransitionEvidence, requireShape, Query.may_bind, Query.may_lift,
    expect_eq_ok] at h
  obtain ⟨x, hshape, -⟩ := h
  exact length_of_asPair hshape

theorem length_coderHandoff
    (h : (validateCoderHandoffEvidence engine paths current).May (· = w) (.ok snapshots)) :
    paths.length = 1 := by
  simp only [validateCoderHandoffEvidence, requireShape, Query.may_bind, Query.may_lift,
    expect_eq_ok] at h
  obtain ⟨x, hshape, -⟩ := h
  exact length_of_asSingle hshape

theorem length_taskReview
    (h : (validateTaskReviewEvidence engine paths current).May (· = w) (.ok snapshots)) :
    paths.length = 2 := by
  simp only [validateTaskReviewEvidence, requireShape, Query.may_bind, Query.may_lift,
    expect_eq_ok] at h
  obtain ⟨x, hshape, -⟩ := h
  exact length_of_asPair hshape

theorem length_manifest
    (h : (validateRcReadyManifest engine paths current).May (· = w) (.ok snapshots)) :
    paths.length = 1 := by
  simp only [validateRcReadyManifest, requireShape, Query.may_bind, Query.may_lift, expect_eq_ok]
    at h
  obtain ⟨x, hshape, -⟩ := h
  exact length_of_asSingle hshape

theorem length_closureManifest
    (h : (validateRcReadyClosureManifest engine paths current).May (· = w) (.ok snapshots)) :
    paths.length = 1 := by
  simp only [validateRcReadyClosureManifest, requireShape, Query.may_bind, Query.may_lift,
    expect_eq_ok] at h
  obtain ⟨x, hshape, -⟩ := h
  exact length_of_asSingle hshape

/-- A verifier hands over a packet, a result and records, and each is bound. -/
theorem length_verifierEvidence
    (h : (validateVerifierTransitionEvidence engine target paths current).May (· = w)
      (.ok snapshots)) : 3 ≤ paths.length ∧ snapshots.length = paths.length := by
  simp only [validateVerifierTransitionEvidence, requireShape, Query.may_bind, Query.may_lift,
    expect_eq_ok, Option.filter_eq_some_iff, decide_eq_true_eq, Query.may_mapM, Query.may_pure] at h
  obtain ⟨x, ⟨hshape, hcount⟩, _, _, _, _, _, _, _, _, records, hrecords, _, _, rfl⟩ := h
  have hlength := hrecords.length_eq
  refine ⟨hcount, ?_⟩
  rw [eq_of_asPairWithTail hshape]
  simp [hlength]

/-- A closure hands over what the verification bound. -/
theorem length_verifiedClosure
    (h : (validateVerifiedClosureEvidence engine paths current).May (· = w) (.ok snapshots)) :
    ∃ bindings, (latestVerifiedEvidenceBindings current).May (· = w) (.ok bindings) ∧
      paths.length = bindings.length := by
  simp only [validateVerifiedClosureEvidence, Query.may_bind, Query.may_lift, expect_eq_ok,
    require_eq_ok, Query.may_pure] at h
  obtain ⟨bindings, hbindings, trusted, htrusted, snapshots', hverifier, _, hsame, rfl⟩ := h
  refine ⟨bindings, hbindings, ?_⟩
  have hlength := congrArg List.length (map_snapshot_of_mapM htrusted)
  rw [List.length_map, List.length_map] at hlength
  rw [← (length_verifierEvidence hverifier).2, hsame, hlength]

/-- A remediation hands over a packet and every blocker of the fix cycle. -/
theorem length_remediation
    (h : (validateCoderRemediationHandoffEvidence engine paths current).May (· = w)
      (.ok snapshots)) :
    ∃ blockers, (currentFixCycleBlockers engine current).May (· = w) (.ok blockers) ∧
      paths.length = 1 + blockers.length := by
  simp only [validateCoderRemediationHandoffEvidence, requireShape, Query.may_bind, Query.may_lift,
    expect_eq_ok, require_eq_ok, Query.may_mapM, Query.may_pure] at h
  obtain ⟨x, hshape, _, _, _, _, blockers, hblockers, _, _, submitted, hsubmitted, _, hsame, -⟩ := h
  refine ⟨blockers, hblockers, ?_⟩
  have hlength := hsubmitted.length_eq
  rw [hsame, List.length_map, List.length_cons] at hlength
  rw [eq_of_asPairWithTail hshape, List.length_cons, List.length_cons, hlength, Nat.add_comm]

/-- The findings of a review that integrates are one for every blocker at least. -/
theorem length_reviewFindings {records : List Mapping} (hfix : target ≠ .fixRequired)
    (h : (reviewFindings engine target paths current).May (· = w) (.ok records)) :
    ∃ ids, (currentFixCycleBlockerIds engine current).May (· = w) (.ok ids) ∧
      ids.dedup.length ≤ paths.length := by
  rw [reviewFindings, if_neg hfix] at h
  by_cases hnil : paths = []
  · rw [if_pos hnil] at h
    simp only [Query.may_bind, Query.may_lift, Query.may_pure] at h
    obtain ⟨records', rfl, ids, hids, _, hclosed, -⟩ := h
    exact ⟨ids, hids, (length_dedup_le_of_requireClosed hclosed).trans (Nat.zero_le _)⟩
  · rw [if_neg hnil] at h
    simp only [Query.may_bind, Query.may_lift, Query.may_pure] at h
    obtain ⟨records', hread, ids, hids, _, hclosed, -⟩ := h
    refine ⟨ids, hids, ?_⟩
    rw [← length_validateReviewFindings hread]
    exact length_dedup_le_of_requireClosed hclosed

/-- A review hands over a packet, a result and findings; one that integrates has a finding for every
blocker. -/
theorem length_reviewerEvidence
    (h : (validateReviewerTransitionEvidence engine target paths current).May (· = w)
      (.ok snapshots)) :
    (target = .fixRequired → 3 ≤ paths.length) ∧
      (target ≠ .fixRequired → ∃ ids,
        (currentFixCycleBlockerIds engine current).May (· = w) (.ok ids) ∧
          2 + ids.dedup.length ≤ paths.length) := by
  simp only [validateReviewerTransitionEvidence, requireShape, Query.may_bind, Query.may_lift,
    expect_eq_ok, Option.filter_eq_some_iff, decide_eq_true_eq] at h
  obtain ⟨⟨_, _, findings⟩, ⟨hshape, hcount⟩, _, _, _, _, _, _, _, _, records, hrecords, -⟩ := h
  constructor
  · intro hfix
    rwa [if_pos hfix] at hcount
  · intro hfix
    obtain ⟨ids, hids, hle⟩ := length_reviewFindings hfix hrecords
    have hlength : paths.length = findings.length + 2 := by
      rw [eq_of_asPairWithTail hshape]
      rfl
    refine ⟨ids, hids, ?_⟩
    rw [hlength, Nat.add_comm]
    exact Nat.add_le_add_right hle 2

/-- Findings that integrate are one for every blocker at least. -/
theorem length_integratingFindings {u : Unit}
    (h : (validateIntegratingFindings engine paths current).May (· = w) (.ok u)) :
    ∃ ids, (currentFixCycleBlockerIds engine current).May (· = w) (.ok ids) ∧
      ids.dedup.length ≤ paths.length := by
  simp only [validateIntegratingFindings, Query.may_bind, Query.may_lift] at h
  obtain ⟨records, hread, ids, hids, hclosed⟩ := h
  refine ⟨ids, hids, ?_⟩
  rw [← length_validateReviewFindings hread]
  exact length_dedup_le_of_requireClosed hclosed

omit [Platform] in
/-- The gates of a review. -/
theorem target_of_reviewerResult {source : TaskState}
    (h : gateEvidenceKind source target = .reviewerResult) :
    target = .fixRequired ∨ target = .integrating := by
  unfold gateEvidenceKind at h
  split at h <;> simp_all

/-- **A gate takes only what the table allows.** One case for each kind of evidence. -/
theorem previewEvidenceContract_admits {source : TaskState} {contract : EvidenceContract}
    {validated : Option (List Snapshot)}
    (hcontract : (previewEvidenceContract engine current source target).May (· = w) (.ok contract))
    (hgate : (validateGateEvidence engine source target paths current).May (· = w)
      (.ok validated)) (hpaths : paths ≠ []) : contract.Admits paths.length := by
  have hpositive : 1 ≤ paths.length := List.length_pos_iff.mpr hpaths
  rw [validateGateEvidence, Query.may_mapError] at hgate
  unfold previewEvidenceContract at hcontract
  cases hkind : gateEvidenceKind source target with
  | plannerResult =>
      simp only [hkind, validateEvidenceOfKind, Query.may_map, Query.may_pure] at hcontract hgate
      obtain ⟨_, hgate, -⟩ := hgate
      have hlength := length_plannerEvidence hgate
      subst hcontract
      exact ⟨hlength.ge, by simp [EvidenceContract.bound, hlength]⟩
  | coderHandoff =>
      simp only [hkind, validateEvidenceOfKind, Query.may_map, Query.may_pure] at hcontract hgate
      obtain ⟨_, hgate, -⟩ := hgate
      have hlength := length_coderHandoff hgate
      subst hcontract
      exact ⟨hlength.ge, by simp [EvidenceContract.bound, hlength]⟩
  | coderRemediationHandoff =>
      simp only [hkind, validateEvidenceOfKind, Query.may_map, Query.may_bind, Query.may_pure]
        at hcontract hgate
      obtain ⟨_, hgate, -⟩ := hgate
      obtain ⟨blockers, hblockers, hlength⟩ := length_remediation hgate
      obtain ⟨blockers', hblockers', rfl⟩ := hcontract
      obtain rfl := Query.may_unique hblockers hblockers'
      exact ⟨hlength.ge, by simp [EvidenceContract.bound, hlength]⟩
  | verifiedClosureEvidence =>
      simp only [hkind, validateEvidenceOfKind, Query.may_map, Query.may_bind, Query.may_pure]
        at hcontract hgate
      obtain ⟨_, hgate, -⟩ := hgate
      obtain ⟨bindings, hbindings, hlength⟩ := length_verifiedClosure hgate
      obtain ⟨bindings', hbindings', rfl⟩ := hcontract
      obtain rfl := Query.may_unique hbindings hbindings'
      exact ⟨hlength.ge, by simp [EvidenceContract.bound, hlength]⟩
  | verifierResult =>
      simp only [hkind, validateEvidenceOfKind, Query.may_map, Query.may_pure] at hcontract hgate
      obtain ⟨_, hgate, -⟩ := hgate
      subst hcontract
      exact ⟨(length_verifierEvidence hgate).1, by simp [EvidenceContract.bound]⟩
  | reviewerResult =>
      simp only [hkind, validateEvidenceOfKind, Query.may_map, Query.may_bind, Query.may_pure]
        at hcontract hgate
      obtain ⟨_, hgate, -⟩ := hgate
      obtain ⟨hfix, hintegrate⟩ := length_reviewerEvidence hgate
      obtain ⟨minimumCount, hminimum, rfl⟩ := hcontract
      refine ⟨?_, by simp [EvidenceContract.bound]⟩
      rcases target_of_reviewerResult hkind with rfl | rfl
      · rw [reviewerMinimumCount, if_neg (by decide), Query.may_pure] at hminimum
        subst hminimum
        exact hfix rfl
      · rw [reviewerMinimumCount, if_pos rfl] at hminimum
        simp only [Query.may_bind, Query.may_pure] at hminimum
        obtain ⟨ids', hids', rfl⟩ := hminimum
        obtain ⟨ids, hids, hlength⟩ := hintegrate (by decide)
        obtain rfl := Query.may_unique hids hids'
        exact hlength
  | fixRequiredFindings =>
      simp only [hkind, Query.may_pure] at hcontract
      subst hcontract
      exact ⟨hpositive, by simp [EvidenceContract.bound]⟩
  | integratingFindings =>
      simp only [hkind, validateEvidenceOfKind, Query.may_bind, Query.may_pure] at hcontract hgate
      obtain ⟨_, hgate, -⟩ := hgate
      obtain ⟨ids, hids, hlength⟩ := length_integratingFindings hgate
      obtain ⟨ids', hids', rfl⟩ := hcontract
      obtain rfl := Query.may_unique hids hids'
      exact ⟨max_le hpositive hlength, by simp [EvidenceContract.bound]⟩
  | coderResult =>
      simp only [hkind, validateEvidenceOfKind, Query.may_map, Query.may_pure] at hcontract hgate
      obtain ⟨_, hgate, -⟩ := hgate
      have hlength := length_taskReview hgate
      subst hcontract
      exact ⟨hlength.ge, by simp [EvidenceContract.bound, hlength]⟩
  | releaseCandidateManifest =>
      simp only [hkind, Query.may_pure] at hcontract
      have hlength : paths.length = 1 := by
        simp only [hkind, validateEvidenceOfKind] at hgate
        split at hgate
        · rw [Query.may_map] at hgate
          obtain ⟨_, hgate, -⟩ := hgate
          exact length_closureManifest hgate
        · rw [Query.may_map] at hgate
          obtain ⟨_, hgate, -⟩ := hgate
          exact length_manifest hgate
      subst hcontract
      exact ⟨hlength.ge, by simp [EvidenceContract.bound, hlength]⟩
  | genericEvidence =>
      simp only [hkind, Query.may_pure] at hcontract
      subst hcontract
      exact ⟨hpositive, by simp⟩

end Gate

/-! ## Section 3: What the preview lists -/

section Preview

variable {engine : Engine} {w : World} {current : WorkflowTaskState}

/-- The resumption that a preview of a waiting task lists is the one that the pending decision
allows. -/
theorem requiredResumeState_eq {legal : List TaskState} {pending : PendingDecisionRequirement}
    {toState : TaskState} {given : Option Mapping} {bound : Mapping × Mapping}
    (hpending : (pendingDecisionRequirement engine current legal).May (· = w) (.ok pending))
    (hbound : (waitingHumanResolutionBinding engine current toState.name given).May (· = w)
      (.ok bound)) : pending.requiredResumeState = toState := by
  simp only [pendingDecisionRequirement, Query.may_bind, Query.may_mapError, Query.may_lift,
    require_eq_ok, expect_eq_ok, Query.may_pure] at hpending
  obtain ⟨listed, hlisted, request, hrequest, _, -, target, htarget, source, -, _, -, rfl⟩ := hpending
  simp only [waitingHumanResolutionBinding, Query.may_bind, Query.may_lift, require_eq_ok,
    Query.may_mapError, Query.may_pure] at hbound
  obtain ⟨_, -, _, -, _, ⟨request', -, listed', hlisted', rfl⟩, _, -, _, htask, _, honly, _,
    ⟨hstage, -⟩, -⟩ := hbound
  obtain rfl := Query.may_unique hlisted hlisted'
  -- the request that the resolution answers waits for this task, and only one does
  have hmem : request' ∈ listed.filter (fun record =>
      record.get "task_id" = .str current.taskId.val) := by
    have hfound : request' ∈ listed := by
      have hself : request' ∈ [request'] := List.mem_singleton.mpr rfl
      rw [← honly] at hself
      exact (List.mem_filter.mp hself).1
    exact List.mem_filter.mpr ⟨hfound, by simpa using htask.2⟩
  obtain rfl : request = request' := by
    unfold matchingDecision at hrequest
    split at hrequest
    next only hsingle =>
      rw [hsingle, List.mem_singleton] at hmem
      rw [hmem, Except.ok.inj hrequest]
    next => cases hrequest
  have hname := List.find?_some htarget
  rw [Mapping.word, hstage] at hname
  exact TaskState.name_injective (of_decide_eq_true hname)

/-- **The preview states the gate of every transition.** -/
theorem preview_states_gate {args : TransitionArgs} {preview : NextActionPreview}
    {source target : TaskState}
    (hpreview : (nextActionPreview engine args.taskId).run w = .ok preview)
    (hmoves : w.Moves ((advance engine args).run w).2 args.taskId source target) :
    (∀ option ∈ preview.options, option.targetState = target →
      (∀ actor ∈ option.requiredActor, args.actor = actor.name) ∧
        option.evidenceContract.Admits args.evidencePaths.length) ∧
      (target ≠ .waitingHuman → ∃ option ∈ preview.options, option.targetState = target) := by
  obtain ⟨p, decision, opened, queue, hpasses, -, rfl, rfl⟩ := exists_passes_of_moves hmoves
  have hprepared := hpasses.preparation
  obtain ⟨_, rfl, hcurrent⟩ := hprepared.status
  rw [← Query.may_eq_iff] at hpreview
  simp only [nextActionPreview, Query.may_bind, may_status, Query.may_pure, exists_eq_left]
    at hpreview
  obtain ⟨current, hread, _, -, gate, hgate, requirement, hrequirement, options, hoptions, rfl⟩ :=
    hpreview
  obtain rfl : p.current = current := Except.ok.inj (hcurrent.symm.trans hread)
  obtain rfl := transitionGateSourceState_unique hprepared.gateSource hgate
  rw [Query.may_mapM] at hoptions
  constructor
  · intro option hoption htarget
    obtain ⟨listed, -, hlisted⟩ := exists_of_mem_forall₂ hoptions hoption
    simp only [nextActionOption, Query.may_bind, Query.may_pure] at hlisted
    obtain ⟨contract, hcontract, rfl⟩ := hlisted
    obtain rfl : listed = p.target := htarget
    refine ⟨fun actor hrequired => ?_, ?_⟩
    · have hactor := hprepared.actor
      have hrequired' : requiredTransitionActor p.gateSource p.target = some actor := hrequired
      simp only [requireTransitionActor, hrequired', require_eq_ok] at hactor
      exact hactor
    · obtain ⟨validated, hvalidated, -⟩ := hprepared.validated
      exact previewEvidenceContract_admits hcontract hvalidated hprepared.evidence
  · intro htarget
    have htargets : options.map NextActionOption.targetState
        = (requirement.elim (engine.bundle.targets p.current.currentState)
          (fun pending => [pending.requiredResumeState])).map id := by
      apply map_eq_of_forall₂ hoptions
      intro listed option hoption
      simp only [nextActionOption, Query.may_bind, Query.may_pure] at hoption
      obtain ⟨_, -, rfl⟩ := hoption
      rfl
    suffices hlisted : p.target ∈ options.map NextActionOption.targetState from
      List.mem_map.mp hlisted
    rw [htargets, List.map_id]
    unfold decisionRequirement at hrequirement
    by_cases hwaiting : p.current.currentState = .waitingHuman
    · rw [if_pos hwaiting, Query.may_map] at hrequirement
      obtain ⟨pending, hpending, rfl⟩ := hrequirement
      obtain ⟨bound, hbound⟩ := hpasses.exists_bound hwaiting htarget
      have hresume := requiredResumeState_eq hpending (Query.may_eq_iff.mpr hbound)
      exact List.mem_singleton.mpr hresume.symm
    · rw [if_neg hwaiting, Query.may_pure] at hrequirement
      subst hrequirement
      exact hprepared.target_mem

end Preview

omit [Platform] in
/-- The preview of a task behind its intake. -/
theorem preview_states_gate_classification :
    letI := demoPlatform
    ∃ preview, (nextActionPreview demoEngine "task-1").run demoWorld = .ok preview ∧
      ∃ option ∈ preview.options, option.targetState = .readyForClassification ∧
        option.evidenceContract.Admits demoArgs₁.evidencePaths.length := by
  let _ := demoPlatform
  have hread := storedChain_demoWorld.readTaskState_eq
  have hlineage := storedChain_demoWorld.trustedAuditLineage_eq (by simp [stateOfCreation])
    (by simp)
  have hoptions : ∀ target ∈ repositoryTargets .draft, ∃ option,
      (nextActionOption demoEngine (stateOfCreation demoCreation) .draft target).May
        (· = demoWorld) (.ok option) := by
    have htargets : repositoryTargets .draft = [.readyForClassification, .abandoned] := rfl
    intro target htarget
    rw [htargets, List.mem_pair] at htarget
    rcases htarget with rfl | rfl
    · exact ⟨_, rfl⟩
    · exact ⟨_, rfl⟩
  obtain ⟨options, hlisted⟩ := exists_forall₂_of_forall hoptions
  have hpreview : (nextActionPreview demoEngine "task-1").run demoWorld
      = .ok ⟨stateOfCreation demoCreation, none, options⟩ := by
    rw [← Query.may_eq_iff]
    simp only [nextActionPreview, Query.may_bind, may_status, may_trustedLineage, Query.may_pure]
    refine ⟨_, ⟨_, rfl, hread⟩, _, ⟨_, rfl, hlineage⟩, .draft, rfl, none, rfl, options, ?_, rfl⟩
    exact Query.may_mapM.mpr hlisted
  obtain ⟨hstates, hlists⟩ := @preview_states_gate demoPlatform demoEngine demoWorld demoArgs₁ _ _ _ hpreview demoWorld_moves
  obtain ⟨option, hoption, htarget⟩ := hlists (by decide)
  exact ⟨_, hpreview, option, hoption, htarget, (hstates option hoption htarget).2⟩

end Acgps
