import Acgps.Workflow.Bindings

/-!
# Transition and initialization requests

The two requests that the engine builds before it commits anything, and their validators.

## Main Definitions

* `TransitionRequest` - what `advance` asks for
* `InitializationRequest` - what `intake` asks for
* `validateTransitionRequest`, `validateTaskInitializationRequest`

## Key Theorems

* `validateTransitionRequest_eq_ok_iff` - the validator accepts the printed valid requests
* `validateTaskInitializationRequest_eq_ok_iff` - so does the other one
-/

namespace Acgps

open Checked

variable [Digest]

/-! ## Section 1: Transitions -/

/-- A request for a transition. -/
structure TransitionRequest where
  transitionId : SafeId
  taskId : SafeId
  projectId : SafeId
  fromState : TaskState
  toState : TaskState
  actor : Actor
  idempotencyKey : { s : String // s ≠ "" }
  policyEvaluationBinding : PolicyEvaluationBinding
  evidenceBindings : List EvidenceBinding
  decisionResolutionBinding : Option DecisionResolutionBinding
  createdAtUtc : Utc

/-- `TRANSITION_REQUEST_FIELDS`. -/
def transitionRequestFields : List String :=
  ["actor", "created_at_utc", "decision_resolution_binding", "evidence_bindings", "from_state",
    "idempotency_key", "policy_evaluation_binding", "project_id", "schema_version", "task_id",
    "to_state", "transition_id"]

omit [Digest] in
theorem transitionRequestFields_sorted : transitionRequestFields.Pairwise (· < ·) := by
  decide +kernel

namespace TransitionRequest

/-- The request as a mapping. -/
def toMapping (r : TransitionRequest) : Mapping where
  entries :=
    [("actor", r.actor.toJson), ("created_at_utc", .str r.createdAtUtc.val),
      ("decision_resolution_binding",
        Json.ofOption DecisionResolutionBinding.toJson r.decisionResolutionBinding),
      ("evidence_bindings", evidenceListJson r.evidenceBindings),
      ("from_state", r.fromState.toJson), ("idempotency_key", .str r.idempotencyKey.val),
      ("policy_evaluation_binding", r.policyEvaluationBinding.toJson),
      ("project_id", .str r.projectId.val), ("schema_version", .int 1),
      ("task_id", .str r.taskId.val), ("to_state", r.toState.toJson),
      ("transition_id", .str r.transitionId.val)]
  sorted := transitionRequestFields_sorted

/-- The request as a value. -/
def toJson (r : TransitionRequest) : Json := r.toMapping.toJson

/-- What a resumption has to be authorised for. -/
def expectation (r : TransitionRequest) : DecisionExpectation :=
  ⟨some r.toState, some r.projectId, some r.taskId⟩

/-- The target is authorised by an embedded policy result of the same task; a decision is bound from
`WAITING_HUMAN`, and only from there. -/
structure Valid (r : TransitionRequest) : Prop where
  policy : r.policyEvaluationBinding.Valid
  embedded : ∃ record, r.policyEvaluationBinding.source = .embedded record ∧
    record.val.field "project_id" = .str r.projectId.val ∧
    record.val.field "task_id" = .str r.taskId.val
  authorized : r.toState ∈ r.policyEvaluationBinding.authorizedTransitions
  resumes : r.fromState = .waitingHuman ↔ r.decisionResolutionBinding.isSome = true
  decision : ∀ d ∈ r.decisionResolutionBinding, d.Valid ∧ r.expectation.Met d
  evidence : EvidenceListValid r.evidenceBindings

end TransitionRequest

/-- The policy binding of a request: it embeds a result of the same task that authorises the
target. -/
def validateRequestPolicy (policy : PolicyEvaluationBinding) (taskId projectId : SafeId)
    (toState : TaskState) : Check Unit := do
  let code := "WORKFLOW_POLICY_RESULT_INVALID"
  match policy.source with
  | .path _ =>
      .error (invalidOutcome code "policy_evaluation_binding.source"
        "Task 1 transition validation requires an embedded validated policy result")
  | .embedded record => do
      let mismatch := fun (field : String) =>
        invalidOutcome code ("policy_evaluation_binding.embedded_record." ++ field)
          [.text "embedded policy ", .text field, .text " must match transition request"]
      require (record.val.field "project_id" = .str projectId.val) (mismatch "project_id")
      require (record.val.field "task_id" = .str taskId.val) (mismatch "task_id")
      require (toState ∈ policy.authorizedTransitions)
        (invalidOutcome code "policy_evaluation_binding.authorized_transitions"
          "target state is not authorized by policy binding")

/-- The decision binding of a request. -/
def validateRequestDecision (record : Json) (fromState : TaskState)
    (expected : DecisionExpectation) : Check (Option DecisionResolutionBinding) :=
  if fromState = .waitingHuman then
    some <$> validateHumanDecisionResolutionBinding record expected
  else do
    require (record = .null)
      (decisionBindingInvalid "decision_resolution_binding"
        "decision binding is only valid from WAITING_HUMAN")
    return none

/-- `validate_transition_request`. -/
def validateTransitionRequest (record : Json) : Check TransitionRequest := do
  let data ← requireMapping record
    (invalidOutcome "WORKFLOW_INVALID_INPUT" "$" "transition request must be a mapping")
  validateExactMapping data transitionRequestFields "transition request" ""
  validateSchemaVersion (data.get "schema_version") "schema_version"
  let transitionId ← requireSafeId (data.get "transition_id") "transition_id"
  let taskId ← requireSafeId (data.get "task_id") "task_id"
  let projectId ← requireSafeId (data.get "project_id") "project_id"
  let idempotencyKey ← requireNonEmptyString (data.get "idempotency_key") "idempotency_key"
  let fromState ← requireMember TaskState.ofName (data.get "from_state") "from_state"
    "WORKFLOW_UNKNOWN_STATE"
  let toState ← requireMember TaskState.ofName (data.get "to_state") "to_state"
    "WORKFLOW_UNKNOWN_STATE"
  let actor ← requireMember Actor.ofName (data.get "actor") "actor" "WORKFLOW_INVALID_INPUT"
  let createdAtUtc ← validateUtc (data.get "created_at_utc") "created_at_utc"
  let policy ← validatePolicyEvaluationBinding (data.get "policy_evaluation_binding")
  validateRequestPolicy policy taskId projectId toState
  let decision ← validateRequestDecision (data.get "decision_resolution_binding") fromState
    ⟨some toState, some projectId, some taskId⟩
  let items ← expect (data.get "evidence_bindings").asList
    (invalidOutcome "WORKFLOW_INVALID_INPUT" "evidence_bindings" "evidence_bindings must be a list")
  let evidence ← validateEvidenceBindingsFrom "evidence_bindings" 0 [] items
  return ⟨transitionId, taskId, projectId, fromState, toState, actor, idempotencyKey, policy,
    evidence, decision, createdAtUtc⟩

omit [Digest] in
theorem validateRequestPolicy_eq_ok {policy : PolicyEvaluationBinding} {taskId projectId : SafeId}
    {toState : TaskState} {u : Unit} :
    validateRequestPolicy policy taskId projectId toState = .ok u ↔
      (∃ record, policy.source = .embedded record ∧
        record.val.field "project_id" = .str projectId.val ∧
        record.val.field "task_id" = .str taskId.val) ∧
      toState ∈ policy.authorizedTransitions := by
  unfold validateRequestPolicy
  cases policy.source with
  | path p => simp
  | embedded record => simp [and_assoc]

theorem validateRequestDecision_eq_ok {record : Json} {fromState : TaskState}
    {expected : DecisionExpectation} {decision : Option DecisionResolutionBinding} :
    validateRequestDecision record fromState expected = .ok decision ↔
      record = Json.ofOption DecisionResolutionBinding.toJson decision ∧
      (fromState = .waitingHuman ↔ decision.isSome = true) ∧
      ∀ d ∈ decision, d.Valid ∧ expected.Met d := by
  by_cases hwaiting : fromState = .waitingHuman
  · simp only [validateRequestDecision, hwaiting, if_true, map_eq_ok,
      validateHumanDecisionResolutionBinding_eq_ok_iff, true_iff]
    cases decision with
    | none => simp
    | some d => simp
  · simp only [validateRequestDecision, hwaiting, if_false, bind_eq_ok, require_eq_ok, pure_eq_ok,
      exists_const, false_iff]
    cases decision with
    | none => simp
    | some d => simp

/-- **The transition validator accepts the printed valid requests.** -/
theorem validateTransitionRequest_eq_ok_iff {record : Json} {r : TransitionRequest} :
    validateTransitionRequest record = .ok r ↔ record = r.toJson ∧ r.Valid := by
  have hevidence : ∀ {value : Json} {bindings : List EvidenceBinding},
      (∃ items, value = .arr items ∧
        validateEvidenceBindingsFrom "evidence_bindings" 0 [] items = .ok bindings) ↔
      value = evidenceListJson bindings ∧ EvidenceListValid bindings := by
    intro value bindings
    rw [← @validateEvidenceBindingList_eq_ok _ value "evidence_bindings"]
    simp only [validateEvidenceBindingList, bind_eq_ok, expect_eq_ok, Json.asList_eq_some]
  simp only [validateTransitionRequest, bind_eq_ok, requireMapping_eq_ok,
    validateExactMapping_eq_ok_iff transitionRequestFields_sorted, validateSchemaVersion_eq_ok,
    requireSafeId_eq_ok, requireNonEmptyString_eq_ok, requireMember_taskState, requireMember_actor,
    validateUtc_eq_ok, validatePolicyEvaluationBinding_eq_ok_iff, validateRequestPolicy_eq_ok,
    validateRequestDecision_eq_ok, expect_eq_ok, Json.asList_eq_some, pure_eq_ok]
  constructor
  · rintro ⟨data, rfl, _, hkeys, _, hversion, id, hid, task, htask, project, hproject, key, hkey,
      source, hsource, target, htarget, actor, hactor, t, ht, policy, ⟨hpolicy, hvalid⟩, _,
      ⟨hembedded, hauthorized⟩, decision, ⟨hdecision, hresumes, hmet⟩, items, hitems, bindings,
      hbindings, rfl⟩
    obtain ⟨hlist, hlistValid⟩ := hevidence.mp ⟨items, hitems, hbindings⟩
    refine ⟨?_, hvalid, hembedded, hauthorized, hresumes, hmet, hlistValid⟩
    rw [Mapping.toJson, Mapping.entries_eq_map_get, hkeys]
    simp [transitionRequestFields, TransitionRequest.toJson, TransitionRequest.toMapping,
      Mapping.toJson, hid, htask, hproject, hkey, hsource, htarget, hactor, ht, hpolicy, hdecision,
      hlist, hversion]
  · rintro ⟨rfl, hvalid⟩
    obtain ⟨items, hitems, hbindings⟩ := hevidence.mpr ⟨rfl, hvalid.evidence⟩
    exact ⟨r.toMapping, rfl, (), rfl, (), rfl, r.transitionId, rfl, r.taskId, rfl, r.projectId, rfl,
      r.idempotencyKey, rfl, r.fromState, rfl, r.toState, rfl, r.actor, rfl, r.createdAtUtc, rfl,
      r.policyEvaluationBinding, ⟨rfl, hvalid.policy⟩, (), ⟨hvalid.embedded, hvalid.authorized⟩,
      r.decisionResolutionBinding, ⟨rfl, hvalid.resumes, hvalid.decision⟩, items, hitems,
      r.evidenceBindings, hbindings, rfl⟩

/-! ## Section 2: Initializations -/

/-- A request for a new task. -/
structure InitializationRequest where
  initializationId : SafeId
  taskId : SafeId
  projectId : SafeId
  actor : Actor
  idempotencyKey : { s : String // s ≠ "" }
  taskIntakeBinding : EvidenceBinding
  createdAtUtc : Utc

/-- `INITIALIZATION_REQUEST_FIELDS`. -/
def initializationRequestFields : List String :=
  ["actor", "created_at_utc", "idempotency_key", "initial_state", "initialization_id", "project_id",
    "schema_version", "task_id", "task_intake_binding"]

omit [Digest] in
theorem initializationRequestFields_sorted : initializationRequestFields.Pairwise (· < ·) := by
  decide +kernel

namespace InitializationRequest

/-- The request as a mapping. -/
def toMapping (r : InitializationRequest) : Mapping where
  entries :=
    [("actor", r.actor.toJson), ("created_at_utc", .str r.createdAtUtc.val),
      ("idempotency_key", .str r.idempotencyKey.val), ("initial_state", TaskState.draft.toJson),
      ("initialization_id", .str r.initializationId.val), ("project_id", .str r.projectId.val),
      ("schema_version", .int 1), ("task_id", .str r.taskId.val),
      ("task_intake_binding", r.taskIntakeBinding.toJson)]
  sorted := initializationRequestFields_sorted

/-- The request as a value. -/
def toJson (r : InitializationRequest) : Json := r.toMapping.toJson

end InitializationRequest

/-- `validate_task_initialization_request`. -/
def validateTaskInitializationRequest (record : Json) : Check InitializationRequest := do
  let data ← requireMapping record
    (invalidOutcome "WORKFLOW_INVALID_INPUT" "$" "initialization request must be a mapping")
  validateExactMapping data initializationRequestFields "initialization request" ""
  validateSchemaVersion (data.get "schema_version") "schema_version"
  let initializationId ← requireSafeId (data.get "initialization_id") "initialization_id"
  let taskId ← requireSafeId (data.get "task_id") "task_id"
  let projectId ← requireSafeId (data.get "project_id") "project_id"
  let _ ← requireMember (fun word => if word = "DRAFT" then some TaskState.draft else none)
    (data.get "initial_state") "initial_state" "WORKFLOW_ILLEGAL_TRANSITION"
  let actor ← requireMember Actor.ofName (data.get "actor") "actor" "WORKFLOW_INVALID_INPUT"
  let idempotencyKey ← requireNonEmptyString (data.get "idempotency_key") "idempotency_key"
  let createdAtUtc ← validateUtc (data.get "created_at_utc") "created_at_utc"
  let intake ← validateEvidenceBinding (data.get "task_intake_binding") "task_intake_binding"
  return ⟨initializationId, taskId, projectId, actor, idempotencyKey, intake, createdAtUtc⟩

omit [Digest] in
private theorem requireMember_draft {value : Json} {path code : String} {s : TaskState} :
    requireMember (fun word => if word = "DRAFT" then some TaskState.draft else none) value path code
        = .ok s ↔ value = TaskState.draft.toJson ∧ s = .draft := by
  simp only [requireMember, expect_eq_ok, Option.bind_eq_some_iff, Json.asStr_eq_some,
    Option.ite_none_right_eq_some, Option.some.injEq]
  constructor
  · rintro ⟨_, rfl, rfl, rfl⟩
    exact ⟨rfl, rfl⟩
  · rintro ⟨rfl, rfl⟩
    exact ⟨"DRAFT", rfl, rfl, rfl⟩

/-- **The initialization validator accepts the printed requests with a valid intake binding.** -/
theorem validateTaskInitializationRequest_eq_ok_iff {record : Json} {r : InitializationRequest} :
    validateTaskInitializationRequest record = .ok r ↔
      record = r.toJson ∧ r.taskIntakeBinding.Valid := by
  simp only [validateTaskInitializationRequest, bind_eq_ok, requireMapping_eq_ok,
    validateExactMapping_eq_ok_iff initializationRequestFields_sorted, validateSchemaVersion_eq_ok,
    requireSafeId_eq_ok, requireMember_draft, requireMember_actor, requireNonEmptyString_eq_ok,
    validateUtc_eq_ok, validateEvidenceBinding_eq_ok_iff, pure_eq_ok]
  constructor
  · rintro ⟨data, rfl, _, hkeys, _, hversion, id, hid, task, htask, project, hproject, _,
      ⟨hinitial, _⟩, actor, hactor, key, hkey, t, ht, intake, ⟨hintake, hvalid⟩, rfl⟩
    refine ⟨?_, hvalid⟩
    rw [Mapping.toJson, Mapping.entries_eq_map_get, hkeys]
    simp [initializationRequestFields, InitializationRequest.toJson,
      InitializationRequest.toMapping, Mapping.toJson, hid, htask, hproject, hinitial, hactor, hkey,
      ht, hintake, hversion]
  · rintro ⟨rfl, hvalid⟩
    exact ⟨r.toMapping, rfl, (), rfl, (), rfl, r.initializationId, rfl, r.taskId, rfl, r.projectId,
      rfl, .draft, ⟨rfl, rfl⟩, r.actor, rfl, r.idempotencyKey, rfl, r.createdAtUtc, rfl,
      r.taskIntakeBinding, ⟨rfl, hvalid⟩, rfl⟩

end Acgps
