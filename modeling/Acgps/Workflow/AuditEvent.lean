import Acgps.Workflow.Records

/-!
# Audit events

The record of the audit log and its validator, with the field matrix, the generation roles and the
context bindings that the invariants catalog states for each event type.

## Main Definitions

* `AuditEvent`, `AuditEvent.Valid`
* `validateAuditEvent` - `validate_audit_event`

## Key Theorems

* `validateAuditEvent_eq_ok_iff` - the validator accepts exactly the printed valid events
* `AuditEvent.eq_of_hash_eq` - under an injective digest two valid events with one hash are equal
-/

namespace Acgps

open Checked

variable [Digest]

/-! ## Section 1: The record -/

/-- One event of a task's audit log. -/
structure AuditEvent where
  eventId : SafeId
  generation : PosNat
  sequence : PosNat
  projectId : SafeId
  taskId : SafeId
  eventType : EventType
  actor : Actor
  fromState : Option TaskState
  toState : Option TaskState
  transitionId : Option SafeId
  policyEvaluationBinding : Option PolicyEvaluationBinding
  evidenceBindings : List EvidenceBinding
  decisionResolutionBinding : Option DecisionResolutionBinding
  previousEventHash : Option Sha256Hex
  eventHash : Sha256Hex
  createdAtUtc : Utc
  details : Mapping

/-- `AUDIT_EVENT_FIELDS`. -/
def auditEventFields : List String :=
  ["actor", "created_at_utc", "decision_resolution_binding", "details", "event_hash", "event_id",
    "event_type", "evidence_bindings", "from_state", "generation", "policy_evaluation_binding",
    "previous_event_hash", "project_id", "schema_version", "sequence", "task_id", "to_state",
    "transition_id"]

omit [Digest] in
theorem auditEventFields_sorted : auditEventFields.Pairwise (· < ·) := by
  decide +kernel

namespace AuditEvent

/-- The event as a mapping, with a given value for its hash. -/
def withHash (e : AuditEvent) (hash : Json) : Mapping where
  entries :=
    [("actor", e.actor.toJson), ("created_at_utc", .str e.createdAtUtc.val),
      ("decision_resolution_binding",
        Json.ofOption DecisionResolutionBinding.toJson e.decisionResolutionBinding),
      ("details", e.details.toJson), ("event_hash", hash), ("event_id", .str e.eventId.val),
      ("event_type", e.eventType.toJson),
      ("evidence_bindings", evidenceListJson e.evidenceBindings),
      ("from_state", Json.ofOption TaskState.toJson e.fromState),
      ("generation", .int e.generation.val),
      ("policy_evaluation_binding",
        Json.ofOption PolicyEvaluationBinding.toJson e.policyEvaluationBinding),
      ("previous_event_hash", Json.ofOption testedJson e.previousEventHash),
      ("project_id", .str e.projectId.val), ("schema_version", .int 1),
      ("sequence", .int e.sequence.val), ("task_id", .str e.taskId.val),
      ("to_state", Json.ofOption TaskState.toJson e.toState),
      ("transition_id", Json.ofOption testedJson e.transitionId)]
  sorted := auditEventFields_sorted

/-- The event as a mapping. -/
def toMapping (e : AuditEvent) : Mapping := e.withHash (.str e.eventHash.val)

/-- The event as a value. -/
def toJson (e : AuditEvent) : Json := e.toMapping.toJson

/-- What the event hash is the digest of: the event without its hash. -/
def preimage (e : AuditEvent) : Json := (e.withHash .null).toJson

end AuditEvent

/-- The details of a recovery or rollback event. -/
structure RecoveryDetails where
  recoveryId : SafeId
  recoveryAction : String
  recoveryTransactionId : SafeId
  previousTrustedPrefix : TrustedPrefix
  quarantinePath : SafePath
  auditGeneration : AuditGeneration

/-- The keys of the details of a recovery event. -/
def recoveryDetailFields : List String :=
  ["audit_generation", "previous_trusted_prefix", "quarantine_path", "recovery_action",
    "recovery_id", "recovery_transaction_id", "threat_model"]

omit [Digest] in
theorem recoveryDetailFields_sorted : recoveryDetailFields.Pairwise (· < ·) := by
  decide +kernel

/-- The details as a mapping. -/
def RecoveryDetails.toMapping (r : RecoveryDetails) : Mapping where
  entries :=
    [("audit_generation", r.auditGeneration.toJson),
      ("previous_trusted_prefix", r.previousTrustedPrefix.toJson),
      ("quarantine_path", .str r.quarantinePath.val), ("recovery_action", .str r.recoveryAction),
      ("recovery_id", .str r.recoveryId.val),
      ("recovery_transaction_id", .str r.recoveryTransactionId.val),
      ("threat_model", .str threatModel)]
  sorted := recoveryDetailFields_sorted

/-- The details of a task creation as a mapping. -/
def creationDetails (g : AuditGeneration) : Mapping where
  entries := [("audit_generation", g.toJson)]
  sorted := List.pairwise_singleton _ _

/-- `RECOVERY_ACTIONS`. -/
def recoveryActions : List String :=
  ["replay", "quarantine_and_start_generation", "rollback_to_valid_prefix",
    "classify_threat_model_limit"]

/-! ## Section 2: Validity -/

/-- A generation record names the event that starts the generation. -/
structure AuditGeneration.StartedBy (g : AuditGeneration) (e : AuditEvent) : Prop where
  valid : g.Valid
  generation : g.generation = e.generation
  taskId : g.taskId = e.taskId
  eventId : g.startedByEventId = e.eventId
  eventType : g.startedByEventType = e.eventType

/-- The event carries none of the fields of a transition. -/
structure AuditEvent.NoTransition (e : AuditEvent) : Prop where
  fromState : e.fromState = none
  toState : e.toState = none
  transitionId : e.transitionId = none
  policy : e.policyEvaluationBinding = none
  decision : e.decisionResolutionBinding = none
  evidence : e.evidenceBindings = []

/-- A creation starts generation one. -/
structure AuditEvent.IsCreation (e : AuditEvent) (g : AuditGeneration) : Prop where
  sequence : e.sequence.val = 1
  generation : e.generation.val = 1
  noTransition : e.NoTransition
  details : e.details = creationDetails g
  startedBy : g.StartedBy e

/-- A recovery starts a later generation on a trusted prefix of an earlier one. -/
structure AuditEvent.IsRecovery (e : AuditEvent) (r : RecoveryDetails) : Prop where
  sequence : e.sequence.val = 1
  generation : 2 ≤ e.generation.val
  noTransition : e.NoTransition
  details : e.details = r.toMapping
  action : r.recoveryAction ∈ recoveryActions
  eventType : e.eventType =
    if r.recoveryAction = "rollback_to_valid_prefix" then .rollbackRecorded else .recoveryRecorded
  startedBy : r.auditGeneration.StartedBy e
  predecessor : r.auditGeneration.predecessorGeneration = some r.previousTrustedPrefix.generation
  predecessorHash :
    r.auditGeneration.predecessorValidHeadHash = some r.previousTrustedPrefix.eventHash
  quarantine : r.auditGeneration.quarantinePath = some r.quarantinePath

/-- What a decision binding of an event has to agree with. -/
def AuditEvent.expectation (e : AuditEvent) : DecisionExpectation :=
  ⟨e.toState, some e.projectId, some e.taskId⟩

/-- A transition moves between two states under an embedded policy result of the same task that
authorises its target; from `WAITING_HUMAN`, and only from there, it binds a decision. -/
structure AuditEvent.IsTransition (e : AuditEvent) (source target : TaskState) (transition : SafeId)
    (policy : PolicyEvaluationBinding) (record : Embedded) : Prop where
  sequence : e.sequence.val ≠ 1
  fromState : e.fromState = some source
  toState : e.toState = some target
  transitionId : e.transitionId = some transition
  policyBinding : e.policyEvaluationBinding = some policy
  embedded : policy.source = .embedded record
  projectId : record.val.field "project_id" = .str e.projectId.val
  taskId : record.val.field "task_id" = .str e.taskId.val
  authorized : target ∈ policy.authorizedTransitions
  evidence : e.evidenceBindings ≠ []
  decision : ∀ d ∈ e.decisionResolutionBinding, source = .waitingHuman ∧ e.expectation.Met d
  resumes : source = .waitingHuman → e.decisionResolutionBinding ≠ none

/-- What an event of each type carries. -/
def AuditEvent.Body (e : AuditEvent) : Prop :=
  match e.eventType with
  | .taskCreated => ∃ g, e.IsCreation g
  | .transitionAccepted => ∃ source target transition policy record,
      e.IsTransition source target transition policy record
  | .recoveryRecorded | .rollbackRecorded => ∃ r, e.IsRecovery r

/-- A valid event. -/
structure AuditEvent.Valid (e : AuditEvent) : Prop where
  previousHash : e.sequence.val = 1 ↔ e.previousEventHash = none
  evidence : EvidenceListValid e.evidenceBindings
  policy : ∀ p ∈ e.policyEvaluationBinding, p.Valid
  decision : ∀ d ∈ e.decisionResolutionBinding, d.Valid
  body : e.Body
  hash : canonicalSha e.preimage = e.eventHash.val

/-! ## Section 3: The invariants catalog -/

/-- What the catalog states for an event type. -/
structure EventRole where
  required : List (List String)
  nullable : List (List String)
  empty : List (List String)
  nonEmpty : List (List String)
  sequenceMustNotBe : Option Nat
  sequence : Option Nat
  generation : Option Nat
  minimumGeneration : Option Nat
  firstEventType : Option EventType

/-- The fields that an event without a transition leaves null. -/
def transitionFieldPaths : List (List String) :=
  [["from_state"], ["to_state"], ["transition_id"], ["policy_evaluation_binding"],
    ["decision_resolution_binding"]]

/-- The details of a recovery or rollback event. -/
def recoveryDetailPaths : List (List String) :=
  [["details", "recovery_id"], ["details", "recovery_action"],
    ["details", "recovery_transaction_id"], ["details", "previous_trusted_prefix"],
    ["details", "quarantine_path"], ["details", "threat_model"], ["details", "audit_generation"]]

/-- `event_type_matrix` of the invariants catalog. -/
def eventTypeMatrix : EventType → EventRole
  | .taskCreated =>
      { required := [["details", "audit_generation"]], nullable := transitionFieldPaths,
        empty := [["evidence_bindings"]], nonEmpty := [], sequenceMustNotBe := none,
        sequence := some 1, generation := some 1, minimumGeneration := none,
        firstEventType := some .taskCreated }
  | .transitionAccepted =>
      { required := [["from_state"], ["to_state"], ["transition_id"], ["policy_evaluation_binding"]],
        nullable := [["decision_resolution_binding"]], empty := [],
        nonEmpty := [["evidence_bindings"]], sequenceMustNotBe := some 1, sequence := none,
        generation := none, minimumGeneration := none, firstEventType := none }
  | .recoveryRecorded =>
      { required := recoveryDetailPaths, nullable := transitionFieldPaths,
        empty := [["evidence_bindings"]], nonEmpty := [], sequenceMustNotBe := none,
        sequence := some 1, generation := none, minimumGeneration := some 2,
        firstEventType := some .recoveryRecorded }
  | .rollbackRecorded =>
      { required := recoveryDetailPaths, nullable := transitionFieldPaths,
        empty := [["evidence_bindings"]], nonEmpty := [], sequenceMustNotBe := none,
        sequence := some 1, generation := none, minimumGeneration := some 2,
        firstEventType := some .rollbackRecorded }

/-- `_get_path`; a path is present when its value is not `None`. -/
def getPath (record : Json) : List String → Json
  | [] => record
  | part :: rest =>
      match record.asMapping with
      | some data => getPath (data.get part) rest
      | none => .null

/-- The code of an event that is not valid. -/
def auditCorrupt (path : String) (message : Text) : Rejection :=
  invalidOutcome "WORKFLOW_AUDIT_CORRUPT" path message

/-- `_validate_audit_event_field_matrix`. -/
def validateAuditEventFieldMatrix (data : Mapping) (eventType : EventType) : Check Unit := do
  let role := eventTypeMatrix eventType
  let dotted := fun path : List String => ".".intercalate path
  forM role.required (fun path => require (getPath data.toJson path ≠ .null)
    (auditCorrupt (dotted path) "audit event type requires this field"))
  checkWhen (eventType ≠ .transitionAccepted) (forM role.nullable (fun path =>
    require (getPath data.toJson path = .null)
      (auditCorrupt (dotted path) "audit event type requires this field to be null")))
  forM role.empty (fun path => require (getPath data.toJson path = .arr [])
    (auditCorrupt (dotted path) "audit event type requires this field to be empty"))
  forM role.nonEmpty (fun path => require ((getPath data.toJson path).isNonEmptyList = true)
    (auditCorrupt (dotted path) "audit event type requires a non-empty list"))

/-- `_validate_audit_event_generation_role`. -/
def validateAuditEventGenerationRole (e : AuditEvent) : Check Unit := do
  let role := eventTypeMatrix e.eventType
  require (∀ n ∈ role.sequenceMustNotBe, e.sequence.val ≠ n)
    (auditCorrupt "event_type" "event type is not valid as a generation starter")
  require (∀ n ∈ role.sequence, e.sequence.val = n)
    (auditCorrupt "sequence" "event generation role sequence mismatch")
  require (∀ n ∈ role.generation, e.generation.val = n)
    (auditCorrupt "generation" "event generation role mismatch")
  require (∀ n ∈ role.minimumGeneration, n ≤ e.generation.val)
    (auditCorrupt "generation" "event generation is below role minimum")
  require (e.sequence.val = 1 → role.firstEventType = some e.eventType)
    (auditCorrupt "event_type" "first event type does not match generation role")

/-- The policy result of a transition event belongs to the event's task. -/
def validatePolicyContext (e : AuditEvent) (embedded : Json) : Check Unit :=
  checkWhen (embedded ≠ .null) (do
    require (embedded.field "project_id" = .str e.projectId.val)
      (auditCorrupt "policy_evaluation_binding.embedded_record.project_id"
        "policy binding context must match audit event")
    require (embedded.field "task_id" = .str e.taskId.val)
      (auditCorrupt "policy_evaluation_binding.embedded_record.task_id"
        "policy binding context must match audit event"))

/-- The decision of a transition event. -/
def validateDecisionContext (e : AuditEvent) : Check Unit :=
  match e.decisionResolutionBinding with
  | some decision => do
      require (e.fromState = some .waitingHuman)
        (auditCorrupt "decision_resolution_binding"
          "decision binding is only valid from the catalog-declared source state")
      let _ ← withCode "WORKFLOW_AUDIT_CORRUPT"
        (validateHumanDecisionResolutionBinding decision.toJson e.expectation)
  | none =>
      require (e.fromState ≠ some .waitingHuman)
        (auditCorrupt "decision_resolution_binding"
          "catalog-declared human-resume transition requires decision binding")

/-- `_validate_audit_event_context_bindings`. -/
def validateAuditEventContextBindings (e : AuditEvent) : Check Unit :=
  checkWhen (e.eventType = .transitionAccepted) (do
    let policy ← expect e.policyEvaluationBinding
      (auditCorrupt "policy_evaluation_binding" "transition audit requires policy binding")
    validatePolicyContext e policy.source.recordJson
    require (∃ target ∈ policy.authorizedTransitions, e.toState = some target)
      (auditCorrupt "policy_evaluation_binding.authorized_transitions"
        "policy binding does not authorize audit event target")
    validateDecisionContext e)

/-! ## Section 4: The validator -/

/-- The coordinates of an event in its generation. -/
def validateSequence (sequence generation : PosNat) (eventType : EventType)
    (previousEventHash : Option Sha256Hex) : Check Unit := do
  require (¬ (sequence.val = 1 ∧ previousEventHash ≠ none))
    (auditCorrupt "previous_event_hash" "sequence 1 must not have previous_event_hash")
  require (¬ (1 < sequence.val ∧ previousEventHash = none))
    (auditCorrupt "previous_event_hash" "sequence greater than 1 requires previous_event_hash")
  require (¬ (eventType = .taskCreated ∧ (generation.val ≠ 1 ∨ sequence.val ≠ 1)))
    (auditCorrupt "event_type" "TASK_CREATED is only valid for generation 1 sequence 1")

/-- The policy binding of an event, if there is one. -/
def validateEventPolicy (value : Json) (eventType : EventType) : Check PolicyEvaluationBinding := do
  let policy ← withCode "WORKFLOW_AUDIT_CORRUPT" (validatePolicyEvaluationBinding value)
  require (¬ (eventType = .transitionAccepted ∧ policy.source.sourceJson ≠ .str "embedded"))
    (auditCorrupt "policy_evaluation_binding.source"
      "Task 1 transition audit validation requires an embedded validated policy result")
  return policy

/-- The fields of an event, each read in the order of the source. -/
def validateEventFields (data : Mapping) : Check AuditEvent := do
  let code := "WORKFLOW_AUDIT_CORRUPT"
  withCode code (validateExactMapping data auditEventFields "audit event" "")
  withCode code (validateSchemaVersion (data.get "schema_version") "schema_version")
  let eventId ← withCode code (requireSafeId (data.get "event_id") "event_id")
  let generation ← withCode code (requirePositiveInt (data.get "generation") "generation")
  let sequence ← withCode code (requirePositiveInt (data.get "sequence") "sequence")
  let projectId ← withCode code (requireSafeId (data.get "project_id") "project_id")
  let taskId ← withCode code (requireSafeId (data.get "task_id") "task_id")
  let eventType ← withCode code
    (requireMember EventType.ofName (data.get "event_type") "event_type" code)
  let actor ← withCode code
    (requireMember Actor.ofName (data.get "actor") "actor" "WORKFLOW_INVALID_INPUT")
  let eventHash ← withCode code (requireSha (data.get "event_hash") "event_hash")
  let createdAtUtc ← withCode code (validateUtc (data.get "created_at_utc") "created_at_utc")
  let unknownState := fun path =>
    invalidOutcome "WORKFLOW_UNKNOWN_STATE" path "unknown workflow state"
  let fromState ← optionalState (data.get "from_state") (unknownState "from_state")
  let toState ← optionalState (data.get "to_state") (unknownState "to_state")
  let transitionId ← withCode code
    (optionally (requireSafeId · "transition_id") (data.get "transition_id"))
  let previousEventHash ← withCode code
    (optionally (requireSha · "previous_event_hash") (data.get "previous_event_hash"))
  validateSequence sequence generation eventType previousEventHash
  let details ← requireMapping (data.get "details")
    (auditCorrupt "details" "details must be a mapping")
  let evidenceBindings ← withCode code
    (validateEvidenceBindingList (data.get "evidence_bindings") "evidence_bindings")
  let policyEvaluationBinding ← optionally (validateEventPolicy · eventType)
    (data.get "policy_evaluation_binding")
  let decisionResolutionBinding ← optionally
    (fun value => withCode code (validateHumanDecisionResolutionBinding value .free))
    (data.get "decision_resolution_binding")
  return ⟨eventId, generation, sequence, projectId, taskId, eventType, actor, fromState, toState,
    transitionId, policyEvaluationBinding, evidenceBindings, decisionResolutionBinding,
    previousEventHash, eventHash, createdAtUtc, details⟩

/-- The generation record of a starting event, field by field. -/
def validateGenerationRecord (e : AuditEvent) (g : AuditGeneration) : Check Unit := do
  let path := fun field => "details.audit_generation." ++ field
  require (g.generation = e.generation)
    (auditCorrupt (path "generation") (if e.eventType = .taskCreated then
      "TASK_CREATED must start generation 1" else "audit generation must match event generation"))
  require (g.taskId = e.taskId)
    (auditCorrupt (path "task_id") "audit generation task_id must match event")
  require (g.startedByEventId = e.eventId)
    (auditCorrupt (path "started_by_event_id") "audit generation starter must match event")
  require (g.startedByEventType = e.eventType)
    (auditCorrupt (path "started_by_event_type") (if e.eventType = .taskCreated then
      "generation 1 must start with TASK_CREATED"
      else "audit generation starter type must match event"))

/-- The fields of a task creation. -/
def validateCreationBody (e : AuditEvent) : Check Unit := do
  let code := "WORKFLOW_AUDIT_CORRUPT"
  let carried : Text := "TASK_CREATED must not carry transition fields"
  require (e.transitionId = none) (auditCorrupt "transition_id" carried)
  require (e.fromState = none) (auditCorrupt "from_state" carried)
  require (e.toState = none) (auditCorrupt "to_state" carried)
  require (e.policyEvaluationBinding.isNone = true ∧ e.decisionResolutionBinding.isNone = true)
    (auditCorrupt "policy_evaluation_binding"
      "TASK_CREATED must not carry policy or decision bindings")
  require (e.details.keys = ["audit_generation"])
    (auditCorrupt "details.audit_generation" "TASK_CREATED requires only details.audit_generation")
  let g ← withCode code (validateAuditGeneration (e.details.get "audit_generation"))
  validateGenerationRecord e g

/-- The fields of a transition. -/
def validateTransitionBody (e : AuditEvent) : Check Unit := do
  require (e.fromState ≠ none)
    (auditCorrupt "from_state" "TRANSITION_ACCEPTED requires workflow states")
  require (e.toState ≠ none) (auditCorrupt "to_state" "TRANSITION_ACCEPTED requires workflow states")
  require (e.transitionId ≠ none)
    (auditCorrupt "transition_id" "TRANSITION_ACCEPTED requires transition_id")
  require (e.policyEvaluationBinding.isSome = true)
    (auditCorrupt "policy_evaluation_binding" "TRANSITION_ACCEPTED requires policy binding")
  require (e.evidenceBindings.isEmpty = false)
    (auditCorrupt "evidence_bindings" "TRANSITION_ACCEPTED requires evidence bindings")

/-- The fields of a recovery or rollback. The last comparison of the source, of the two threat
models, is left out: both are the only word of their list. -/
def validateRecoveryBody (e : AuditEvent) : Check Unit := do
  let code := "WORKFLOW_AUDIT_CORRUPT"
  let path := fun field => "details." ++ field
  require (e.sequence.val = 1)
    (auditCorrupt "sequence" "recovery events must start an audit generation")
  require (e.previousEventHash = none)
    (auditCorrupt "previous_event_hash"
      "generation-start recovery events must not have previous_event_hash")
  require (e.details.keys = recoveryDetailFields)
    (auditCorrupt "details" "recovery events require exact generation-start details")
  let trusted ← withCode code (validateTrustedPrefix (e.details.get "previous_trusted_prefix")
    (path "previous_trusted_prefix"))
  let _ ← withCode code (requireSafeId (e.details.get "recovery_id") (path "recovery_id"))
  let _ ← withCode code
    (requireSafeId (e.details.get "recovery_transaction_id") (path "recovery_transaction_id"))
  let action ← withCode code (requireMember (wordOf recoveryActions)
    (e.details.get "recovery_action") (path "recovery_action") code)
  let _ ← withCode code (requireMember (wordOf [threatModel]) (e.details.get "threat_model")
    (path "threat_model") code)
  let quarantine ← requireSafePath (e.details.get "quarantine_path")
    (auditCorrupt (path "quarantine_path") "quarantine_path must be safe relative POSIX path")
  let g ← withCode code (validateAuditGeneration (e.details.get "audit_generation"))
  require (e.eventType = if action.val = "rollback_to_valid_prefix" then .rollbackRecorded
      else .recoveryRecorded)
    (auditCorrupt "event_type" "event_type must match recovery action")
  validateGenerationRecord e g
  require (g.predecessorGeneration = some trusted.generation)
    (auditCorrupt (path "audit_generation.predecessor_generation")
      "predecessor generation must match trusted prefix")
  require (g.predecessorValidHeadHash = some trusted.eventHash)
    (auditCorrupt (path "audit_generation.predecessor_valid_head_hash")
      "predecessor hash must match trusted prefix")
  require (g.quarantinePath = some quarantine)
    (auditCorrupt (path "audit_generation.quarantine_path")
      "audit generation quarantine path must match details")

/-- The fields that belong to the type of the event. -/
def validateEventBody (e : AuditEvent) : Check Unit :=
  match e.eventType with
  | .taskCreated => validateCreationBody e
  | .transitionAccepted => validateTransitionBody e
  | .recoveryRecorded | .rollbackRecorded => validateRecoveryBody e

/-- `validate_audit_event`. -/
def validateAuditEvent (record : Json) : Check AuditEvent := do
  let data ← requireMapping record (auditCorrupt "$" "audit event must be a mapping")
  let e ← validateEventFields data
  validateEventBody e
  validateAuditEventFieldMatrix data e.eventType
  validateAuditEventGenerationRole e
  validateAuditEventContextBindings e
  require (canonicalSha (data.set "event_hash" .null).toJson = e.eventHash.val)
    (auditCorrupt "event_hash" "event_hash does not match canonical audit event bytes")
  return e

/-! ## Section 5: What the validator accepts -/

private theorem validateEventPolicy_eq_ok {value : Json} {eventType : EventType}
    {p : PolicyEvaluationBinding} :
    validateEventPolicy value eventType = .ok p ↔ value = p.toJson ∧ p.Valid ∧
      (eventType = .transitionAccepted → ∃ record, p.source = .embedded record) := by
  have hsource : p.source.sourceJson = .str "embedded" ↔ ∃ record, p.source = .embedded record := by
    cases p.source <;> simp [TaggedSource.sourceJson]
  simp only [validateEventPolicy, bind_eq_ok, withCode_eq_ok, require_eq_ok, pure_eq_ok,
    validatePolicyEvaluationBinding_eq_ok_iff, not_and, not_not]
  constructor
  · rintro ⟨_, ⟨rfl, hvalid⟩, _, hembedded, rfl⟩
    exact ⟨rfl, hvalid, fun h => hsource.mp (hembedded h)⟩
  · rintro ⟨rfl, hvalid, hembedded⟩
    exact ⟨p, ⟨rfl, hvalid⟩, (), fun h => hsource.mpr (hembedded h), rfl⟩

/-- What the field pass checks besides the form of each field. -/
structure AuditEvent.FieldsValid (e : AuditEvent) : Prop where
  previousHash : e.sequence.val = 1 ↔ e.previousEventHash = none
  creation : e.eventType = .taskCreated → e.generation.val = 1 ∧ e.sequence.val = 1
  evidence : EvidenceListValid e.evidenceBindings
  policy : ∀ p ∈ e.policyEvaluationBinding, p.Valid ∧
    (e.eventType = .transitionAccepted → ∃ record, p.source = .embedded record)
  decision : ∀ d ∈ e.decisionResolutionBinding, d.Valid

omit [Digest] in
private theorem validateSequence_eq_ok {sequence generation : PosNat} {eventType : EventType}
    {previous : Option Sha256Hex} {u : Unit} :
    validateSequence sequence generation eventType previous = .ok u ↔
      (sequence.val = 1 ↔ previous = none) ∧
        (eventType = .taskCreated → generation.val = 1 ∧ sequence.val = 1) := by
  have hpos := sequence.property
  have hlt : 1 < sequence.val ↔ sequence.val ≠ 1 := by omega
  simp only [validateSequence, bind_eq_ok, require_eq_ok, exists_const, hlt]
  tauto

private theorem optionally_policy_eq_ok {value : Json} {eventType : EventType}
    {p : Option PolicyEvaluationBinding} :
    optionally (validateEventPolicy · eventType) value = .ok p ↔
      value = Json.ofOption PolicyEvaluationBinding.toJson p ∧ ∀ q ∈ p, q.Valid ∧
        (eventType = .transitionAccepted → ∃ record, q.source = .embedded record) := by
  by_cases hnull : value = .null
  · cases p with
    | none => simp [optionally, hnull]
    | some q => simp [optionally, hnull, PolicyEvaluationBinding.toJson, Mapping.toJson]
  · cases p with
    | none => simp [optionally, hnull]
    | some q => simp [optionally, hnull, validateEventPolicy_eq_ok]

private theorem optionally_decision_eq_ok {value : Json} {code : String}
    {d : Option DecisionResolutionBinding} :
    optionally (fun v => withCode code (validateHumanDecisionResolutionBinding v .free)) value
        = .ok d ↔
      value = Json.ofOption DecisionResolutionBinding.toJson d ∧ ∀ x ∈ d, x.Valid := by
  by_cases hnull : value = .null
  · cases d with
    | none => simp [optionally, hnull]
    | some x => simp [optionally, hnull, DecisionResolutionBinding.toJson, Mapping.toJson]
  · cases d with
    | none => simp [optionally, hnull]
    | some x =>
        simp [optionally, hnull, validateHumanDecisionResolutionBinding_eq_ok_iff,
          DecisionExpectation.free_met]

private theorem validateEventFields_eq_ok {data : Mapping} {e : AuditEvent} :
    validateEventFields data = .ok e ↔ data = e.toMapping ∧ e.FieldsValid := by
  simp only [validateEventFields, bind_eq_ok, withCode_eq_ok, requireMapping_eq_ok,
    validateExactMapping_eq_ok_iff auditEventFields_sorted, validateSchemaVersion_eq_ok,
    requireSafeId_eq_ok, requirePositiveInt_eq_ok, requireMember_eventType, requireMember_actor,
    requireSha_eq_ok, validateUtc_eq_ok, optionalState_eq_ok, optionally_requireSafeId_eq_ok,
    optionally_requireSha_eq_ok, validateSequence_eq_ok, validateEvidenceBindingList_eq_ok,
    optionally_policy_eq_ok, optionally_decision_eq_ok, pure_eq_ok]
  constructor
  · rintro ⟨_, hkeys, _, hversion, id, hid, generation, hgeneration, sequence, hsequence, project,
      hproject, task, htask, type, htype, actor, hactor, hash, hhash, t, ht, source, hsource, target,
      htarget, transition, htransition, previous, hprevious, _, ⟨hprev, hcreation⟩, details,
      hdetails, evidence, ⟨hevidence, hevalid⟩, policy, ⟨hpolicy, hpvalid⟩, decision,
      ⟨hdecision, hdvalid⟩, rfl⟩
    refine ⟨Mapping.toJson_injective ?_, hprev, hcreation, hevalid, hpvalid, hdvalid⟩
    rw [Mapping.toJson, Mapping.entries_eq_map_get, hkeys]
    simp [auditEventFields, AuditEvent.toMapping, AuditEvent.withHash, Mapping.toJson, hid,
      hgeneration, hsequence, hproject, htask, htype, hactor, hhash, ht, hsource, htarget,
      htransition, hprevious, hdetails, hevidence, hpolicy, hdecision, hversion]
  · rintro ⟨rfl, hvalid⟩
    exact ⟨(), rfl, (), rfl, e.eventId, rfl, e.generation, rfl, e.sequence, rfl, e.projectId, rfl,
      e.taskId, rfl, e.eventType, rfl, e.actor, rfl, e.eventHash, rfl, e.createdAtUtc, rfl,
      e.fromState, rfl, e.toState, rfl, e.transitionId, rfl, e.previousEventHash, rfl, (),
      ⟨hvalid.previousHash, hvalid.creation⟩, e.details, rfl, e.evidenceBindings,
      ⟨rfl, hvalid.evidence⟩, e.policyEvaluationBinding, ⟨rfl, hvalid.policy⟩,
      e.decisionResolutionBinding, ⟨rfl, hvalid.decision⟩, rfl⟩

omit [Digest] in
@[simp] theorem getPath_nil (record : Json) : getPath record [] = record := rfl

omit [Digest] in
@[simp] theorem getPath_toJson_cons (data : Mapping) (part : String) (rest : List String) :
    getPath data.toJson (part :: rest) = getPath (data.get part) rest := by
  simp [getPath]

omit [Digest] in
private theorem validateGenerationRecord_eq_ok {e : AuditEvent} {g : AuditGeneration} {u : Unit} :
    validateGenerationRecord e g = .ok u ↔ g.generation = e.generation ∧ g.taskId = e.taskId ∧
      g.startedByEventId = e.eventId ∧ g.startedByEventType = e.eventType := by
  simp only [validateGenerationRecord, bind_eq_ok, require_eq_ok, exists_const]

private theorem evidenceListJson_eq_nil {bindings : List EvidenceBinding} :
    evidenceListJson bindings = .arr [] ↔ bindings = [] := by
  simp [evidenceListJson]

omit [Digest] in
private theorem ofOption_ne_null {α : Type} {f : α → Json} (hf : ∀ a, f a ≠ .null)
    {x : Option α} : Json.ofOption f x ≠ .null ↔ x ≠ none := by
  cases x <;> simp [hf]

/-- The matrix on the fields that every event without a transition leaves empty. -/
private theorem noTransition_of_matrix {e : AuditEvent}
    (hnullable : ∀ path ∈ transitionFieldPaths, getPath e.toMapping.toJson path = .null)
    (hempty : getPath e.toMapping.toJson ["evidence_bindings"] = .arr []) : e.NoTransition := by
  simp only [transitionFieldPaths, List.mem_cons, List.not_mem_nil, or_false, forall_eq_or_imp,
    forall_eq, getPath_toJson_cons, getPath_nil] at hnullable hempty
  obtain ⟨hfrom, hto, htransition, hpolicy, hdecision⟩ := hnullable
  change Json.ofOption TaskState.toJson e.fromState = .null at hfrom
  change Json.ofOption TaskState.toJson e.toState = .null at hto
  change Json.ofOption testedJson e.transitionId = .null at htransition
  change Json.ofOption PolicyEvaluationBinding.toJson e.policyEvaluationBinding = .null at hpolicy
  change Json.ofOption DecisionResolutionBinding.toJson e.decisionResolutionBinding = .null
    at hdecision
  change evidenceListJson e.evidenceBindings = .arr [] at hempty
  refine ⟨?_, ?_, ?_, ?_, ?_, evidenceListJson_eq_nil.mp hempty⟩
  · by_contra h
    exact (ofOption_ne_null (by simp [TaskState.toJson])).mpr h hfrom
  · by_contra h
    exact (ofOption_ne_null (by simp [TaskState.toJson])).mpr h hto
  · by_contra h
    exact (ofOption_ne_null (by simp [testedJson])).mpr h htransition
  · by_contra h
    exact (ofOption_ne_null (by simp [PolicyEvaluationBinding.toJson])).mpr h hpolicy
  · by_contra h
    exact (ofOption_ne_null (by simp [DecisionResolutionBinding.toJson])).mpr h
      hdecision

private theorem matrix_of_noTransition {e : AuditEvent} (h : e.NoTransition) :
    (∀ path ∈ transitionFieldPaths, getPath e.toMapping.toJson path = .null) ∧
      getPath e.toMapping.toJson ["evidence_bindings"] = .arr [] := by
  have hfrom : e.toMapping.get "from_state" = Json.ofOption TaskState.toJson e.fromState := rfl
  have hto : e.toMapping.get "to_state" = Json.ofOption TaskState.toJson e.toState := rfl
  have htransition : e.toMapping.get "transition_id" = Json.ofOption testedJson e.transitionId := rfl
  have hpolicy : e.toMapping.get "policy_evaluation_binding" =
    Json.ofOption PolicyEvaluationBinding.toJson e.policyEvaluationBinding := rfl
  have hdecision : e.toMapping.get "decision_resolution_binding" =
    Json.ofOption DecisionResolutionBinding.toJson e.decisionResolutionBinding := rfl
  have hevidence : e.toMapping.get "evidence_bindings" = evidenceListJson e.evidenceBindings := rfl
  simp [transitionFieldPaths, hfrom, hto, htransition, hpolicy, hdecision, hevidence, h.fromState,
    h.toState, h.transitionId, h.policy, h.decision, h.evidence, evidenceListJson]

/-- The checks that follow the field pass. -/
def AuditEvent.TypeChecks (e : AuditEvent) : Prop :=
  validateEventBody e = .ok () ∧ validateAuditEventFieldMatrix e.toMapping e.eventType = .ok () ∧
    validateAuditEventGenerationRole e = .ok () ∧ validateAuditEventContextBindings e = .ok ()

private theorem typeChecks_creation_iff {e : AuditEvent} (htype : e.eventType = .taskCreated)
    (hfields : e.FieldsValid) : e.TypeChecks ↔ ∃ g, e.IsCreation g := by
  obtain ⟨hgeneration, hsequence⟩ := hfields.creation htype
  have hdetails : e.toMapping.get "details" = e.details.toJson := rfl
  simp only [AuditEvent.TypeChecks, validateEventBody, htype, validateCreationBody,
    validateAuditEventFieldMatrix, validateAuditEventGenerationRole,
    validateAuditEventContextBindings, eventTypeMatrix, bind_eq_ok, require_eq_ok, withCode_eq_ok,
    checkWhen_eq_ok, forM_eq_ok_iff, exists_const, validateAuditGeneration_eq_ok_iff,
    validateGenerationRecord_eq_ok]
  constructor
  · rintro ⟨⟨_, _, _, _, hkeys, g, ⟨hg, hvalid⟩, hrecord⟩, ⟨_, hnullable, hempty, _⟩, _, _⟩
    obtain ⟨h1, h2, h3, h4⟩ := hrecord
    refine ⟨g, hsequence, hgeneration, noTransition_of_matrix
      (hnullable (by simp)) (hempty _ (by simp)), Mapping.toJson_injective ?_, hvalid, h1, h2, h3,
      by rw [h4, htype]⟩
    rw [Mapping.toJson, Mapping.entries_eq_map_get, hkeys]
    simp [creationDetails, Mapping.toJson, hg]
  · rintro ⟨g, h⟩
    obtain ⟨hnullable, hempty⟩ := matrix_of_noTransition h.noTransition
    have hg : e.details.get "audit_generation" = g.toJson := by rw [h.details]; rfl
    refine ⟨⟨h.noTransition.transitionId, h.noTransition.fromState, h.noTransition.toState, ?_, ?_,
      g, ⟨hg, h.startedBy.valid⟩, h.startedBy.generation, h.startedBy.taskId, h.startedBy.eventId,
      h.startedBy.eventType.trans htype⟩, ⟨?_, fun _ => hnullable, ?_, by simp⟩, ?_, by simp⟩
    · simp [h.noTransition.policy, h.noTransition.decision]
    · rw [h.details]
      rfl
    · simp [hdetails, hg, AuditGeneration.toJson]
    · simpa using hempty
    · simp [hsequence, hgeneration]

private theorem typeChecks_recovery_iff {e : AuditEvent}
    (htype : e.eventType = .recoveryRecorded ∨ e.eventType = .rollbackRecorded)
    (hfields : e.FieldsValid) : e.TypeChecks ↔ ∃ r, e.IsRecovery r := by
  have hdetails : e.toMapping.get "details" = e.details.toJson := rfl
  have hbody : validateEventBody e = validateRecoveryBody e := by
    rcases htype with h | h <;> simp [validateEventBody, h]
  have hrole : eventTypeMatrix e.eventType =
      { required := recoveryDetailPaths, nullable := transitionFieldPaths,
        empty := [["evidence_bindings"]], nonEmpty := [], sequenceMustNotBe := none,
        sequence := some 1, generation := none, minimumGeneration := some 2,
        firstEventType := some e.eventType } := by
    rcases htype with h | h <;> simp [eventTypeMatrix, h]
  have hnot : e.eventType ≠ .transitionAccepted := by
    rcases htype with h | h <;> simp [h]
  have hcreated : e.eventType ≠ .taskCreated := by
    rcases htype with h | h <;> simp [h]
  simp only [AuditEvent.TypeChecks, hbody, validateRecoveryBody, validateAuditEventFieldMatrix,
    validateAuditEventGenerationRole, validateAuditEventContextBindings, hrole, bind_eq_ok,
    require_eq_ok, withCode_eq_ok, checkWhen_eq_ok, forM_eq_ok_iff, exists_const,
    validateTrustedPrefix_eq_ok_iff, requireSafeId_eq_ok, requireMember_wordOf,
    requireSafePath_eq_ok, validateAuditGeneration_eq_ok_iff, validateGenerationRecord_eq_ok]
  constructor
  · rintro ⟨⟨hsequence, _, hkeys, trusted, htrusted, recovery, hrecovery, transaction, htransaction,
      action, haction, model, hmodel, quarantine, hquarantine, g, ⟨hg, hvalid⟩, heventType,
      ⟨h1, h2, h3, h4⟩, hpredecessor, hhash, hpath⟩, ⟨_, hnullable, hempty, _⟩,
      ⟨_, _, _, hminimum, _⟩, _⟩
    refine ⟨⟨recovery, action.val, transaction, trusted, quarantine, g⟩, hsequence,
      hminimum 2 rfl, noTransition_of_matrix (hnullable hnot) (hempty _ (by simp)),
      Mapping.toJson_injective ?_, action.property, heventType, ⟨hvalid, h1, h2, h3, h4⟩,
      hpredecessor, hhash, hpath⟩
    have hthreat : model.val = threatModel := by simpa using model.property
    rw [Mapping.toJson, Mapping.entries_eq_map_get, hkeys]
    simp [recoveryDetailFields, RecoveryDetails.toMapping, Mapping.toJson, htrusted, hrecovery,
      htransaction, haction, hmodel, hthreat, hquarantine, hg]
  · rintro ⟨r, h⟩
    obtain ⟨hnullable, hempty⟩ := matrix_of_noTransition h.noTransition
    have hget : ∀ key, e.details.get key = r.toMapping.get key := fun key => by rw [h.details]
    refine ⟨⟨h.sequence, hfields.previousHash.mp h.sequence, by rw [h.details]; rfl,
      r.previousTrustedPrefix, hget _, r.recoveryId, hget _, r.recoveryTransactionId, hget _,
      ⟨r.recoveryAction, h.action⟩, hget _, ⟨threatModel, by simp⟩, hget _, r.quarantinePath,
      hget _, r.auditGeneration, ⟨hget _, h.startedBy.valid⟩, h.eventType,
      ⟨h.startedBy.generation, h.startedBy.taskId, h.startedBy.eventId, h.startedBy.eventType⟩,
      h.predecessor, h.predecessorHash, h.quarantine⟩, ⟨?_, fun _ => hnullable, ?_, by simp⟩,
      ⟨by simp, ?_, by simp, ?_, fun _ => trivial⟩, fun h => absurd h hnot⟩
    · simp only [recoveryDetailPaths, List.mem_cons, List.not_mem_nil, or_false, forall_eq_or_imp,
        forall_eq, getPath_toJson_cons, hdetails, hget, getPath_nil]
      simp [RecoveryDetails.toMapping, Mapping.get, Mapping.lookup, TrustedPrefix.toJson,
        AuditGeneration.toJson]
    · simpa using hempty
    · simpa using h.sequence
    · simpa using h.generation

omit [Digest] in
private theorem validatePolicyContext_eq_ok {e : AuditEvent} {embedded : Json} {u : Unit} :
    validatePolicyContext e embedded = .ok u ↔ (embedded ≠ .null →
      embedded.field "project_id" = .str e.projectId.val ∧
        embedded.field "task_id" = .str e.taskId.val) := by
  simp only [validatePolicyContext, checkWhen_eq_ok, bind_eq_ok, require_eq_ok, exists_const]

private theorem validateDecisionContext_eq_ok {e : AuditEvent} {u : Unit}
    (hvalid : ∀ d ∈ e.decisionResolutionBinding, d.Valid) :
    validateDecisionContext e = .ok u ↔
      (∀ d ∈ e.decisionResolutionBinding, e.fromState = some .waitingHuman ∧
        e.expectation.Met d) ∧
      (e.fromState = some .waitingHuman → e.decisionResolutionBinding ≠ none) := by
  unfold validateDecisionContext
  cases hd : e.decisionResolutionBinding with
  | none => simp
  | some d =>
      have hdv := hvalid d hd
      simp only [bind_eq_ok, require_eq_ok, exists_const, withCode_eq_ok, pure_eq_ok,
        validateHumanDecisionResolutionBinding_eq_ok_iff]
      constructor
      · rintro ⟨hfrom, d', ⟨heq, hvalid', hmet⟩, _⟩
        obtain rfl := DecisionResolutionBinding.eq_of_toJson_eq hdv hvalid' heq
        refine ⟨fun x hx => ?_, by simp⟩
        obtain rfl := Option.mem_some_iff.mp hx
        exact ⟨hfrom, hmet⟩
      · rintro ⟨hmet, _⟩
        obtain ⟨hfrom, hmet⟩ := hmet d rfl
        exact ⟨hfrom, d, ⟨rfl, hdv, hmet⟩, trivial⟩

private theorem typeChecks_transition_iff {e : AuditEvent}
    (htype : e.eventType = .transitionAccepted) (hfields : e.FieldsValid) :
    e.TypeChecks ↔ ∃ source target transition policy record,
      e.IsTransition source target transition policy record := by
  simp only [AuditEvent.TypeChecks, validateEventBody, htype, validateTransitionBody,
    validateAuditEventFieldMatrix, validateAuditEventGenerationRole,
    validateAuditEventContextBindings, eventTypeMatrix, bind_eq_ok, require_eq_ok, expect_eq_ok,
    checkWhen_eq_ok, forM_eq_ok_iff, exists_const, validatePolicyContext_eq_ok,
    validateDecisionContext_eq_ok hfields.decision]
  constructor
  · rintro ⟨⟨hfrom, hto, htransition, _, hevidence⟩, _, ⟨hsequence, _, _, _, _⟩, hcontext⟩
    obtain ⟨policy, hpolicy, hrecord, ⟨target, htarget, hstate⟩, hdecision, hresumes⟩ :=
      hcontext trivial
    obtain ⟨source, hsource⟩ := Option.ne_none_iff_exists'.mp hfrom
    obtain ⟨transition, htrans⟩ := Option.ne_none_iff_exists'.mp htransition
    obtain ⟨record, hembedded⟩ := (hfields.policy policy hpolicy).2 htype
    rw [hembedded] at hrecord
    obtain ⟨hproject, htask⟩ := hrecord record.property
    refine ⟨source, target, transition, policy, record, hsequence 1 rfl, hsource, hstate, htrans,
      hpolicy, hembedded, hproject, htask, htarget, ?_, fun d hd => ?_, fun hw => ?_⟩
    · simpa using hevidence
    · obtain ⟨hw, hmet⟩ := hdecision d hd
      rw [hsource] at hw
      exact ⟨Option.some.inj hw, hmet⟩
    · exact hresumes (by rw [hsource, hw])
  · rintro ⟨source, target, transition, policy, record, h⟩
    have hfrom : e.toMapping.get "from_state" = Json.ofOption TaskState.toJson e.fromState := rfl
    have hto : e.toMapping.get "to_state" = Json.ofOption TaskState.toJson e.toState := rfl
    have htransition : e.toMapping.get "transition_id" = Json.ofOption testedJson e.transitionId :=
      rfl
    have hpolicy : e.toMapping.get "policy_evaluation_binding" =
      Json.ofOption PolicyEvaluationBinding.toJson e.policyEvaluationBinding := rfl
    have hevidence : e.toMapping.get "evidence_bindings" = evidenceListJson e.evidenceBindings := rfl
    refine ⟨⟨by simp [h.fromState], by simp [h.toState], by simp [h.transitionId],
      by simp [h.policyBinding], ?_⟩, ⟨?_, fun hne => absurd rfl hne, by simp, ?_⟩,
      ⟨?_, by simp, by simp, by simp, fun hone => absurd hone h.sequence⟩, fun _ => ?_⟩
    · simpa using h.evidence
    · simp [hfrom, hto, htransition, hpolicy, h.fromState, h.toState, h.transitionId,
        h.policyBinding, TaskState.toJson, testedJson, PolicyEvaluationBinding.toJson]
    · simpa [hevidence, evidenceListJson, Json.isNonEmptyList] using h.evidence
    · simpa using h.sequence
    · refine ⟨policy, h.policyBinding, ?_, ⟨target, h.authorized, h.toState⟩, fun d hd => ?_,
        fun hw => ?_⟩
      · rw [h.embedded]
        exact fun _ => ⟨h.projectId, h.taskId⟩
      · obtain ⟨rfl, hmet⟩ := h.decision d hd
        exact ⟨h.fromState, hmet⟩
      · rw [h.fromState] at hw
        exact h.resumes (Option.some.inj hw)

private theorem typeChecks_iff {e : AuditEvent} (hfields : e.FieldsValid) :
    e.TypeChecks ↔ e.Body := by
  unfold AuditEvent.Body
  cases htype : e.eventType with
  | taskCreated => exact typeChecks_creation_iff htype hfields
  | transitionAccepted => exact typeChecks_transition_iff htype hfields
  | recoveryRecorded => exact typeChecks_recovery_iff (.inl htype) hfields
  | rollbackRecorded => exact typeChecks_recovery_iff (.inr htype) hfields

/-- A valid event passes the field pass. -/
private theorem AuditEvent.Valid.fieldsValid {e : AuditEvent} (h : e.Valid) : e.FieldsValid where
  previousHash := h.previousHash
  creation := fun htype => by
    have hbody := h.body
    simp only [AuditEvent.Body, htype] at hbody
    obtain ⟨g, hg⟩ := hbody
    exact ⟨hg.generation, hg.sequence⟩
  evidence := h.evidence
  policy := fun p hp => by
    refine ⟨h.policy p hp, fun htype => ?_⟩
    have hbody := h.body
    simp only [AuditEvent.Body, htype] at hbody
    obtain ⟨_, _, _, policy, record, ht⟩ := hbody
    rw [ht.policyBinding] at hp
    obtain rfl := Option.mem_some_iff.mp hp
    exact ⟨record, ht.embedded⟩
  decision := h.decision

/-- **The event validator accepts exactly the printed valid events.** -/
theorem validateAuditEvent_eq_ok_iff {record : Json} {e : AuditEvent} :
    validateAuditEvent record = .ok e ↔ record = e.toJson ∧ e.Valid := by
  simp only [validateAuditEvent, bind_eq_ok, requireMapping_eq_ok, validateEventFields_eq_ok,
    require_eq_ok, pure_eq_ok]
  constructor
  · rintro ⟨_, rfl, e', ⟨rfl, hfields⟩, _, hbody, _, hmatrix, _, hrole, _, hcontext, _, hhash, rfl⟩
    refine ⟨rfl, hfields.previousHash, hfields.evidence, fun p hp => (hfields.policy p hp).1,
      hfields.decision, (typeChecks_iff hfields).mp ⟨hbody, hmatrix, hrole, hcontext⟩, ?_⟩
    exact hhash
  · rintro ⟨rfl, hvalid⟩
    have hfields := hvalid.fieldsValid
    obtain ⟨hbody, hmatrix, hrole, hcontext⟩ := (typeChecks_iff hfields).mpr hvalid.body
    exact ⟨e.toMapping, rfl, e, ⟨rfl, hfields⟩, (), hbody, (), hmatrix, (), hrole, (), hcontext, (),
      hvalid.hash, rfl⟩

/-! ## Section 6: Identity -/

/-- A valid event is determined by its value. -/
theorem AuditEvent.eq_of_toJson_eq {a b : AuditEvent} (ha : a.Valid) (hb : b.Valid)
    (h : a.toJson = b.toJson) : a = b := by
  have hok := validateAuditEvent_eq_ok_iff.mpr ⟨rfl, ha⟩
  rw [h, validateAuditEvent_eq_ok_iff.mpr ⟨rfl, hb⟩] at hok
  exact (Except.ok.inj hok).symm

/-- A valid event is determined by what it is hashed from. -/
theorem AuditEvent.eq_of_preimage_eq {a b : AuditEvent} (ha : a.Valid) (hb : b.Valid)
    (h : a.preimage = b.preimage) : a = b := by
  have hhash : a.eventHash = b.eventHash := Subtype.ext (by rw [← ha.hash, ← hb.hash, h])
  refine AuditEvent.eq_of_toJson_eq ha hb ?_
  simp only [AuditEvent.preimage, AuditEvent.withHash, Mapping.toJson, Json.obj.injEq,
    List.cons.injEq, Prod.mk.injEq, true_and, and_true] at h
  simp only [AuditEvent.toJson, AuditEvent.toMapping, AuditEvent.withHash, Mapping.toJson,
    Json.obj.injEq, List.cons.injEq, Prod.mk.injEq, true_and, and_true, hhash]
  exact h

/-- **Under an injective digest a valid event is determined by its hash.** -/
theorem AuditEvent.eq_of_hash_eq (hinj : Function.Injective canonicalSha) {a b : AuditEvent}
    (ha : a.Valid) (hb : b.Valid) (h : a.eventHash = b.eventHash) : a = b :=
  AuditEvent.eq_of_preimage_eq ha hb (hinj (by rw [ha.hash, hb.hash, h]))

end Acgps
