import Acgps.Data.PyEq
import Acgps.Workflow.Results

/-!
# Transition transactions

What a transition or an initialization is going to write, planned as one record: the request, the
result, the audit event and the state, with the digests that pin them.

## Main Definitions

* `TransitionTransaction` - the planned record
* `validateTransitionTransaction` - `validate_transition_transaction`
* `InitializationPlan`, `TransitionPlan` - what an accepted plan binds to what

## Key Theorems

* `validateTransitionTransaction_eq_ok_iff` - the validator accepts the printed valid plans
-/

namespace Acgps

open Checked

variable [Platform]

/-! ## Section 1: Comparisons -/

/-- The code of a transaction that does not hold together. -/
def incomplete (path : String) (message : Text) : Rejection :=
  invalidOutcome "WORKFLOW_TRANSACTION_INCOMPLETE" path message

/-- `_require_equal`. -/
def requireEqual (actual expected : Json) (path : String) (message : Text) : Check Unit :=
  require (actual.pyEq expected = true) (incomplete path message)

@[simp] theorem requireEqual_eq_ok {actual expected : Json} {path : String} {message : Text}
    {u : Unit} :
    requireEqual actual expected path message = .ok u ↔ actual.pyEq expected = true := by
  simp [requireEqual]

@[simp] theorem Json.pyEq_str_left {s : String} {v : Json} :
    (Json.str s).pyEq v = true ↔ v = .str s := by
  cases v <;> simp [Json.pyEq, eq_comm]

@[simp] theorem Json.pyEq_str_right {s : String} {v : Json} :
    v.pyEq (.str s) = true ↔ v = .str s := by
  cases v <;> simp [Json.pyEq]

@[simp] theorem Json.pyEq_null_left {v : Json} : Json.null.pyEq v = true ↔ v = .null := by
  cases v <;> simp [Json.pyEq]

@[simp] theorem Json.pyEq_null_right {v : Json} : v.pyEq .null = true ↔ v = .null := by
  cases v <;> simp [Json.pyEq]

theorem Json.pyEq_int {m n : Int} : (Json.int m).pyEq (.int n) = true ↔ m = n := by
  simp [Json.pyEq]

/-- The outcome of a validator that the caller looks at later; an exception goes through at once. -/
def outcomeOf {α : Type} (x : Check α) : Check (Except WorkflowIssue α) :=
  match x with
  | .ok a => .ok (.ok a)
  | .error (.invalid issue) => .ok (.error issue)
  | .error (.raised failure) => .error (.raised failure)

omit [Platform] in
@[simp] theorem outcomeOf_eq_ok_ok {α : Type} {x : Check α} {a : α} :
    outcomeOf x = .ok (.ok a) ↔ x = .ok a := by
  unfold outcomeOf
  split <;> simp

/-- `if not outcome.valid: return _with_code(outcome, ...)`. -/
def requireValid {α : Type} (outcome : Except WorkflowIssue α) : Check α :=
  mapError (fun issue => incomplete issue.path issue.message) outcome

omit [Platform] in
@[simp] theorem requireValid_eq_ok {α : Type} {outcome : Except WorkflowIssue α} {a : α} :
    requireValid outcome = .ok a ↔ outcome = .ok a := by
  simp [requireValid]

/-! ## Section 2: Catalog tables -/

/-- `_path_exists`. -/
def pathExists (record : Json) : List String → Bool
  | [] => true
  | part :: rest =>
      match record.asMapping with
      | some data => data.has part && pathExists (data.get part) rest
      | none => false

/-- The text of a dotted path. -/
def dottedPath (path : List String) : String := ".".intercalate path

/-- Fields of one record, each with the path of the value that it has to agree with. -/
abbrev PathTable := List (String × List String)

/-- Every field of a table agrees with the value at its path. -/
def validatePathTable (record : Json) (source : Mapping) (table : PathTable)
    (pathOf : String → String) (messageOf : String → Text) : Check Unit :=
  forM table (fun entry => requireEqual (source.get entry.1) (getPath record entry.2)
    (pathOf entry.1) (messageOf entry.1))

/-- `_validate_catalog_bindings`. -/
def validateCatalogBindings (record : Json) (bindings : List (List String × List String)) :
    Check Unit :=
  forM bindings (fun binding => do
    require (pathExists record binding.1 = true)
      (incomplete (dottedPath binding.1) "left binding path is missing")
    require (pathExists record binding.2 = true)
      (incomplete (dottedPath binding.2) "right binding path is missing")
    requireEqual (getPath record binding.1) (getPath record binding.2) (dottedPath binding.1)
      "catalog binding mismatch")

/-- `operation_graphs.initialization.result_audit_bindings`. -/
def resultAuditBindings : PathTable :=
  [("audit_event_id", ["planned_audit_event", "event_id"]),
    ("audit_generation", ["planned_audit_event", "generation"]),
    ("audit_sequence", ["planned_audit_event", "sequence"])]

/-- `operation_graphs.initialization.state_audit_bindings`. -/
def stateAuditBindings : PathTable :=
  [("audit_head_event_id", ["planned_audit_event", "event_id"]),
    ("audit_head_hash", ["planned_audit_event", "event_hash"]),
    ("audit_generation", ["planned_audit_event", "generation"])]

/-- `operation_graphs.initialization.request_audit_bindings`. -/
def requestAuditBindings : PathTable := [("actor", ["planned_audit_event", "actor"])]

/-- `operation_graphs.initialization.state_null_bindings`. -/
def stateNullBindings : List String := ["policy_evaluation_id", "pending_decision_id"]

/-- `operation_graphs.transition.binding_copies`. -/
def bindingCopies : PathTable :=
  [("decision_resolution_binding", ["planned_audit_event", "decision_resolution_binding"]),
    ("policy_evaluation_binding", ["planned_audit_event", "policy_evaluation_binding"]),
    ("evidence_bindings", ["planned_audit_event", "evidence_bindings"])]

/-- `operation_graphs.transition.identity_bindings.transition_actor`. -/
def transitionActorBindings : List (List String × List String) :=
  [(["planned_audit_event", "actor"], ["canonical_request", "actor"])]

/-! ## Section 3: The record -/

/-- `TRANSITION_OPERATION_KINDS`. -/
inductive TransitionOperationKind where
  | initialization
  | transition
  deriving DecidableEq

namespace TransitionOperationKind

/-- The kind among all kinds of operations. -/
def kind : TransitionOperationKind → OperationKind
  | initialization => .initialization
  | transition => .transition

/-- The word of a kind. -/
def ofName (s : String) : Option TransitionOperationKind :=
  if s = "INITIALIZATION" then some initialization
  else if s = "TRANSITION" then some transition
  else none

/-- `_operation_prefix`. -/
def operationPrefix : TransitionOperationKind → String
  | initialization => "initialization"
  | transition => "transition"

omit [Platform] in
theorem ofName_eq_some_iff {s : String} {k : TransitionOperationKind} :
    ofName s = some k ↔ s = k.kind.name := by
  unfold ofName
  split
  next h =>
    subst h
    cases k <;> simp [kind, OperationKind.name]
  next h =>
    split
    next h' =>
      subst h'
      cases k <;> simp [kind, OperationKind.name]
    next h' =>
      cases k <;> simp [kind, OperationKind.name, h, h']

end TransitionOperationKind

/-- `TRANSITION_PHASES`. -/
def transitionPhases : List String :=
  ["PREPARED", "AUDIT_APPENDED", "STATE_REPLACED", "IDEMPOTENCY_RECORDED", "COMMITTED", "ABORTED"]

/-- The fields of a transaction beside its records. -/
structure TransactionHeader where
  transactionId : SafeId
  operationKind : TransitionOperationKind
  operationId : SafeId
  taskId : SafeId
  idempotencyKey : NonEmptyString
  requestFingerprint : Sha256Hex
  latestPhase : { s : String // s ∈ transitionPhases }
  plannedAuditEventHash : Sha256Hex
  plannedStateHash : Sha256Hex
  plannedResultHash : Sha256Hex
  createdAtUtc : Utc
  updatedAtUtc : Utc
  deriving DecidableEq

/-- `_transaction_artifact_path`. -/
def transactionArtifactPath (taskId : SafeId) (operationPrefix : String) (operationId : SafeId)
    (leaf : String) : String :=
  "state/transactions/" ++ taskId.val ++ "/" ++ operationPrefix ++ "-" ++ operationId.val ++ "/"
    ++ leaf

namespace TransactionHeader

/-- The path of a file of the transaction. -/
def journalPath (h : TransactionHeader) (leaf : String) : String :=
  transactionArtifactPath h.taskId h.operationKind.operationPrefix h.operationId leaf

/-- The field of the operation's own kind holds its id, the other one is null. -/
def idJson (h : TransactionHeader) (kind : TransitionOperationKind) : Json :=
  if h.operationKind = kind then .str h.operationId.val else .null

end TransactionHeader

/-- A planned transition or initialization. -/
structure TransitionTransaction where
  header : TransactionHeader
  canonicalRequest : OperationRequest header.operationKind.kind
  canonicalResult : OperationResult header.operationKind.kind
  plannedAuditEvent : AuditEvent
  plannedState : WorkflowTaskState

/-- `TRANSITION_TRANSACTION_FIELDS`. -/
def transitionTransactionFields : List String :=
  ["canonical_request", "canonical_result", "created_at_utc", "first_journal_segment_id",
    "idempotency_key", "initialization_id", "latest_phase", "operation_id", "operation_kind",
    "phase_journal_index_path", "phase_journal_path", "planned_audit_event",
    "planned_audit_event_hash", "planned_result_hash", "planned_state", "planned_state_hash",
    "request_fingerprint", "schema_version", "task_id", "transaction_id", "transition_id",
    "updated_at_utc"]

omit [Platform] in
theorem transitionTransactionFields_sorted : transitionTransactionFields.Pairwise (· < ·) := by
  decide +kernel

namespace TransitionTransaction

/-- The transaction as a mapping. -/
def toMapping (t : TransitionTransaction) : Mapping where
  entries :=
    [("canonical_request", t.canonicalRequest.toJson),
      ("canonical_result", t.canonicalResult.toJson),
      ("created_at_utc", .str t.header.createdAtUtc.val),
      ("first_journal_segment_id", .str "0001"),
      ("idempotency_key", .str t.header.idempotencyKey.val),
      ("initialization_id", t.header.idJson .initialization),
      ("latest_phase", .str t.header.latestPhase.val),
      ("operation_id", .str t.header.operationId.val),
      ("operation_kind", .str t.header.operationKind.kind.name),
      ("phase_journal_index_path", .str (t.header.journalPath "phase_segments.jsonl")),
      ("phase_journal_path", .str (t.header.journalPath "phases.0001.jsonl")),
      ("planned_audit_event", t.plannedAuditEvent.toJson),
      ("planned_audit_event_hash", .str t.header.plannedAuditEventHash.val),
      ("planned_result_hash", .str t.header.plannedResultHash.val),
      ("planned_state", t.plannedState.toJson),
      ("planned_state_hash", .str t.header.plannedStateHash.val),
      ("request_fingerprint", .str t.header.requestFingerprint.val), ("schema_version", .int 1),
      ("task_id", .str t.header.taskId.val), ("transaction_id", .str t.header.transactionId.val),
      ("transition_id", t.header.idJson .transition),
      ("updated_at_utc", .str t.header.updatedAtUtc.val)]
  sorted := transitionTransactionFields_sorted

/-- The transaction as a value. -/
def toJson (t : TransitionTransaction) : Json := t.toMapping.toJson

end TransitionTransaction

/-! ## Section 4: The validator -/

/-- The checks of single fields. -/
def validateTransactionHeader (data : Mapping) : Check TransactionHeader := do
  validateSchemaVersion (data.get "schema_version") "schema_version"
  let transactionId ← requireSafeId (data.get "transaction_id") "transaction_id"
  let operationKind ← requireMember TransitionOperationKind.ofName (data.get "operation_kind")
    "operation_kind" "WORKFLOW_TRANSACTION_INCOMPLETE"
  let operationId ← requireSafeId (data.get "operation_id") "operation_id"
  let taskId ← requireSafeId (data.get "task_id") "task_id"
  let idempotencyKey ← requireNonEmptyString (data.get "idempotency_key") "idempotency_key"
  let requestFingerprint ← requireSha (data.get "request_fingerprint") "request_fingerprint"
  let latestPhase ← requireMember (wordOf transitionPhases) (data.get "latest_phase")
    "latest_phase" "WORKFLOW_TRANSACTION_INCOMPLETE"
  let eventHash ← requireSha (data.get "planned_audit_event_hash") "planned_audit_event_hash"
  let stateHash ← requireSha (data.get "planned_state_hash") "planned_state_hash"
  let resultHash ← requireSha (data.get "planned_result_hash") "planned_result_hash"
  let createdAtUtc ← validateUtc (data.get "created_at_utc") "created_at_utc"
  let updatedAtUtc ← validateUtc (data.get "updated_at_utc") "updated_at_utc"
  return ⟨transactionId, operationKind, operationId, taskId, idempotencyKey, requestFingerprint,
    latestPhase, eventHash, stateHash, resultHash, createdAtUtc, updatedAtUtc⟩

/-- The comparisons with a request that was not validated yet. -/
def validateEarlyRequest (request : Json) (taskId : SafeId) (key : NonEmptyString) : Check Unit :=
  match request.asMapping with
  | none => .ok ()
  | some data => do
      requireEqual (.str taskId.val) (data.get "task_id") "task_id"
        "transaction task_id must match request task_id"
      requireEqual (.str key.val) (data.get "idempotency_key") "idempotency_key"
        "transaction idempotency_key must match request"

/-- A path of the journal is the derived one. -/
def validateJournalPath (data : Mapping) (field expected : String) : Check Unit :=
  require (data.get field = .str expected ∧ isSafeRelativePath expected = true)
    (incomplete field [.text field, .text " must be ", .text expected])

/-- The two id fields of the operation. -/
def validateOperationIds (data : Mapping) (kind : TransitionOperationKind) (operationId : SafeId) :
    Check Unit :=
  match kind with
  | .initialization =>
      require (data.get "initialization_id" = .str operationId.val ∧
          data.get "transition_id" = .null)
        (incomplete "initialization_id"
          "INITIALIZATION requires initialization_id=operation_id and transition_id=null")
  | .transition =>
      require (data.get "transition_id" = .str operationId.val ∧
          data.get "initialization_id" = .null)
        (incomplete "transition_id"
          "TRANSITION requires transition_id=operation_id and initialization_id=null")

/-- The request and the result of an initialization. -/
def validateInitializationAnswer (h : TransactionHeader) (q : InitializationRequest)
    (r : InitializationResult) : Check Unit := do
  require (h.operationId = q.initializationId)
    (incomplete "operation_id" "operation_id must match initialization request")
  require (h.operationId = r.initializationId)
    (incomplete "canonical_result.initialization_id"
      "result initialization_id must match operation_id")
  require (h.taskId = r.taskId)
    (incomplete "canonical_result.task_id" "result task_id must match transaction task_id")
  require (q.projectId = r.projectId)
    (incomplete "canonical_result.project_id" "result project_id must match request")

/-- The request and the result of a transition. -/
def validateTransitionAnswer (h : TransactionHeader) (q : TransitionRequest)
    (r : TransitionResult) : Check Unit := do
  require (h.operationId = q.transitionId)
    (incomplete "operation_id" "operation_id must match transition request")
  require (h.operationId = r.transitionId)
    (incomplete "canonical_result.transition_id" "result transition_id must match operation_id")
  require (h.taskId = r.taskId)
    (incomplete "canonical_result.task_id" "result task_id must match transaction task_id")
  requireEqual q.toState.toJson r.verdict.resultingStateJson "canonical_result.resulting_state"
    "resulting_state must match requested target"

/-- The planned records of both kinds of transactions. -/
def validatePlannedRecords (h : TransactionHeader) (projectId : SafeId) (e : AuditEvent)
    (s : WorkflowTaskState) : Check Unit := do
  require (e.taskId = h.taskId)
    (incomplete "planned_audit_event.task_id" "planned audit task_id must match transaction")
  require (e.projectId = projectId)
    (incomplete "planned_audit_event.project_id" "planned audit project_id must match request")
  require (s.taskId = h.taskId)
    (incomplete "planned_state.task_id" "planned state task_id must match transaction")
  require (s.projectId = projectId)
    (incomplete "planned_state.project_id" "planned state project_id must match request")

/-- The planned records of an initialization. -/
def validateInitializationPlan (r : InitializationResult) (e : AuditEvent)
    (s : WorkflowTaskState) : Check Unit := do
  require (e.eventType = .taskCreated)
    (incomplete "planned_audit_event.event_type" "initialization must plan TASK_CREATED audit event")
  requireEqual s.currentState.toJson r.verdict.resultingStateJson "planned_state.current_state"
    "planned state must match initialization result"
  require (s.previousState = none)
    (incomplete "planned_state.previous_state" "initialization state must not have previous_state")
  require (s.lastTransitionId = none)
    (incomplete "planned_state.last_transition_id"
      "initialization state must not have transition id")

/-- The planned records of a transition. -/
def validateTransitionPlan (h : TransactionHeader) (q : TransitionRequest) (r : TransitionResult)
    (e : AuditEvent) (s : WorkflowTaskState) : Check Unit := do
  let event := fun field => "planned_audit_event." ++ field
  let state := fun field => "planned_state." ++ field
  require (e.eventType = .transitionAccepted)
    (incomplete (event "event_type") "transition must plan TRANSITION_ACCEPTED audit event")
  require (e.transitionId = some h.operationId)
    (incomplete (event "transition_id") "planned audit transition_id must match operation_id")
  require (e.fromState = some q.fromState)
    (incomplete (event "from_state") "planned audit from_state must match request")
  require (e.toState = some q.toState)
    (incomplete (event "to_state") "planned audit to_state must match request")
  require (s.currentState = q.toState)
    (incomplete (state "current_state") "planned state current_state must match request target")
  require (s.previousState = some q.fromState)
    (incomplete (state "previous_state") "planned state previous_state must match request source")
  require (s.lastTransitionId = some h.operationId)
    (incomplete (state "last_transition_id")
      "planned state last_transition_id must match operation_id")
  require (s.policyEvaluationId = some q.policyEvaluationBinding.evaluationId)
    (incomplete (state "policy_evaluation_id") "planned state must bind policy evaluation id")
  requireEqual (r.verdict.eventJson NonEmptyString.toJson) (.str e.eventId.val)
    "canonical_result.audit_event_id" "result audit_event_id must match planned audit event"
  require (s.auditHeadEventId = e.eventId)
    (incomplete (state "audit_head_event_id")
      "planned state audit head event must match planned audit event")
  require (s.auditHeadHash = e.eventHash)
    (incomplete (state "audit_head_hash")
      "planned state audit head hash must match planned audit event")
  require (s.auditGeneration = e.generation)
    (incomplete (state "audit_generation")
      "planned state audit generation must match planned audit event")
  requireEqual (Json.ofOption PolicyEvaluationBinding.toJson e.policyEvaluationBinding)
    q.policyEvaluationBinding.toJson (event "policy_evaluation_binding")
    "planned audit policy binding must match request"
  requireEqual (evidenceListJson e.evidenceBindings) (evidenceListJson q.evidenceBindings)
    (event "evidence_bindings") "planned audit evidence bindings must match request"

/-- `_validate_transition_operation_graph` on an initialization. -/
def validateInitializationGraph (record : Json) (q : InitializationRequest)
    (r : InitializationResult) (s : WorkflowTaskState) : Check Unit := do
  validatePathTable record r.toMapping resultAuditBindings ("canonical_result." ++ ·)
    (fun field => [.text "initialization result ", .text field,
      .text " must match planned audit event"])
  validatePathTable record s.toMapping stateAuditBindings ("planned_state." ++ ·)
    (fun field => [.text "initialization state ", .text field,
      .text " must match planned audit event"])
  validatePathTable record q.toMapping requestAuditBindings ("planned_audit_event." ++ ·)
    (fun field => [.text "initialization planned audit ", .text field,
      .text " must match request"])
  forM stateNullBindings (fun field => require (s.toMapping.get field = .null)
    (incomplete ("planned_state." ++ field) "initialization state field must be null"))

/-- `_validate_transition_operation_graph` on a transition. -/
def validateTransitionGraph (record : Json) (q : TransitionRequest) : Check Unit := do
  validatePathTable record q.toMapping bindingCopies ("planned_audit_event." ++ ·)
    (fun field => [.text "transition planned audit ", .text field, .text " must match request"])
  validateCatalogBindings record transitionActorBindings

/-- A check of the request and the result that depends on the kind of the transaction. -/
def byKind (initialization : InitializationRequest → InitializationResult → Check Unit)
    (transition : TransitionRequest → TransitionResult → Check Unit) :
    (kind : TransitionOperationKind) → OperationRequest kind.kind → OperationResult kind.kind →
      Check Unit
  | .initialization, q, r => initialization q r
  | .transition, q, r => transition q r

/-- `project_id` of the request. -/
def TransitionOperationKind.projectId :
    (kind : TransitionOperationKind) → OperationRequest kind.kind → SafeId
  | .initialization, q => InitializationRequest.projectId q
  | .transition, q => TransitionRequest.projectId q

/-- `validate_transition_transaction`. -/
def validateTransitionTransaction (record : Json) : Check TransitionTransaction := do
  let data ← requireMapping record (incomplete "$" "transition transaction must be a mapping")
  let code := "WORKFLOW_TRANSACTION_INCOMPLETE"
  withCode code (validateExactMapping data transitionTransactionFields "transition transaction" "")
  let h ← withCode code (validateTransactionHeader data)
  let kind := h.operationKind
  validateEarlyRequest (data.get "canonical_request") h.taskId h.idempotencyKey
  validateJournalPath data "phase_journal_path" (h.journalPath "phases.0001.jsonl")
  validateJournalPath data "phase_journal_index_path" (h.journalPath "phase_segments.jsonl")
  require (data.get "first_journal_segment_id" = .str "0001")
    (incomplete "first_journal_segment_id" "first_journal_segment_id must be 0001")
  validateOperationIds data kind h.operationId
  let request ← outcomeOf (validateOperationRequest kind.kind (data.get "canonical_request"))
  let result ← outcomeOf (validateOperationResult kind.kind (data.get "canonical_result"))
  let q ← requireValid request
  let r ← requireValid result
  require (h.taskId = q.taskId)
    (incomplete "task_id" "transaction task_id must match request task_id")
  require (h.idempotencyKey = q.idempotencyKey)
    (incomplete "idempotency_key" "transaction idempotency_key must match request")
  require (h.requestFingerprint.val = operationRequestFingerprint q.toMapping)
    (incomplete "request_fingerprint"
      "request_fingerprint must match timestamp-free canonical_request")
  byKind (validateInitializationAnswer h) (validateTransitionAnswer h) kind q r
  let event ← outcomeOf (validateAuditEvent (data.get "planned_audit_event"))
  let state ← outcomeOf (validateTaskState (data.get "planned_state"))
  let e ← requireValid event
  let s ← requireValid state
  validatePlannedRecords h (kind.projectId q) e s
  byKind (fun _ r => validateInitializationPlan r e s)
    (fun q r => validateTransitionPlan h q r e s) kind q r
  byKind (fun q r => validateInitializationGraph record q r s)
    (fun q _ => validateTransitionGraph record q) kind q r
  require (h.plannedAuditEventHash.val = canonicalSha e.toJson)
    (incomplete "planned_audit_event_hash" "planned hash mismatch")
  require (h.plannedStateHash.val = canonicalSha s.toJson)
    (incomplete "planned_state_hash" "planned hash mismatch")
  require (h.plannedResultHash.val = canonicalSha r.toJson)
    (incomplete "planned_result_hash" "planned hash mismatch")
  return ⟨h, q, r, e, s⟩


/-! ## Section 5: Valid transactions -/

/-- What an accepted initialization binds: the first event of the task, and the state after it. -/
structure InitializationPlan (q : InitializationRequest) (r : InitializationResult)
    (e : AuditEvent) (s : WorkflowTaskState) : Prop where
  projectId : q.projectId = r.projectId
  eventType : e.eventType = .taskCreated
  result : ∃ event, r.verdict = .accepted s.currentState event ∧ event.val = e.eventId.val
  generation : e.generation.val = 1
  sequence : e.sequence.val = 1
  actor : q.actor = e.actor
  previousState : s.previousState = none
  lastTransitionId : s.lastTransitionId = none
  policyEvaluationId : s.policyEvaluationId = none
  pendingDecisionId : s.pendingDecisionId = none

/-- What an accepted transition binds: the event of the move, and the state after it. -/
structure TransitionPlan (q : TransitionRequest) (r : TransitionResult) (e : AuditEvent)
    (s : WorkflowTaskState) : Prop where
  eventType : e.eventType = .transitionAccepted
  result : ∃ event, r.verdict = .accepted q.toState event ∧ event.val = e.eventId.val
  transitionId : e.transitionId = some q.transitionId
  fromState : e.fromState = some q.fromState
  toState : e.toState = some q.toState
  actor : e.actor = q.actor
  policy : (Json.ofOption PolicyEvaluationBinding.toJson e.policyEvaluationBinding).pyEq
    q.policyEvaluationBinding.toJson = true
  policyCopy : q.policyEvaluationBinding.toJson.pyEq
    (Json.ofOption PolicyEvaluationBinding.toJson e.policyEvaluationBinding) = true
  evidence : (evidenceListJson e.evidenceBindings).pyEq (evidenceListJson q.evidenceBindings) = true
  evidenceCopy : (evidenceListJson q.evidenceBindings).pyEq (evidenceListJson e.evidenceBindings)
    = true
  decision : (Json.ofOption DecisionResolutionBinding.toJson q.decisionResolutionBinding).pyEq
    (Json.ofOption DecisionResolutionBinding.toJson e.decisionResolutionBinding) = true
  currentState : s.currentState = q.toState
  previousState : s.previousState = some q.fromState
  lastTransitionId : s.lastTransitionId = some q.transitionId
  policyEvaluationId : s.policyEvaluationId = some q.policyEvaluationBinding.evaluationId

/-- The plan of a transaction of either kind. -/
def PlanHolds (e : AuditEvent) (s : WorkflowTaskState) : (kind : TransitionOperationKind) →
    OperationRequest kind.kind → OperationResult kind.kind → Prop
  | .initialization, q, r => InitializationPlan q r e s
  | .transition, q, r => TransitionPlan q r e s

/-- The records of a transaction are valid, and they are records of one operation. -/
structure TransitionTransaction.Valid (t : TransitionTransaction) : Prop where
  journal : isSafeRelativePath (t.header.journalPath "phases.0001.jsonl") = true
  journalIndex : isSafeRelativePath (t.header.journalPath "phase_segments.jsonl") = true
  request : t.canonicalRequest.Valid
  requestId : t.canonicalRequest.operationId = t.header.operationId
  requestTask : t.canonicalRequest.taskId = t.header.taskId
  requestKey : t.canonicalRequest.idempotencyKey = t.header.idempotencyKey
  requestFingerprint : t.header.requestFingerprint.val
    = operationRequestFingerprint t.canonicalRequest.toMapping
  result : t.canonicalResult.Valid
  resultId : t.canonicalResult.operationId = t.header.operationId
  resultTask : t.canonicalResult.taskId = t.header.taskId
  resultHash : t.header.plannedResultHash.val = canonicalSha t.canonicalResult.toJson
  event : t.plannedAuditEvent.Valid
  eventTask : t.plannedAuditEvent.taskId = t.header.taskId
  eventProject : t.plannedAuditEvent.projectId
    = t.header.operationKind.projectId t.canonicalRequest
  eventHash : t.header.plannedAuditEventHash.val = canonicalSha t.plannedAuditEvent.toJson
  state : t.plannedState.Valid
  stateTask : t.plannedState.taskId = t.header.taskId
  stateProject : t.plannedState.projectId = t.header.operationKind.projectId t.canonicalRequest
  stateHash : t.header.plannedStateHash.val = canonicalSha t.plannedState.toJson
  headEventId : t.plannedState.auditHeadEventId = t.plannedAuditEvent.eventId
  headHash : t.plannedState.auditHeadHash = t.plannedAuditEvent.eventHash
  headGeneration : t.plannedState.auditGeneration = t.plannedAuditEvent.generation
  plan : PlanHolds t.plannedAuditEvent t.plannedState t.header.operationKind t.canonicalRequest
    t.canonicalResult

/-! ## Section 6: What the checks accept -/

omit [Platform] in
theorem requireMember_operationKind {value : Json} {path code : String}
    {k : TransitionOperationKind} :
    requireMember TransitionOperationKind.ofName value path code = .ok k ↔
      value = .str k.kind.name :=
  requireMember_eq_ok (fun k : TransitionOperationKind => k.kind.name)
    (fun _ _ => TransitionOperationKind.ofName_eq_some_iff)

/-- The fields of a header stand in a mapping. -/
structure TransactionHeader.Reads (h : TransactionHeader) (data : Mapping) : Prop where
  schemaVersion : data.get "schema_version" = .int 1
  transactionId : data.get "transaction_id" = .str h.transactionId.val
  operationKind : data.get "operation_kind" = .str h.operationKind.kind.name
  operationId : data.get "operation_id" = .str h.operationId.val
  taskId : data.get "task_id" = .str h.taskId.val
  idempotencyKey : data.get "idempotency_key" = .str h.idempotencyKey.val
  requestFingerprint : data.get "request_fingerprint" = .str h.requestFingerprint.val
  latestPhase : data.get "latest_phase" = .str h.latestPhase.val
  eventHash : data.get "planned_audit_event_hash" = .str h.plannedAuditEventHash.val
  stateHash : data.get "planned_state_hash" = .str h.plannedStateHash.val
  resultHash : data.get "planned_result_hash" = .str h.plannedResultHash.val
  createdAtUtc : data.get "created_at_utc" = .str h.createdAtUtc.val
  updatedAtUtc : data.get "updated_at_utc" = .str h.updatedAtUtc.val

omit [Platform] in
theorem validateTransactionHeader_eq_ok {data : Mapping} {h : TransactionHeader} :
    validateTransactionHeader data = .ok h ↔ h.Reads data := by
  simp only [validateTransactionHeader, bind_eq_ok, validateSchemaVersion_eq_ok,
    requireSafeId_eq_ok, requireMember_operationKind, requireNonEmptyString_eq_ok, requireSha_eq_ok,
    requireMember_wordOf, validateUtc_eq_ok, pure_eq_ok]
  constructor
  · rintro ⟨_, hversion, id, hid, kind, hkind, operation, hoperation, task, htask, key, hkey,
      fingerprint, hfingerprint, phase, hphase, event, hevent, state, hstate, result, hresult, t, ht,
      t', ht', rfl⟩
    exact ⟨hversion, hid, hkind, hoperation, htask, hkey, hfingerprint, hphase, hevent, hstate,
      hresult, ht, ht'⟩
  · intro hreads
    exact ⟨(), hreads.schemaVersion, _, hreads.transactionId, _, hreads.operationKind, _,
      hreads.operationId, _, hreads.taskId, _, hreads.idempotencyKey, _, hreads.requestFingerprint,
      _, hreads.latestPhase, _, hreads.eventHash, _, hreads.stateHash, _, hreads.resultHash, _,
      hreads.createdAtUtc, _, hreads.updatedAtUtc, rfl⟩

omit [Platform] in
theorem validateOperationIds_eq_ok {data : Mapping} {h : TransactionHeader} {u : Unit} :
    validateOperationIds data h.operationKind h.operationId = .ok u ↔
      data.get "initialization_id" = h.idJson .initialization ∧
        data.get "transition_id" = h.idJson .transition := by
  unfold validateOperationIds TransactionHeader.idJson
  cases h.operationKind with
  | initialization => simp
  | transition => simp [and_comm]

/-- The comparisons with the request before it is validated ask nothing new. -/
theorem validateEarlyRequest_eq_ok {kind : OperationKind} {q : OperationRequest kind}
    {taskId : SafeId} {key : NonEmptyString} {u : Unit} :
    validateEarlyRequest q.toJson taskId key = .ok u ↔
      taskId = q.taskId ∧ key = q.idempotencyKey := by
  have htask : q.toMapping.get "task_id" = .str q.taskId.val := by
    cases kind <;> rfl
  have hkey : q.toMapping.get "idempotency_key" = .str q.idempotencyKey.val := by
    cases kind <;> rfl
  simp only [validateEarlyRequest, OperationRequest.toJson, Mapping.asMapping_toJson, bind_eq_ok,
    requireEqual_eq_ok, Json.pyEq_str_left, htask, hkey, Json.str.injEq, exists_const,
    Subtype.val_inj]
  exact and_congr eq_comm eq_comm

omit [Platform] in
theorem getPath_null (path : List String) : getPath .null path = .null := by
  cases path <;> rfl

omit [Platform] in
/-- A path that leads to a value exists. -/
theorem pathExists_of_getPath_ne {record : Json} {path : List String}
    (h : getPath record path ≠ .null) : pathExists record path = true := by
  induction path generalizing record with
  | nil => rfl
  | cons part rest ih =>
      unfold getPath at h
      unfold pathExists
      cases hmapping : record.asMapping with
      | none => simp [hmapping] at h
      | some data =>
          simp only [hmapping] at h
          have hhas : data.has part = true := by
            by_contra hmissing
            have hnot : part ∉ data.keys := fun hmem =>
              hmissing (Mapping.has_eq_true_iff.mpr hmem)
            rw [Mapping.get_of_not_mem_keys hnot] at h
            exact h (getPath_null rest)
          simp only [hhas, Bool.true_and]
          exact ih h

/-- A value inside the planned audit event. -/
theorem getPath_planned {data : Mapping} {e : AuditEvent}
    (hevent : data.get "planned_audit_event" = e.toJson) (field : String) :
    getPath data.toJson ["planned_audit_event", field] = e.toMapping.get field := by
  rw [getPath_toJson_cons, hevent, AuditEvent.toJson, getPath_toJson_cons, getPath_nil]

omit [Platform] in
/-- An accepted verdict names a state and an event. -/
theorem verdict_accepted_iff {verdict : ResultVerdict NonEmptyString} {state : TaskState}
    {eventId : SafeId} :
    verdict.resultingStateJson = state.toJson ∧
        verdict.eventJson NonEmptyString.toJson = .str eventId.val ↔
      ∃ event, verdict = .accepted state event ∧ event.val = eventId.val := by
  cases verdict with
  | rejected code issues => simp [ResultVerdict.resultingStateJson, TaskState.toJson]
  | accepted state' event =>
      simp only [ResultVerdict.resultingStateJson, ResultVerdict.eventJson, NonEmptyString.toJson,
        Json.str.injEq, ResultVerdict.accepted.injEq]
      constructor
      · rintro ⟨hstate, hevent⟩
        exact ⟨event, ⟨TaskState.toJson_injective hstate, rfl⟩, hevent⟩
      · rintro ⟨_, ⟨hstate, heq⟩, hevent⟩
        exact ⟨by rw [hstate], by rw [heq, hevent]⟩

/-- What the graph of an initialization asks of its plan. -/
theorem validateInitializationGraph_eq_ok {data : Mapping} {q : InitializationRequest}
    {r : InitializationResult} {e : AuditEvent} {s : WorkflowTaskState} {u : Unit}
    (hevent : data.get "planned_audit_event" = e.toJson) {event : NonEmptyString}
    (hverdict : r.verdict = .accepted s.currentState event) :
    validateInitializationGraph data.toJson q r s = .ok u ↔
      (event.val = e.eventId.val ∧ e.generation.val = 1 ∧ e.sequence.val = 1) ∧
      (s.auditHeadEventId = e.eventId ∧ s.auditHeadHash = e.eventHash ∧
        s.auditGeneration = e.generation) ∧
      q.actor = e.actor ∧ s.policyEvaluationId = none ∧ s.pendingDecisionId = none := by
  have hresultId : r.toMapping.get "audit_event_id" = .str event.val := by
    show r.verdict.eventJson NonEmptyString.toJson = _
    rw [hverdict]
    rfl
  have hresultOne : ∀ field ∈ ["audit_generation", "audit_sequence"],
      r.toMapping.get field = .int 1 := by
    have hone : r.verdict.eventJson (fun _ => Json.int 1) = .int 1 := by
      rw [hverdict]
      rfl
    intro field hfield
    rcases List.mem_pair.mp hfield with rfl | rfl
    · exact hone
    · exact hone
  have heventId : e.toMapping.get "event_id" = .str e.eventId.val := rfl
  have heventHash : e.toMapping.get "event_hash" = .str e.eventHash.val := rfl
  have hgeneration : e.toMapping.get "generation" = .int e.generation.val := rfl
  have hsequence : e.toMapping.get "sequence" = .int e.sequence.val := rfl
  have hactor : e.toMapping.get "actor" = .str e.actor.name := rfl
  have hstateId : s.toMapping.get "audit_head_event_id" = .str s.auditHeadEventId.val := rfl
  have hstateHash : s.toMapping.get "audit_head_hash" = .str s.auditHeadHash.val := rfl
  have hstateGeneration : s.toMapping.get "audit_generation" = .int s.auditGeneration.val := rfl
  have hpolicy : s.toMapping.get "policy_evaluation_id"
      = Json.ofOption testedJson s.policyEvaluationId := rfl
  have hpending : s.toMapping.get "pending_decision_id"
      = Json.ofOption testedJson s.pendingDecisionId := rfl
  have hrequest : q.toMapping.get "actor" = .str q.actor.name := rfl
  simp only [validateInitializationGraph, validatePathTable, resultAuditBindings,
    stateAuditBindings, requestAuditBindings, stateNullBindings, bind_eq_ok, forM_eq_ok_iff,
    List.forall_mem_cons, List.not_mem_nil, false_imp_iff, implies_true, and_true,
    requireEqual_eq_ok, require_eq_ok, exists_const, getPath_planned hevent, hresultId,
    hresultOne _ (.head _), hresultOne _ (.tail _ (.head _)), heventId, heventHash, hgeneration,
    hsequence, hactor, hstateId, hstateHash, hstateGeneration, hpolicy, hpending, hrequest,
    Json.pyEq_str_left, Json.pyEq_int, Json.str.injEq, Json.ofOption_eq_null_iff testedJson_ne_null,
    Actor.name_injective.eq_iff]
  constructor
  · rintro ⟨⟨hid, hg, hs⟩, ⟨hhead, hhash, hgen⟩, ha, hp, hd⟩
    exact ⟨⟨hid.symm, by omega, by omega⟩, ⟨Subtype.ext hhead.symm, Subtype.ext hhash.symm,
      Subtype.ext (by omega)⟩, ha.symm, hp, hd⟩
  · rintro ⟨⟨hid, hg, hs⟩, ⟨hhead, hhash, hgen⟩, ha, hp, hd⟩
    exact ⟨⟨hid.symm, by omega, by omega⟩, ⟨by rw [hhead], by rw [hhash], by rw [hgen]⟩, ha.symm,
      hp, hd⟩

/-- What the graph of a transition asks of its plan. -/
theorem validateTransitionGraph_eq_ok {data : Mapping} {q : TransitionRequest} {e : AuditEvent}
    {u : Unit} (hevent : data.get "planned_audit_event" = e.toJson)
    (hrequest : data.get "canonical_request" = q.toJson) :
    validateTransitionGraph data.toJson q = .ok u ↔
      ((Json.ofOption DecisionResolutionBinding.toJson q.decisionResolutionBinding).pyEq
          (Json.ofOption DecisionResolutionBinding.toJson e.decisionResolutionBinding) = true ∧
        q.policyEvaluationBinding.toJson.pyEq
          (Json.ofOption PolicyEvaluationBinding.toJson e.policyEvaluationBinding) = true ∧
        (evidenceListJson q.evidenceBindings).pyEq (evidenceListJson e.evidenceBindings) = true) ∧
      e.actor = q.actor := by
  have hdecision : q.toMapping.get "decision_resolution_binding"
      = Json.ofOption DecisionResolutionBinding.toJson q.decisionResolutionBinding := rfl
  have hpolicy : q.toMapping.get "policy_evaluation_binding" = q.policyEvaluationBinding.toJson :=
    rfl
  have hevidence : q.toMapping.get "evidence_bindings" = evidenceListJson q.evidenceBindings := rfl
  have hdecision' : e.toMapping.get "decision_resolution_binding"
      = Json.ofOption DecisionResolutionBinding.toJson e.decisionResolutionBinding := rfl
  have hpolicy' : e.toMapping.get "policy_evaluation_binding"
      = Json.ofOption PolicyEvaluationBinding.toJson e.policyEvaluationBinding := rfl
  have hevidence' : e.toMapping.get "evidence_bindings" = evidenceListJson e.evidenceBindings := rfl
  have hactor : e.toMapping.get "actor" = .str e.actor.name := rfl
  have hactor' : getPath data.toJson ["canonical_request", "actor"] = .str q.actor.name := by
    rw [getPath_toJson_cons, hrequest, TransitionRequest.toJson, getPath_toJson_cons, getPath_nil]
    rfl
  have hexists : pathExists data.toJson ["planned_audit_event", "actor"] = true := by
    apply pathExists_of_getPath_ne
    rw [getPath_planned hevent, hactor]
    simp
  have hexists' : pathExists data.toJson ["canonical_request", "actor"] = true := by
    apply pathExists_of_getPath_ne
    rw [hactor']
    simp
  simp only [validateTransitionGraph, validatePathTable, validateCatalogBindings, bindingCopies,
    transitionActorBindings, bind_eq_ok, forM_eq_ok_iff, List.forall_mem_cons, List.not_mem_nil,
    false_imp_iff, implies_true, and_true, requireEqual_eq_ok, require_eq_ok, exists_const,
    getPath_planned hevent, hdecision, hpolicy, hevidence, hdecision', hpolicy', hevidence',
    hexists, hexists', hactor, hactor', Json.pyEq_str_left, Json.str.injEq, true_and]
  rw [eq_comm (a := q.actor.name), Actor.name_injective.eq_iff]

/-- **What the checks that depend on the kind ask of a plan.** -/
theorem kindChecks_iff (data : Mapping) (h : TransactionHeader) {e : AuditEvent}
    {s : WorkflowTaskState} (kind : TransitionOperationKind) (q : OperationRequest kind.kind)
    (r : OperationResult kind.kind) (hevent : data.get "planned_audit_event" = e.toJson)
    (hrequest : data.get "canonical_request" = q.toJson) :
    (byKind (validateInitializationAnswer h) (validateTransitionAnswer h) kind q r = .ok () ∧
      byKind (fun _ r => validateInitializationPlan r e s)
        (fun q r => validateTransitionPlan h q r e s) kind q r = .ok () ∧
      byKind (fun q r => validateInitializationGraph data.toJson q r s)
        (fun q _ => validateTransitionGraph data.toJson q) kind q r = .ok ()) ↔
      q.operationId = h.operationId ∧ r.operationId = h.operationId ∧ r.taskId = h.taskId ∧
      (s.auditHeadEventId = e.eventId ∧ s.auditHeadHash = e.eventHash ∧
        s.auditGeneration = e.generation) ∧ PlanHolds e s kind q r := by
  cases kind with
  | initialization =>
      change InitializationRequest at q
      change InitializationResult at r
      show (validateInitializationAnswer h q r = .ok () ∧
        validateInitializationPlan r e s = .ok () ∧
        validateInitializationGraph data.toJson q r s = .ok ()) ↔
          q.initializationId = h.operationId ∧ r.initializationId = h.operationId ∧
          r.taskId = h.taskId ∧ _ ∧ InitializationPlan q r e s
      simp only [validateInitializationAnswer, validateInitializationPlan, bind_eq_ok,
        require_eq_ok, requireEqual_eq_ok, exists_const, TaskState.toJson, Json.pyEq_str_left]
      constructor
      · rintro ⟨⟨hqid, hrid, htask, hproject⟩, ⟨htype, hresult, hprevious, hlast⟩, hgraph⟩
        cases hverdict : r.verdict with
        | rejected code issues =>
            simp [hverdict, ResultVerdict.resultingStateJson] at hresult
        | accepted state event =>
            rw [hverdict] at hresult
            obtain rfl := TaskState.toJson_injective hresult
            obtain ⟨⟨hid, hg, hs⟩, hhead, hactor, hpolicy, hpending⟩ :=
              (validateInitializationGraph_eq_ok hevent hverdict).mp hgraph
            exact ⟨hqid.symm, hrid.symm, htask.symm, hhead, hproject, htype,
              ⟨event, hverdict, hid⟩, hg, hs, hactor, hprevious, hlast, hpolicy, hpending⟩
      · rintro ⟨hqid, hrid, htask, hhead, hplan⟩
        obtain ⟨event, hverdict, hid⟩ := hplan.result
        refine ⟨⟨hqid.symm, hrid.symm, htask.symm, hplan.projectId⟩, ⟨hplan.eventType, ?_,
          hplan.previousState, hplan.lastTransitionId⟩, ?_⟩
        · rw [hverdict]
          rfl
        · apply (validateInitializationGraph_eq_ok hevent hverdict).mpr
          exact ⟨⟨hid, hplan.generation, hplan.sequence⟩, hhead, hplan.actor,
            hplan.policyEvaluationId, hplan.pendingDecisionId⟩
  | transition =>
      change TransitionRequest at q
      change TransitionResult at r
      show (validateTransitionAnswer h q r = .ok () ∧
        validateTransitionPlan h q r e s = .ok () ∧
        validateTransitionGraph data.toJson q = .ok ()) ↔
          q.transitionId = h.operationId ∧ r.transitionId = h.operationId ∧
          r.taskId = h.taskId ∧ _ ∧ TransitionPlan q r e s
      have hverdict := @verdict_accepted_iff r.verdict q.toState e.eventId
      simp only [validateTransitionAnswer, validateTransitionPlan, bind_eq_ok, require_eq_ok,
        requireEqual_eq_ok, exists_const, TaskState.toJson, Json.pyEq_str_left,
        Json.pyEq_str_right, validateTransitionGraph_eq_ok hevent hrequest]
      constructor
      · rintro ⟨⟨hqid, hrid, htask, hstate⟩, ⟨htype, htransition, hfrom, hto, hcurrent, hprevious,
          hlast, hpolicyId, hresult, hid, hhash, hgeneration, hpolicy, hevidence⟩,
          ⟨hdecision, hpolicy', hevidence'⟩, hactor⟩
        rw [hqid] at htransition hlast
        exact ⟨hqid.symm, hrid.symm, htask.symm, ⟨hid, hhash, hgeneration⟩, htype,
          hverdict.mp ⟨hstate, hresult⟩, htransition, hfrom, hto, hactor, hpolicy, hpolicy',
          hevidence, hevidence', hdecision, hcurrent, hprevious, hlast, hpolicyId⟩
      · rintro ⟨hqid, hrid, htask, ⟨hid, hhash, hgeneration⟩, hplan⟩
        obtain ⟨hstate, hresult⟩ := hverdict.mpr hplan.result
        exact ⟨⟨hqid.symm, hrid.symm, htask.symm, hstate⟩, ⟨hplan.eventType,
          hqid ▸ hplan.transitionId, hplan.fromState, hplan.toState, hplan.currentState,
          hplan.previousState, hqid ▸ hplan.lastTransitionId, hplan.policyEvaluationId, hresult,
          hid, hhash, hgeneration, hplan.policy, hplan.evidence⟩,
          ⟨hplan.decision, hplan.policyCopy, hplan.evidenceCopy⟩, hplan.actor⟩

/-- The keys and the single fields of a printed transaction. -/
theorem TransitionTransaction.reads (t : TransitionTransaction) : t.header.Reads t.toMapping :=
  ⟨rfl, rfl, rfl, rfl, rfl, rfl, rfl, rfl, rfl, rfl, rfl, rfl, rfl⟩

/-- **The validator accepts the printed valid transactions.** -/
theorem validateTransitionTransaction_eq_ok_iff {record : Json} {t : TransitionTransaction} :
    validateTransitionTransaction record = .ok t ↔ record = t.toJson ∧ t.Valid := by
  simp only [validateTransitionTransaction, bind_eq_ok, requireMapping_eq_ok, withCode_eq_ok,
    validateExactMapping_eq_ok_iff transitionTransactionFields_sorted,
    validateTransactionHeader_eq_ok, validateJournalPath, require_eq_ok, requireValid_eq_ok,
    validateOperationIds_eq_ok, validatePlannedRecords, pure_eq_ok, exists_const]
  constructor
  · rintro ⟨data, rfl, hkeys, h, hreads, _, _, ⟨hjournal, hsafe⟩, ⟨hindex, hsafe'⟩, hsegment,
      ⟨hinitialization, htransition⟩, _, hrequest, _, hresult, q, rfl, r, rfl, htask, hkey, hsha,
      _, hanswer, _, hevent, _, hstate, e, rfl, s, rfl, ⟨heventTask, heventProject, hstateTask,
      hstateProject⟩, _, hplan, _, hgraph, heventSha, hstateSha, hresultSha, rfl⟩
    rw [outcomeOf_eq_ok_ok, validateOperationRequest_eq_ok_iff] at hrequest
    rw [outcomeOf_eq_ok_ok, validateOperationResult_eq_ok_iff] at hresult
    rw [outcomeOf_eq_ok_ok, validateAuditEvent_eq_ok_iff] at hevent
    rw [outcomeOf_eq_ok_ok, validateTaskState_eq_ok_iff] at hstate
    obtain ⟨hqid, hrid, hrtask, ⟨hid, hhash, hgeneration⟩, hholds⟩ :=
      (kindChecks_iff data h h.operationKind q r hevent.1 hrequest.1).mp ⟨hanswer, hplan, hgraph⟩
    refine ⟨?_, hsafe, hsafe', hrequest.2, hqid, htask.symm, hkey.symm, hsha, hresult.2, hrid,
      hrtask, hresultSha, hevent.2, heventTask, heventProject, heventSha, hstate.2, hstateTask,
      hstateProject, hstateSha, hid, hhash, hgeneration, hholds⟩
    rw [Mapping.toJson, Mapping.entries_eq_map_get, hkeys]
    simp [transitionTransactionFields, TransitionTransaction.toJson,
      TransitionTransaction.toMapping, Mapping.toJson, hreads.schemaVersion, hreads.transactionId,
      hreads.operationKind, hreads.operationId, hreads.taskId, hreads.idempotencyKey,
      hreads.requestFingerprint, hreads.latestPhase, hreads.eventHash, hreads.stateHash,
      hreads.resultHash, hreads.createdAtUtc, hreads.updatedAtUtc, hjournal, hindex, hsegment,
      hinitialization, htransition, hrequest.1, hresult.1, hevent.1, hstate.1]
  · rintro ⟨rfl, hvalid⟩
    have hrequest : outcomeOf (validateOperationRequest t.header.operationKind.kind
        (t.toMapping.get "canonical_request")) = .ok (.ok t.canonicalRequest) :=
      outcomeOf_eq_ok_ok.mpr (validateOperationRequest_eq_ok_iff.mpr ⟨rfl, hvalid.request⟩)
    have hresult : outcomeOf (validateOperationResult t.header.operationKind.kind
        (t.toMapping.get "canonical_result")) = .ok (.ok t.canonicalResult) :=
      outcomeOf_eq_ok_ok.mpr (validateOperationResult_eq_ok_iff.mpr ⟨rfl, hvalid.result⟩)
    have hevent : outcomeOf (validateAuditEvent (t.toMapping.get "planned_audit_event"))
        = .ok (.ok t.plannedAuditEvent) :=
      outcomeOf_eq_ok_ok.mpr (validateAuditEvent_eq_ok_iff.mpr ⟨rfl, hvalid.event⟩)
    have hstate : outcomeOf (validateTaskState (t.toMapping.get "planned_state"))
        = .ok (.ok t.plannedState) :=
      outcomeOf_eq_ok_ok.mpr (validateTaskState_eq_ok_iff.mpr ⟨rfl, hvalid.state⟩)
    obtain ⟨hanswer, hplan, hgraph⟩ := (kindChecks_iff t.toMapping t.header
      t.header.operationKind t.canonicalRequest t.canonicalResult rfl rfl).mpr ⟨hvalid.requestId,
        hvalid.resultId, hvalid.resultTask, ⟨hvalid.headEventId, hvalid.headHash,
        hvalid.headGeneration⟩, hvalid.plan⟩
    exact ⟨t.toMapping, rfl, rfl, t.header, t.reads, (),
      validateEarlyRequest_eq_ok.mpr ⟨hvalid.requestTask.symm, hvalid.requestKey.symm⟩,
      ⟨rfl, hvalid.journal⟩, ⟨rfl, hvalid.journalIndex⟩, rfl, ⟨rfl, rfl⟩, _, hrequest, _, hresult,
      t.canonicalRequest, rfl, t.canonicalResult, rfl, hvalid.requestTask.symm,
      hvalid.requestKey.symm, hvalid.requestFingerprint, (), hanswer, _, hevent, _, hstate,
      t.plannedAuditEvent, rfl, t.plannedState, rfl, ⟨hvalid.eventTask, hvalid.eventProject,
      hvalid.stateTask, hvalid.stateProject⟩, (), hplan, (), hgraph, hvalid.eventHash, hvalid.stateHash,
      hvalid.resultHash, rfl⟩

end Acgps
