import Acgps.Workflow.RecoveryRecords

/-!
# Recovery transactions

What a recovery or a rollback is going to write, planned as one record: the request, the result,
what is quarantined, the event that starts a new generation, the state behind it, the answer to
repeated calls, and the record of the recovery. Which of them are planned depends on the action and
on the result; how they hang together is stated in a catalog.

## Main Definitions

* `RecoveryTransaction` - the planned record
* `recoveryMatrix` - which records are planned for which action and result
* `validateRecoveryTransaction` - `validate_recovery_transaction`

## Key Theorems

* `validateRecoveryTransaction_sound` - what the validator has checked of an accepted transaction
-/

namespace Acgps

open Checked

/-! ## Section 1: Values of a record -/

/-- What subscripting a value that is no mapping raises. -/
def subscriptError (value : Json) : Text :=
  match value with
  | .str _ => "string indices must be integers, not 'str'"
  | .arr _ => "list indices must be integers or slices, not str"
  | other => [.text "'", .text other.typeName, .text "' object is not subscriptable"]

/-- `value[key]`. -/
def subscript (value : Json) (key : String) : Check Json := do
  let data ← expect value.asMapping (.raised (.interpreter "TypeError" (subscriptError value)))
  require (data.has key = true) (.raised (.interpreter "KeyError" [.text key]))
  return data.get key

theorem subscript_eq_ok {value result : Json} {key : String} :
    subscript value key = .ok result ↔
      ∃ data : Mapping, value = data.toJson ∧ data.has key = true ∧ data.get key = result := by
  simp only [subscript, bind_eq_ok, expect_eq_ok, Mapping.asMapping_eq_some, require_eq_ok,
    pure_eq_ok, exists_const]

/-- `RECOVERY_PLANNED_HASH_KEYS`. -/
def recoveryPlannedHashKeys : List String :=
  ["generation_event", "idempotency_record", "quarantine", "recovery_record", "request", "result",
    "state"]

/-- `set(record["planned_hashes"]) != RECOVERY_PLANNED_HASH_KEYS`: a list of the keys is let
through too. -/
def requireHashKeys (value : Json) : Check Unit :=
  let rejection := incomplete "planned_hashes" "planned_hashes keys are invalid"
  match value with
  | .obj members => require (members.map Prod.fst = recoveryPlannedHashKeys) rejection
  | .arr items => do
      require (items.all (fun item => !item.isUnhashable) = true)
        (.raised (.interpreter "TypeError" "unhashable type"))
      require (items.all (fun item => item.asStr.any (· ∈ recoveryPlannedHashKeys)) = true ∧
          recoveryPlannedHashKeys.all (fun key => items.any (·.asStr = some key)) = true) rejection
  | .str _ => .error rejection
  | other => .error (.raised (.interpreter "TypeError"
      [.text "'", .text other.typeName, .text "' object is not iterable"]))

/-! ## Section 2: The artifact matrix -/

/-- `artifact_fields` of the matrix. -/
inductive RecoveryArtifact where
  | quarantine
  | generationEvent
  | state
  | idempotencyRecord
  deriving DecidableEq

namespace RecoveryArtifact

/-- `transaction_field`. -/
def transactionField : RecoveryArtifact → String
  | quarantine => "planned_quarantine_manifest"
  | generationEvent => "planned_generation_event"
  | state => "planned_state"
  | idempotencyRecord => "planned_idempotency_record"

/-- `planned_hash_key`. -/
def plannedHashKey : RecoveryArtifact → String
  | quarantine => "quarantine"
  | generationEvent => "generation_event"
  | state => "state"
  | idempotencyRecord => "idempotency_record"

/-- `recovery_record_hash_field`. -/
def recoveryRecordHashField : RecoveryArtifact → Option String
  | quarantine => some "quarantine_manifest_sha256"
  | generationEvent => some "generation_event_sha256"
  | state => some "state_sha256"
  | idempotencyRecord => none

end RecoveryArtifact

/-- `applicability_roles` of the matrix. -/
inductive Applicability where
  | required
  | optional
  | forbidden
  deriving DecidableEq

/-- `result_status` of a rule. -/
inductive RecoveryStatus where
  | accepted
  | failClosed
  | diagnosticOnly
  deriving DecidableEq

/-- The status of a result. -/
def recoveryStatus (accepted failClosed : Bool) : RecoveryStatus :=
  if accepted = true then .accepted else if failClosed = true then .failClosed else .diagnosticOnly

/-- A rule of the matrix. -/
structure RecoveryRule where
  recoveryAction : String
  resultStatus : RecoveryStatus
  artifacts : List (RecoveryArtifact × Applicability)
  deriving DecidableEq

/-- Everything is planned: a new generation starts. -/
def wholeGeneration : List (RecoveryArtifact × Applicability) :=
  [(.quarantine, .required), (.generationEvent, .required), (.state, .required),
    (.idempotencyRecord, .required)]

/-- Only the answer is planned. -/
def answerOnly : List (RecoveryArtifact × Applicability) :=
  [(.quarantine, .forbidden), (.generationEvent, .forbidden), (.state, .forbidden),
    (.idempotencyRecord, .required)]

/-- Nothing is planned. -/
def noArtifact : List (RecoveryArtifact × Applicability) :=
  [(.quarantine, .forbidden), (.generationEvent, .forbidden), (.state, .forbidden),
    (.idempotencyRecord, .forbidden)]

/-- `rules` of `wp3_recovery_artifact_matrix.yaml`. -/
def recoveryMatrix : List RecoveryRule :=
  [⟨"replay", .accepted, answerOnly⟩,
    ⟨"quarantine_and_start_generation", .accepted, wholeGeneration⟩,
    ⟨"rollback_to_valid_prefix", .accepted, wholeGeneration⟩,
    ⟨"classify_threat_model_limit", .accepted, answerOnly⟩,
    ⟨"replay", .failClosed, noArtifact⟩,
    ⟨"quarantine_and_start_generation", .failClosed, noArtifact⟩,
    ⟨"rollback_to_valid_prefix", .failClosed, noArtifact⟩,
    ⟨"classify_threat_model_limit", .failClosed, noArtifact⟩,
    ⟨"replay", .diagnosticOnly, noArtifact⟩,
    ⟨"quarantine_and_start_generation", .diagnosticOnly, noArtifact⟩,
    ⟨"rollback_to_valid_prefix", .diagnosticOnly, noArtifact⟩,
    ⟨"classify_threat_model_limit", .diagnosticOnly, noArtifact⟩]

/-! ## Section 3: The recovery graph -/

/-- `recovery_reason_registry`. -/
def recoveryReasonRegistry : List String :=
  ["AUDIT_TAIL_CORRUPT", "STATE_AUDIT_MISMATCH", "TRANSACTION_PHASE_STALE", "THREAT_MODEL_LIMIT",
    "OPERATOR_REQUESTED_ROLLBACK"]

/-- Fields of a result, each with the path of the value that it has to agree with, or `None`. -/
abbrev ExpectationTable := List (String × Option (List String))

/-- The accepted rule of an action that plans no generation. -/
def noGenerationExpectations : ExpectationTable :=
  [("quarantine_path", none), ("new_generation", none), ("started_by_event_id", none),
    ("started_by_event_type", none)]

/-- The accepted rule of an action that starts a generation. -/
def generationExpectations : ExpectationTable :=
  [("quarantine_path", some ["planned_quarantine_manifest", "destination_path"]),
    ("new_generation", some ["planned_generation_event", "generation"]),
    ("started_by_event_id", some ["planned_generation_event", "event_id"]),
    ("started_by_event_type", some ["planned_generation_event", "event_type"])]

/-- `artifact_truth_table`. -/
def artifactTruthTable : List (String × ExpectationTable) :=
  [("replay", noGenerationExpectations), ("classify_threat_model_limit", noGenerationExpectations),
    ("quarantine_and_start_generation", generationExpectations),
    ("rollback_to_valid_prefix", generationExpectations)]

/-- `side_effect_fields_must_be_null`, of both rules of `result_status_truth_table`. -/
def sideEffectFields : List String :=
  ["quarantine_path", "new_generation", "started_by_event_id", "started_by_event_type",
    "resulting_state"]

/-- `planned_artifacts_must_be_null`, of both rules of `result_status_truth_table`. -/
def sideEffectArtifacts : List String :=
  ["planned_quarantine_manifest", "planned_generation_event", "planned_state",
    "planned_idempotency_record"]

/-- `identity_bindings.request_generation_actor`. -/
def generationActorBindings : List (List String × List String) :=
  [(["planned_generation_event", "actor"], ["canonical_recovery_request", "actor"])]

/-- `quarantine_bindings`. -/
def quarantineBindings : List (List String × List String) :=
  [(["planned_quarantine_manifest", "source_path"],
      ["canonical_recovery_request", "observed_audit_path"]),
    (["planned_quarantine_manifest", "destination_path"],
      ["canonical_recovery_result", "quarantine_path"]),
    (["planned_generation_event", "details", "quarantine_path"],
      ["planned_quarantine_manifest", "destination_path"]),
    (["planned_generation_event", "details", "audit_generation", "quarantine_path"],
      ["planned_quarantine_manifest", "destination_path"])]

/-- The path of the trusted prefix in a transaction. -/
def trustedPrefixPath : List String :=
  ["planned_recovery_record", "diagnostic", "previous_trusted_prefix"]

/-- `trusted_prefix_bindings`. -/
def trustedPrefixBindings : List (List String × List String) :=
  [(["canonical_recovery_result", "previous_generation"], trustedPrefixPath ++ ["generation"]),
    (["canonical_recovery_result", "previous_valid_head_hash"],
      trustedPrefixPath ++ ["event_hash"]),
    (["planned_generation_event", "details", "previous_trusted_prefix"], trustedPrefixPath),
    (["planned_generation_event", "details", "audit_generation", "predecessor_generation"],
      trustedPrefixPath ++ ["generation"]),
    (["planned_generation_event", "details", "audit_generation", "predecessor_valid_head_hash"],
      trustedPrefixPath ++ ["event_hash"])]

/-- `generation_continuity.new_generation.result_field`. -/
def newGenerationPath : List String := ["canonical_recovery_result", "new_generation"]

/-- `generation_continuity.new_generation.matching_fields`. -/
def matchingGenerations : List (List String) :=
  [["planned_generation_event", "generation"],
    ["planned_generation_event", "details", "audit_generation", "generation"],
    ["planned_state", "audit_generation"]]

/-- `path_derivations.quarantine_destination.field`. -/
def quarantineDestinationPath : List String :=
  ["planned_quarantine_manifest", "destination_path"]

/-- `path_derivations.quarantine_destination.template`: its texts, and the paths in braces. -/
def quarantineDestinationTemplate : List (String ⊕ List String) :=
  [.inl "state/quarantine/", .inr ["canonical_recovery_request", "task_id"], .inl "/",
    .inr ["canonical_recovery_request", "recovery_id"], .inl "/audit-tail.bin"]

/-- `_render_catalog_template`. -/
def renderCatalogTemplate (record : Json) (template : List (String ⊕ List String)) :
    Check String := do
  let parts ← template.mapM (fun part => match part with
    | .inl text => .ok text
    | .inr path => do
        require (pathExists record path = true)
          (incomplete (dottedPath path) "template binding path is missing")
        expect (getPath record path).asStr
          (incomplete (dottedPath path) "template binding value must be a string"))
  return String.join parts

variable [Platform]

/-- `_validate_catalog_path_derivations`. -/
def validateCatalogPathDerivations (record : Json) : Check Unit := do
  let field := quarantineDestinationPath
  require (pathExists record field = true)
    (incomplete (dottedPath field) "derived path field is missing")
  let expected ← renderCatalogTemplate record quarantineDestinationTemplate
  require (getPath record field = .str expected)
    (incomplete (dottedPath field) "derived path does not match catalog template")

/-- `_validate_generation_continuity`. -/
def validateGenerationContinuity (record : Json) : Check Unit := do
  let predecessorPath := trustedPrefixPath ++ ["generation"]
  require (pathExists record predecessorPath = true ∧ pathExists record newGenerationPath = true)
    (incomplete "task1_invariants.recovery_graph.generation_continuity.new_generation"
      "generation rule path is missing")
  let issue := incomplete (dottedPath newGenerationPath)
  let predecessor ← expect (getPath record predecessorPath).asInt
    (issue "generation values must be integers")
  let value ← expect (getPath record newGenerationPath).asInt
    (issue "generation values must be integers")
  require (value = predecessor + 1) (issue "new generation must increment from predecessor")
  forM matchingGenerations (fun field => do
    require (pathExists record field = true)
      (incomplete (dottedPath field) "generation matching field is missing")
    requireEqual (getPath record field) (.int value) (dottedPath field)
      "generation field must match result generation")

/-- What the graph asks of a result that is not accepted. -/
def validateRejectedGraph (data result : Mapping) : Check Unit := do
  forM sideEffectFields (fun field => require (result.get field = .null)
    (incomplete ("canonical_recovery_result." ++ field)
      "non-accepted recovery result must not claim side effects"))
  forM sideEffectArtifacts (fun field => require (data.get field = .null)
    (incomplete field "non-accepted recovery result must not plan side-effect artifacts"))

/-- What the graph asks of an accepted result. -/
def validateAcceptedGraph (data result : Mapping) (action : String) : Check Unit := do
  let rule ← expect (artifactTruthTable.lookup action)
    (incomplete "task1_invariants.recovery_graph.artifact_truth_table"
      "missing accepted recovery action rule")
  forM rule (fun entry =>
    let path := "canonical_recovery_result." ++ entry.1
    entry.2.elim
      (require (result.get entry.1 = .null)
        (incomplete path "recovery result field must be null for this action"))
      (fun expectation => requireEqual (result.get entry.1) (getPath data.toJson expectation) path
        [.text "recovery result ", .text entry.1, .text " must match planned artifact graph"]))

/-- What the graph asks of a result. -/
def validateResultGraph (data : Mapping) (r : RecoveryResult) (action : String) : Check Unit :=
  if r.verdict.isAccepted = true then validateAcceptedGraph data r.toMapping action
  else validateRejectedGraph data r.toMapping

/-- `_validate_recovery_operation_graph`. -/
def validateRecoveryOperationGraph (data : Mapping) (q : RecoveryRequest) (r : RecoveryResult)
    (diagnostic : RecoveryDiagnostic) : Check Unit := do
  let record := data.toJson
  let hasEvent := data.get "planned_generation_event" ≠ .null
  let hasManifest := data.get "planned_quarantine_manifest" ≠ .null
  require (diagnostic.recoveryReason.val ∈ recoveryReasonRegistry)
    (incomplete "planned_recovery_record.diagnostic.recovery_reason"
      "recovery reason is not registered")
  validateResultGraph data r q.recoveryAction.val
  checkWhen hasEvent (validateCatalogBindings record generationActorBindings)
  validateCatalogBindings record (trustedPrefixBindings.filter (fun binding =>
    hasEvent ∨ (binding.1.head? ≠ some "planned_generation_event" ∧
      binding.2.head? ≠ some "planned_generation_event")))
  checkWhen hasManifest do
    validateCatalogBindings record quarantineBindings
    validateCatalogPathDerivations record
  checkWhen (hasEvent ∧ r.newGeneration ≠ none) (validateGenerationContinuity record)
  checkWhen hasEvent do
    let details := ["planned_generation_event", "details"]
    requireEqual (getPath record (details ++ ["previous_trusted_prefix"]))
      diagnostic.previousTrustedPrefix.toJson
      "planned_recovery_record.diagnostic.previous_trusted_prefix"
      "generation event trusted prefix must match recovery diagnostic"
    checkWhen hasManifest do
      let destination := getPath record quarantineDestinationPath
      requireEqual (getPath record (details ++ ["quarantine_path"])) destination
        "planned_generation_event.details.quarantine_path"
        "generation event quarantine path must match planned quarantine destination"
      requireEqual (getPath record (details ++ ["audit_generation", "quarantine_path"])) destination
        "planned_generation_event.details.audit_generation.quarantine_path"
        "audit generation quarantine path must match planned quarantine destination"

/-! ## Section 4: The record -/

/-- The fields of a transaction beside its records. -/
structure RecoveryHeader where
  transactionId : SafeId
  operationKind : RecoveryOperationKind
  operationId : SafeId
  taskId : SafeId
  idempotencyKey : NonEmptyString
  createdAtUtc : Utc
  deriving DecidableEq

/-- A planned recovery or rollback. -/
structure RecoveryTransaction where
  header : RecoveryHeader
  canonicalRecoveryRequest : RecoveryRequest
  canonicalRecoveryResult : RecoveryResult
  plannedQuarantineManifest : Option QuarantineManifest
  plannedRecoveryRecord : RecoveryRecord
  plannedGenerationEvent : Option AuditEvent
  plannedState : Option WorkflowTaskState
  plannedIdempotencyRecord : Option PlannedIdempotencyRecord

/-- `RECOVERY_TRANSACTION_FIELDS`. -/
def recoveryTransactionFields : List String :=
  ["canonical_recovery_request", "canonical_recovery_result", "created_at_utc", "idempotency_key",
    "operation_id", "operation_kind", "phase_journal_index_path", "phase_journal_path",
    "planned_generation_event", "planned_hashes", "planned_idempotency_record",
    "planned_quarantine_manifest", "planned_recovery_record", "planned_state", "schema_version",
    "task_id", "transaction_id"]

omit [Platform] in
theorem recoveryTransactionFields_sorted : recoveryTransactionFields.Pairwise (· < ·) := by
  decide +kernel

/-! ## Section 5: The validator -/

/-- The checks of single fields. -/
def validateRecoveryHeader (data : Mapping) : Check RecoveryHeader := do
  validateSchemaVersion (data.get "schema_version") "schema_version"
  let transactionId ← requireSafeId (data.get "transaction_id") "transaction_id"
  let operationKind ← requireMember RecoveryOperationKind.ofName (data.get "operation_kind")
    "operation_kind" "WORKFLOW_TRANSACTION_INCOMPLETE"
  let operationId ← requireSafeId (data.get "operation_id") "operation_id"
  let taskId ← requireSafeId (data.get "task_id") "task_id"
  let idempotencyKey ← requireNonEmptyString (data.get "idempotency_key") "idempotency_key"
  let createdAtUtc ← validateUtc (data.get "created_at_utc") "created_at_utc"
  return ⟨transactionId, operationKind, operationId, taskId, idempotencyKey, createdAtUtc⟩

/-- The comparisons with a request that was not validated yet. -/
def validateEarlyRecoveryRequest (request : Json) (taskId : SafeId) (key : NonEmptyString) :
    Check Unit :=
  request.asMapping.elim (.ok ()) (fun data => do
    requireEqual (.str taskId.val) (data.get "task_id") "task_id"
      "transaction task_id must match recovery request"
    requireEqual (.str key.val) (data.get "idempotency_key") "idempotency_key"
      "transaction idempotency_key must match request")

/-- The types of the planned records. -/
def validateRecoveryShapes (data : Mapping) : Check Unit := do
  forM ["canonical_recovery_request", "canonical_recovery_result", "planned_recovery_record"]
    (fun field => require ((data.get field).asMapping.isSome = true)
      (incomplete field "must be a mapping"))
  forM sideEffectArtifacts (fun field =>
    require (data.get field = .null ∨ (data.get field).asMapping.isSome = true)
      (incomplete field "must be null or mapping"))

/-- The header, the request and the result are of one operation. -/
def validateRecoveryIdentity (h : RecoveryHeader) (q : RecoveryRequest) (r : RecoveryResult) :
    Check Unit := do
  require (h.operationKind = .ofAction q.recoveryAction.val)
    (incomplete "operation_kind" "operation_kind must match recovery_action")
  require (h.operationId = q.recoveryId)
    (incomplete "operation_id" "operation_id must equal canonical request recovery_id")
  require (h.operationId = r.recoveryId)
    (incomplete "canonical_recovery_result.recovery_id"
      "result recovery_id must match operation_id")
  require (h.taskId = q.taskId)
    (incomplete "task_id" "transaction task_id must match recovery request")
  require (h.taskId = r.taskId)
    (incomplete "canonical_recovery_result.task_id" "result task_id must match transaction")
  require (h.idempotencyKey = q.idempotencyKey)
    (incomplete "idempotency_key" "transaction idempotency_key must match request")
  require (q.projectId = r.projectId)
    (incomplete "canonical_recovery_result.project_id" "result project_id must match request")

/-- The planned event is the one of the request and the result. Its details are read before anything
is compared: an event of another type may have none of them. -/
def validateGenerationEvent (h : RecoveryHeader) (q : RecoveryRequest) (r : RecoveryResult)
    (e : AuditEvent) : Check Unit := do
  let event := fun field => "planned_generation_event." ++ field
  let result := fun field => "canonical_recovery_result." ++ field
  let recoveryId ← subscript e.details.toJson "recovery_id"
  let recoveryAction ← subscript e.details.toJson "recovery_action"
  let recoveryTransactionId ← subscript e.details.toJson "recovery_transaction_id"
  let trusted ← subscript e.details.toJson "previous_trusted_prefix"
  let generation ← subscript trusted "generation"
  let eventHash ← subscript trusted "event_hash"
  require (e.eventType = (RecoveryOperationKind.ofAction q.recoveryAction.val).eventType)
    (incomplete (event "event_type") "generation event type must match recovery action")
  require (e.taskId = h.taskId)
    (incomplete (event "task_id") "generation task_id must match transaction")
  require (e.projectId = q.projectId)
    (incomplete (event "project_id") "generation project_id must match request")
  requireEqual recoveryId (.str q.recoveryId.val) (event "details.recovery_id")
    "generation event recovery_id must match request"
  requireEqual recoveryAction (.str q.recoveryAction.val) (event "details.recovery_action")
    "generation event action must match request"
  requireEqual recoveryTransactionId (.str h.transactionId.val)
    (event "details.recovery_transaction_id")
    "generation event transaction id must match transaction"
  require (r.startedByEventId = some e.eventId)
    (incomplete (result "started_by_event_id")
      "result started event must match planned generation event")
  require (r.startedByEventType.map Subtype.val = some e.eventType.name)
    (incomplete (result "started_by_event_type")
      "result started event type must match planned generation event")
  require (r.newGeneration = some e.generation)
    (incomplete (result "new_generation") "result new_generation must match planned event")
  requireEqual (Json.ofOption PosNat.toJson r.previousGeneration) generation
    (result "previous_generation")
    "result previous_generation must match generation event trusted prefix"
  requireEqual (Json.ofOption testedJson r.previousValidHeadHash) eventHash
    (result "previous_valid_head_hash")
    "result previous hash must match generation event trusted prefix"

/-- The planned state is the one of the request, the result and the event. -/
def validateRecoveredState (h : RecoveryHeader) (q : RecoveryRequest) (r : RecoveryResult)
    (event : Option AuditEvent) (s : WorkflowTaskState) : Check Unit := do
  let path := fun field => "planned_state." ++ field
  require (s.taskId = h.taskId)
    (incomplete (path "task_id") "planned state task_id must match transaction")
  require (s.projectId = q.projectId)
    (incomplete (path "project_id") "planned state project_id must match request")
  requireEqual s.currentState.toJson r.verdict.resultingStateJson (path "current_state")
    "planned state current_state must match result"
  require (∀ e ∈ event, s.auditHeadEventId = e.eventId)
    (incomplete (path "audit_head_event_id")
      "planned state audit head event must match generation event")
  require (∀ e ∈ event, s.auditHeadHash = e.eventHash)
    (incomplete (path "audit_head_hash")
      "planned state audit head hash must match generation event")
  require (∀ e ∈ event, s.auditGeneration = e.generation)
    (incomplete (path "audit_generation")
      "planned state audit generation must match generation event")

/-- One artifact of `_validate_recovery_artifact_matrix`. -/
def validateRecoveryArtifact (data recoveryRecord : Mapping)
    (entry : RecoveryArtifact × Applicability) : Check Unit := do
  let field := entry.1.transactionField
  let hashPath := "planned_hashes." ++ entry.1.plannedHashKey
  let recordPath := "planned_recovery_record." ++ entry.1.recoveryRecordHashField.getD ""
  let value := data.get field
  let plannedHash ← subscript (data.get "planned_hashes") entry.1.plannedHashKey
  let recoveryHash := entry.1.recoveryRecordHashField.elim Json.null recoveryRecord.get
  require (entry.2 = .forbidden → value = .null)
    (incomplete field "matrix forbids planned artifact")
  require (entry.2 = .required → value ≠ .null)
    (incomplete field "matrix requires planned artifact")
  if value = .null then do
    require (plannedHash = .null) (incomplete hashPath
      [.text (if entry.2 = .forbidden then "forbidden" else "absent optional"),
        .text " artifact hash must be null"])
    require (recoveryHash = .null) (incomplete recordPath
      [.text (if entry.2 = .forbidden then "forbidden" else "absent optional"),
        .text " artifact recovery-record hash must be null"])
  else do
    let expected := Json.str (canonicalSha value)
    require (plannedHash = expected) (incomplete hashPath "planned hash mismatch")
    require (entry.1.recoveryRecordHashField = none ∨ recoveryHash = expected)
      (incomplete recordPath "recovery-record artifact hash mismatch")
    value.asMapping.elim (.ok ()) (fun artifact =>
      forM ["destination_path", "transaction_path"] (fun pathField =>
        checkWhen (artifact.has pathField = true) (do
          let _ ← requireSafePath (artifact.get pathField)
            (incomplete (field ++ "." ++ pathField) "artifact destination path must be safe")
          return ())))

/-- `_validate_recovery_artifact_matrix`. -/
def validateRecoveryArtifactMatrix (data recoveryRecord : Mapping) (action : String)
    (status : RecoveryStatus) : Check Unit := do
  let rule ← expect
    (recoveryMatrix.find? (fun rule => rule.recoveryAction = action ∧ rule.resultStatus = status))
    (incomplete "recovery_artifact_matrix.rules" "missing recovery matrix rule")
  forM rule.artifacts (validateRecoveryArtifact data recoveryRecord)

/-- The planned records that the planned hashes pin, in the order of the checks. -/
def plannedHashExpectations : List (String × String) :=
  [("request", "canonical_recovery_request"), ("result", "canonical_recovery_result"),
    ("recovery_record", "planned_recovery_record"), ("quarantine", "planned_quarantine_manifest"),
    ("generation_event", "planned_generation_event"), ("state", "planned_state"),
    ("idempotency_record", "planned_idempotency_record")]

/-- One of the planned hashes. -/
def validatePlannedHash (data : Mapping) (entry : String × String) : Check Unit := do
  let actual ← subscript (data.get "planned_hashes") entry.1
  let planned := data.get entry.2
  require (planned = .null → actual = .null)
    (incomplete ("planned_hashes." ++ entry.1) "hash must be null when planned artifact is null")
  require (planned ≠ .null → actual = .str (canonicalSha planned))
    (incomplete ("planned_hashes." ++ entry.1) "planned hash mismatch")

/-- The path of a recovery transaction, of both kinds. -/
def recoveryPath (taskId operationId : SafeId) : String :=
  "state/transactions/" ++ taskId.val ++ "/recovery-" ++ operationId.val

/-- `validate_recovery_transaction`. -/
def validateRecoveryTransaction (record : Json) : Check RecoveryTransaction := do
  let data ← requireMapping record (incomplete "$" "recovery transaction must be a mapping")
  let code := "WORKFLOW_TRANSACTION_INCOMPLETE"
  withCode code (validateExactMapping data recoveryTransactionFields "recovery transaction" "")
  let h ← withCode code (validateRecoveryHeader data)
  validateEarlyRecoveryRequest (data.get "canonical_recovery_request") h.taskId h.idempotencyKey
  validateRecoveryShapes data
  validateJournalPath data "phase_journal_path"
    (transactionArtifactPath h.taskId "recovery" h.operationId "phases.0001.jsonl")
  validateJournalPath data "phase_journal_index_path"
    (transactionArtifactPath h.taskId "recovery" h.operationId "phase_segments.jsonl")
  requireHashKeys (data.get "planned_hashes")
  let request ← outcomeOf (validateRecoveryRequest (data.get "canonical_recovery_request"))
  let result ← outcomeOf (validateRecoveryResult (data.get "canonical_recovery_result"))
  let q ← requireValid request
  let r ← requireValid result
  validateRecoveryIdentity h q r
  let manifest ← optionally validateQuarantineManifest (data.get "planned_quarantine_manifest")
  let event ← optionally (fun value => do
    let e ← withCode code (validateAuditEvent value)
    validateGenerationEvent h q r e
    return e) (data.get "planned_generation_event")
  require (∀ m ∈ manifest, r.quarantinePath = some m.destinationPath)
    (incomplete "canonical_recovery_result.quarantine_path"
      "result quarantine_path must match planned quarantine destination")
  let state ← optionally (fun value => do
    let s ← withCode code (validateTaskState value)
    validateRecoveredState h q r event s
    return s) (data.get "planned_state")
  let answer ← optionally (fun value => validatePlannedIdempotency value q r h.operationKind
    (recoveryPath h.taskId h.operationId)) (data.get "planned_idempotency_record")
  let recovery ← validatePlannedRecoveryRecord (data.get "planned_recovery_record") q r
    h.operationKind (data.get "planned_quarantine_manifest") (data.get "planned_generation_event")
    (data.get "planned_state")
  validateRecoveryArtifactMatrix data recovery.toMapping q.recoveryAction.val
    (recoveryStatus r.verdict.isAccepted (!r.verdict.isAccepted))
  validateRecoveryOperationGraph data q r recovery.diagnostic
  forM plannedHashExpectations (validatePlannedHash data)
  return ⟨h, q, r, manifest, recovery, event, state, answer⟩

/-! ## Section 6: What the checks accept -/

/-- The fields and the records of a transaction stand in a mapping. -/
structure RecoveryTransaction.Reads (t : RecoveryTransaction) (data : Mapping) : Prop where
  transactionId : data.get "transaction_id" = .str t.header.transactionId.val
  operationKind : data.get "operation_kind" = .str t.header.operationKind.kind.name
  operationId : data.get "operation_id" = .str t.header.operationId.val
  taskId : data.get "task_id" = .str t.header.taskId.val
  idempotencyKey : data.get "idempotency_key" = .str t.header.idempotencyKey.val
  createdAtUtc : data.get "created_at_utc" = .str t.header.createdAtUtc.val
  request : data.get "canonical_recovery_request" = t.canonicalRecoveryRequest.toJson
  result : data.get "canonical_recovery_result" = t.canonicalRecoveryResult.toJson
  manifest : data.get "planned_quarantine_manifest"
    = Json.ofOption QuarantineManifest.toJson t.plannedQuarantineManifest
  recoveryRecord : data.get "planned_recovery_record" = t.plannedRecoveryRecord.toJson
  generationEvent : data.get "planned_generation_event"
    = Json.ofOption AuditEvent.toJson t.plannedGenerationEvent
  state : data.get "planned_state" = Json.ofOption WorkflowTaskState.toJson t.plannedState
  idempotencyRecord : data.get "planned_idempotency_record"
    = Json.ofOption PlannedIdempotencyRecord.toJson t.plannedIdempotencyRecord

/-- The header, the request and the result are of one operation. -/
structure SameRecovery (h : RecoveryHeader) (q : RecoveryRequest) (r : RecoveryResult) : Prop where
  operationKind : h.operationKind = .ofAction q.recoveryAction.val
  requestId : h.operationId = q.recoveryId
  resultId : h.operationId = r.recoveryId
  requestTask : h.taskId = q.taskId
  resultTask : h.taskId = r.taskId
  idempotencyKey : h.idempotencyKey = q.idempotencyKey
  projectId : q.projectId = r.projectId

/-- An event starts the generation that the request and the result are about. -/
structure StartsGeneration (h : RecoveryHeader) (q : RecoveryRequest) (r : RecoveryResult)
    (e : AuditEvent) (d : RecoveryDetails) : Prop where
  valid : e.Valid
  recovery : e.IsRecovery d
  taskId : e.taskId = h.taskId
  projectId : e.projectId = q.projectId
  recoveryId : d.recoveryId = q.recoveryId
  recoveryAction : d.recoveryAction = q.recoveryAction.val
  transactionId : d.recoveryTransactionId = h.transactionId
  startedBy : r.startedByEventId = some e.eventId
  newGeneration : r.newGeneration = some e.generation
  previousGeneration : r.previousGeneration = some d.previousTrustedPrefix.generation
  previousHash : r.previousValidHeadHash = some d.previousTrustedPrefix.eventHash

/-- A state is the one behind a generation event. -/
structure RecoversState (h : RecoveryHeader) (q : RecoveryRequest) (event : Option AuditEvent)
    (s : WorkflowTaskState) : Prop where
  valid : s.Valid
  taskId : s.taskId = h.taskId
  projectId : s.projectId = q.projectId
  headEventId : ∀ e ∈ event, s.auditHeadEventId = e.eventId
  headHash : ∀ e ∈ event, s.auditHeadHash = e.eventHash
  generation : ∀ e ∈ event, s.auditGeneration = e.generation

/-- What is checked of an accepted transaction. -/
structure RecoveryTransaction.Valid (t : RecoveryTransaction) : Prop where
  same : SameRecovery t.header t.canonicalRecoveryRequest t.canonicalRecoveryResult
  result : t.canonicalRecoveryResult.Valid
  quarantine : ∀ m ∈ t.plannedQuarantineManifest,
    t.canonicalRecoveryResult.quarantinePath = some m.destinationPath
  generationEvent : ∀ e ∈ t.plannedGenerationEvent, ∃ d, StartsGeneration t.header
    t.canonicalRecoveryRequest t.canonicalRecoveryResult e d ∧
      d.previousTrustedPrefix = t.plannedRecoveryRecord.diagnostic.previousTrustedPrefix ∧
      e.generation.val = d.previousTrustedPrefix.generation.val + 1
  state : ∀ s ∈ t.plannedState, RecoversState t.header t.canonicalRecoveryRequest
    t.plannedGenerationEvent s
  idempotencyRecord : ∀ p ∈ t.plannedIdempotencyRecord, p.PlannedFor t.canonicalRecoveryRequest
    t.canonicalRecoveryResult t.header.operationKind
      (recoveryPath t.header.taskId t.header.operationId)
  wholeGeneration : t.plannedGenerationEvent ≠ none → t.plannedQuarantineManifest ≠ none ∧
    t.plannedState ≠ none ∧ t.plannedIdempotencyRecord ≠ none

omit [Platform] in
theorem validateRecoveryIdentity_eq_ok {h : RecoveryHeader} {q : RecoveryRequest}
    {r : RecoveryResult} {u : Unit} :
    validateRecoveryIdentity h q r = .ok u ↔ SameRecovery h q r := by
  simp only [validateRecoveryIdentity, bind_eq_ok, require_eq_ok, exists_const]
  constructor
  · rintro ⟨hkind, hrequest, hresult, htask, htask', hkey, hproject⟩
    exact ⟨hkind, hrequest, hresult, htask, htask', hkey, hproject⟩
  · intro h
    exact ⟨h.operationKind, h.requestId, h.resultId, h.requestTask, h.resultTask, h.idempotencyKey,
      h.projectId⟩

/-- A valid event of a type that starts a generation is a recovery. -/
theorem AuditEvent.Valid.isRecovery {e : AuditEvent} (h : e.Valid) {kind : RecoveryOperationKind}
    (htype : e.eventType = kind.eventType) : ∃ d, e.IsRecovery d := by
  have hbody := h.body
  unfold AuditEvent.Body at hbody
  rw [htype] at hbody
  cases kind with
  | recovery => exact hbody
  | rollback => exact hbody

/-- A recovery is a valid event when it starts a chain and carries its own digest. -/
theorem AuditEvent.IsRecovery.valid {e : AuditEvent} {d : RecoveryDetails} (h : e.IsRecovery d)
    (kind : RecoveryOperationKind) (htype : e.eventType = kind.eventType)
    (hprevious : e.previousEventHash = none) (hsha : canonicalSha e.preimage = e.eventHash.val) :
    e.Valid where
  previousHash := iff_of_true h.sequence hprevious
  evidence := by
    rw [h.noTransition.evidence]
    exact ⟨by simp, .nil⟩
  policy := by simp [h.noTransition.policy]
  decision := by simp [h.noTransition.decision]
  body := by
    unfold AuditEvent.Body
    rw [htype]
    cases kind with
    | recovery => exact ⟨d, h⟩
    | rollback => exact ⟨d, h⟩
  hash := hsha

/-- **What the checks of a generation event find.** -/
theorem StartsGeneration.of_check {h : RecoveryHeader} {q : RecoveryRequest} {r : RecoveryResult}
    {e : AuditEvent} {u : Unit} (hvalid : e.Valid)
    (hcheck : validateGenerationEvent h q r e = .ok u) : ∃ d, StartsGeneration h q r e d := by
  simp only [validateGenerationEvent, bind_eq_ok, require_eq_ok, requireEqual_eq_ok,
    subscript_eq_ok, exists_const] at hcheck
  obtain ⟨_, hid, _, haction, _, htransaction, _, htrusted, _, hgeneration, _, hhash, htype, htask,
    hproject, hsameId, hsameAction, hsameTransaction, hstarted, -, hnew, hprevious, hprevHash⟩ :=
    hcheck
  obtain ⟨d, hd⟩ := hvalid.isRecovery htype
  rw [hd.details] at hid haction htransaction htrusted
  obtain ⟨data, hdata, -, rfl⟩ := hid
  obtain rfl := Mapping.toJson_injective hdata
  obtain ⟨data, hdata, -, rfl⟩ := haction
  obtain rfl := Mapping.toJson_injective hdata
  obtain ⟨data, hdata, -, rfl⟩ := htransaction
  obtain rfl := Mapping.toJson_injective hdata
  obtain ⟨data, hdata, -, rfl⟩ := htrusted
  obtain rfl := Mapping.toJson_injective hdata
  have hnamed : d.toMapping.get "previous_trusted_prefix"
      = d.previousTrustedPrefix.toMapping.toJson := rfl
  rw [hnamed] at hgeneration hhash
  obtain ⟨data, hdata, -, rfl⟩ := hgeneration
  obtain rfl := Mapping.toJson_injective hdata
  obtain ⟨data, hdata, -, rfl⟩ := hhash
  obtain rfl := Mapping.toJson_injective hdata
  have hget : ∀ p : TrustedPrefix, p.toMapping.get "generation" = .int p.generation.val ∧
      p.toMapping.get "event_hash" = .str p.eventHash.val := fun _ => ⟨rfl, rfl⟩
  have hdetails : d.toMapping.get "recovery_id" = .str d.recoveryId.val ∧
      d.toMapping.get "recovery_action" = .str d.recoveryAction ∧
      d.toMapping.get "recovery_transaction_id" = .str d.recoveryTransactionId.val :=
    ⟨rfl, rfl, rfl⟩
  rw [hdetails.1, Json.pyEq_str_left, Json.str.injEq] at hsameId
  rw [hdetails.2.1, Json.pyEq_str_left, Json.str.injEq] at hsameAction
  rw [hdetails.2.2, Json.pyEq_str_left, Json.str.injEq] at hsameTransaction
  rw [(hget _).1] at hprevious
  rw [(hget _).2, Json.pyEq_str_right] at hprevHash
  refine ⟨d, hvalid, hd, htask, hproject, Subtype.ext hsameId.symm, hsameAction.symm,
    Subtype.ext hsameTransaction.symm, hstarted, hnew, ?_, ?_⟩
  · cases hp : r.previousGeneration with
    | none =>
        rw [hp] at hprevious
        exact absurd (Json.pyEq_null_left.mp hprevious) (by simp)
    | some n =>
        rw [hp] at hprevious
        have heq : (n.val : Int) = d.previousTrustedPrefix.generation.val :=
          Json.pyEq_int.mp hprevious
        exact congrArg some (Subtype.ext (by omega))
  · cases hp : r.previousValidHeadHash with
    | none => simp [hp] at hprevHash
    | some n =>
        rw [hp] at hprevHash
        exact congrArg some (Subtype.ext (Json.str.inj hprevHash))

theorem RecoversState.of_check {h : RecoveryHeader} {q : RecoveryRequest} {r : RecoveryResult}
    {event : Option AuditEvent} {s : WorkflowTaskState} {u : Unit} (hvalid : s.Valid)
    (hcheck : validateRecoveredState h q r event s = .ok u) : RecoversState h q event s := by
  simp only [validateRecoveredState, bind_eq_ok, require_eq_ok, exists_const] at hcheck
  obtain ⟨htask, hproject, _, -, hid, hhash, hgeneration⟩ := hcheck
  exact ⟨hvalid, htask, hproject, hid, hhash, hgeneration⟩

omit [Platform] in
/-- A rule that allows a generation event asks for everything. -/
theorem artifacts_of_mem_recoveryMatrix : ∀ rule ∈ recoveryMatrix,
    rule.artifacts = wholeGeneration ∨ (.generationEvent, .forbidden) ∈ rule.artifacts := by
  decide

/-- An artifact that the matrix asks for is planned, and one that it forbids is not. -/
theorem validateRecoveryArtifact_eq_ok {data recoveryRecord : Mapping} {artifact : RecoveryArtifact}
    {role : Applicability} {u : Unit}
    (h : validateRecoveryArtifact data recoveryRecord (artifact, role) = .ok u) :
    (role = .forbidden → data.get artifact.transactionField = .null) ∧
      (role = .required → data.get artifact.transactionField ≠ .null) := by
  simp only [validateRecoveryArtifact, bind_eq_ok, require_eq_ok, exists_const] at h
  obtain ⟨_, -, hforbidden, hrequired, -⟩ := h
  exact ⟨hforbidden, hrequired⟩

/-- **A generation event is planned with everything else.** -/
theorem planned_of_generationEvent {data recoveryRecord : Mapping} {action : String}
    {status : RecoveryStatus} {u : Unit}
    (h : validateRecoveryArtifactMatrix data recoveryRecord action status = .ok u)
    (hevent : data.get "planned_generation_event" ≠ .null) (artifact : RecoveryArtifact) :
    data.get artifact.transactionField ≠ .null := by
  simp only [validateRecoveryArtifactMatrix, bind_eq_ok, expect_eq_ok, forM_eq_ok_iff] at h
  obtain ⟨rule, hrule, hall⟩ := h
  rcases artifacts_of_mem_recoveryMatrix rule (List.mem_of_find?_eq_some hrule) with hwhole | hnone
  · have hmem : (artifact, Applicability.required) ∈ rule.artifacts := by
      rw [hwhole]
      cases artifact <;> decide
    exact (validateRecoveryArtifact_eq_ok (hall _ hmem)).2 rfl
  · exact absurd ((validateRecoveryArtifact_eq_ok (hall _ hnone)).1 rfl) hevent

/-- What the bindings of a transaction with a generation event say of the trusted prefix. -/
theorem prefix_of_validateRecoveryOperationGraph {data : Mapping} {q : RecoveryRequest}
    {r : RecoveryResult} {p : RecoveryRecord} {e : AuditEvent} {d : RecoveryDetails} {u : Unit}
    (hgraph : validateRecoveryOperationGraph data q r p.diagnostic = .ok u)
    (hevent : data.get "planned_generation_event" = e.toJson)
    (hrecord : data.get "planned_recovery_record" = p.toJson)
    (hresult : data.get "canonical_recovery_result" = r.toJson) (hdetails : e.details = d.toMapping)
    (hnew : r.newGeneration = some e.generation) :
    d.previousTrustedPrefix = p.diagnostic.previousTrustedPrefix ∧
      e.generation.val = d.previousTrustedPrefix.generation.val + 1 := by
  have hplanned : data.get "planned_generation_event" ≠ .null := by
    rw [hevent]
    exact Mapping.toJson_ne_null _
  simp only [validateRecoveryOperationGraph, bind_eq_ok, checkWhen_eq_ok, exists_const] at hgraph
  obtain ⟨-, _, -, _, -, _, -, -, hcontinuity, hsame⟩ := hgraph
  obtain ⟨_, hsame, -⟩ := hsame hplanned
  have hcontinuity := hcontinuity ⟨hplanned, by simp [hnew]⟩
  -- the two prefixes are equal in the source, and all their values are strings and integers
  have hleft : getPath data.toJson
      ["planned_generation_event", "details", "previous_trusted_prefix"]
        = d.previousTrustedPrefix.toJson := by
    rw [getPath_toJson_cons, hevent, AuditEvent.toJson, getPath_toJson_cons,
      show e.toMapping.get "details" = e.details.toJson from rfl, hdetails, getPath_toJson_cons,
      getPath_nil]
    rfl
  have htrusted : d.previousTrustedPrefix = p.diagnostic.previousTrustedPrefix := by
    rw [requireEqual_eq_ok] at hsame
    exact TrustedPrefix.toJson_injective (Json.eq_of_pyEq (hleft ▸ hsame) rfl)
  refine ⟨htrusted, ?_⟩
  have hpredecessor : getPath data.toJson (trustedPrefixPath ++ ["generation"])
      = .int p.diagnostic.previousTrustedPrefix.generation.val := by
    show getPath data.toJson
      ["planned_recovery_record", "diagnostic", "previous_trusted_prefix", "generation"] = _
    rw [getPath_toJson_cons, hrecord, RecoveryRecord.toJson, getPath_toJson_cons,
      show p.toMapping.get "diagnostic" = p.diagnostic.toMapping.toJson from rfl,
      getPath_toJson_cons, show p.diagnostic.toMapping.get "previous_trusted_prefix"
        = p.diagnostic.previousTrustedPrefix.toMapping.toJson from rfl, getPath_toJson_cons,
      getPath_nil]
    rfl
  have hvalue : getPath data.toJson newGenerationPath = .int e.generation.val := by
    rw [newGenerationPath, getPath_toJson_cons, hresult, RecoveryResult.toJson, getPath_toJson_cons,
      getPath_nil, show r.toMapping.get "new_generation" = Json.ofOption PosNat.toJson
        r.newGeneration from rfl, hnew]
    rfl
  simp only [validateGenerationContinuity, bind_eq_ok, expect_eq_ok, require_eq_ok,
    Json.asInt_eq_some, hpredecessor, hvalue, Json.int.injEq, exists_const] at hcontinuity
  obtain ⟨-, _, rfl, _, rfl, hnext, -⟩ := hcontinuity
  rw [htrusted]
  exact_mod_cast hnext

omit [Platform] in
/-- A header stands in the mapping that it was read from. -/
theorem validateRecoveryHeader_eq_ok {data : Mapping} {h : RecoveryHeader}
    (hcheck : validateRecoveryHeader data = .ok h) :
    data.get "transaction_id" = .str h.transactionId.val ∧
      data.get "operation_kind" = .str h.operationKind.kind.name ∧
      data.get "operation_id" = .str h.operationId.val ∧
      data.get "task_id" = .str h.taskId.val ∧
      data.get "idempotency_key" = .str h.idempotencyKey.val ∧
      data.get "created_at_utc" = .str h.createdAtUtc.val := by
  simp only [validateRecoveryHeader, bind_eq_ok, requireSafeId_eq_ok, requireMember_recoveryKind,
    requireNonEmptyString_eq_ok, validateUtc_eq_ok, pure_eq_ok] at hcheck
  obtain ⟨_, -, id, hid, kind, hkind, operation, hoperation, task, htask, key, hkey, t, ht, rfl⟩ :=
    hcheck
  exact ⟨hid, hkind, hoperation, htask, hkey, ht⟩

omit [Platform] in
/-- What a check of a value that may be null finds. -/
theorem optionally_of_ok {α : Type} {check : Json → Check α} (toJson : α → Json) (P : α → Prop)
    (hcheck : ∀ value a, check value = .ok a → value = toJson a ∧ P a) {value : Json}
    {x : Option α} (h : optionally check value = .ok x) :
    value = Json.ofOption toJson x ∧ ∀ a ∈ x, P a := by
  unfold optionally at h
  split at h
  next hnull =>
    obtain rfl : none = x := by simpa using h
    exact ⟨hnull, by simp⟩
  next =>
    obtain ⟨a, ha, rfl⟩ := map_eq_ok.mp h
    obtain ⟨hvalue, hP⟩ := hcheck value a ha
    exact ⟨hvalue, by simpa using hP⟩

/-- **An accepted transaction** stands in the record, and its parts are valid and fit together. -/
theorem validateRecoveryTransaction_sound {record : Json} {t : RecoveryTransaction}
    (h : validateRecoveryTransaction record = .ok t) :
    ∃ data : Mapping, record = data.toJson ∧ t.Reads data ∧ t.Valid := by
  simp only [validateRecoveryTransaction, bind_eq_ok, requireMapping_eq_ok, withCode_eq_ok,
    requireValid_eq_ok, validateRecoveryIdentity_eq_ok, require_eq_ok,
    validatePlannedRecoveryRecord_eq_ok_iff, pure_eq_ok, exists_const] at h
  obtain ⟨data, rfl, _, -, h, hheader, _, -, _, -, _, -, _, -, _, -, _, hrequest, _, hresult, q,
    rfl, r, rfl, hsame, manifest, hmanifest, event, hevent, hquarantine, state, hstate, answer,
    hanswer, recovery, ⟨hrecovery, -⟩, _, hmatrix, _, hgraph, _, -, rfl⟩ := h
  rw [outcomeOf_eq_ok_ok, validateRecoveryRequest_eq_ok_iff] at hrequest
  rw [outcomeOf_eq_ok_ok, validateRecoveryResult_eq_ok_iff] at hresult
  rw [optionally_eq_ok (fun _ _ => validateQuarantineManifest_eq_ok_iff)
    (fun _ => Mapping.toJson_ne_null _)] at hmanifest
  obtain ⟨hid, hkind, hoperation, htask, hkey, ht⟩ := validateRecoveryHeader_eq_ok hheader
  obtain ⟨hevent, hstarts⟩ := optionally_of_ok AuditEvent.toJson
    (fun e => ∃ d, StartsGeneration h q r e d) (by
      intro value e hcheck
      simp only [bind_eq_ok, withCode_eq_ok, validateAuditEvent_eq_ok_iff, pure_eq_ok] at hcheck
      obtain ⟨e, ⟨hvalue, hvalid⟩, _, hstarts, rfl⟩ := hcheck
      exact ⟨hvalue, StartsGeneration.of_check hvalid hstarts⟩) hevent
  obtain ⟨hstate, hrecovers⟩ := optionally_of_ok WorkflowTaskState.toJson
    (RecoversState h q event) (by
      intro value s hcheck
      simp only [bind_eq_ok, withCode_eq_ok, validateTaskState_eq_ok_iff, pure_eq_ok] at hcheck
      obtain ⟨s, ⟨hvalue, hvalid⟩, _, hrecovers, rfl⟩ := hcheck
      exact ⟨hvalue, RecoversState.of_check hvalid hrecovers⟩) hstate
  obtain ⟨hanswer, hplanned⟩ := optionally_of_ok PlannedIdempotencyRecord.toJson
    (fun p => p.PlannedFor q r h.operationKind (recoveryPath h.taskId h.operationId))
    (fun value p hcheck => validatePlannedIdempotency_eq_ok_iff.mp hcheck) hanswer
  refine ⟨data, rfl, ⟨hid, hkind, hoperation, htask, hkey, ht, hrequest, hresult.1, hmanifest,
    hrecovery, hevent, hstate, hanswer⟩, hsame, hresult.2, hquarantine, ?_, hrecovers, hplanned, ?_⟩
  · intro e he
    obtain rfl : event = some e := he
    obtain ⟨d, hd⟩ := hstarts e rfl
    exact ⟨d, hd, prefix_of_validateRecoveryOperationGraph hgraph hevent hrecovery hresult.1
      hd.recovery.details hd.newGeneration⟩
  · intro hne
    have hnull : data.get "planned_generation_event" ≠ .null := by
      rw [hevent]
      exact fun h => hne ((Json.ofOption_eq_null_iff (fun _ => Mapping.toJson_ne_null _)).mp h)
    have hall := planned_of_generationEvent hmatrix hnull
    refine ⟨?_, ?_, ?_⟩
    · rintro rfl
      exact hall .quarantine hmanifest
    · rintro rfl
      exact hall .state hstate
    · rintro rfl
      exact hall .idempotencyRecord hanswer

omit [Platform] in
/-- A check that takes the printed values takes the one that may be null. -/
theorem optionally_ofOption {α : Type} {check : Json → Check α} {toJson : α → Json}
    (hnull : ∀ a, toJson a ≠ .null) {x : Option α} (h : ∀ a ∈ x, check (toJson a) = .ok a) :
    optionally check (Json.ofOption toJson x) = .ok x := by
  cases x with
  | none => simp [optionally]
  | some a =>
      rw [Json.ofOption_some, optionally, if_neg (hnull a)]
      exact map_eq_ok.mpr ⟨a, h a rfl, rfl⟩

/-- The checks on the record as a whole. -/
structure RecoveryTransaction.Checked (t : RecoveryTransaction) (data : Mapping) : Prop where
  fields : validateExactMapping data recoveryTransactionFields "recovery transaction" "" = .ok ()
  header : validateRecoveryHeader data = .ok t.header
  early : validateEarlyRecoveryRequest (data.get "canonical_recovery_request") t.header.taskId
    t.header.idempotencyKey = .ok ()
  shapes : validateRecoveryShapes data = .ok ()
  journal : validateJournalPath data "phase_journal_path"
    (transactionArtifactPath t.header.taskId "recovery" t.header.operationId "phases.0001.jsonl")
      = .ok ()
  index : validateJournalPath data "phase_journal_index_path"
    (transactionArtifactPath t.header.taskId "recovery" t.header.operationId
      "phase_segments.jsonl") = .ok ()
  hashKeys : requireHashKeys (data.get "planned_hashes") = .ok ()
  hashes : forM plannedHashExpectations (validatePlannedHash data) = .ok ()
  matrix : validateRecoveryArtifactMatrix data t.plannedRecoveryRecord.toMapping
    t.canonicalRecoveryRequest.recoveryAction.val
    (recoveryStatus t.canonicalRecoveryResult.verdict.isAccepted
      (!t.canonicalRecoveryResult.verdict.isAccepted)) = .ok ()
  graph : validateRecoveryOperationGraph data t.canonicalRecoveryRequest t.canonicalRecoveryResult
    t.plannedRecoveryRecord.diagnostic = .ok ()

/-- The checks on the whole that follow those of the fields and the header. -/
def RecoveryTransaction.checks (t : RecoveryTransaction) (data : Mapping) : Check Unit := do
  validateEarlyRecoveryRequest (data.get "canonical_recovery_request") t.header.taskId
    t.header.idempotencyKey
  validateRecoveryShapes data
  validateJournalPath data "phase_journal_path"
    (transactionArtifactPath t.header.taskId "recovery" t.header.operationId "phases.0001.jsonl")
  validateJournalPath data "phase_journal_index_path"
    (transactionArtifactPath t.header.taskId "recovery" t.header.operationId "phase_segments.jsonl")
  requireHashKeys (data.get "planned_hashes")
  forM plannedHashExpectations (validatePlannedHash data)
  validateRecoveryArtifactMatrix data t.plannedRecoveryRecord.toMapping
    t.canonicalRecoveryRequest.recoveryAction.val
    (recoveryStatus t.canonicalRecoveryResult.verdict.isAccepted
      (!t.canonicalRecoveryResult.verdict.isAccepted))
  validateRecoveryOperationGraph data t.canonicalRecoveryRequest t.canonicalRecoveryResult
    t.plannedRecoveryRecord.diagnostic

theorem RecoveryTransaction.Checked.of_checks {t : RecoveryTransaction} {data : Mapping}
    (hfields : validateExactMapping data recoveryTransactionFields "recovery transaction" "" = .ok ())
    (hheader : validateRecoveryHeader data = .ok t.header)
    (h : (t.checks data).toOption = some ()) : t.Checked data := by
  have hchecks := eq_ok_of_toOption h
  simp only [checks, bind_eq_ok] at hchecks
  obtain ⟨_, hearly, _, hshapes, _, hjournal, _, hindex, _, hkeys, _, hhashes, _, hmatrix,
    hgraph⟩ := hchecks
  exact ⟨hfields, hheader, hearly, hshapes, hjournal, hindex, hkeys, hhashes, hmatrix, hgraph⟩

/-- **A transaction is accepted when its parts are valid and the checks on the whole pass.** -/
theorem validateRecoveryTransaction_eq_ok {data : Mapping} {t : RecoveryTransaction}
    (hreads : t.Reads data) (hchecked : t.Checked data)
    (hsame : SameRecovery t.header t.canonicalRecoveryRequest t.canonicalRecoveryResult)
    (hresult : t.canonicalRecoveryResult.Valid)
    (hquarantine : ∀ m ∈ t.plannedQuarantineManifest,
      t.canonicalRecoveryResult.quarantinePath = some m.destinationPath)
    (hevent : ∀ e ∈ t.plannedGenerationEvent, e.Valid ∧ validateGenerationEvent t.header
      t.canonicalRecoveryRequest t.canonicalRecoveryResult e = .ok ())
    (hstate : ∀ s ∈ t.plannedState, s.Valid ∧ validateRecoveredState t.header
      t.canonicalRecoveryRequest t.canonicalRecoveryResult t.plannedGenerationEvent s = .ok ())
    (hanswer : ∀ p ∈ t.plannedIdempotencyRecord, p.PlannedFor t.canonicalRecoveryRequest
      t.canonicalRecoveryResult t.header.operationKind
        (recoveryPath t.header.taskId t.header.operationId))
    (hrecord : t.plannedRecoveryRecord.PlannedFor t.canonicalRecoveryRequest
      t.canonicalRecoveryResult t.header.operationKind (data.get "planned_quarantine_manifest")
      (data.get "planned_generation_event") (data.get "planned_state")) :
    validateRecoveryTransaction data.toJson = .ok t := by
  simp only [validateRecoveryTransaction, bind_eq_ok, requireMapping_eq_ok, withCode_eq_ok,
    requireValid_eq_ok, validateRecoveryIdentity_eq_ok, require_eq_ok,
    validatePlannedRecoveryRecord_eq_ok_iff, pure_eq_ok, exists_const]
  refine ⟨data, rfl, (), hchecked.fields, t.header, hchecked.header, (), hchecked.early, (),
    hchecked.shapes, (), hchecked.journal, (), hchecked.index, (), hchecked.hashKeys,
    .ok t.canonicalRecoveryRequest, ?_, .ok t.canonicalRecoveryResult, ?_,
    t.canonicalRecoveryRequest, rfl, t.canonicalRecoveryResult, rfl, hsame,
    t.plannedQuarantineManifest, ?_, t.plannedGenerationEvent, ?_, hquarantine, t.plannedState, ?_,
    t.plannedIdempotencyRecord, ?_, t.plannedRecoveryRecord, ⟨hreads.recoveryRecord, hrecord⟩, (),
    hchecked.matrix, (), hchecked.graph, (), hchecked.hashes, rfl⟩
  · exact outcomeOf_eq_ok_ok.mpr (validateRecoveryRequest_eq_ok_iff.mpr hreads.request)
  · exact outcomeOf_eq_ok_ok.mpr (validateRecoveryResult_eq_ok_iff.mpr ⟨hreads.result, hresult⟩)
  · exact (optionally_eq_ok (fun _ _ => validateQuarantineManifest_eq_ok_iff)
      (fun _ => Mapping.toJson_ne_null _)).mpr hreads.manifest
  · rw [hreads.generationEvent]
    apply optionally_ofOption (fun _ => Mapping.toJson_ne_null _)
    intro e he
    simp only [bind_eq_ok, withCode_eq_ok, validateAuditEvent_eq_ok_iff, pure_eq_ok]
    exact ⟨e, ⟨rfl, (hevent e he).1⟩, (), (hevent e he).2, rfl⟩
  · rw [hreads.state]
    apply optionally_ofOption (fun _ => Mapping.toJson_ne_null _)
    intro s hs
    simp only [bind_eq_ok, withCode_eq_ok, validateTaskState_eq_ok_iff, pure_eq_ok]
    exact ⟨s, ⟨rfl, (hstate s hs).1⟩, (), (hstate s hs).2, rfl⟩
  · rw [hreads.idempotencyRecord]
    apply optionally_ofOption (fun _ => Mapping.toJson_ne_null _)
    intro p hp
    exact validatePlannedIdempotency_eq_ok_iff.mpr ⟨rfl, hanswer p hp⟩

end Acgps
