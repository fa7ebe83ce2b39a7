import Acgps.Engine.Transition

/-!
# Intakes

`intake`: the request that creates a task, the proof that is kept of it, and the commit of the first
event.

## Main Definitions

* `initializationRequest`, `initializationRecord` - the request and the proof
* `creationEventRecord`, `creationStateRecord` - the first event and the first state
* `intake` - the call
-/

namespace Acgps

open Checked Interleaving

variable [Platform]

/-! ## Section 1: The request -/

/-- `initialization`, from the intake and the actor. -/
def initializationRequest (intake : Mapping) (actor : Json) (taskId projectId : Json)
    (token : String) : Mapping where
  entries :=
    [("actor", actor), ("created_at_utc", intake.get "created_at_utc"),
      ("idempotency_key", .str ("intake-" ++ token)), ("initial_state", .str "DRAFT"),
      ("initialization_id", .str ("init-" ++ token)), ("project_id", projectId),
      ("schema_version", .int 1), ("task_id", taskId),
      ("task_intake_binding", (embeddedEvidenceBinding ("intake-" ++ token) "task_intake" intake
        (intake.get "created_at_utc")).toJson)]
  sorted := initializationRequestFields_sorted

/-- `request_identity`: the request without its timestamp. -/
def initializationIdentity (request : Mapping) : Mapping where
  entries :=
    [("actor", request.get "actor"), ("idempotency_key", request.get "idempotency_key"),
      ("initial_state", request.get "initial_state"),
      ("initialization_id", request.get "initialization_id"),
      ("project_id", request.get "project_id"), ("schema_version", request.get "schema_version"),
      ("task_id", request.get "task_id"),
      ("task_intake_binding", request.get "task_intake_binding")]
  sorted := by
    show ["actor", "idempotency_key", "initial_state", "initialization_id", "project_id",
      "schema_version", "task_id", "task_intake_binding"].Pairwise (· < ·)
    decide +kernel

/-- `_initialization_result`. -/
def initializationResult (request event : Mapping) : Mapping where
  entries :=
    [("accepted", .bool true), ("audit_event_id", event.get "event_id"),
      ("audit_generation", event.get "generation"), ("audit_sequence", event.get "sequence"),
      ("created_at_utc", event.get "created_at_utc"), ("error_code", .null),
      ("fail_closed", .bool false), ("idempotent_replay", .bool false),
      ("initialization_id", request.get "initialization_id"), ("issues", .arr []),
      ("project_id", request.get "project_id"), ("resulting_state", .str "DRAFT"),
      ("schema_version", .int 1), ("task_id", request.get "task_id")]
  sorted := by
    show ["accepted", "audit_event_id", "audit_generation", "audit_sequence", "created_at_utc",
      "error_code", "fail_closed", "idempotent_replay", "initialization_id", "issues",
      "project_id", "resulting_state", "schema_version", "task_id"].Pairwise (· < ·)
    decide +kernel

/-- `_initialization_idempotency_record`. -/
def initializationRecord (request result : Mapping) : Mapping where
  entries :=
    [("canonical_result", result.toJson), ("created_at_utc", request.get "created_at_utc"),
      ("idempotency_key", request.get "idempotency_key"),
      ("operation_id", request.get "initialization_id"),
      ("operation_kind", .str "INITIALIZATION"),
      ("request_fingerprint", .str (canonicalSha (initializationIdentity request).toJson)),
      ("result_fingerprint", .str (canonicalSha result.toJson)), ("schema_version", .int 1),
      ("task_id", request.get "task_id"),
      ("transaction_path", .str ("state/transactions/" ++ request.word "task_id"
        ++ "/initialization-" ++ request.word "initialization_id"))]
  sorted := by
    show ["canonical_result", "created_at_utc", "idempotency_key", "operation_id",
      "operation_kind", "request_fingerprint", "result_fingerprint", "schema_version", "task_id",
      "transaction_path"].Pairwise (· < ·)
    decide +kernel

/-! ## Section 2: The first event -/

/-- The generation that the first event starts. -/
def creationGeneration (intake : Mapping) (eventId : String) : Mapping where
  entries :=
    [("created_at_utc", intake.get "created_at_utc"), ("generation", .int 1),
      ("predecessor_generation", .null), ("predecessor_valid_head_hash", .null),
      ("quarantine_path", .null), ("schema_version", .int 1),
      ("started_by_event_id", .str eventId), ("started_by_event_type", .str "TASK_CREATED"),
      ("task_id", intake.get "task_id"),
      ("threat_model", .str "CORRUPTION_AND_NON_COORDINATED_TAMPER_ONLY")]
  sorted := auditGenerationFields_sorted

/-- `event`, with a given value for its hash. -/
def creationEventWithHash (intake : Mapping) (actor eventId : String) (hash : Json) : Mapping where
  entries :=
    [("actor", .str actor), ("created_at_utc", intake.get "created_at_utc"),
      ("decision_resolution_binding", .null),
      ("details", .obj [("audit_generation", (creationGeneration intake eventId).toJson)]),
      ("event_hash", hash), ("event_id", .str eventId), ("event_type", .str "TASK_CREATED"),
      ("evidence_bindings", .arr []), ("from_state", .null), ("generation", .int 1),
      ("policy_evaluation_binding", .null), ("previous_event_hash", .null),
      ("project_id", intake.get "project_id"), ("schema_version", .int 1), ("sequence", .int 1),
      ("task_id", intake.get "task_id"), ("to_state", .null), ("transition_id", .null)]
  sorted := auditEventFields_sorted

/-- `event["event_hash"]`. -/
def creationEventHash (intake : Mapping) (actor eventId : String) : String :=
  canonicalSha (creationEventWithHash intake actor eventId .null).toJson

/-- `event`. -/
def creationEventRecord (intake : Mapping) (actor eventId : String) : Mapping :=
  creationEventWithHash intake actor eventId (.str (creationEventHash intake actor eventId))

/-- `state`. -/
def creationStateRecord (intake : Mapping) (actor eventId : String) : Mapping where
  entries :=
    [("audit_generation", .int 1), ("audit_head_event_id", .str eventId),
      ("audit_head_hash", .str (creationEventHash intake actor eventId)),
      ("current_state", .str "DRAFT"), ("last_transition_id", .null),
      ("pending_decision_id", .null), ("policy_evaluation_id", .null), ("previous_state", .null),
      ("project_id", intake.get "project_id"), ("schema_version", .int 1),
      ("task_id", intake.get "task_id"), ("updated_at_utc", intake.get "created_at_utc")]
  sorted := taskStateFields_sorted

/-! ## Section 3: The call -/

/-- `_read_idempotency_record`, on the proof of a task. -/
def readInitializationRecord (taskId : String) : EngineQuery (Option Mapping) :=
  Query.read (fun w => .ok ((w.initializations.lookup taskId).map InitializationProof.record))

/-- A record of an operation without its timestamp: `_idempotency_identity`. -/
def idempotencyIdentity (record : Mapping) : Mapping := record.set "created_at_utc" .null

/-- `write_idempotency_record_once`, on records that the engine has made. -/
def writeInitializationRecord (taskId : String) (record request : Mapping) : EngineProg Unit :=
  Prog.update (fun w =>
    match w.initializations.lookup taskId with
    | some proof =>
        (require (idempotencyIdentity proof.record = idempotencyIdentity record)
          (storeError "WORKFLOW_IDEMPOTENCY_CONFLICT" "idempotency_record"
            "idempotency key already has different content"), w)
    | none =>
        match (do
          let _ ← sqliteJsonText record.toJson "WORKFLOW_INVALID_INPUT" "idempotency_record"
          sqliteJsonText request.toJson "WORKFLOW_INVALID_INPUT" "canonical_request" :
            Outcome SqliteText) with
        | .error failure => (.error failure, w)
        | .ok _ => (.ok (),
            { w with initializations := w.initializations ++ [(taskId, ⟨record, request⟩)] }))

/-- `except ContractValidationError as exc: raise WorkflowEngineError(str(exc))`. -/
def asContractError (failure : Failure) : Failure :=
  match failure with
  | .contractValidation _ _ => .workflowEngine failure.str
  | other => other

/-- `except WorkflowStoreError as exc: raise WorkflowEngineError(str(exc))`. -/
def asStoreError (failure : Failure) : Failure :=
  match failure with
  | .workflowStore _ => .workflowEngine failure.str
  | other => other

/-- `intake`. The file `intake.json` and the exports are written behind the commit. -/
def intake (engine : Engine) (intake : Mapping) (actor : String) :
    EngineProg WorkflowTaskState := do
  Prog.lift (requireWritable engine)
  Prog.lift (mapError asContractError (validateContract .taskIntake intake.toJson))
  Prog.lift (require (intake.get "project_id" = .str engine.projectName)
    (engineError "task intake project_id does not match the managed profile"))
  let taskId := intake.word "task_id"
  let token := taskToken taskId
  let request := initializationRequest intake (.str actor) (intake.get "task_id")
    (intake.get "project_id") token
  Prog.lift (requestOutcome (validateTaskInitializationRequest request.toJson))
  let eventId := "evt-" ++ token ++ "-0001"
  let event := creationEventRecord intake actor eventId
  let record := initializationRecord request (initializationResult request event)
  let existing ← Prog.query (readInitializationRecord taskId)
  Prog.query (Query.read (fun w =>
    require (existing ≠ none ∨ w.store.selectTaskState taskId = none)
      (engineError "WORKFLOW_AUDIT_CORRUPT: historical task initialization proof is missing")))
  Prog.mapError asStoreError (writeInitializationRecord taskId record request)
  let _ ← commitRecords event (creationStateRecord intake actor eventId)
  Prog.query (Query.read (fun w => readTaskState w.store taskId))

end Acgps
