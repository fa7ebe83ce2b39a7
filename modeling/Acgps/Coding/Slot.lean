import Acgps.Coding.Record
import Acgps.Store.ControlStore

/-!
# The coding execution slot

A gate has one slot file. Four operations read it, check it, and write it again: they initialise the
slot, reserve an attempt, publish the record of an execution, and retire the first candidate.

## Main Definitions

* `validateCodingExecutionState` - the check of a slot that was read, or that is to be written
* `SlotCall` - the operations with their arguments
* `SlotCall.decide` - what an operation answers, and the slot that it writes
* `SlotCall.run` - an operation on the slot files
-/

namespace Acgps

open Checked

/-! ## Section 1: The fields of a slot -/

/-- `CODING_EXECUTION_STATE_FIELDS`. -/
def codingExecutionStateFields : List String :=
  ["active_candidate_id", "gate_binding", "gate_id", "historical_candidate_ids", "records",
    "remaining_attempts", "remediation_authorization_id", "reserved_attempt", "schema_version",
    "state", "task_id"]

theorem codingExecutionStateFields_sorted : codingExecutionStateFields.Pairwise (· < ·) := by
  decide +kernel

/-- `CODING_EXECUTION_RESERVATION_FIELDS`. -/
def codingExecutionReservationFields : List String :=
  ["kind", "number", "parent_candidate_id", "remaining_after", "remaining_before",
    "reserved_at_utc"]

theorem codingExecutionReservationFields_sorted :
    codingExecutionReservationFields.Pairwise (· < ·) := by decide +kernel

/-- The fields of a gate binding. -/
def gateBindingFields : List String := ["baseline", "capabilities", "executor", "packet"]

theorem gateBindingFields_sorted : gateBindingFields.Pairwise (· < ·) := by
  decide +kernel

/-- `CODING_EXECUTION_SLOT_STATES`. -/
def codingExecutionSlotStates : List String :=
  ["EMPTY", "FROZEN_REVIEW_V1", "REJECTED_HOLD_V1", "EMPTY_FOR_REMEDIATION", "FROZEN_REVIEW_V2"]

/-- A slot that is not what it has to be. -/
def corruptSlot (path : String) (message : Text) : Failure :=
  storeError "WORKFLOW_STATE_CORRUPT" path message

/-- A call that the slot does not admit. -/
def invalidSlotCall (path : String) (message : Text) : Failure :=
  storeError "WORKFLOW_INVALID_INPUT" path message

/-- `_require_safe_id`. -/
def requireStoreSafeId (value : Json) (path : String) : Outcome String :=
  expect (value.asStr.filter (fun s => isSafeId s)) (invalidSlotCall path "value must be a safe id")

/-- `_require_mapping`. -/
def requireSlotMapping (value : Json) (path : String) : Outcome Mapping :=
  expect value.asMapping (invalidSlotCall path "record must be a mapping")

/-- `value in {...}` for a set of strings: an unhashable value is an error of the interpreter. -/
def requireInSet (value : Json) (words : List String) (failure : Failure) : Outcome Unit := do
  require (value.isUnhashable = false) (.interpreter "TypeError" "unhashable type")
  require (value.asStr.any (· ∈ words) = true) failure

/-- `_coding_execution_record_binding`. -/
def codingExecutionRecordBinding (record : Json) : Mapping where
  entries :=
    [("baseline", .obj (["commit", "repository_path", "tree"].map
        (fun field => (field, (record.field "baseline").field field)))),
      ("capabilities", .obj (["authorized_write_paths", "check_allowlist_sha256",
        "effective_config_sha256", "git_read_allowlist_sha256", "network_policy_sha256"].map
        (fun field => (field, (record.field "capabilities").field field)))),
      ("executor", record.field "executor"), ("packet", record.field "packet")]
  sorted := gateBindingFields_sorted

/-- The number of the attempt that a record is of. -/
def attemptNumber (record : Json) : Json := (record.field "attempt").field "number"

/-- The records that have a candidate. -/
def candidateRecords (records : List Json) : List Json :=
  records.filter (fun record => record.field "outcome" = .str "CANDIDATE_READY")

/-- The candidates of the records. -/
def candidateIds (records : List Json) : List Json :=
  (candidateRecords records).map (fun record => (record.field "candidate").field "candidate_id")

/-- The attempts that the records have consumed. -/
def recordedAttempts (records : List Json) : Nat :=
  (records.filter (fun record => attemptNumber record ≠ .null)).length

variable [Platform]

/-! ## Section 2: The check of a slot -/

/-- The version, the identities and the state. -/
def checkSlotIdentity (data : Mapping) (gateId : String) : Outcome Unit := do
  require (data.keys = codingExecutionStateFields)
    (corruptSlot "coding_execution" "coding execution state fields are invalid")
  require ((data.get "schema_version").pyEq (.int 2) = true)
    (corruptSlot "coding_execution.schema_version" "unsupported coding execution state")
  let _ ← requireStoreSafeId (data.get "gate_id") "coding_execution.gate_id"
  let _ ← requireStoreSafeId (data.get "task_id") "coding_execution.task_id"
  require (data.get "gate_id" = .str gateId)
    (corruptSlot "coding_execution.gate_id" "gate identity mismatch")
  requireInSet (data.get "state") codingExecutionSlotStates
    (corruptSlot "coding_execution.state" "unknown coding execution slot state")

/-- The gate binding and the budget. -/
def checkSlotBudget (data : Mapping) : Outcome Unit := do
  checkWhen (data.get "gate_binding" ≠ .null) (do
    let binding ← requireSlotMapping (data.get "gate_binding") "coding_execution.gate_binding"
    require (binding.keys = gateBindingFields)
      (corruptSlot "coding_execution.gate_binding" "gate binding fields are invalid"))
  require (data.get "remaining_attempts" ∈ [Json.int 0, .int 1, .int 2])
    (corruptSlot "coding_execution.remaining_attempts"
      "remaining attempts must be zero, one, or two")

/-- The active candidate, for the state of the slot. -/
def checkActiveCandidate (data : Mapping) : Outcome Unit := do
  let active := data.get "active_candidate_id"
  checkWhen (active ≠ .null) (do
    let _ ← requireStoreSafeId active "coding_execution.active_candidate_id"
    return ())
  require (¬ ((data.get "state" = .str "EMPTY" ∨ data.get "state" = .str "EMPTY_FOR_REMEDIATION") ∧
      active ≠ .null))
    (corruptSlot "coding_execution.active_candidate_id"
      "empty states cannot have an active candidate")
  require (¬ ((data.get "state" = .str "FROZEN_REVIEW_V1" ∨
      data.get "state" = .str "FROZEN_REVIEW_V2") ∧ active = .null))
    (corruptSlot "coding_execution.active_candidate_id"
      "frozen review states require a candidate")

/-- The candidates that were retired, and the authorization of the remediation. -/
def checkHistoricalCandidates (data : Mapping) : Outcome (List String) := do
  let path := "coding_execution.historical_candidate_ids"
  let historical ← expect (data.get "historical_candidate_ids").asStrings
    (corruptSlot path "historical IDs must be a list")
  require (historical.Pairwise (· < ·))
    (corruptSlot path "historical IDs must be sorted and unique")
  forM historical (fun item => do
    let _ ← requireStoreSafeId (.str item) path
    return ())
  require (data.get "active_candidate_id" ∉ historical.map Json.str)
    (corruptSlot "coding_execution.active_candidate_id" "active candidate cannot be historical")
  checkWhen (data.get "remediation_authorization_id" ≠ .null) (do
    let _ ← requireStoreSafeId (data.get "remediation_authorization_id")
      "coding_execution.remediation_authorization_id"
    return ())
  require (¬ (data.get "state" = .str "EMPTY_FOR_REMEDIATION" ∧
      data.get "remediation_authorization_id" = .null))
    (corruptSlot "coding_execution.remediation_authorization_id"
      "remediation state requires an authorization identity")
  return historical

/-- The reservation, against the budget that is left. -/
def checkReservation (value : Json) (remaining : Int) : Outcome Unit := do
  let path := "coding_execution.reserved_attempt"
  let reservation ← requireSlotMapping value path
  require (reservation.keys = codingExecutionReservationFields)
    (corruptSlot path "reservation fields are invalid")
  let number := reservation.get "number"
  require ((number.pyEq (.int 1) = true ∨ number.pyEq (.int 2) = true) ∧
      (reservation.get "remaining_after").pyEq (.int remaining) = true)
    (corruptSlot path "reservation budget does not match state")
  require ((reservation.get "remaining_before").pyEq (.int (remaining + 1)) = true)
    (corruptSlot path "reservation did not decrement exactly once")
  requireInSet (reservation.get "kind") ["ORDINARY", "REMEDIATION"]
    (corruptSlot (path ++ ".kind") "unknown attempt kind")

/-- `except (ContractValidationError, TypeError) as exc`. -/
def asSlotError (path : String) (failure : Failure) : Failure :=
  match failure with
  | .contractValidation _ _ => corruptSlot path failure.str
  | .interpreter name _ => if name = "TypeError" then corruptSlot path failure.str else failure
  | other => other

/-- One of the records: it meets its contract, and is of the slot and of its gate binding. -/
def checkSlotRecord (data : Mapping) (record : Json) (index : Nat) : Outcome Unit := do
  let path := itemPath "coding_execution.records" index
  mapError (asSlotError path) (validateCodingExecutionRecord record)
  require (record.field "gate_id" = data.get "gate_id" ∧
      record.field "task_id" = data.get "task_id")
    (corruptSlot path "record gate/task identity mismatch")
  require (record.field "outcome" = .str "PRELAUNCH_HOLD" ∨ (data.get "gate_binding" ≠ .null ∧
      (codingExecutionRecordBinding record).toJson.pyEq (data.get "gate_binding") = true))
    (corruptSlot path
      "reserved attempts must use the immutable Gate packet/baseline/executor binding")

/-- The budget and the identities of the records as a whole. -/
def checkSlotTotals (data : Mapping) (records : List Json) (historical : List String) :
    Outcome Unit := do
  require (recordedAttempts records ≤ 2)
    (corruptSlot "coding_execution.records" "at most two reserved attempts are permitted")
  require (records.map (·.field "execution_id")).Nodup
    (corruptSlot "coding_execution.records" "execution identities must be unique")
  let reserved : Int := if data.get "reserved_attempt" = .null then 0 else 1
  require (data.get "remaining_attempts" = .int (2 - (recordedAttempts records + reserved)))
    (corruptSlot "coding_execution.remaining_attempts"
      "remaining budget must equal two minus reserved and completed attempts")
  require (candidateIds records).Nodup
    (corruptSlot "coding_execution.records" "candidate identities must be unique")
  require (data.get "active_candidate_id" = .null ∨
      data.get "active_candidate_id" ∈ candidateIds records)
    (corruptSlot "coding_execution.active_candidate_id"
      "active candidate must be bound to a completed execution record")
  require (∀ item ∈ historical, Json.str item ∈ candidateIds records)
    (corruptSlot "coding_execution.historical_candidate_ids"
      "historical candidates must remain bound to immutable execution records")

/-- `_validate_coding_execution_state`. -/
def validateCodingExecutionState (state : Json) (gateId : String) : Outcome Mapping := do
  let data ← requireSlotMapping state "coding_execution"
  checkSlotIdentity data gateId
  checkSlotBudget data
  checkActiveCandidate data
  let historical ← checkHistoricalCandidates data
  checkWhen (data.get "reserved_attempt" ≠ .null)
    (checkReservation (data.get "reserved_attempt") ((data.get "remaining_attempts").asInt.getD 0))
  let records ← expect (data.get "records").asList
    (corruptSlot "coding_execution.records" "execution records must be a list")
  forM records.zipIdx (fun item => checkSlotRecord data item.1 item.2)
  checkSlotTotals data records historical
  return data

/-! ## Section 3: The operations -/

/-- The slot files: what stands at `coding-execution/{gate_id}/slot.json`. -/
abbrev SlotFiles := String → Option Mapping

/-- `_read_coding_execution_state`. -/
def readCodingExecutionState (files : SlotFiles) (gateId : String) : Outcome Mapping := do
  let state ← expect (files gateId)
    (corruptSlot "coding_execution" "coding execution gate is not initialized")
  validateCodingExecutionState state.toJson gateId

/-- `read_coding_execution_record`. -/
def readCodingExecutionRecord (files : SlotFiles) (gateId executionId : Json) : Outcome Json := do
  let execution ← requireStoreSafeId executionId "execution_id"
  let gate ← requireStoreSafeId gateId "gate_id"
  let state ← readCodingExecutionState files gate
  expect (((state.get "records").asList.getD []).find? (fun record =>
      record.field "execution_id" = .str execution))
    (corruptSlot "coding_execution.record" "execution record is missing")

/-- An operation with its arguments. -/
inductive SlotCall where
  | initializeSlot (gateId taskId : Json)
  | reserveAttempt (gateId kind parentCandidateId reservedAtUtc : Json)
  | retireCandidate (gateId candidateId authorizationId : Json)
  | publishRecord (record : Json)

/-- What an operation answers, and the slot that it writes, if it writes one. -/
structure SlotAnswer where
  gateId : String
  answer : Mapping
  written : Option Mapping

/-- A slot that nothing has happened to. -/
def emptySlot (gateId taskId : String) : Mapping where
  entries :=
    [("active_candidate_id", .null), ("gate_binding", .null), ("gate_id", .str gateId),
      ("historical_candidate_ids", .arr []), ("records", .arr []), ("remaining_attempts", .int 2),
      ("remediation_authorization_id", .null), ("reserved_attempt", .null),
      ("schema_version", .int 2), ("state", .str "EMPTY"), ("task_id", .str taskId)]
  sorted := codingExecutionStateFields_sorted

/-- `_coding_execution_public_state`. -/
def codingExecutionPublicState (state : Mapping) : Mapping where
  entries :=
    ["active_candidate_id", "gate_binding", "gate_id", "historical_candidate_ids",
      "remaining_attempts", "remediation_authorization_id", "reserved_attempt", "state",
      "task_id"].map (fun field => (field, state.get field))
  sorted := by
    show ["active_candidate_id", "gate_binding", "gate_id", "historical_candidate_ids",
      "remaining_attempts", "remediation_authorization_id", "reserved_attempt", "state",
      "task_id"].Pairwise (· < ·)
    decide +kernel

/-- The slot is checked once more before it is written. -/
def writeSlot (gateId : String) (answer state : Mapping) : Outcome SlotAnswer := do
  let _ ← validateCodingExecutionState state.toJson gateId
  return ⟨gateId, answer, some state⟩

/-- `initialize_coding_execution_slot`. -/
def initializeCodingExecutionSlot (files : SlotFiles) (gateId taskId : Json) :
    Outcome SlotAnswer := do
  let gate ← requireStoreSafeId gateId "gate_id"
  let task ← requireStoreSafeId taskId "task_id"
  match files gate with
  | some _ => do
      let state ← readCodingExecutionState files gate
      require (state.get "task_id" = .str task)
        (corruptSlot "coding_execution.task_id" "gate already belongs to another task")
      return ⟨gate, codingExecutionPublicState state, none⟩
  | none => writeSlot gate (codingExecutionPublicState (emptySlot gate task)) (emptySlot gate task)

/-- What an attempt of a kind needs. -/
def requireAttemptKind (state : Mapping) (kind parentCandidateId : Json) : Outcome Unit :=
  if kind = .str "ORDINARY" then
    require (state.get "state" = .str "EMPTY" ∧ parentCandidateId = .null)
      (invalidSlotCall "coding_execution.attempt" "ORDINARY requires EMPTY and no parent")
  else if kind = .str "REMEDIATION" then
    require (state.get "state" = .str "EMPTY_FOR_REMEDIATION" ∧
        state.get "remaining_attempts" = .int 1 ∧
        parentCandidateId ∈ ((state.get "historical_candidate_ids").asList.getD []) ∧
        state.get "remediation_authorization_id" ≠ .null)
      (invalidSlotCall "coding_execution.attempt"
        "REMEDIATION requires EMPTY_FOR_REMEDIATION, Attempt 2, and the historical v1 parent")
  else .error (invalidSlotCall "coding_execution.attempt.kind" "unknown attempt kind")

/-- The reservation of the next attempt. -/
def nextReservation (remaining : Int) (kind parentCandidateId reservedAtUtc : Json) : Mapping where
  entries :=
    [("kind", kind), ("number", .int (3 - remaining)), ("parent_candidate_id", parentCandidateId),
      ("remaining_after", .int (remaining - 1)), ("remaining_before", .int remaining),
      ("reserved_at_utc", reservedAtUtc)]
  sorted := codingExecutionReservationFields_sorted

/-- `reserve_coding_execution_attempt`. -/
def reserveCodingExecutionAttempt (files : SlotFiles)
    (gateId kind parentCandidateId reservedAtUtc : Json) : Outcome SlotAnswer := do
  let gate ← requireStoreSafeId gateId "gate_id"
  let state ← readCodingExecutionState files gate
  require (state.get "reserved_attempt" = .null)
    (storeError "WORKFLOW_CONCURRENT_WRITE" "coding_execution.reserved_attempt"
      "an attempt is already reserved")
  let remaining := (state.get "remaining_attempts").asInt.getD 0
  require (remaining ≠ 0)
    (storeError "WORKFLOW_BUDGET_EXHAUSTED" "coding_execution.remaining_attempts"
      "the two-attempt budget is exhausted")
  requireAttemptKind state kind parentCandidateId
  require (reservedAtUtc.asStr.any
      (fun s => matchesTemplate isDecimal utcMillisTemplate s.toList) = true)
    (invalidSlotCall "coding_execution.attempt.reserved_at_utc"
      "timestamp must use millisecond UTC")
  let reservation := nextReservation remaining kind parentCandidateId reservedAtUtc
  writeSlot gate reservation
    ((state.set "remaining_attempts" (.int (remaining - 1))).set "reserved_attempt"
      reservation.toJson)

/-- `retire_coding_execution_candidate_for_remediation`. -/
def retireCodingExecutionCandidate (files : SlotFiles)
    (gateId candidateId authorizationId : Json) : Outcome SlotAnswer := do
  let candidate ← requireStoreSafeId candidateId "candidate_id"
  let authorization ← requireStoreSafeId authorizationId "authorization_id"
  let gate ← requireStoreSafeId gateId "gate_id"
  let state ← readCodingExecutionState files gate
  require (state.get "state" = .str "FROZEN_REVIEW_V1" ∧
      state.get "active_candidate_id" = .str candidate ∧
      state.get "remaining_attempts" = .int 1 ∧ state.get "reserved_attempt" = .null ∧
      state.get "historical_candidate_ids" = .arr [])
    (invalidSlotCall "coding_execution.remediation"
      "only the sole frozen Candidate v1 can be retired for Attempt-2 remediation")
  let retired := (((state.set "state" (.str "EMPTY_FOR_REMEDIATION")).set "active_candidate_id"
    .null).set "historical_candidate_ids" (.arr [.str candidate])).set
    "remediation_authorization_id" (.str authorization)
  writeSlot gate (codingExecutionPublicState retired) retired

/-- The slot with one more record. -/
def appendRecord (state : Mapping) (record : Json) : Mapping :=
  state.set "records" (.arr ((state.get "records").asList.getD [] ++ [record]))

/-- The gate binding behind a record that is of an attempt. -/
def bindGate (state : Mapping) (record : Json) : Outcome Mapping :=
  let binding := codingExecutionRecordBinding record
  if record.field "outcome" = .str "PRELAUNCH_HOLD" then .ok state
  else if state.get "gate_binding" = .null then .ok (state.set "gate_binding" binding.toJson)
  else do
    require ((state.get "gate_binding").pyEq binding.toJson = true)
      (invalidSlotCall "coding_execution.record"
        "record packet/baseline/executor identity differs from the immutable Gate binding")
    return state

/-- A hold leaves the slot and its budget as they are. -/
def requireHoldPreserves (state : Mapping) (record : Json) : Outcome Unit := do
  require (state.get "reserved_attempt" = .null)
    (invalidSlotCall "coding_execution.reserved_attempt"
      "prelaunch HOLD cannot be published after attempt reservation")
  let slot := record.field "slot"
  let attempt := record.field "attempt"
  require (attempt.field "remaining_before" = state.get "remaining_attempts" ∧
      attempt.field "remaining_after" = state.get "remaining_attempts" ∧
      slot.field "state_before" = state.get "state" ∧
      slot.field "state_after" = state.get "state" ∧
      slot.field "active_candidate_before" = state.get "active_candidate_id" ∧
      slot.field "active_candidate_after" = state.get "active_candidate_id" ∧
      slot.field "historical_candidate_ids" = state.get "historical_candidate_ids")
    (invalidSlotCall "coding_execution.record"
      "prelaunch HOLD must preserve the current slot and attempt budget")

/-- The fields of a reservation, in the order in which a record is compared with them. -/
def reservationFieldNames : List String :=
  ["number", "reserved_at_utc", "parent_candidate_id", "kind", "remaining_before",
    "remaining_after"]

/-- A record is of the attempt that is reserved, and of the slot as it is. -/
def requireReserved (state : Mapping) (record : Json) : Outcome Unit := do
  let reservation ← expect (state.get "reserved_attempt").asMapping
    (invalidSlotCall "coding_execution.reserved_attempt" "no attempt is reserved")
  forM reservationFieldNames (fun fieldName =>
    require (((record.field "attempt").field fieldName).pyEq (reservation.get fieldName) = true)
      (invalidSlotCall ("coding_execution.record.attempt." ++ fieldName)
        "record does not match the reserved attempt"))
  let slot := record.field "slot"
  require (slot.field "state_before" = state.get "state" ∧
      slot.field "active_candidate_before" = state.get "active_candidate_id" ∧
      slot.field "historical_candidate_ids" = state.get "historical_candidate_ids")
    (invalidSlotCall "coding_execution.record.slot" "record does not match current slot state")

/-- `f"FROZEN_REVIEW_V{version}"`. -/
def frozenReviewState (version : Json) : String :=
  match version with
  | .int n => "FROZEN_REVIEW_V" ++ toString n
  | _ => "FROZEN_REVIEW_VNone"

/-- The slot behind a finished attempt: a candidate is installed, and nothing else changes it. -/
def installOutcome (state : Mapping) (record : Json) : Outcome Mapping :=
  let slot := record.field "slot"
  if record.field "outcome" = .str "CANDIDATE_READY" then do
    let candidateId := (record.field "candidate").field "candidate_id"
    let expected := frozenReviewState ((record.field "candidate").field "version")
    require (slot.field "state_after" = .str expected ∧
        slot.field "active_candidate_after" = candidateId)
      (invalidSlotCall "coding_execution.record.slot" "candidate install transition is invalid")
    return (state.set "state" (.str expected)).set "active_candidate_id" candidateId
  else do
    require (slot.field "state_after" = state.get "state" ∧
        slot.field "active_candidate_after" = state.get "active_candidate_id")
      (invalidSlotCall "coding_execution.record.slot" "noncandidate outcome cannot change the slot")
    return state

/-- The slot behind a record that it does not have yet. -/
def slotWithRecord (state : Mapping) (record : Json) : Outcome Mapping := do
  let bound ← bindGate state record
  if record.field "outcome" = .str "PRELAUNCH_HOLD" then do
    requireHoldPreserves bound record
    return appendRecord bound record
  else do
    requireReserved bound record
    let installed ← installOutcome bound record
    return appendRecord (installed.set "reserved_attempt" .null) record

/-- `except ContractValidationError as exc`. -/
def asInvalidRecord (failure : Failure) : Failure :=
  match failure with
  | .contractValidation _ _ => invalidSlotCall "coding_execution.record" failure.str
  | other => other

/-- `publish_coding_execution_record`. -/
def publishCodingExecutionRecord (files : SlotFiles) (record : Json) : Outcome SlotAnswer := do
  mapError asInvalidRecord (validateCodingExecutionRecord record)
  let gate ← requireStoreSafeId (record.field "gate_id") "gate_id"
  let state ← readCodingExecutionState files gate
  require (state.get "task_id" = record.field "task_id")
    (invalidSlotCall "coding_execution.record.task_id" "record task does not own the gate")
  match ((state.get "records").asList.getD []).find? (fun item =>
      item.field "execution_id" = record.field "execution_id") with
  | some existing => do
      require (existing.pyEq record = true)
        (storeError "WORKFLOW_IDEMPOTENCY_CONFLICT" "coding_execution.execution_id"
          "execution identity already exists")
      return ⟨gate, codingExecutionPublicState state, none⟩
  | none => do
      let published ← slotWithRecord state record
      writeSlot gate (codingExecutionPublicState published) published

/-- What an operation answers and writes. -/
def SlotCall.decide (files : SlotFiles) : SlotCall → Outcome SlotAnswer
  | initializeSlot gateId taskId => initializeCodingExecutionSlot files gateId taskId
  | reserveAttempt gateId kind parentCandidateId reservedAtUtc =>
      reserveCodingExecutionAttempt files gateId kind parentCandidateId reservedAtUtc
  | retireCandidate gateId candidateId authorizationId =>
      retireCodingExecutionCandidate files gateId candidateId authorizationId
  | publishRecord record => publishCodingExecutionRecord files record

/-- An operation on the slot files: the write is its last step. -/
def SlotCall.run (c : SlotCall) (files : SlotFiles) : Outcome Mapping × SlotFiles :=
  match c.decide files with
  | .error failure => (.error failure, files)
  | .ok a => (.ok a.answer, match a.written with
      | none => files
      | some state => fun gateId => if gateId = a.gateId then some state else files gateId)

end Acgps
