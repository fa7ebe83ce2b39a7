import Acgps.Workflow.TransitionTransactions

/-!
# Planned recovery records

The records that a recovery transaction plans beside its event and its state: what is quarantined,
why the task is recovered, what the operation answers, and the record of the recovery that pins all
of them.

## Main Definitions

* `QuarantineManifest`, `RecoveryDiagnostic`, `RecoveryRecord`, `PlannedIdempotencyRecord`
* `validateQuarantineManifest`, `validateRecoveryDiagnostic`, `validatePlannedRecoveryRecord`,
  `validatePlannedIdempotency` - their validators

## Key Theorems

* `validateQuarantineManifest_eq_ok_iff`, `validateRecoveryDiagnostic_eq_ok_iff` - the validators
  accept the printed records
* `validatePlannedIdempotency_eq_ok_iff`, `validatePlannedRecoveryRecord_eq_ok_iff` - and of these
  the ones that agree with the request and the result
-/

namespace Acgps

open Checked

/-! ## Section 1: Operations -/

/-- `RECOVERY_OPERATION_KINDS`. -/
inductive RecoveryOperationKind where
  | recovery
  | rollback
  deriving DecidableEq

namespace RecoveryOperationKind

/-- The kind among all kinds of operations. -/
def kind : RecoveryOperationKind → OperationKind
  | recovery => .recovery
  | rollback => .rollback

/-- The word of a kind. -/
def ofName (s : String) : Option RecoveryOperationKind :=
  if s = "RECOVERY" then some recovery
  else if s = "ROLLBACK" then some rollback
  else none

theorem ofName_eq_some_iff {s : String} {k : RecoveryOperationKind} :
    ofName s = some k ↔ s = k.kind.name := by
  unfold ofName
  split
  next h =>
    subst h
    cases k <;> simp [kind, OperationKind.name]
  next h =>
    split
    next h' =>
      subst h'
      cases k <;> simp [kind, OperationKind.name]
    next h' =>
      cases k <;> simp [kind, OperationKind.name, h, h']

/-- The kind of the operation that carries out an action. -/
def ofAction (action : String) : RecoveryOperationKind :=
  if action = "rollback_to_valid_prefix" then rollback else recovery

/-- The type of the event that an operation of a kind plans. -/
def eventType : RecoveryOperationKind → EventType
  | recovery => .recoveryRecorded
  | rollback => .rollbackRecorded

end RecoveryOperationKind

theorem requireMember_recoveryKind {value : Json} {path code : String}
    {k : RecoveryOperationKind} :
    requireMember RecoveryOperationKind.ofName value path code = .ok k ↔
      value = .str k.kind.name :=
  requireMember_eq_ok (fun k : RecoveryOperationKind => k.kind.name)
    (fun _ _ => RecoveryOperationKind.ofName_eq_some_iff)

/-- `RECOVERY_OPERATION_KINDS | TRANSITION_OPERATION_KINDS`. -/
theorem requireMember_operationName {value : Json} {path code : String} {k : OperationKind} :
    requireMember OperationKind.ofName value path code = .ok k ↔ value = k.toJson :=
  requireMember_eq_ok OperationKind.name (fun _ _ => OperationKind.ofName_eq_some_iff)

/-! ## Section 2: Quarantine -/

/-- The file that is moved away, and where to. -/
structure QuarantineManifest where
  sourcePath : SafePath
  destinationPath : SafePath
  sizeBytes : Nat
  contentSha256 : Sha256Hex
  deriving DecidableEq

/-- `QUARANTINE_MANIFEST_FIELDS`. -/
def quarantineManifestFields : List String :=
  ["content_sha256", "destination_path", "size_bytes", "source_path"]

theorem quarantineManifestFields_sorted : quarantineManifestFields.Pairwise (· < ·) := by
  decide +kernel

namespace QuarantineManifest

/-- The manifest as a mapping. -/
def toMapping (m : QuarantineManifest) : Mapping where
  entries :=
    [("content_sha256", .str m.contentSha256.val),
      ("destination_path", .str m.destinationPath.val), ("size_bytes", .int m.sizeBytes),
      ("source_path", .str m.sourcePath.val)]
  sorted := quarantineManifestFields_sorted

/-- The manifest as a value. -/
def toJson (m : QuarantineManifest) : Json := m.toMapping.toJson

end QuarantineManifest

/-- `_validate_quarantine_manifest`. -/
def validateQuarantineManifest (record : Json) : Check QuarantineManifest := do
  let code := "WORKFLOW_TRANSACTION_INCOMPLETE"
  let path := fun field => joinPath "planned_quarantine_manifest" field
  let unsafePath := fun field => incomplete (path field) "path must be safe relative POSIX path"
  let data ← requireMapping record
    (incomplete "planned_quarantine_manifest" "planned quarantine manifest must be a mapping")
  withCode code (validateExactMapping data quarantineManifestFields "planned quarantine manifest"
    "planned_quarantine_manifest")
  let sizeBytes ← withCode code (requireNonNegativeInt (data.get "size_bytes") (path "size_bytes"))
  let contentSha256 ← withCode code
    (requireSha (data.get "content_sha256") (path "content_sha256"))
  let sourcePath ← requireSafePath (data.get "source_path") (unsafePath "source_path")
  let destinationPath ← requireSafePath (data.get "destination_path")
    (unsafePath "destination_path")
  return ⟨sourcePath, destinationPath, sizeBytes, contentSha256⟩

/-- **The validator accepts the printed manifests.** -/
theorem validateQuarantineManifest_eq_ok_iff {record : Json} {m : QuarantineManifest} :
    validateQuarantineManifest record = .ok m ↔ record = m.toJson := by
  simp only [validateQuarantineManifest, bind_eq_ok, requireMapping_eq_ok, withCode_eq_ok,
    validateExactMapping_eq_ok_iff quarantineManifestFields_sorted, requireNonNegativeInt_eq_ok,
    requireSha_eq_ok, requireSafePath_eq_ok, pure_eq_ok]
  constructor
  · rintro ⟨data, rfl, _, hkeys, size, hsize, sha, hsha, source, hsource, destination, hdestination,
      rfl⟩
    rw [Mapping.toJson, Mapping.entries_eq_map_get, hkeys]
    simp [quarantineManifestFields, QuarantineManifest.toJson, QuarantineManifest.toMapping,
      Mapping.toJson, hsize, hsha, hsource, hdestination]
  · rintro rfl
    exact ⟨m.toMapping, rfl, (), rfl, m.sizeBytes, rfl, m.contentSha256, rfl, m.sourcePath, rfl,
      m.destinationPath, rfl, rfl⟩

/-! ## Section 3: Diagnostics -/

/-- `STALE_PHASE_CLASSIFICATIONS`. -/
def stalePhaseClassifications : List String :=
  ["NONE", "RECORD_EXISTS_PHASE_MISSING", "PHASE_EXISTS_RECORD_MISSING", "RECORD_HASH_MISMATCH",
    "GENERATION_EVENT_EXISTS_PHASE_MISSING", "STATE_EXISTS_PHASE_MISSING",
    "RESULT_RECORD_EXISTS_PHASE_MISSING"]

/-- Why a task is recovered, and what of its log is trusted. -/
structure RecoveryDiagnostic where
  recoveryReason : NonEmptyString
  previousTrustedPrefix : TrustedPrefix
  stalePhaseClassification : { s : String // s ∈ stalePhaseClassifications }
  deriving DecidableEq

/-- `RECOVERY_DIAGNOSTIC_FIELDS`. -/
def recoveryDiagnosticFields : List String :=
  ["previous_trusted_prefix", "recovery_reason", "stale_phase_classification", "threat_model"]

theorem recoveryDiagnosticFields_sorted : recoveryDiagnosticFields.Pairwise (· < ·) := by
  decide +kernel

namespace RecoveryDiagnostic

/-- The diagnostic as a mapping. -/
def toMapping (d : RecoveryDiagnostic) : Mapping where
  entries :=
    [("previous_trusted_prefix", d.previousTrustedPrefix.toJson),
      ("recovery_reason", .str d.recoveryReason.val),
      ("stale_phase_classification", .str d.stalePhaseClassification.val),
      ("threat_model", .str threatModel)]
  sorted := recoveryDiagnosticFields_sorted

/-- The diagnostic as a value. -/
def toJson (d : RecoveryDiagnostic) : Json := d.toMapping.toJson

end RecoveryDiagnostic

/-- `_validate_recovery_diagnostic`. -/
def validateRecoveryDiagnostic (record : Json) : Check RecoveryDiagnostic := do
  let code := "WORKFLOW_TRANSACTION_INCOMPLETE"
  let pre := "planned_recovery_record.diagnostic"
  let data ← requireMapping record (incomplete pre "recovery diagnostic must be a mapping")
  withCode code (validateExactMapping data recoveryDiagnosticFields "recovery diagnostic" pre)
  let recoveryReason ← withCode code
    (requireNonEmptyString (data.get "recovery_reason") (joinPath pre "recovery_reason"))
  let _ ← withCode code (requireMember (wordOf [threatModel]) (data.get "threat_model")
    (joinPath pre "threat_model") code)
  let classification ← withCode code (requireMember (wordOf stalePhaseClassifications)
    (data.get "stale_phase_classification") (joinPath pre "stale_phase_classification") code)
  let trusted ← validateTrustedPrefix (data.get "previous_trusted_prefix")
    (joinPath pre "previous_trusted_prefix")
  return ⟨recoveryReason, trusted, classification⟩

/-- **The validator accepts the printed diagnostics.** -/
theorem validateRecoveryDiagnostic_eq_ok_iff {record : Json} {d : RecoveryDiagnostic} :
    validateRecoveryDiagnostic record = .ok d ↔ record = d.toJson := by
  simp only [validateRecoveryDiagnostic, bind_eq_ok, requireMapping_eq_ok, withCode_eq_ok,
    validateExactMapping_eq_ok_iff recoveryDiagnosticFields_sorted, requireNonEmptyString_eq_ok,
    requireMember_wordOf, validateTrustedPrefix_eq_ok_iff, pure_eq_ok]
  constructor
  · rintro ⟨data, rfl, _, hkeys, reason, hreason, ⟨threat, hthreat⟩, hmodel, phase, hphase, trusted,
      htrusted, rfl⟩
    obtain rfl : threat = threatModel := List.mem_singleton.mp hthreat
    rw [Mapping.toJson, Mapping.entries_eq_map_get, hkeys]
    simp [recoveryDiagnosticFields, RecoveryDiagnostic.toJson, RecoveryDiagnostic.toMapping,
      Mapping.toJson, hreason, hmodel, hphase, htrusted]
  · rintro rfl
    exact ⟨d.toMapping, rfl, (), rfl, d.recoveryReason, rfl, ⟨threatModel, by simp⟩, rfl,
      d.stalePhaseClassification, rfl, d.previousTrustedPrefix, rfl, rfl⟩

/-! ## Section 4: Idempotency records -/

section Plans

variable [Platform]

/-- The idempotency record that a recovery plans. Its result is any value that Python finds equal
to the result of the transaction. -/
structure PlannedIdempotencyRecord where
  operationKind : OperationKind
  operationId : SafeId
  taskId : SafeId
  idempotencyKey : NonEmptyString
  requestFingerprint : Sha256Hex
  resultFingerprint : Sha256Hex
  canonicalResult : Json
  transactionPath : SafePath
  createdAtUtc : Utc

/-- `IDEMPOTENCY_RECORD_FIELDS` of the contracts; the store has a list of its own. -/
def plannedIdempotencyFields : List String :=
  ["canonical_result", "created_at_utc", "idempotency_key", "operation_id", "operation_kind",
    "request_fingerprint", "result_fingerprint", "schema_version", "task_id", "transaction_path"]

omit [Platform] in
theorem plannedIdempotencyFields_sorted : plannedIdempotencyFields.Pairwise (· < ·) := by
  decide +kernel

namespace PlannedIdempotencyRecord

/-- The record as a mapping. -/
def toMapping (p : PlannedIdempotencyRecord) : Mapping where
  entries :=
    [("canonical_result", p.canonicalResult), ("created_at_utc", .str p.createdAtUtc.val),
      ("idempotency_key", .str p.idempotencyKey.val), ("operation_id", .str p.operationId.val),
      ("operation_kind", p.operationKind.toJson),
      ("request_fingerprint", .str p.requestFingerprint.val),
      ("result_fingerprint", .str p.resultFingerprint.val), ("schema_version", .int 1),
      ("task_id", .str p.taskId.val), ("transaction_path", .str p.transactionPath.val)]
  sorted := plannedIdempotencyFields_sorted

/-- The record as a value. -/
def toJson (p : PlannedIdempotencyRecord) : Json := p.toMapping.toJson

end PlannedIdempotencyRecord

/-- `_validate_idempotency_record`, called with the planned record of a recovery. -/
def validatePlannedIdempotency (record : Json) (q : RecoveryRequest) (r : RecoveryResult)
    (kind : RecoveryOperationKind) (transactionPath : String) :
    Check PlannedIdempotencyRecord := do
  let code := "WORKFLOW_TRANSACTION_INCOMPLETE"
  let path := fun field => joinPath "planned_idempotency_record" field
  let data ← requireMapping record
    (incomplete "planned_idempotency_record" "planned idempotency record must be a mapping")
  withCode code (validateExactMapping data plannedIdempotencyFields "planned idempotency record"
    "planned_idempotency_record")
  withCode code (validateSchemaVersion (data.get "schema_version") (path "schema_version"))
  let operationKind ← withCode code (requireMember OperationKind.ofName (data.get "operation_kind")
    (path "operation_kind") code)
  let operationId ← withCode code (requireSafeId (data.get "operation_id") (path "operation_id"))
  let taskId ← withCode code (requireSafeId (data.get "task_id") (path "task_id"))
  let idempotencyKey ← withCode code
    (requireNonEmptyString (data.get "idempotency_key") (path "idempotency_key"))
  let requestFingerprint ← withCode code
    (requireSha (data.get "request_fingerprint") (path "request_fingerprint"))
  let resultFingerprint ← withCode code
    (requireSha (data.get "result_fingerprint") (path "result_fingerprint"))
  let createdAtUtc ← withCode code
    (validateUtc (data.get "created_at_utc") (path "created_at_utc"))
  require (operationKind = kind.kind)
    (incomplete (path "operation_kind") "idempotency operation_kind must match transaction")
  require (operationId = q.recoveryId)
    (incomplete (path "operation_id") "idempotency operation_id must match request")
  require (taskId = q.taskId)
    (incomplete (path "task_id") "idempotency task_id must match request")
  require (idempotencyKey = q.idempotencyKey)
    (incomplete (path "idempotency_key") "idempotency key must match request")
  require (requestFingerprint.val = operationRequestFingerprint q.toMapping)
    (incomplete (path "request_fingerprint")
      "idempotency request fingerprint must match timestamp-free request")
  require (resultFingerprint.val = canonicalSha r.toJson)
    (incomplete (path "result_fingerprint") "idempotency result fingerprint must match result")
  requireEqual (data.get "canonical_result") r.toJson (path "canonical_result")
    "idempotency canonical_result must match result"
  requireEqual (data.get "transaction_path") (.str transactionPath) (path "transaction_path")
    "idempotency transaction path must match transaction"
  let transactionPath ← requireSafePath (data.get "transaction_path")
    (incomplete (path "transaction_path") "transaction path must be safe relative POSIX path")
  return ⟨operationKind, operationId, taskId, idempotencyKey, requestFingerprint, resultFingerprint,
    data.get "canonical_result", transactionPath, createdAtUtc⟩

/-- The record is the one of a request, a result, a kind of operation and a path. -/
structure PlannedIdempotencyRecord.PlannedFor (p : PlannedIdempotencyRecord) (q : RecoveryRequest)
    (r : RecoveryResult) (kind : RecoveryOperationKind) (path : String) : Prop where
  operationKind : p.operationKind = kind.kind
  operationId : p.operationId = q.recoveryId
  taskId : p.taskId = q.taskId
  idempotencyKey : p.idempotencyKey = q.idempotencyKey
  requestFingerprint : p.requestFingerprint.val = operationRequestFingerprint q.toMapping
  resultFingerprint : p.resultFingerprint.val = canonicalSha r.toJson
  canonicalResult : p.canonicalResult.pyEq r.toJson = true
  transactionPath : p.transactionPath.val = path

/-- **The validator accepts the printed records of the request and the result.** -/
theorem validatePlannedIdempotency_eq_ok_iff {record : Json} {q : RecoveryRequest}
    {r : RecoveryResult} {kind : RecoveryOperationKind} {path : String}
    {p : PlannedIdempotencyRecord} :
    validatePlannedIdempotency record q r kind path = .ok p ↔
      record = p.toJson ∧ p.PlannedFor q r kind path := by
  simp only [validatePlannedIdempotency, bind_eq_ok, requireMapping_eq_ok, withCode_eq_ok,
    validateExactMapping_eq_ok_iff plannedIdempotencyFields_sorted, validateSchemaVersion_eq_ok,
    requireMember_operationName, requireSafeId_eq_ok, requireNonEmptyString_eq_ok,
    requireSha_eq_ok, validateUtc_eq_ok, require_eq_ok, requireEqual_eq_ok, Json.pyEq_str_right,
    requireSafePath_eq_ok, pure_eq_ok, exists_const]
  constructor
  · rintro ⟨data, rfl, hkeys, hversion, kind, hkind, id, hid, task, htask, key, hkey, fingerprint,
      hfingerprint, digest, hdigest, t, ht, rfl, rfl, rfl, rfl, hrequest, hresult, hsame, hpath,
      safe, hsafe, rfl⟩
    refine ⟨?_, rfl, rfl, rfl, rfl, hrequest, hresult, hsame, ?_⟩
    · rw [Mapping.toJson, Mapping.entries_eq_map_get, hkeys]
      simp [plannedIdempotencyFields, PlannedIdempotencyRecord.toJson,
        PlannedIdempotencyRecord.toMapping, Mapping.toJson, hversion, hkind, hid, htask, hkey,
        hfingerprint, hdigest, ht, hsafe]
    · rw [hsafe] at hpath
      exact Json.str.inj hpath
  · rintro ⟨rfl, h⟩
    have hpath : p.toMapping.get "transaction_path" = .str path := by
      rw [← h.transactionPath]
      rfl
    exact ⟨p.toMapping, rfl, rfl, rfl, p.operationKind, rfl, p.operationId, rfl, p.taskId, rfl,
      p.idempotencyKey, rfl, p.requestFingerprint, rfl, p.resultFingerprint, rfl, p.createdAtUtc,
      rfl, h.operationKind, h.operationId, h.taskId, h.idempotencyKey, h.requestFingerprint,
      h.resultFingerprint, h.canonicalResult, hpath, p.transactionPath, rfl, rfl⟩

/-! ## Section 5: Recovery records -/

/-- The record of a recovery: the digests of what it plans, and the diagnostic. -/
structure RecoveryRecord where
  recoveryId : SafeId
  taskId : SafeId
  projectId : SafeId
  operationKind : RecoveryOperationKind
  requestSha256 : Sha256Hex
  resultSha256 : Sha256Hex
  quarantineManifestSha256 : Option Sha256Hex
  generationEventSha256 : Option Sha256Hex
  stateSha256 : Option Sha256Hex
  diagnostic : RecoveryDiagnostic
  recordSha256 : Sha256Hex
  createdAtUtc : Utc
  deriving DecidableEq

/-- `RECOVERY_RECORD_FIELDS`. -/
def recoveryRecordFields : List String :=
  ["canonical_recovery_request_sha256", "canonical_recovery_result_sha256", "created_at_utc",
    "diagnostic", "generation_event_sha256", "operation_kind", "project_id",
    "quarantine_manifest_sha256", "record_sha256", "recovery_id", "schema_version", "state_sha256",
    "task_id"]

omit [Platform] in
theorem recoveryRecordFields_sorted : recoveryRecordFields.Pairwise (· < ·) := by
  decide +kernel

namespace RecoveryRecord

/-- The record with another value for its digest: `dict(record, record_sha256=...)`. -/
def withSha (r : RecoveryRecord) (sha : Json) : Mapping where
  entries :=
    [("canonical_recovery_request_sha256", .str r.requestSha256.val),
      ("canonical_recovery_result_sha256", .str r.resultSha256.val),
      ("created_at_utc", .str r.createdAtUtc.val), ("diagnostic", r.diagnostic.toJson),
      ("generation_event_sha256", Json.ofOption testedJson r.generationEventSha256),
      ("operation_kind", r.operationKind.kind.toJson), ("project_id", .str r.projectId.val),
      ("quarantine_manifest_sha256", Json.ofOption testedJson r.quarantineManifestSha256),
      ("record_sha256", sha), ("recovery_id", .str r.recoveryId.val), ("schema_version", .int 1),
      ("state_sha256", Json.ofOption testedJson r.stateSha256), ("task_id", .str r.taskId.val)]
  sorted := recoveryRecordFields_sorted

/-- The record as a mapping. -/
def toMapping (r : RecoveryRecord) : Mapping := r.withSha (.str r.recordSha256.val)

/-- The record as a value. -/
def toJson (r : RecoveryRecord) : Json := r.toMapping.toJson

end RecoveryRecord

/-- A digest of a recovery record is the one of what is planned. -/
def requirePlannedHash (actual : Json) (path : String) (planned : Json) : Check Sha256Hex := do
  let sha ← withCode "WORKFLOW_TRANSACTION_INCOMPLETE" (requireSha actual path)
  require (sha.val = canonicalSha planned)
    (incomplete path "planned recovery record hash mismatch")
  return sha

/-- The digest of a record that may not be planned. -/
def optionalPlannedHash (actual : Json) (path : String) (planned : Json) :
    Check (Option Sha256Hex) :=
  if planned = .null then do
    require (actual = .null) (incomplete path "hash must be null when planned artifact is null")
    return none
  else some <$> requirePlannedHash actual path planned

/-- What the digest of a planned record is, if it is planned. -/
def plannedHash (planned : Json) : Option String :=
  if planned = .null then none else some (canonicalSha planned)

theorem requirePlannedHash_eq_ok {actual planned : Json} {path : String} {sha : Sha256Hex} :
    requirePlannedHash actual path planned = .ok sha ↔
      actual = .str sha.val ∧ sha.val = canonicalSha planned := by
  simp only [requirePlannedHash, bind_eq_ok, withCode_eq_ok, requireSha_eq_ok, require_eq_ok,
    pure_eq_ok, exists_const]
  constructor
  · rintro ⟨_, hactual, hsha, rfl⟩
    exact ⟨hactual, hsha⟩
  · rintro ⟨hactual, hsha⟩
    exact ⟨sha, hactual, hsha, rfl⟩

theorem optionalPlannedHash_eq_ok {actual planned : Json} {path : String}
    {sha : Option Sha256Hex} :
    optionalPlannedHash actual path planned = .ok sha ↔
      actual = Json.ofOption testedJson sha ∧ sha.map Subtype.val = plannedHash planned := by
  unfold optionalPlannedHash plannedHash
  by_cases hplanned : planned = .null
  · simp only [hplanned, if_true, bind_eq_ok, require_eq_ok, pure_eq_ok, exists_const,
      Option.map_eq_none_iff]
    constructor
    · rintro ⟨rfl, rfl⟩
      exact ⟨rfl, rfl⟩
    · rintro ⟨rfl, rfl⟩
      exact ⟨rfl, rfl⟩
  · simp only [hplanned, if_false, map_eq_ok, requirePlannedHash_eq_ok]
    constructor
    · rintro ⟨s, ⟨rfl, hsha⟩, rfl⟩
      exact ⟨rfl, congrArg some hsha⟩
    · rintro ⟨rfl, hsha⟩
      obtain ⟨s, rfl, hs⟩ := Option.map_eq_some_iff.mp hsha
      exact ⟨s, ⟨rfl, hs⟩, rfl⟩

/-- `_validate_planned_recovery_record`. -/
def validatePlannedRecoveryRecord (record : Json) (q : RecoveryRequest) (r : RecoveryResult)
    (kind : RecoveryOperationKind) (quarantine generationEvent state : Json) :
    Check RecoveryRecord := do
  let code := "WORKFLOW_TRANSACTION_INCOMPLETE"
  let path := fun field => joinPath "planned_recovery_record" field
  let data ← requireMapping record
    (incomplete "planned_recovery_record" "planned recovery record must be a mapping")
  withCode code (validateExactMapping data recoveryRecordFields "planned recovery record"
    "planned_recovery_record")
  withCode code (validateSchemaVersion (data.get "schema_version") (path "schema_version"))
  let recoveryId ← withCode code (requireSafeId (data.get "recovery_id") (path "recovery_id"))
  let taskId ← withCode code (requireSafeId (data.get "task_id") (path "task_id"))
  let projectId ← withCode code (requireSafeId (data.get "project_id") (path "project_id"))
  let operationKind ← withCode code (requireMember RecoveryOperationKind.ofName
    (data.get "operation_kind") (path "operation_kind") code)
  let recordSha256 ← withCode code (requireSha (data.get "record_sha256") (path "record_sha256"))
  let createdAtUtc ← withCode code
    (validateUtc (data.get "created_at_utc") (path "created_at_utc"))
  require (recoveryId = q.recoveryId)
    (incomplete (path "recovery_id") "planned recovery_id must match request")
  require (taskId = q.taskId) (incomplete (path "task_id") "planned task_id must match request")
  require (projectId = q.projectId)
    (incomplete (path "project_id") "planned project_id must match request")
  require (operationKind = kind)
    (incomplete (path "operation_kind") "planned operation_kind must match transaction")
  let requestSha ← requirePlannedHash (data.get "canonical_recovery_request_sha256")
    (path "canonical_recovery_request_sha256") q.toJson
  let resultSha ← requirePlannedHash (data.get "canonical_recovery_result_sha256")
    (path "canonical_recovery_result_sha256") r.toJson
  let quarantineSha ← optionalPlannedHash (data.get "quarantine_manifest_sha256")
    (path "quarantine_manifest_sha256") quarantine
  let eventSha ← optionalPlannedHash (data.get "generation_event_sha256")
    (path "generation_event_sha256") generationEvent
  let stateSha ← optionalPlannedHash (data.get "state_sha256") (path "state_sha256") state
  let diagnostic ← validateRecoveryDiagnostic (data.get "diagnostic")
  let planned : RecoveryRecord := ⟨recoveryId, taskId, projectId, operationKind, requestSha,
    resultSha, quarantineSha, eventSha, stateSha, diagnostic, recordSha256, createdAtUtc⟩
  require (recordSha256.val = canonicalSha (planned.withSha .null).toJson)
    (incomplete (path "record_sha256") "record_sha256 does not match canonical recovery record")
  return planned

/-- The record is the one of a request, a result, a kind of operation and the planned records. -/
structure RecoveryRecord.PlannedFor (p : RecoveryRecord) (q : RecoveryRequest)
    (r : RecoveryResult) (kind : RecoveryOperationKind) (quarantine generationEvent state : Json) :
    Prop where
  recoveryId : p.recoveryId = q.recoveryId
  taskId : p.taskId = q.taskId
  projectId : p.projectId = q.projectId
  operationKind : p.operationKind = kind
  requestSha256 : p.requestSha256.val = canonicalSha q.toJson
  resultSha256 : p.resultSha256.val = canonicalSha r.toJson
  quarantine : p.quarantineManifestSha256.map Subtype.val = plannedHash quarantine
  generationEvent : p.generationEventSha256.map Subtype.val = plannedHash generationEvent
  state : p.stateSha256.map Subtype.val = plannedHash state
  recordSha256 : p.recordSha256.val = canonicalSha (p.withSha .null).toJson

/-- **The validator accepts the printed records of what is planned.** -/
theorem validatePlannedRecoveryRecord_eq_ok_iff {record quarantine generationEvent state : Json}
    {q : RecoveryRequest} {r : RecoveryResult} {kind : RecoveryOperationKind}
    {p : RecoveryRecord} :
    validatePlannedRecoveryRecord record q r kind quarantine generationEvent state = .ok p ↔
      record = p.toJson ∧ p.PlannedFor q r kind quarantine generationEvent state := by
  simp only [validatePlannedRecoveryRecord, bind_eq_ok, requireMapping_eq_ok, withCode_eq_ok,
    validateExactMapping_eq_ok_iff recoveryRecordFields_sorted, validateSchemaVersion_eq_ok,
    requireMember_recoveryKind, requireSafeId_eq_ok, requireSha_eq_ok, validateUtc_eq_ok,
    require_eq_ok, requirePlannedHash_eq_ok, optionalPlannedHash_eq_ok,
    validateRecoveryDiagnostic_eq_ok_iff, pure_eq_ok, exists_const]
  constructor
  · rintro ⟨data, rfl, hkeys, hversion, id, hid, task, htask, project, hproject, kind, hkind, sha,
      hsha, t, ht, rfl, rfl, rfl, rfl, request, ⟨hrequest, hrequestSha⟩, result,
      ⟨hresult, hresultSha⟩, manifest, ⟨hmanifest, hmanifestSha⟩, event, ⟨hevent, heventSha⟩, after,
      ⟨hafter, hafterSha⟩, diagnostic, hdiagnostic, hrecord, rfl⟩
    refine ⟨?_, rfl, rfl, rfl, rfl, hrequestSha, hresultSha, hmanifestSha, heventSha, hafterSha,
      hrecord⟩
    rw [Mapping.toJson, Mapping.entries_eq_map_get, hkeys]
    simp [recoveryRecordFields, RecoveryRecord.toJson, RecoveryRecord.toMapping,
      RecoveryRecord.withSha, Mapping.toJson, hversion, hid, htask, hproject, hkind, hsha, ht,
      hrequest, hresult, hmanifest, hevent, hafter, hdiagnostic, OperationKind.toJson]
  · rintro ⟨rfl, h⟩
    exact ⟨p.toMapping, rfl, rfl, rfl, p.recoveryId, rfl, p.taskId, rfl, p.projectId, rfl,
      p.operationKind, rfl, p.recordSha256, rfl, p.createdAtUtc, rfl, h.recoveryId, h.taskId,
      h.projectId, h.operationKind, p.requestSha256, ⟨rfl, h.requestSha256⟩, p.resultSha256,
      ⟨rfl, h.resultSha256⟩, p.quarantineManifestSha256, ⟨rfl, h.quarantine⟩,
      p.generationEventSha256, ⟨rfl, h.generationEvent⟩, p.stateSha256, ⟨rfl, h.state⟩,
      p.diagnostic, rfl, h.recordSha256, rfl⟩

end Plans

end Acgps
