import Acgps.Data.Loads
import Acgps.Data.PyEq
import Acgps.Store.ControlStore
import Acgps.Workflow.Results

/-!
# Idempotency records

The record that the store keeps of an operation under its task, kind and key, the checks it makes
before it keeps one, and the checks of a row that it kept.

## Main Definitions

* `IdempotencyRecord`, `requireIdempotencyRecord` - `_require_idempotency_record`
* `IdempotencyRow`, `validatedIdempotencyRow` - `_validated_idempotency_row`

## Key Theorems

* `requireIdempotencyRecord_eq_ok_iff` - which records are accepted beside which requests
* `IdempotencyRecord.sameIdentity_of_pyEq` - what the comparison of two identities decides
-/

namespace Acgps

open Checked

/-! ## Section 1: The record -/

/-- A timestamp of the store: the digits may be of any script. -/
def isStoreUtc (s : String) : Bool :=
  matchesTemplate isDecimal utcTemplate s.toList && (strptimeUtc s.toList).isSome

/-- What a test of the schema version by `!= 1` lets through. -/
abbrev VersionOne := { v : Json // v.equalsOne = true }

theorem Json.int_one_equalsOne : (Json.int 1).equalsOne = true := rfl

/-- The record of an operation that took place. -/
structure IdempotencyRecord where
  schemaVersion : VersionOne
  operationKind : OperationKind
  operationId : SafeId
  taskId : SafeId
  idempotencyKey : NonEmptyString
  requestFingerprint : Sha256Hex
  resultFingerprint : Sha256Hex
  canonicalResult : OperationResult operationKind
  createdAtUtc : { s : String // isStoreUtc s = true }

/-- `IDEMPOTENCY_RECORD_FIELDS`. -/
def idempotencyRecordFields : List String :=
  ["canonical_result", "created_at_utc", "idempotency_key", "operation_id", "operation_kind",
    "request_fingerprint", "result_fingerprint", "schema_version", "task_id", "transaction_path"]

theorem idempotencyRecordFields_sorted : idempotencyRecordFields.Pairwise (· < ·) := by
  decide +kernel

/-- `state/transactions/{task_id}/{prefix}-{operation_id}`. -/
def transactionPath (operationPrefix : String) (taskId operationId : SafeId) : String :=
  "state/transactions/" ++ taskId.val ++ "/" ++ operationPrefix ++ "-" ++ operationId.val

namespace IdempotencyRecord

/-- The path that binds the task, the kind and the id of the operation. -/
def path (r : IdempotencyRecord) : String :=
  transactionPath r.operationKind.lower r.taskId r.operationId

/-- The record as a mapping. -/
def toMapping (r : IdempotencyRecord) : Mapping where
  entries :=
    [("canonical_result", r.canonicalResult.toJson), ("created_at_utc", .str r.createdAtUtc.val),
      ("idempotency_key", .str r.idempotencyKey.val), ("operation_id", .str r.operationId.val),
      ("operation_kind", r.operationKind.toJson),
      ("request_fingerprint", .str r.requestFingerprint.val),
      ("result_fingerprint", .str r.resultFingerprint.val),
      ("schema_version", r.schemaVersion.val), ("task_id", .str r.taskId.val),
      ("transaction_path", .str r.path)]
  sorted := idempotencyRecordFields_sorted

/-- The record as a value. -/
def toJson (r : IdempotencyRecord) : Json := r.toMapping.toJson

/-- `_idempotency_identity`: all fields but the timestamp. -/
def identity (r : IdempotencyRecord) : Mapping where
  entries := r.toMapping.entries.filter (fun entry => entry.1 ≠ "created_at_utc")
  sorted := r.toMapping.sorted.sublist ((List.filter_sublist).map Prod.fst)

/-- The entries of the identity. -/
theorem identity_entries (r : IdempotencyRecord) : r.identity.entries =
    [("canonical_result", r.canonicalResult.toJson),
      ("idempotency_key", .str r.idempotencyKey.val), ("operation_id", .str r.operationId.val),
      ("operation_kind", r.operationKind.toJson),
      ("request_fingerprint", .str r.requestFingerprint.val),
      ("result_fingerprint", .str r.resultFingerprint.val),
      ("schema_version", r.schemaVersion.val), ("task_id", .str r.taskId.val),
      ("transaction_path", .str r.path)] := rfl

end IdempotencyRecord

/-! ## Section 2: Paths -/

/-- What `safe_state_path` finds on the disk along a relative path: a symlink, or an escape from the
root. -/
abbrev PathProbe := String → Option Text

/-- `PureWindowsPath(relative_path).drive`, on a path without a backslash. -/
def hasWindowsDrive (s : String) : Bool :=
  match s.toList with
  | _ :: ':' :: _ => true
  | '/' :: '/' :: _ => true
  | _ => false

/-- `safe_state_path`. -/
def safeStatePath (probe : PathProbe) (relativePath : Json) : Outcome String := do
  let unsafePath := storeError "WORKFLOW_INVALID_INPUT" "path"
  let s ← expect (relativePath.asStr.filter (· ≠ ""))
    (unsafePath "path must be a non-empty relative POSIX string")
  require (s.toList.contains '\\' = false) (unsafePath "path must use POSIX separators")
  require (hasWindowsDrive s = false ∧ hasDriveLetter s = false)
    (unsafePath "Windows drive prefixes are not allowed")
  require (s.toList.head? ≠ some '/') (unsafePath "absolute paths are not allowed")
  require ((s.toList.splitOn '/').all (fun part => !isDotPart part) = true)
    (unsafePath "path must not contain empty, current, or parent segments")
  match probe s with
  | some message => .error (unsafePath message)
  | none => return s

/-- A path that `safe_state_path` lets through if nothing on the disk is in the way. -/
def isStatePath (s : String) : Bool := isSafeRelativePath s && !hasWindowsDrive s

theorem safeStatePath_eq_ok {probe : PathProbe} {value : Json} {s : String} :
    safeStatePath probe value = .ok s ↔
      value = .str s ∧ isStatePath s = true ∧ probe s = none := by
  unfold safeStatePath
  simp only [bind_eq_ok, expect_eq_ok, require_eq_ok, Option.filter_eq_some_iff,
    Json.asStr_eq_some, exists_const, decide_eq_true_eq]
  constructor
  · rintro ⟨path, ⟨rfl, hne⟩, hslash, ⟨hdrive, hletter⟩, hhead, hparts, h⟩
    cases hprobe : probe path with
    | some message => simp [hprobe] at h
    | none =>
        simp only [hprobe, pure_eq_ok] at h
        subst h
        refine ⟨rfl, ?_, hprobe⟩
        simp only [isStatePath, isSafeRelativePath, hne, hslash, hhead, hletter, hparts, hdrive]
        simp
  · rintro ⟨rfl, hpath, hprobe⟩
    obtain ⟨hsafe, hdrive⟩ := Bool.and_eq_true_iff.mp hpath
    unfold isSafeRelativePath at hsafe
    split at hsafe
    next => simp at hsafe
    next hplain =>
      split at hsafe
      next => simp at hsafe
      next hrelative =>
        simp only [Bool.or_eq_true, decide_eq_true_eq, not_or] at hplain hrelative
        refine ⟨s, ⟨rfl, hplain.1⟩, by simpa using hplain.2, ⟨by simpa using hdrive, ?_⟩,
          hrelative.1, hsafe, ?_⟩
        · simpa using hrelative.2
        · rw [hprobe]
          rfl

/-! ## Section 3: The checks of a record -/

/-- An error of `_require_idempotency_record`. -/
def recordError (path : String) (message : Text) : Failure :=
  storeError "WORKFLOW_INVALID_INPUT" path message

/-- An invalid outcome of a nested record is raised under the path of the record. -/
def raiseNested {α : Type} (path : String) (x : Check α) : Outcome α :=
  mapError (fun rejection => match rejection with
    | .invalid issue => recordError (path ++ "." ++ issue.path) issue.message
    | .raised failure => failure) x

@[simp] theorem raiseNested_eq_ok {α : Type} {path : String} {x : Check α} {a : α} :
    raiseNested path x = .ok a ↔ x = .ok a := by
  simp [raiseNested]

/-- `_require_safe_id`. -/
def storeSafeId (value : Json) (path : String) : Outcome SafeId :=
  expect (value.asTested isSafeId) (recordError path "value must be a safe id")

/-- `_validate_utc`. -/
def storeUtc (value : Json) (path : String) : Outcome { s : String // isStoreUtc s = true } := do
  require ((value.asStr.filter (fun s => matchesTemplate isDecimal utcTemplate s.toList)).isSome
      = true)
    (recordError path "value must be a canonical RFC3339 UTC timestamp")
  expect (value.asTested isStoreUtc)
    (recordError path "value must be a valid canonical RFC3339 UTC timestamp")

/-- A field of the record that is a digest. -/
def storeSha (data : Mapping) (field : String) : Outcome Sha256Hex :=
  expect ((data.get field).asTested isSha256)
    (recordError ("idempotency_record." ++ field) "fingerprint must be a SHA-256 hex digest")

/-- `operation_kind not in OPERATION_KINDS`, on a set of words. -/
def storeOperationKind (value : Json) : Outcome OperationKind := do
  require (value.isUnhashable = false)
    (.interpreter "TypeError" [.text "unhashable type: ", .text value.typeName])
  expect (value.asStr.bind OperationKind.ofName)
    (recordError "idempotency_record.operation_kind" "unknown operation kind")

theorem storeOperationKind_eq_ok {value : Json} {kind : OperationKind} :
    storeOperationKind value = .ok kind ↔ value = kind.toJson := by
  simp only [storeOperationKind, bind_eq_ok, require_eq_ok, expect_eq_ok, exists_const,
    Option.bind_eq_some_iff, Json.asStr_eq_some, OperationKind.ofName_eq_some_iff]
  constructor
  · rintro ⟨_, _, rfl, rfl⟩
    rfl
  · rintro rfl
    exact ⟨rfl, _, rfl, rfl⟩

theorem storeUtc_eq_ok {value : Json} {path : String} {t : { s : String // isStoreUtc s = true }} :
    storeUtc value path = .ok t ↔ value = .str t.val := by
  simp only [storeUtc, bind_eq_ok, require_eq_ok, expect_eq_ok, Json.asTested_eq_some, exists_const]
  constructor
  · rintro ⟨_, h⟩
    exact h
  · rintro rfl
    refine ⟨?_, rfl⟩
    have ht := (Bool.and_eq_true_iff.mp t.property).1
    simp [Json.asStr, ht]

section Checks

variable [Digest]

/-- `_validate_result_for_operation`. -/
def validateResultForOperation (data : Mapping) (kind : OperationKind) (operationId taskId : SafeId)
    (resultFingerprint : Sha256Hex) : Outcome (OperationResult kind) := do
  let result ← raiseNested "idempotency_record.canonical_result"
    (validateOperationResult kind (data.get "canonical_result"))
  require (result.operationId = operationId)
    (recordError "idempotency_record.operation_id" "operation_id must match canonical result")
  require (result.taskId = taskId)
    (recordError "idempotency_record.task_id" "task_id must match canonical result")
  require (resultFingerprint.val = canonicalSha result.toJson)
    (recordError "idempotency_record.result_fingerprint"
      "result fingerprint must match canonical result")
  return result

/-- `_validate_canonical_request_for_operation`. -/
def validateCanonicalRequestForOperation (request : Json) (kind : OperationKind)
    (operationId taskId : SafeId) (idempotencyKey : NonEmptyString)
    (requestFingerprint : Sha256Hex) : Outcome (OperationRequest kind) := do
  let data ← expect request.asMapping (recordError "canonical_request" "record must be a mapping")
  let q ← raiseNested "canonical_request" (validateOperationRequest kind request)
  require (q.operationId = operationId)
    (recordError "canonical_request" "canonical request id must match operation_id")
  require (q.taskId = taskId)
    (recordError "canonical_request.task_id"
      "canonical request task_id must match idempotency record")
  require (q.idempotencyKey = idempotencyKey)
    (recordError "canonical_request.idempotency_key"
      "canonical request idempotency_key must match idempotency record")
  require (requestFingerprint.val = operationRequestFingerprint data)
    (recordError "idempotency_record.request_fingerprint"
      "request fingerprint must equal timestamp-free canonical request hash")
  return q

/-- `_require_idempotency_record`, with a canonical request or `None`, and without a state root. -/
def requireIdempotencyRecord (probe : PathProbe) (record canonicalRequest : Json) :
    Outcome IdempotencyRecord := do
  let data ← expect record.asMapping (recordError "idempotency_record" "record must be a mapping")
  require (data.keys = idempotencyRecordFields)
    (recordError "idempotency_record" "idempotency record fields are invalid")
  let schemaVersion ← expect
    (if h : (data.get "schema_version").equalsOne = true then some (⟨_, h⟩ : VersionOne) else none)
    (storeError "WORKFLOW_UNSUPPORTED_SCHEMA_VERSION" "idempotency_record.schema_version"
      "unsupported idempotency schema")
  let kind ← storeOperationKind (data.get "operation_kind")
  let operationId ← storeSafeId (data.get "operation_id") "idempotency_record.operation_id"
  let taskId ← storeSafeId (data.get "task_id") "idempotency_record.task_id"
  let idempotencyKey ← expect ((data.get "idempotency_key").asStr.bind
      (fun s => if h : s ≠ "" then some (⟨s, h⟩ : NonEmptyString) else none))
    (recordError "idempotency_record.idempotency_key" "idempotency key must be non-empty")
  let requestFingerprint ← storeSha data "request_fingerprint"
  let resultFingerprint ← storeSha data "result_fingerprint"
  require ((data.get "canonical_result").asMapping.isSome = true)
    (recordError "idempotency_record.canonical_result" "canonical result must be a mapping")
  let path ← safeStatePath probe (data.get "transaction_path")
  require (path = transactionPath kind.lower taskId operationId)
    (recordError "idempotency_record.transaction_path"
      "transaction path must bind task, operation kind, and operation id")
  let canonicalResult ← validateResultForOperation data kind operationId taskId resultFingerprint
  require (canonicalRequest ≠ .null)
    (recordError "idempotency_record.request_fingerprint" "canonical request proof is required")
  let _ ← validateCanonicalRequestForOperation canonicalRequest kind operationId taskId
    idempotencyKey requestFingerprint
  let createdAtUtc ← storeUtc (data.get "created_at_utc") "idempotency_record.created_at_utc"
  return ⟨schemaVersion, kind, operationId, taskId, idempotencyKey, requestFingerprint,
    resultFingerprint, canonicalResult, createdAtUtc⟩

/-- The record is one of a request: ids, key and digests agree. -/
structure IdempotencyRecord.ValidFor (r : IdempotencyRecord)
    (q : OperationRequest r.operationKind) : Prop where
  result : r.canonicalResult.Valid
  resultId : r.canonicalResult.operationId = r.operationId
  resultTask : r.canonicalResult.taskId = r.taskId
  resultFingerprint : r.resultFingerprint.val = canonicalSha r.canonicalResult.toJson
  request : q.Valid
  requestId : q.operationId = r.operationId
  requestTask : q.taskId = r.taskId
  requestKey : q.idempotencyKey = r.idempotencyKey
  requestFingerprint : r.requestFingerprint.val = operationRequestFingerprint q.toMapping

theorem validateResultForOperation_eq_ok {data : Mapping} {kind : OperationKind}
    {operationId taskId : SafeId} {fingerprint : Sha256Hex} {r : OperationResult kind} :
    validateResultForOperation data kind operationId taskId fingerprint = .ok r ↔
      data.get "canonical_result" = r.toJson ∧ r.Valid ∧ r.operationId = operationId ∧
        r.taskId = taskId ∧ fingerprint.val = canonicalSha r.toJson := by
  simp only [validateResultForOperation, bind_eq_ok, raiseNested_eq_ok, require_eq_ok, pure_eq_ok,
    validateOperationResult_eq_ok_iff, exists_const]
  constructor
  · rintro ⟨_, ⟨hdata, hvalid⟩, hid, htask, hsha, rfl⟩
    exact ⟨hdata, hvalid, hid, htask, hsha⟩
  · rintro ⟨hdata, hvalid, hid, htask, hsha⟩
    exact ⟨r, ⟨hdata, hvalid⟩, hid, htask, hsha, rfl⟩

theorem validateCanonicalRequestForOperation_eq_ok {request : Json} {kind : OperationKind}
    {operationId taskId : SafeId} {key : NonEmptyString} {fingerprint : Sha256Hex}
    {q : OperationRequest kind} :
    validateCanonicalRequestForOperation request kind operationId taskId key fingerprint = .ok q ↔
      request = q.toJson ∧ q.Valid ∧ q.operationId = operationId ∧ q.taskId = taskId ∧
        q.idempotencyKey = key ∧ fingerprint.val = operationRequestFingerprint q.toMapping := by
  simp only [validateCanonicalRequestForOperation, bind_eq_ok, expect_eq_ok,
    Mapping.asMapping_eq_some, raiseNested_eq_ok, require_eq_ok, pure_eq_ok,
    validateOperationRequest_eq_ok_iff, exists_const]
  constructor
  · rintro ⟨data, hdata, _, ⟨hrequest, hvalid⟩, hid, htask, hkey, hsha, rfl⟩
    rw [hrequest] at hdata
    obtain rfl := Mapping.toJson_injective hdata
    exact ⟨hrequest, hvalid, hid, htask, hkey, hsha⟩
  · rintro ⟨hrequest, hvalid, hid, htask, hkey, hsha⟩
    exact ⟨q.toMapping, hrequest, q, ⟨hrequest, hvalid⟩, hid, htask, hkey, hsha, rfl⟩

/-- **Which records are accepted**: the printed ones, beside the request that they are valid for,
when nothing on the disk is in the way of their path. -/
theorem requireIdempotencyRecord_eq_ok_iff {probe : PathProbe} {record canonicalRequest : Json}
    {r : IdempotencyRecord} :
    requireIdempotencyRecord probe record canonicalRequest = .ok r ↔
      record = r.toJson ∧ isStatePath r.path = true ∧ probe r.path = none ∧
        ∃ q : OperationRequest r.operationKind, canonicalRequest = q.toJson ∧ r.ValidFor q := by
  simp only [requireIdempotencyRecord, bind_eq_ok, expect_eq_ok, Mapping.asMapping_eq_some,
    require_eq_ok, storeOperationKind_eq_ok, storeSafeId, storeSha, Json.asTested_eq_some,
    asStr_bind_nonEmpty_eq_some, safeStatePath_eq_ok, validateResultForOperation_eq_ok,
    validateCanonicalRequestForOperation_eq_ok, storeUtc_eq_ok, pure_eq_ok, exists_const,
    Option.dite_none_right_eq_some, Option.some.injEq]
  constructor
  · rintro ⟨data, rfl, hkeys, version, ⟨hversion, rfl⟩, kind, hkind, id, hid, task, htask, key, hkey,
      fingerprint, hfingerprint, digest, hdigest, _, path, ⟨hpath, hsafe, hprobe⟩, rfl, result,
      ⟨hresult, hvalid, hresultId, hresultTask, hresultSha⟩, _, q,
      ⟨rfl, hqvalid, hqid, hqtask, hqkey, hqsha⟩, t, ht, rfl⟩
    refine ⟨?_, hsafe, hprobe, q, rfl, hvalid, hresultId, hresultTask, hresultSha, hqvalid, hqid,
      hqtask, hqkey, hqsha⟩
    rw [Mapping.toJson, Mapping.entries_eq_map_get, hkeys]
    simp [idempotencyRecordFields, IdempotencyRecord.toJson, IdempotencyRecord.toMapping,
      Mapping.toJson, IdempotencyRecord.path, hkind, hid, htask, hkey, hfingerprint, hdigest,
      hpath, hresult, ht]
  · rintro ⟨rfl, hsafe, hprobe, q, rfl, h⟩
    have hmapping : (r.toMapping.get "canonical_result").asMapping.isSome = true :=
      congrArg Option.isSome (Mapping.asMapping_toJson r.canonicalResult.toMapping)
    exact ⟨r.toMapping, rfl, rfl, r.schemaVersion, ⟨r.schemaVersion.property, rfl⟩,
      r.operationKind, rfl, r.operationId, rfl, r.taskId, rfl, r.idempotencyKey, rfl,
      r.requestFingerprint, rfl, r.resultFingerprint, rfl, hmapping, r.path, ⟨rfl, hsafe, hprobe⟩,
      rfl, r.canonicalResult, ⟨rfl, h.result, h.resultId, h.resultTask, h.resultFingerprint⟩,
      Mapping.toJson_ne_null _, q,
      ⟨rfl, h.request, h.requestId, h.requestTask, h.requestKey, h.requestFingerprint⟩,
      r.createdAtUtc, rfl, rfl⟩

end Checks

/-! ## Section 4: Comparing records -/

theorem alike_ofOption {α : Type} {f : α → Json} (hf : ∀ a b, (f a).alike (f b) = true)
    (hnull : ∀ a, Json.alike .null (f a) = true ∧ (f a).alike .null = true) (a b : Option α) :
    (Json.ofOption f a).alike (Json.ofOption f b) = true := by
  cases a with
  | none =>
      cases b with
      | none => rfl
      | some b => exact (hnull b).1
  | some a =>
      cases b with
      | none => exact (hnull a).2
      | some b => exact hf a b

theorem alikeItems_issues : ∀ a b : List ResultIssue,
    Json.alikeItems (a.map ResultIssue.toJson) (b.map ResultIssue.toJson) = true
  | [], [] | [], _ :: _ | _ :: _, [] => rfl
  | _ :: as, _ :: bs => alikeItems_issues as bs

section Verdicts

variable {α : Type} (a b : ResultVerdict α)

theorem alike_errorCodeJson : a.errorCodeJson.alike b.errorCodeJson = true := by
  cases a <;> cases b <;> rfl

theorem alike_issuesJson : a.issuesJson.alike b.issuesJson = true := by
  cases a with
  | accepted _ _ => cases b <;> rfl
  | rejected _ issues =>
      cases b with
      | accepted _ _ => exact alikeItems_issues issues []
      | rejected _ issues' => exact alikeItems_issues issues issues'

theorem alike_resultingStateJson : a.resultingStateJson.alike b.resultingStateJson = true := by
  cases a <;> cases b <;> rfl

theorem alike_eventJson {f : α → Json} (hf : ∀ a b, (f a).alike (f b) = true)
    (hnull : ∀ a, Json.alike .null (f a) = true ∧ (f a).alike .null = true) :
    (a.eventJson f).alike (b.eventJson f) = true := by
  cases a with
  | accepted _ a =>
      cases b with
      | accepted _ b => exact hf a b
      | rejected _ _ => exact (hnull a).2
  | rejected _ _ =>
      cases b with
      | accepted _ b => exact (hnull b).1
      | rejected _ _ => rfl

end Verdicts

theorem alike_int (m n : Int) : (Json.int m).alike (.int n) = true := rfl

theorem alike_bool (x y : Bool) : (Json.bool x).alike (.bool y) = true := rfl

theorem alike_str (s t : String) : (Json.str s).alike (.str t) = true := rfl

theorem alike_recoveryResult (r r' : RecoveryResult) : r.toJson.alike r'.toJson = true := by
  have htested : ∀ {test : String → Bool} (a b : Option { s : String // test s = true }),
      (Json.ofOption testedJson a).alike (Json.ofOption testedJson b) = true := fun a b =>
    alike_ofOption (fun _ _ => rfl) (fun _ => ⟨rfl, rfl⟩) a b
  have hposNat : ∀ a b : Option PosNat,
      (Json.ofOption PosNat.toJson a).alike (Json.ofOption PosNat.toJson b) = true := fun a b =>
    alike_ofOption (fun _ _ => rfl) (fun _ => ⟨rfl, rfl⟩) a b
  have hword : ∀ {words : List String} (a b : Option { s : String // s ∈ words }),
      (Json.ofOption wordJson a).alike (Json.ofOption wordJson b) = true := fun a b =>
    alike_ofOption (fun _ _ => rfl) (fun _ => ⟨rfl, rfl⟩) a b
  show Json.alikeMembers r.toMapping.entries r'.toMapping.entries = true
  simp only [RecoveryResult.toMapping, Json.alikeMembers, alike_int, alike_bool, alike_str,
    alike_errorCodeJson, alike_issuesJson, alike_resultingStateJson, htested, hposNat, hword,
    Bool.and_self]

/-- Results of one kind have numbers of the same types in the same places. -/
theorem OperationResult.alike {kind : OperationKind} (r r' : OperationResult kind) :
    r.toJson.alike r'.toJson = true := by
  have hname : ∀ s t : NonEmptyString, (NonEmptyString.toJson s).alike t.toJson = true :=
    fun _ _ => rfl
  have hnull : ∀ s : NonEmptyString,
      Json.alike .null s.toJson = true ∧ (NonEmptyString.toJson s).alike .null = true :=
    fun _ => ⟨rfl, rfl⟩
  have hone : ∀ s t : NonEmptyString, (Json.int 1).alike (.int 1) = true := fun _ _ => rfl
  have honeNull : ∀ s : NonEmptyString,
      Json.alike .null (.int 1) = true ∧ (Json.int 1).alike .null = true := fun _ => ⟨rfl, rfl⟩
  cases kind with
  | initialization =>
      show Json.alikeMembers (InitializationResult.toMapping r).entries
        (InitializationResult.toMapping r').entries = true
      simp only [InitializationResult.toMapping, Json.alikeMembers, alike_int, alike_bool,
        alike_str, alike_errorCodeJson, alike_issuesJson, alike_resultingStateJson,
        alike_eventJson _ _ hname hnull, alike_eventJson _ _ hone honeNull, Bool.and_self]
  | transition =>
      show Json.alikeMembers (TransitionResult.toMapping r).entries
        (TransitionResult.toMapping r').entries = true
      simp only [TransitionResult.toMapping, Json.alikeMembers, alike_int, alike_bool,
        alike_str, alike_errorCodeJson, alike_issuesJson, alike_resultingStateJson,
        alike_eventJson _ _ hname hnull, Bool.and_self]
  | recovery => exact alike_recoveryResult r r'
  | rollback => exact alike_recoveryResult r r'

/-- Two records of one operation: they agree in every field but the timestamp, where both schema
versions are one. -/
structure IdempotencyRecord.SameIdentity (a b : IdempotencyRecord) : Prop where
  operationKind : a.operationKind = b.operationKind
  operationId : a.operationId = b.operationId
  taskId : a.taskId = b.taskId
  idempotencyKey : a.idempotencyKey = b.idempotencyKey
  requestFingerprint : a.requestFingerprint = b.requestFingerprint
  resultFingerprint : a.resultFingerprint = b.resultFingerprint
  canonicalResult : a.canonicalResult.toJson = b.canonicalResult.toJson

theorem IdempotencyRecord.SameIdentity.refl (r : IdempotencyRecord) : r.SameIdentity r :=
  ⟨rfl, rfl, rfl, rfl, rfl, rfl, rfl⟩

/-- A row of `idempotency_records`. -/
structure IdempotencyRow where
  taskId : String
  operationKind : String
  idempotencyKeySha256 : String
  idempotencyKey : String
  identityJson : SqliteText
  recordJson : SqliteText
  canonicalRequestJson : SqliteText

/-- The task, the kind and the key that a row is looked up for. -/
structure IdempotencyTarget where
  taskId : String
  operationKind : String
  idempotencyKey : String
  deriving DecidableEq

/-- What a record is stored under. -/
def IdempotencyRecord.target (r : IdempotencyRecord) : IdempotencyTarget :=
  ⟨r.taskId.val, r.operationKind.name, r.idempotencyKey.val⟩

/-- An error about a stored row. -/
def conflictError (path : String) (message : Text) : Failure :=
  storeError "WORKFLOW_IDEMPOTENCY_CONFLICT" path message

/-- `except WorkflowStoreError`: the code becomes the one of a conflict. -/
def asConflict (failure : Failure) : Failure :=
  match failure with
  | .workflowStore issue => conflictError issue.path issue.message
  | other => other

section Rows

variable [Platform]

/-- `_validated_idempotency_row`. -/
def validatedIdempotencyRow (probe : PathProbe) (row : IdempotencyRow) (target : IdempotencyTarget) :
    Outcome IdempotencyRecord := do
  let code := "WORKFLOW_IDEMPOTENCY_CONFLICT"
  let identity ← loadsJsonMapping row.identityJson code "idempotency_record.identity"
  let record ← loadsJsonMapping row.recordJson code "idempotency_record"
  let canonicalRequest ← loadsJsonMapping row.canonicalRequestJson code "canonical_request"
  require (row.idempotencyKey = target.idempotencyKey)
    (conflictError "idempotency_record.idempotency_key" "stored key must match requested key")
  let data ← mapError asConflict (requireIdempotencyRecord probe record canonicalRequest)
  require (data.target = target)
    (conflictError "idempotency_record" "idempotency record does not match requested identity")
  require (identity.pyEq data.identity.toJson = true)
    (conflictError "idempotency_record.identity"
      "stored identity must match canonical record identity")
  return data

end Rows

end Acgps
