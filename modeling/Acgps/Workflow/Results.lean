import Acgps.Workflow.Requests
import Acgps.Workflow.AuditEvent

/-!
# Results and recovery requests

What an operation answers, and what a recovery asks for: the records that an idempotency record and
a transaction carry beside the requests of the engine.

## Main Definitions

* `ResultVerdict`, `validateResultEnvelope` - acceptance, or a failure with its issues
* `InitializationResult`, `TransitionResult`, `RecoveryResult` and their validators
* `RecoveryRequest`, `validateRecoveryRequest`
* `OperationKind`, `OperationRequest`, `OperationResult` - the requests and results of each kind

## Key Theorems

* one `_eq_ok_iff` theorem for each validator: it accepts the printed valid records
-/

namespace Acgps

open Checked

/-! ## Section 1: Issues -/

/-- A registered error code. -/
abbrev ErrorCode := { s : String // s ∈ workflowErrorCodes }

/-- A string that is not empty. -/
abbrev NonEmptyString := { s : String // s ≠ "" }

/-- An issue of a result. -/
structure ResultIssue where
  code : ErrorCode
  path : String
  message : NonEmptyString
  deriving DecidableEq

/-- The keys of an issue. -/
def resultIssueFields : List String := ["code", "message", "path"]

theorem resultIssueFields_sorted : resultIssueFields.Pairwise (· < ·) := by
  decide +kernel

namespace ResultIssue

/-- The issue as a mapping. -/
def toMapping (i : ResultIssue) : Mapping where
  entries := [("code", .str i.code.val), ("message", .str i.message.val), ("path", .str i.path)]
  sorted := resultIssueFields_sorted

/-- The issue as a value. -/
def toJson (i : ResultIssue) : Json := i.toMapping.toJson

end ResultIssue

/-- The code of a value that is not what a result holds. -/
def invalidInput (path : String) (message : Text) : Rejection :=
  invalidOutcome "WORKFLOW_INVALID_INPUT" path message

/-- One issue of `_validate_issue_records`. -/
def validateIssueRecord (path : String) (issue : Json) : Check ResultIssue := do
  let data ← requireMapping issue (invalidInput path "issue must be a mapping")
  require (data.keys = resultIssueFields) (invalidInput path "issue fields are invalid")
  let code ← expect ((data.get "code").asStr.bind (wordOf workflowErrorCodes))
    (invalidInput (path ++ ".code") "issue code is not registered")
  let invalid := invalidInput path "issue path/message invalid"
  let issuePath ← expect (data.get "path").asStr invalid
  let message ← expect ((data.get "message").asStr.bind
    (fun s => if h : s ≠ "" then some (⟨s, h⟩ : NonEmptyString) else none)) invalid
  return ⟨code, issuePath, message⟩

/-- `_validate_issue_records`. -/
def validateIssueRecords (items : List Json) (path : String) : Check (List ResultIssue) :=
  items.zipIdx.mapM (fun (issue, index) =>
    validateIssueRecord (path ++ "[" ++ toString index ++ "]") issue)

theorem asStr_bind_wordOf_eq_some {words : List String} {value : Json}
    {word : { s : String // s ∈ words }} :
    value.asStr.bind (wordOf words) = some word ↔ value = .str word.val := by
  have h := @requireMember_wordOf words value "" "" word
  rwa [requireMember, expect_eq_ok] at h

theorem asStr_bind_nonEmpty_eq_some {value : Json} {s : NonEmptyString} :
    value.asStr.bind (fun s => if h : s ≠ "" then some (⟨s, h⟩ : NonEmptyString) else none)
      = some s ↔ value = .str s.val := by
  have h := @requireNonEmptyString_eq_ok value "" s
  rwa [requireNonEmptyString, expect_eq_ok] at h

theorem validateIssueRecord_eq_ok_iff {path : String} {issue : Json} {i : ResultIssue} :
    validateIssueRecord path issue = .ok i ↔ issue = i.toJson := by
  simp only [validateIssueRecord, bind_eq_ok, requireMapping_eq_ok, require_eq_ok, expect_eq_ok,
    asStr_bind_wordOf_eq_some, asStr_bind_nonEmpty_eq_some, Json.asStr_eq_some, pure_eq_ok]
  constructor
  · rintro ⟨data, rfl, _, hkeys, code, hcode, path, hpath, message, hmessage, rfl⟩
    rw [Mapping.toJson, Mapping.entries_eq_map_get, hkeys]
    simp [resultIssueFields, ResultIssue.toJson, ResultIssue.toMapping, Mapping.toJson, hcode,
      hpath, hmessage]
  · rintro rfl
    exact ⟨i.toMapping, rfl, (), rfl, i.code, rfl, i.path, rfl, i.message, rfl, rfl⟩

theorem validateIssueRecords_eq_ok_iff {items : List Json} {path : String}
    {issues : List ResultIssue} :
    validateIssueRecords items path = .ok issues ↔ items = issues.map ResultIssue.toJson := by
  rw [validateIssueRecords, mapM_eq_ok_iff]
  simp only [validateIssueRecord_eq_ok_iff]
  rw [forall₂_zipIdx_iff (fun issue (i : ResultIssue) => issue = i.toJson)]
  constructor
  · intro h
    induction h with
    | nil => rfl
    | cons hab _ ih => rw [List.map_cons, hab, ih]
  · rintro rfl
    rw [List.forall₂_map_left_iff, List.forall₂_same]
    exact fun _ _ => rfl

/-! ## Section 2: The envelope of a result -/

/-- How an operation ended: accepted in a state, with what the result says of its event, or refused
with an error code and issues. -/
inductive ResultVerdict (α : Type) where
  | accepted (resultingState : TaskState) (event : α)
  | rejected (errorCode : ErrorCode) (issues : List ResultIssue)
  deriving DecidableEq

namespace ResultVerdict

variable {α : Type}

/-- `accepted`. -/
def isAccepted : ResultVerdict α → Bool
  | accepted _ _ => true
  | rejected _ _ => false

/-- `resulting_state`. -/
def resultingStateJson : ResultVerdict α → Json
  | accepted state _ => state.toJson
  | rejected _ _ => .null

/-- `error_code`. -/
def errorCodeJson : ResultVerdict α → Json
  | accepted _ _ => .null
  | rejected code _ => .str code.val

/-- `issues`. -/
def issuesJson : ResultVerdict α → Json
  | accepted _ _ => .arr []
  | rejected _ issues => .arr (issues.map ResultIssue.toJson)

/-- What the result says of its event, `None` for a refusal. -/
def eventJson (f : α → Json) : ResultVerdict α → Json
  | accepted _ event => f event
  | rejected _ _ => .null

/-- A refusal has an issue. -/
def Valid : ResultVerdict α → Prop
  | accepted _ _ => True
  | rejected _ issues => issues ≠ []

end ResultVerdict

/-- The part of `_validate_result_envelope` on an accepted result. -/
def validateAcceptedEnvelope {α : Type} (data : Mapping) (failClosed : Bool)
    (event : Json → Check α) (coordinates : Bool) : Check (ResultVerdict α) := do
  require (failClosed = false)
    (invalidInput "fail_closed" "accepted result cannot be fail_closed")
  require (data.get "error_code" = .null)
    (invalidInput "error_code" "accepted result must not have error_code")
  require (data.get "issues" = .arr [])
    (invalidInput "issues" "accepted result must not have issues")
  let state ← expect ((data.get "resulting_state").asStr.bind TaskState.ofName)
    (invalidOutcome "WORKFLOW_UNKNOWN_STATE" "resulting_state"
      "accepted result needs a declared resulting_state")
  let auditEvent ← event (data.get "audit_event_id")
  checkWhen (coordinates = true) (do
    let _ ← requirePositiveInt (data.get "audit_generation") "audit_generation"
    let _ ← requirePositiveInt (data.get "audit_sequence") "audit_sequence")
  return .accepted state auditEvent

/-- The part of `_validate_result_envelope` on a refused result. -/
def validateRejectedEnvelope {α : Type} (data : Mapping) (failClosed : Bool) (items : List Json)
    (coordinates : Bool) : Check (ResultVerdict α) := do
  require (failClosed = true) (invalidInput "fail_closed" "rejected result must be fail_closed")
  let code ← expect ((data.get "error_code").asStr.bind (wordOf workflowErrorCodes))
    (invalidInput "error_code" "rejected result needs registered error_code")
  require (data.get "audit_event_id" = .null)
    (invalidInput "audit_event_id" "rejected result must not have audit_event_id")
  require (data.get "resulting_state" = .null)
    (invalidInput "resulting_state" "rejected result must not have resulting_state")
  require (coordinates = true → data.get "audit_generation" = .null ∧
      data.get "audit_sequence" = .null)
    (invalidInput "audit_generation" "rejected result must not have audit coordinates")
  require (items ≠ []) (invalidInput "issues" "rejected result needs issues")
  let issues ← validateIssueRecords items "issues"
  return .rejected code issues

/-- `_validate_result_envelope`. The last check of the source, that the id of the result is no empty
string, is left out: the id is a safe one. A result without the key `audit_event_id` reads as one
where it is null. -/
def validateResultEnvelope {α : Type} (data : Mapping) (accepted failClosed : Bool)
    (event : Json → Check α) (coordinates : Bool) : Check (ResultVerdict α) := do
  let items ← expect (data.get "issues").asList (invalidInput "issues" "issues must be a list")
  if accepted = true then validateAcceptedEnvelope data failClosed event coordinates
  else validateRejectedEnvelope data failClosed items coordinates

/-- `require_audit_event`: an accepted result names its event. -/
def requireAuditEvent (value : Json) : Check NonEmptyString :=
  expect (value.asStr.bind (fun s => if h : s ≠ "" then some ⟨s, h⟩ else none))
    (invalidInput "audit_event_id" "accepted result needs audit_event_id")

theorem requireAuditEvent_eq_ok {value : Json} {s : NonEmptyString} :
    requireAuditEvent value = .ok s ↔ value = .str s.val := by
  rw [requireAuditEvent, expect_eq_ok, asStr_bind_nonEmpty_eq_some]

theorem asStr_bind_taskState_eq_some {value : Json} {s : TaskState} :
    value.asStr.bind TaskState.ofName = some s ↔ value = s.toJson := by
  have h := @requireMember_taskState value "" "" s
  rwa [requireMember, expect_eq_ok] at h

/-- What stands under `audit_event_id`. -/
def ResultVerdict.EventHolds {α : Type} (event : α → Json → Prop) (value : Json) :
    ResultVerdict α → Prop
  | accepted _ a => event a value
  | rejected _ _ => value = .null

/-- What stands under `audit_generation` and `audit_sequence`. -/
def ResultVerdict.CoordinatesHold {α : Type} (generation sequence : Json) : ResultVerdict α → Prop
  | accepted _ _ => ∃ m n : PosNat, generation = .int m.val ∧ sequence = .int n.val
  | rejected _ _ => generation = .null ∧ sequence = .null

/-- What the envelope of a result with a given verdict holds. -/
structure EnvelopeHolds {α : Type} (data : Mapping) (accepted failClosed : Bool)
    (event : α → Json → Prop) (coordinates : Bool) (verdict : ResultVerdict α) : Prop where
  accepted : accepted = verdict.isAccepted
  failClosed : failClosed = !verdict.isAccepted
  errorCode : data.get "error_code" = verdict.errorCodeJson
  issues : data.get "issues" = verdict.issuesJson
  resultingState : data.get "resulting_state" = verdict.resultingStateJson
  valid : verdict.Valid
  event : verdict.EventHolds event (data.get "audit_event_id")
  coordinates : coordinates = true →
    verdict.CoordinatesHold (data.get "audit_generation") (data.get "audit_sequence")

/-- **The envelope check reads the verdict off the fields.** -/
theorem validateResultEnvelope_eq_ok_iff {α : Type} {data : Mapping} {accepted failClosed : Bool}
    {event : Json → Check α} {holds : α → Json → Prop}
    (hevent : ∀ value a, event value = .ok a ↔ holds a value) {coordinates : Bool}
    {verdict : ResultVerdict α} :
    validateResultEnvelope data accepted failClosed event coordinates = .ok verdict ↔
      EnvelopeHolds data accepted failClosed holds coordinates verdict := by
  simp only [validateResultEnvelope, bind_eq_ok, expect_eq_ok, Json.asList_eq_some]
  cases accepted with
  | true =>
      simp only [if_true, validateAcceptedEnvelope, bind_eq_ok, require_eq_ok, expect_eq_ok,
        asStr_bind_taskState_eq_some, hevent, checkWhen_eq_ok, requirePositiveInt_eq_ok,
        pure_eq_ok, exists_const]
      constructor
      · rintro ⟨items, hitems, hclosed, hcode, hissues, state, hstate, a, ha, hcoordinates, rfl⟩
        refine ⟨rfl, hclosed, hcode, hissues, hstate, trivial, ha, fun h => ?_⟩
        obtain ⟨generation, hgeneration, sequence, hsequence, _⟩ := hcoordinates h
        exact ⟨generation, sequence, hgeneration, hsequence⟩
      · intro h
        cases verdict with
        | rejected code issues => exact absurd h.accepted (by simp [ResultVerdict.isAccepted])
        | accepted state a =>
            refine ⟨[], h.issues, h.failClosed, h.errorCode, h.issues, state, h.resultingState, a,
              h.event, fun hc => ?_, rfl⟩
            obtain ⟨generation, sequence, hgeneration, hsequence⟩ := h.coordinates hc
            exact ⟨generation, hgeneration, sequence, hsequence, trivial⟩
  | false =>
      simp only [Bool.false_eq_true, if_false, validateRejectedEnvelope, bind_eq_ok, require_eq_ok,
        expect_eq_ok, asStr_bind_wordOf_eq_some, validateIssueRecords_eq_ok_iff, pure_eq_ok,
        exists_const]
      constructor
      · rintro ⟨items, hitems, hclosed, code, hcode, hid, hstate, hcoordinates, hne, issues, rfl,
          rfl⟩
        refine ⟨rfl, hclosed, hcode, hitems, hstate, ?_, hid, hcoordinates⟩
        exact fun hnil => hne (by rw [hnil, List.map_nil])
      · intro h
        cases verdict with
        | accepted state a => exact absurd h.accepted (by simp [ResultVerdict.isAccepted])
        | rejected code issues =>
            exact ⟨_, h.issues, h.failClosed, code, h.errorCode, h.event, h.resultingState,
              h.coordinates, fun hnil => h.valid (List.map_eq_nil_iff.mp hnil), issues, rfl, rfl⟩

/-! ## Section 3: Initialization results -/

/-- What an initialization answers. -/
structure InitializationResult where
  initializationId : SafeId
  taskId : SafeId
  projectId : SafeId
  verdict : ResultVerdict NonEmptyString
  idempotentReplay : Bool
  createdAtUtc : Utc
  deriving DecidableEq

/-- `INITIALIZATION_RESULT_FIELDS`. -/
def initializationResultFields : List String :=
  ["accepted", "audit_event_id", "audit_generation", "audit_sequence", "created_at_utc",
    "error_code", "fail_closed", "idempotent_replay", "initialization_id", "issues", "project_id",
    "resulting_state", "schema_version", "task_id"]

theorem initializationResultFields_sorted : initializationResultFields.Pairwise (· < ·) := by
  decide +kernel

/-- A string that is not empty as a value. -/
def NonEmptyString.toJson (s : NonEmptyString) : Json := .str s.val

namespace InitializationResult

/-- The result as a mapping: an accepted task starts at generation 1, sequence 1. -/
def toMapping (r : InitializationResult) : Mapping where
  entries :=
    [("accepted", .bool r.verdict.isAccepted),
      ("audit_event_id", r.verdict.eventJson NonEmptyString.toJson),
      ("audit_generation", r.verdict.eventJson (fun _ => .int 1)),
      ("audit_sequence", r.verdict.eventJson (fun _ => .int 1)),
      ("created_at_utc", .str r.createdAtUtc.val), ("error_code", r.verdict.errorCodeJson),
      ("fail_closed", .bool !r.verdict.isAccepted),
      ("idempotent_replay", .bool r.idempotentReplay),
      ("initialization_id", .str r.initializationId.val), ("issues", r.verdict.issuesJson),
      ("project_id", .str r.projectId.val), ("resulting_state", r.verdict.resultingStateJson),
      ("schema_version", .int 1), ("task_id", .str r.taskId.val)]
  sorted := initializationResultFields_sorted

/-- The result as a value. -/
def toJson (r : InitializationResult) : Json := r.toMapping.toJson

/-- An accepted task starts in `DRAFT`. -/
structure Valid (r : InitializationResult) : Prop where
  verdict : r.verdict.Valid
  draft : ∀ state event, r.verdict = .accepted state event → state = .draft

end InitializationResult

/-- `value == 1`: the float and the bool are equal to it as well. -/
def Json.equalsOne : Json → Bool
  | .int n => n = 1
  | .bool b => b
  | .float r => r.val = "1.0"
  | _ => false

/-- `_require_bool`. -/
def requireFlag (value : Json) (path : String) : Check Bool :=
  expect value.asBool (invalidInput path "must be a boolean")

@[simp] theorem requireFlag_eq_ok {value : Json} {path : String} {b : Bool} :
    requireFlag value path = .ok b ↔ value = .bool b := by
  simp [requireFlag]

/-- What `validate_task_initialization_result` asks of an accepted result. -/
def validateInitialCoordinates (data : Mapping) : Check Unit := do
  require (data.get "resulting_state" = .str "DRAFT")
    (invalidOutcome "WORKFLOW_ILLEGAL_TRANSITION" "resulting_state"
      "accepted initialization must result in DRAFT")
  require ((data.get "audit_generation").equalsOne = true)
    (invalidInput "audit_generation" "accepted initialization must use audit_generation 1")
  require ((data.get "audit_sequence").equalsOne = true)
    (invalidInput "audit_sequence" "accepted initialization must use audit_sequence 1")

/-- `validate_task_initialization_result`. -/
def validateTaskInitializationResult (record : Json) : Check InitializationResult := do
  let data ← requireMapping record (invalidInput "$" "initialization result must be a mapping")
  validateExactMapping data initializationResultFields "initialization result" ""
  validateSchemaVersion (data.get "schema_version") "schema_version"
  let initializationId ← requireSafeId (data.get "initialization_id") "initialization_id"
  let taskId ← requireSafeId (data.get "task_id") "task_id"
  let projectId ← requireSafeId (data.get "project_id") "project_id"
  let createdAtUtc ← validateUtc (data.get "created_at_utc") "created_at_utc"
  let accepted ← requireFlag (data.get "accepted") "accepted"
  let failClosed ← requireFlag (data.get "fail_closed") "fail_closed"
  let idempotentReplay ← requireFlag (data.get "idempotent_replay") "idempotent_replay"
  checkWhen (accepted = true) (validateInitialCoordinates data)
  let verdict ← validateResultEnvelope data accepted failClosed requireAuditEvent true
  return ⟨initializationId, taskId, projectId, verdict, idempotentReplay, createdAtUtc⟩

/-- **The validator accepts the printed valid initialization results.** -/
theorem validateTaskInitializationResult_eq_ok_iff {record : Json} {r : InitializationResult} :
    validateTaskInitializationResult record = .ok r ↔ record = r.toJson ∧ r.Valid := by
  simp only [validateTaskInitializationResult, bind_eq_ok, requireMapping_eq_ok,
    validateExactMapping_eq_ok_iff initializationResultFields_sorted, validateSchemaVersion_eq_ok,
    requireSafeId_eq_ok, validateUtc_eq_ok, requireFlag_eq_ok, checkWhen_eq_ok,
    validateInitialCoordinates, require_eq_ok,
    validateResultEnvelope_eq_ok_iff (fun _ _ => requireAuditEvent_eq_ok), pure_eq_ok]
  constructor
  · rintro ⟨data, rfl, _, hkeys, _, hversion, id, hid, task, htask, project, hproject, t, ht,
      accepted, haccepted, closed, hclosed, replay, hreplay, _, hfirst, verdict, h, rfl⟩
    have hacc := h.accepted
    have hshut := h.failClosed
    have hmeta := And.intro h.errorCode (And.intro h.issues h.resultingState)
    have hcoordinates := h.coordinates rfl
    have hverdict := h.valid
    cases verdict with
    | accepted state a =>
        have hevent : data.get "audit_event_id" = .str a.val := h.event
        obtain ⟨_, hdraft, _, hgeneration, hsequence⟩ := hfirst hacc
        obtain ⟨generation, sequence, hg, hs⟩ := hcoordinates
        rw [hg] at hgeneration
        rw [hs] at hsequence
        have hone : (generation.val : Int) = 1 := by simpa [Json.equalsOne] using hgeneration
        have hone' : (sequence.val : Int) = 1 := by simpa [Json.equalsOne] using hsequence
        refine ⟨?_, hverdict, ?_⟩
        · rw [Mapping.toJson, Mapping.entries_eq_map_get, hkeys]
          simp [initializationResultFields, InitializationResult.toJson,
            InitializationResult.toMapping, Mapping.toJson, hid, htask, hproject, ht, haccepted,
            hclosed, hreplay, hacc, hshut, hmeta, hg, hs, hone, hone', hevent, hversion,
            ResultVerdict.eventJson, NonEmptyString.toJson]
        · rintro _ _ ⟨⟩
          rw [h.resultingState] at hdraft
          exact TaskState.toJson_injective hdraft
    | rejected code issues =>
        have hevent : data.get "audit_event_id" = .null := h.event
        obtain ⟨hgeneration, hsequence⟩ := hcoordinates
        refine ⟨?_, hverdict, by simp⟩
        rw [Mapping.toJson, Mapping.entries_eq_map_get, hkeys]
        simp [initializationResultFields, InitializationResult.toJson,
          InitializationResult.toMapping, Mapping.toJson, hid, htask, hproject, ht, haccepted,
          hclosed, hreplay, hacc, hshut, hmeta, hgeneration, hsequence, hevent,
          hversion, ResultVerdict.eventJson]
  · rintro ⟨rfl, hvalid⟩
    refine ⟨r.toMapping, rfl, (), rfl, (), rfl, r.initializationId, rfl, r.taskId, rfl, r.projectId,
      rfl, r.createdAtUtc, rfl, r.verdict.isAccepted, rfl, !r.verdict.isAccepted, rfl,
      r.idempotentReplay, rfl, (), ?_, r.verdict, ?_, rfl⟩
    · intro haccepted
      cases hverdict : r.verdict with
      | rejected code issues => simp [hverdict, ResultVerdict.isAccepted] at haccepted
      | accepted state event =>
          have hstate := hvalid.draft state event hverdict
          refine ⟨(), ?_, (), ?_, ?_⟩
          · show r.verdict.resultingStateJson = _
            rw [hverdict, hstate]
            rfl
          · show (r.verdict.eventJson _).equalsOne = true
            rw [hverdict]
            rfl
          · show (r.verdict.eventJson _).equalsOne = true
            rw [hverdict]
            rfl
    · refine ⟨rfl, rfl, rfl, rfl, rfl, hvalid.verdict, ?_, fun _ => ?_⟩
      · show r.verdict.EventHolds _ (r.verdict.eventJson NonEmptyString.toJson)
        cases r.verdict <;> rfl
      · show r.verdict.CoordinatesHold (r.verdict.eventJson (fun _ => .int 1))
          (r.verdict.eventJson (fun _ => .int 1))
        cases r.verdict with
        | accepted _ _ => exact ⟨⟨1, le_rfl⟩, ⟨1, le_rfl⟩, rfl, rfl⟩
        | rejected _ _ => exact ⟨rfl, rfl⟩

/-! ## Section 4: Transition results -/

/-- What a transition answers. -/
structure TransitionResult where
  transitionId : SafeId
  taskId : SafeId
  verdict : ResultVerdict NonEmptyString
  idempotentReplay : Bool
  createdAtUtc : Utc
  deriving DecidableEq

/-- `TRANSITION_RESULT_FIELDS`. -/
def transitionResultFields : List String :=
  ["accepted", "audit_event_id", "created_at_utc", "error_code", "fail_closed",
    "idempotent_replay", "issues", "resulting_state", "schema_version", "task_id", "transition_id"]

theorem transitionResultFields_sorted : transitionResultFields.Pairwise (· < ·) := by
  decide +kernel

namespace TransitionResult

/-- The result as a mapping. -/
def toMapping (r : TransitionResult) : Mapping where
  entries :=
    [("accepted", .bool r.verdict.isAccepted),
      ("audit_event_id", r.verdict.eventJson NonEmptyString.toJson),
      ("created_at_utc", .str r.createdAtUtc.val), ("error_code", r.verdict.errorCodeJson),
      ("fail_closed", .bool !r.verdict.isAccepted),
      ("idempotent_replay", .bool r.idempotentReplay), ("issues", r.verdict.issuesJson),
      ("resulting_state", r.verdict.resultingStateJson), ("schema_version", .int 1),
      ("task_id", .str r.taskId.val), ("transition_id", .str r.transitionId.val)]
  sorted := transitionResultFields_sorted

/-- The result as a value. -/
def toJson (r : TransitionResult) : Json := r.toMapping.toJson

end TransitionResult

/-- `validate_transition_result`. -/
def validateTransitionResult (record : Json) : Check TransitionResult := do
  let data ← requireMapping record (invalidInput "$" "transition result must be a mapping")
  validateExactMapping data transitionResultFields "transition result" ""
  validateSchemaVersion (data.get "schema_version") "schema_version"
  let transitionId ← requireSafeId (data.get "transition_id") "transition_id"
  let taskId ← requireSafeId (data.get "task_id") "task_id"
  let createdAtUtc ← validateUtc (data.get "created_at_utc") "created_at_utc"
  let accepted ← requireFlag (data.get "accepted") "accepted"
  let failClosed ← requireFlag (data.get "fail_closed") "fail_closed"
  let idempotentReplay ← requireFlag (data.get "idempotent_replay") "idempotent_replay"
  let verdict ← validateResultEnvelope data accepted failClosed requireAuditEvent false
  return ⟨transitionId, taskId, verdict, idempotentReplay, createdAtUtc⟩

/-- **The validator accepts the printed transition results whose refusals have issues.** -/
theorem validateTransitionResult_eq_ok_iff {record : Json} {r : TransitionResult} :
    validateTransitionResult record = .ok r ↔ record = r.toJson ∧ r.verdict.Valid := by
  simp only [validateTransitionResult, bind_eq_ok, requireMapping_eq_ok,
    validateExactMapping_eq_ok_iff transitionResultFields_sorted, validateSchemaVersion_eq_ok,
    requireSafeId_eq_ok, validateUtc_eq_ok, requireFlag_eq_ok,
    validateResultEnvelope_eq_ok_iff (fun _ _ => requireAuditEvent_eq_ok), pure_eq_ok]
  constructor
  · rintro ⟨data, rfl, _, hkeys, _, hversion, id, hid, task, htask, t, ht, accepted, haccepted,
      closed, hclosed, replay, hreplay, verdict, h, rfl⟩
    refine ⟨?_, h.valid⟩
    have hevent : data.get "audit_event_id" = verdict.eventJson NonEmptyString.toJson := by
      have hholds := h.event
      cases verdict <;> exact hholds
    rw [Mapping.toJson, Mapping.entries_eq_map_get, hkeys]
    simp [transitionResultFields, TransitionResult.toJson, TransitionResult.toMapping,
      Mapping.toJson, hid, htask, ht, haccepted, hclosed, hreplay, h.accepted, h.failClosed,
      h.errorCode, h.issues, h.resultingState, hevent, hversion]
  · rintro ⟨rfl, hvalid⟩
    refine ⟨r.toMapping, rfl, (), rfl, (), rfl, r.transitionId, rfl, r.taskId, rfl, r.createdAtUtc,
      rfl, r.verdict.isAccepted, rfl, !r.verdict.isAccepted, rfl, r.idempotentReplay, rfl,
      r.verdict, ⟨rfl, rfl, rfl, rfl, rfl, hvalid, ?_, by simp⟩, rfl⟩
    show r.verdict.EventHolds _ (r.verdict.eventJson NonEmptyString.toJson)
    cases r.verdict <;> rfl

/-! ## Section 5: Recovery requests -/

/-- `RECOVERY_ACTORS`. -/
def recoveryActors : List String := ["CONTROLLER", "HUMAN", "VERIFIER"]

/-- A request for a recovery. -/
structure RecoveryRequest where
  recoveryId : SafeId
  taskId : SafeId
  projectId : SafeId
  actor : { s : String // s ∈ recoveryActors }
  idempotencyKey : NonEmptyString
  recoveryAction : { s : String // s ∈ recoveryActions }
  observedStatePath : Option SafePath
  observedAuditGeneration : Option PosNat
  observedAuditPath : Option SafePath
  requestedAtUtc : Utc
  deriving DecidableEq

/-- `RECOVERY_REQUEST_FIELDS`. -/
def recoveryRequestFields : List String :=
  ["actor", "idempotency_key", "observed_audit_generation", "observed_audit_path",
    "observed_state_path", "project_id", "recovery_action", "recovery_id", "requested_at_utc",
    "schema_version", "task_id"]

theorem recoveryRequestFields_sorted : recoveryRequestFields.Pairwise (· < ·) := by
  decide +kernel

namespace RecoveryRequest

/-- The request as a mapping. -/
def toMapping (r : RecoveryRequest) : Mapping where
  entries :=
    [("actor", .str r.actor.val), ("idempotency_key", .str r.idempotencyKey.val),
      ("observed_audit_generation", Json.ofOption PosNat.toJson r.observedAuditGeneration),
      ("observed_audit_path", Json.ofOption testedJson r.observedAuditPath),
      ("observed_state_path", Json.ofOption testedJson r.observedStatePath),
      ("project_id", .str r.projectId.val), ("recovery_action", .str r.recoveryAction.val),
      ("recovery_id", .str r.recoveryId.val), ("requested_at_utc", .str r.requestedAtUtc.val),
      ("schema_version", .int 1), ("task_id", .str r.taskId.val)]
  sorted := recoveryRequestFields_sorted

/-- The request as a value. -/
def toJson (r : RecoveryRequest) : Json := r.toMapping.toJson

end RecoveryRequest

/-- A path of a recovery record, which may be null. -/
def optionalPath (value : Json) (path : String) : Check (Option SafePath) :=
  optionally (requireSafePath · (invalidInput path "path must be safe relative POSIX path")) value

/-- `validate_recovery_request`. -/
def validateRecoveryRequest (record : Json) : Check RecoveryRequest := do
  let data ← requireMapping record (invalidInput "$" "recovery request must be a mapping")
  validateExactMapping data recoveryRequestFields "recovery request" ""
  validateSchemaVersion (data.get "schema_version") "schema_version"
  let recoveryId ← requireSafeId (data.get "recovery_id") "recovery_id"
  let taskId ← requireSafeId (data.get "task_id") "task_id"
  let projectId ← requireSafeId (data.get "project_id") "project_id"
  let actor ← requireMember (wordOf recoveryActors) (data.get "actor") "actor"
    "WORKFLOW_INVALID_INPUT"
  let idempotencyKey ← requireNonEmptyString (data.get "idempotency_key") "idempotency_key"
  let recoveryAction ← requireMember (wordOf recoveryActions) (data.get "recovery_action")
    "recovery_action" "WORKFLOW_INVALID_INPUT"
  let requestedAtUtc ← validateUtc (data.get "requested_at_utc") "requested_at_utc"
  let observedStatePath ← optionalPath (data.get "observed_state_path") "observed_state_path"
  let observedAuditPath ← optionalPath (data.get "observed_audit_path") "observed_audit_path"
  let observedAuditGeneration ← optionally (requirePositiveInt · "observed_audit_generation")
    (data.get "observed_audit_generation")
  return ⟨recoveryId, taskId, projectId, actor, idempotencyKey, recoveryAction, observedStatePath,
    observedAuditGeneration, observedAuditPath, requestedAtUtc⟩

/-- **The validator accepts the printed recovery requests.** -/
theorem validateRecoveryRequest_eq_ok_iff {record : Json} {r : RecoveryRequest} :
    validateRecoveryRequest record = .ok r ↔ record = r.toJson := by
  simp only [validateRecoveryRequest, bind_eq_ok, requireMapping_eq_ok,
    validateExactMapping_eq_ok_iff recoveryRequestFields_sorted, validateSchemaVersion_eq_ok,
    requireSafeId_eq_ok, requireMember_wordOf, requireNonEmptyString_eq_ok, validateUtc_eq_ok,
    optionalPath, optionally_requireSafePath_eq_ok, optionally_requirePositiveInt_eq_ok, pure_eq_ok]
  constructor
  · rintro ⟨data, rfl, _, hkeys, _, hversion, id, hid, task, htask, project, hproject, actor,
      hactor, key, hkey, action, haction, t, ht, statePath, hstate, auditPath, haudit, generation,
      hgeneration, rfl⟩
    rw [Mapping.toJson, Mapping.entries_eq_map_get, hkeys]
    simp [recoveryRequestFields, RecoveryRequest.toJson, RecoveryRequest.toMapping, Mapping.toJson,
      hid, htask, hproject, hactor, hkey, haction, ht, hstate, haudit, hgeneration, hversion]
  · rintro rfl
    exact ⟨r.toMapping, rfl, (), rfl, (), rfl, r.recoveryId, rfl, r.taskId, rfl, r.projectId, rfl,
      r.actor, rfl, r.idempotencyKey, rfl, r.recoveryAction, rfl, r.requestedAtUtc, rfl,
      r.observedStatePath, rfl, r.observedAuditPath, rfl, r.observedAuditGeneration, rfl, rfl⟩

/-! ## Section 6: Recovery results -/

/-- What a recovery answers. -/
structure RecoveryResult where
  recoveryId : SafeId
  taskId : SafeId
  projectId : SafeId
  verdict : ResultVerdict Unit
  quarantinePath : Option SafePath
  previousGeneration : Option PosNat
  previousValidHeadHash : Option Sha256Hex
  newGeneration : Option PosNat
  startedByEventId : Option SafeId
  startedByEventType : Option { s : String // s ∈ recoveryEventTypes.map EventType.name }
  createdAtUtc : Utc
  deriving DecidableEq

/-- `RECOVERY_RESULT_FIELDS`. -/
def recoveryResultFields : List String :=
  ["accepted", "created_at_utc", "error_code", "fail_closed", "issues", "new_generation",
    "previous_generation", "previous_valid_head_hash", "project_id", "quarantine_path",
    "recovery_id", "resulting_state", "schema_version", "started_by_event_id",
    "started_by_event_type", "task_id"]

theorem recoveryResultFields_sorted : recoveryResultFields.Pairwise (· < ·) := by
  decide +kernel

/-- A word of a list as a value. -/
def wordJson {words : List String} (w : { s : String // s ∈ words }) : Json := .str w.val

namespace RecoveryResult

/-- The result as a mapping. -/
def toMapping (r : RecoveryResult) : Mapping where
  entries :=
    [("accepted", .bool r.verdict.isAccepted), ("created_at_utc", .str r.createdAtUtc.val),
      ("error_code", r.verdict.errorCodeJson), ("fail_closed", .bool !r.verdict.isAccepted),
      ("issues", r.verdict.issuesJson),
      ("new_generation", Json.ofOption PosNat.toJson r.newGeneration),
      ("previous_generation", Json.ofOption PosNat.toJson r.previousGeneration),
      ("previous_valid_head_hash", Json.ofOption testedJson r.previousValidHeadHash),
      ("project_id", .str r.projectId.val),
      ("quarantine_path", Json.ofOption testedJson r.quarantinePath),
      ("recovery_id", .str r.recoveryId.val), ("resulting_state", r.verdict.resultingStateJson),
      ("schema_version", .int 1),
      ("started_by_event_id", Json.ofOption testedJson r.startedByEventId),
      ("started_by_event_type", Json.ofOption wordJson r.startedByEventType),
      ("task_id", .str r.taskId.val)]
  sorted := recoveryResultFields_sorted

/-- The result as a value. -/
def toJson (r : RecoveryResult) : Json := r.toMapping.toJson

/-- An accepted recovery names what it trusts; a refused one has no effects. -/
structure Valid (r : RecoveryResult) : Prop where
  verdict : r.verdict.Valid
  accepted : r.verdict.isAccepted = true → r.previousGeneration ≠ none ∧
    r.previousValidHeadHash ≠ none ∧
    (r.newGeneration ≠ none → r.startedByEventId ≠ none ∧ r.startedByEventType ≠ none)
  rejected : r.verdict.isAccepted = false → r.quarantinePath = none ∧ r.newGeneration = none ∧
    r.startedByEventId = none ∧ r.startedByEventType = none

end RecoveryResult

/-- What `validate_recovery_result` asks of the effects of a result. -/
def validateRecoveryEffects (data : Mapping) (accepted : Bool) : Check Unit :=
  if accepted = true then do
    require (data.get "previous_generation" ≠ .null)
      (invalidInput "previous_generation" "accepted recovery needs previous trusted generation")
    require (data.get "previous_valid_head_hash" ≠ .null)
      (invalidInput "previous_valid_head_hash" "accepted recovery needs previous trusted head hash")
    require (¬ (data.get "new_generation" ≠ .null ∧ (data.get "started_by_event_id" = .null ∨
        data.get "started_by_event_type" = .null)))
      (invalidInput "started_by_event_id" "new generation requires start event")
  else forM ["quarantine_path", "new_generation", "started_by_event_id", "started_by_event_type",
      "resulting_state"] (fun field => require (data.get field = .null)
    (invalidInput field "rejected recovery result must not claim side effects"))

/-- `started_by_event_type not in RECOVERY_EVENT_TYPES`, on a set of words. -/
def requireRecoveryEventType (value : Json) :
    Check { s : String // s ∈ recoveryEventTypes.map EventType.name } := do
  require (value.isUnhashable = false)
    (.raised (.interpreter "TypeError" [.text "unhashable type: ", .text value.typeName]))
  expect (value.asStr.bind (wordOf (recoveryEventTypes.map EventType.name)))
    (invalidInput "started_by_event_type" "unknown recovery event type")

/-- `require_audit_event=False`. -/
def noAuditEvent (_ : Json) : Check Unit := .ok ()

theorem noAuditEvent_eq_ok {value : Json} {u : Unit} : noAuditEvent value = .ok u ↔ True :=
  iff_true_intro rfl

/-- `validate_recovery_result`. -/
def validateRecoveryResult (record : Json) : Check RecoveryResult := do
  let data ← requireMapping record (invalidInput "$" "recovery result must be a mapping")
  validateExactMapping data recoveryResultFields "recovery result" ""
  validateSchemaVersion (data.get "schema_version") "schema_version"
  let recoveryId ← requireSafeId (data.get "recovery_id") "recovery_id"
  let taskId ← requireSafeId (data.get "task_id") "task_id"
  let projectId ← requireSafeId (data.get "project_id") "project_id"
  let createdAtUtc ← validateUtc (data.get "created_at_utc") "created_at_utc"
  let accepted ← requireFlag (data.get "accepted") "accepted"
  let failClosed ← requireFlag (data.get "fail_closed") "fail_closed"
  let verdict ← validateResultEnvelope data accepted failClosed noAuditEvent false
  validateRecoveryEffects data accepted
  let previousGeneration ← optionally (requirePositiveInt · "previous_generation")
    (data.get "previous_generation")
  let newGeneration ← optionally (requirePositiveInt · "new_generation") (data.get "new_generation")
  let previousValidHeadHash ← optionally (requireSha · "previous_valid_head_hash")
    (data.get "previous_valid_head_hash")
  let startedByEventId ← optionally (requireSafeId · "started_by_event_id")
    (data.get "started_by_event_id")
  let startedByEventType ← optionally requireRecoveryEventType (data.get "started_by_event_type")
  let quarantinePath ← optionalPath (data.get "quarantine_path") "quarantine_path"
  return ⟨recoveryId, taskId, projectId, verdict, quarantinePath, previousGeneration,
    previousValidHeadHash, newGeneration, startedByEventId, startedByEventType, createdAtUtc⟩

theorem requireRecoveryEventType_eq_ok {value : Json}
    {word : { s : String // s ∈ recoveryEventTypes.map EventType.name }} :
    requireRecoveryEventType value = .ok word ↔ value = wordJson word := by
  simp only [requireRecoveryEventType, bind_eq_ok, require_eq_ok, expect_eq_ok,
    asStr_bind_wordOf_eq_some, exists_const]
  constructor
  · rintro ⟨_, h⟩
    exact h
  · rintro rfl
    exact ⟨rfl, rfl⟩

theorem optionally_requireRecoveryEventType_eq_ok {value : Json}
    {word : Option { s : String // s ∈ recoveryEventTypes.map EventType.name }} :
    optionally requireRecoveryEventType value = .ok word ↔
      value = Json.ofOption wordJson word :=
  optionally_eq_ok (fun _ _ => requireRecoveryEventType_eq_ok) (by simp [wordJson])

theorem validateRecoveryEffects_eq_ok {data : Mapping} {accepted : Bool} {u : Unit} :
    validateRecoveryEffects data accepted = .ok u ↔
      (accepted = true → data.get "previous_generation" ≠ .null ∧
        data.get "previous_valid_head_hash" ≠ .null ∧
        (data.get "new_generation" ≠ .null → data.get "started_by_event_id" ≠ .null ∧
          data.get "started_by_event_type" ≠ .null)) ∧
      (accepted = false → data.get "quarantine_path" = .null ∧ data.get "new_generation" = .null ∧
        data.get "started_by_event_id" = .null ∧ data.get "started_by_event_type" = .null ∧
        data.get "resulting_state" = .null) := by
  cases accepted with
  | true => simp [validateRecoveryEffects]
  | false => simp [validateRecoveryEffects]

theorem posNat_ne_null (n : PosNat) : n.toJson ≠ .null := by simp [PosNat.toJson]

theorem testedJson_ne_null {test : String → Bool} (s : { s : String // test s = true }) :
    testedJson s ≠ .null := by
  simp [testedJson]

theorem wordJson_ne_null {words : List String} (w : { s : String // s ∈ words }) :
    wordJson w ≠ .null := by
  simp [wordJson]

/-- An optional value prints as `null` exactly when there is none. -/
theorem Json.ofOption_eq_null_iff {α : Type} {f : α → Json} (hf : ∀ a, f a ≠ .null)
    {x : Option α} : Json.ofOption f x = .null ↔ x = none := by
  cases x <;> simp [hf]

/-- **The validator accepts the printed valid recovery results.** -/
theorem validateRecoveryResult_eq_ok_iff {record : Json} {r : RecoveryResult} :
    validateRecoveryResult record = .ok r ↔ record = r.toJson ∧ r.Valid := by
  simp only [validateRecoveryResult, bind_eq_ok, requireMapping_eq_ok,
    validateExactMapping_eq_ok_iff recoveryResultFields_sorted, validateSchemaVersion_eq_ok,
    requireSafeId_eq_ok, validateUtc_eq_ok, requireFlag_eq_ok,
    validateResultEnvelope_eq_ok_iff (fun _ _ => noAuditEvent_eq_ok),
    validateRecoveryEffects_eq_ok, optionalPath, optionally_requirePositiveInt_eq_ok,
    optionally_requireSha_eq_ok, optionally_requireSafeId_eq_ok, optionally_requireSafePath_eq_ok,
    optionally_requireRecoveryEventType_eq_ok, pure_eq_ok]
  constructor
  · rintro ⟨data, rfl, _, hkeys, _, hversion, id, hid, task, htask, project, hproject, t, ht,
      accepted, haccepted, closed, hclosed, verdict, h, _, heffects, previous, hprevious, new, hnew,
      hash, hhash, starter, hstarter, type, htype, path, hpath, rfl⟩
    refine ⟨?_, h.valid, fun hacc => ?_, fun hrej => ?_⟩
    · rw [Mapping.toJson, Mapping.entries_eq_map_get, hkeys]
      simp [recoveryResultFields, RecoveryResult.toJson, RecoveryResult.toMapping, Mapping.toJson,
        hid, htask, hproject, ht, haccepted, hclosed, h.accepted, h.failClosed, h.errorCode,
        h.issues, h.resultingState, hprevious, hnew, hhash, hstarter, htype, hpath, hversion]
    · rw [h.accepted] at heffects
      obtain ⟨h1, h2, h3⟩ := heffects.1 hacc
      rw [hprevious] at h1
      rw [hhash] at h2
      rw [hnew, hstarter, htype] at h3
      refine ⟨?_, ?_, fun hne => ⟨?_, ?_⟩⟩
      · exact mt (Json.ofOption_eq_null_iff posNat_ne_null).mpr h1
      · exact mt (Json.ofOption_eq_null_iff testedJson_ne_null).mpr h2
      · have hsome := h3 (mt (Json.ofOption_eq_null_iff posNat_ne_null).mp hne)
        exact mt (Json.ofOption_eq_null_iff testedJson_ne_null).mpr hsome.1
      · have hsome := h3 (mt (Json.ofOption_eq_null_iff posNat_ne_null).mp hne)
        exact mt (Json.ofOption_eq_null_iff wordJson_ne_null).mpr hsome.2
    · rw [h.accepted] at heffects
      obtain ⟨h1, h2, h3, h4, _⟩ := heffects.2 hrej
      rw [hpath] at h1
      rw [hnew] at h2
      rw [hstarter] at h3
      rw [htype] at h4
      exact ⟨(Json.ofOption_eq_null_iff testedJson_ne_null).mp h1,
        (Json.ofOption_eq_null_iff posNat_ne_null).mp h2,
        (Json.ofOption_eq_null_iff testedJson_ne_null).mp h3,
        (Json.ofOption_eq_null_iff wordJson_ne_null).mp h4⟩
  · rintro ⟨rfl, hvalid⟩
    refine ⟨r.toMapping, rfl, (), rfl, (), rfl, r.recoveryId, rfl, r.taskId, rfl, r.projectId, rfl,
      r.createdAtUtc, rfl, r.verdict.isAccepted, rfl, !r.verdict.isAccepted, rfl, r.verdict,
      ⟨rfl, rfl, rfl, rfl, rfl, hvalid.verdict, ?_, by simp⟩, (), ⟨fun hacc => ?_, fun hrej => ?_⟩,
      r.previousGeneration, rfl, r.newGeneration, rfl, r.previousValidHeadHash, rfl,
      r.startedByEventId, rfl, r.startedByEventType, rfl, r.quarantinePath, rfl, rfl⟩
    · show r.verdict.EventHolds _ .null
      cases r.verdict with
      | accepted _ _ => trivial
      | rejected _ _ => rfl
    · obtain ⟨h1, h2, h3⟩ := hvalid.accepted hacc
      refine ⟨?_, ?_, fun hne => ⟨?_, ?_⟩⟩
      · exact mt (Json.ofOption_eq_null_iff posNat_ne_null).mp h1
      · exact mt (Json.ofOption_eq_null_iff testedJson_ne_null).mp h2
      · have hsome := h3 (mt (Json.ofOption_eq_null_iff posNat_ne_null).mpr hne)
        exact mt (Json.ofOption_eq_null_iff testedJson_ne_null).mp hsome.1
      · have hsome := h3 (mt (Json.ofOption_eq_null_iff posNat_ne_null).mpr hne)
        exact mt (Json.ofOption_eq_null_iff wordJson_ne_null).mp hsome.2
    · obtain ⟨h1, h2, h3, h4⟩ := hvalid.rejected hrej
      refine ⟨(Json.ofOption_eq_null_iff testedJson_ne_null).mpr h1,
        (Json.ofOption_eq_null_iff posNat_ne_null).mpr h2,
        (Json.ofOption_eq_null_iff testedJson_ne_null).mpr h3,
        (Json.ofOption_eq_null_iff wordJson_ne_null).mpr h4, ?_⟩
      show r.verdict.resultingStateJson = .null
      cases hverdict : r.verdict with
      | accepted _ _ => simp [hverdict, ResultVerdict.isAccepted] at hrej
      | rejected _ _ => rfl

/-! ## Section 7: Operations -/

/-- `OPERATION_KINDS`. -/
inductive OperationKind where
  | initialization
  | transition
  | recovery
  | rollback
  deriving DecidableEq

namespace OperationKind

/-- The word of a kind. -/
def name : OperationKind → String
  | initialization => "INITIALIZATION"
  | transition => "TRANSITION"
  | recovery => "RECOVERY"
  | rollback => "ROLLBACK"

/-- All kinds. -/
def all : List OperationKind := [initialization, transition, recovery, rollback]

theorem mem_all (k : OperationKind) : k ∈ all := by
  cases k <;> decide

theorem name_injective : Function.Injective name := by
  intro a b h
  cases a <;> cases b <;> first | rfl | exact absurd h (by decide)

/-- The kind a word names. -/
def ofName (word : String) : Option OperationKind := Acgps.ofName name all word

@[simp] theorem ofName_eq_some_iff {word : String} {k : OperationKind} :
    ofName word = some k ↔ word = k.name :=
  Acgps.ofName_eq_some_iff mem_all name_injective

/-- A kind as a value. -/
def toJson (k : OperationKind) : Json := .str k.name

/-- `operation_kind.lower()`. -/
def lower : OperationKind → String
  | initialization => "initialization"
  | transition => "transition"
  | recovery => "recovery"
  | rollback => "rollback"

end OperationKind

/-- The result of an operation of a kind. -/
def OperationResult : OperationKind → Type
  | .initialization => InitializationResult
  | .transition => TransitionResult
  | .recovery | .rollback => RecoveryResult

namespace OperationResult

/-- The result as a mapping. -/
def toMapping : {kind : OperationKind} → OperationResult kind → Mapping
  | .initialization, r => InitializationResult.toMapping r
  | .transition, r => TransitionResult.toMapping r
  | .recovery, r | .rollback, r => RecoveryResult.toMapping r

/-- The result as a value. -/
def toJson {kind : OperationKind} (r : OperationResult kind) : Json := r.toMapping.toJson

/-- The validator of the result accepts it. -/
def Valid : {kind : OperationKind} → OperationResult kind → Prop
  | .initialization, r => InitializationResult.Valid r
  | .transition, r => (TransitionResult.verdict r).Valid
  | .recovery, r | .rollback, r => RecoveryResult.Valid r

/-- `initialization_id`, `transition_id` or `recovery_id`. -/
def operationId : {kind : OperationKind} → OperationResult kind → SafeId
  | .initialization, r => InitializationResult.initializationId r
  | .transition, r => TransitionResult.transitionId r
  | .recovery, r | .rollback, r => RecoveryResult.recoveryId r

/-- `task_id`. -/
def taskId : {kind : OperationKind} → OperationResult kind → SafeId
  | .initialization, r => InitializationResult.taskId r
  | .transition, r => TransitionResult.taskId r
  | .recovery, r | .rollback, r => RecoveryResult.taskId r

end OperationResult

/-- The validator of the results of a kind. -/
def validateOperationResult : (kind : OperationKind) → Json → Check (OperationResult kind)
  | .initialization => validateTaskInitializationResult
  | .transition => validateTransitionResult
  | .recovery | .rollback => validateRecoveryResult

/-- **A validator of results accepts the printed valid ones.** -/
theorem validateOperationResult_eq_ok_iff {kind : OperationKind} {record : Json}
    {r : OperationResult kind} :
    validateOperationResult kind record = .ok r ↔ record = r.toJson ∧ r.Valid := by
  cases kind with
  | initialization => exact validateTaskInitializationResult_eq_ok_iff
  | transition => exact validateTransitionResult_eq_ok_iff
  | recovery => exact validateRecoveryResult_eq_ok_iff
  | rollback => exact validateRecoveryResult_eq_ok_iff

section Requests

variable [Digest]

/-- The request of an operation of a kind. -/
def OperationRequest : OperationKind → Type
  | .initialization => InitializationRequest
  | .transition => TransitionRequest
  | .recovery | .rollback => RecoveryRequest

namespace OperationRequest

/-- The request as a mapping. -/
def toMapping : {kind : OperationKind} → OperationRequest kind → Mapping
  | .initialization, r => InitializationRequest.toMapping r
  | .transition, r => TransitionRequest.toMapping r
  | .recovery, r | .rollback, r => RecoveryRequest.toMapping r

/-- The request as a value. -/
def toJson {kind : OperationKind} (r : OperationRequest kind) : Json := r.toMapping.toJson

/-- The validator of the request accepts it. -/
def Valid : {kind : OperationKind} → OperationRequest kind → Prop
  | .initialization, r => (InitializationRequest.taskIntakeBinding r).Valid
  | .transition, r => TransitionRequest.Valid r
  | .recovery, _ | .rollback, _ => True

/-- `initialization_id`, `transition_id` or `recovery_id`. -/
def operationId : {kind : OperationKind} → OperationRequest kind → SafeId
  | .initialization, r => InitializationRequest.initializationId r
  | .transition, r => TransitionRequest.transitionId r
  | .recovery, r | .rollback, r => RecoveryRequest.recoveryId r

/-- `task_id`. -/
def taskId : {kind : OperationKind} → OperationRequest kind → SafeId
  | .initialization, r => InitializationRequest.taskId r
  | .transition, r => TransitionRequest.taskId r
  | .recovery, r | .rollback, r => RecoveryRequest.taskId r

/-- `idempotency_key`. -/
def idempotencyKey : {kind : OperationKind} → OperationRequest kind → NonEmptyString
  | .initialization, r => InitializationRequest.idempotencyKey r
  | .transition, r => TransitionRequest.idempotencyKey r
  | .recovery, r | .rollback, r => RecoveryRequest.idempotencyKey r

end OperationRequest

/-- The validator of the requests of a kind. -/
def validateOperationRequest : (kind : OperationKind) → Json → Check (OperationRequest kind)
  | .initialization => validateTaskInitializationRequest
  | .transition => validateTransitionRequest
  | .recovery | .rollback => validateRecoveryRequest

/-- **A validator of requests accepts the printed valid ones.** -/
theorem validateOperationRequest_eq_ok_iff {kind : OperationKind} {record : Json}
    {r : OperationRequest kind} :
    validateOperationRequest kind record = .ok r ↔ record = r.toJson ∧ r.Valid := by
  cases kind with
  | initialization => exact validateTaskInitializationRequest_eq_ok_iff
  | transition => exact validateTransitionRequest_eq_ok_iff
  | recovery => exact validateRecoveryRequest_eq_ok_iff.trans (and_iff_left trivial).symm
  | rollback => exact validateRecoveryRequest_eq_ok_iff.trans (and_iff_left trivial).symm

/-- `key.endswith("_at_utc")`. -/
def isTimestampKey (key : String) : Bool := "_at_utc".toList.isSuffixOf key.toList

/-- `_operation_request_fingerprint`: the digest of a request without its timestamps. -/
def operationRequestFingerprint (request : Mapping) : String :=
  canonicalSha (.obj (request.entries.filter (fun entry => !isTimestampKey entry.1)))

end Requests

end Acgps
