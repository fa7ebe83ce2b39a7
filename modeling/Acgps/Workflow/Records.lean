import Acgps.Workflow.Bindings

/-!
# Task states and audit generations

The record a task row stores, and the records that start an audit generation.

## Main Definitions

* `WorkflowTaskState`, `validateTaskState`
* `AuditGeneration`, `validateAuditGeneration`
* `TrustedPrefix`, `validateTrustedPrefix`

## Key Theorems

* one `_eq_ok_iff` theorem for each validator, as for the bindings
-/

namespace Acgps

open Checked

/-! ## Section 1: Task states -/

/-- The authoritative state of a task. -/
structure WorkflowTaskState where
  taskId : SafeId
  projectId : SafeId
  currentState : TaskState
  previousState : Option TaskState
  lastTransitionId : Option SafeId
  auditGeneration : PosNat
  auditHeadEventId : SafeId
  auditHeadHash : Sha256Hex
  policyEvaluationId : Option SafeId
  pendingDecisionId : Option SafeId
  updatedAtUtc : Utc
  deriving DecidableEq

/-- `TASK_STATE_FIELDS`. -/
def taskStateFields : List String :=
  ["audit_generation", "audit_head_event_id", "audit_head_hash", "current_state",
    "last_transition_id", "pending_decision_id", "policy_evaluation_id", "previous_state",
    "project_id", "schema_version", "task_id", "updated_at_utc"]

theorem taskStateFields_sorted : taskStateFields.Pairwise (· < ·) := by
  decide +kernel

/-- A tested string as a value. -/
def testedJson {test : String → Bool} (s : { s : String // test s = true }) : Json := .str s.val

/-- An optional value that is printed as a value is that value. -/
theorem Json.eq_some_of_ofOption_eq {α : Type} {f : α → Json} (hinj : Function.Injective f)
    {o : Option α} {a : α} (ha : f a ≠ .null) (h : f a = Json.ofOption f o) : o = some a := by
  cases o with
  | none => exact absurd h ha
  | some b => rw [hinj h]

theorem TaskState.toJson_injective : Function.Injective TaskState.toJson := fun _ _ h =>
  TaskState.name_injective (Json.str.inj h)

theorem testedJson_injective {test : String → Bool} :
    Function.Injective (@testedJson test) := fun _ _ h => Subtype.ext (Json.str.inj h)

namespace WorkflowTaskState

/-- The state as a mapping. -/
def toMapping (s : WorkflowTaskState) : Mapping where
  entries :=
    [("audit_generation", .int s.auditGeneration.val),
      ("audit_head_event_id", .str s.auditHeadEventId.val),
      ("audit_head_hash", .str s.auditHeadHash.val), ("current_state", s.currentState.toJson),
      ("last_transition_id", Json.ofOption testedJson s.lastTransitionId),
      ("pending_decision_id", Json.ofOption testedJson s.pendingDecisionId),
      ("policy_evaluation_id", Json.ofOption testedJson s.policyEvaluationId),
      ("previous_state", Json.ofOption TaskState.toJson s.previousState),
      ("project_id", .str s.projectId.val), ("schema_version", .int 1),
      ("task_id", .str s.taskId.val), ("updated_at_utc", .str s.updatedAtUtc.val)]
  sorted := taskStateFields_sorted

/-- The state as a value. -/
def toJson (s : WorkflowTaskState) : Json := s.toMapping.toJson

/-- A pending decision is bound exactly while the task waits for a human. -/
def Valid (s : WorkflowTaskState) : Prop :=
  s.currentState = .waitingHuman ↔ s.pendingDecisionId.isSome = true

end WorkflowTaskState

/-- A state that may be null. -/
def optionalState (value : Json) (rejection : Rejection) : Check (Option TaskState) :=
  optionally (fun v => expect (v.asStr.bind TaskState.ofName) rejection) value

@[simp] theorem optionalState_eq_ok {value : Json} {rejection : Rejection} {s : Option TaskState} :
    optionalState value rejection = .ok s ↔ value = Json.ofOption TaskState.toJson s := by
  refine optionally_eq_ok (fun v a => ?_) (by simp [TaskState.toJson])
  simp only [expect_eq_ok, Option.bind_eq_some_iff, Json.asStr_eq_some,
    TaskState.ofName_eq_some_iff, TaskState.toJson]
  constructor
  · rintro ⟨_, rfl, rfl⟩
    rfl
  · rintro rfl
    exact ⟨_, rfl, rfl⟩

@[simp] theorem optionally_requireSafeId_eq_ok {value : Json} {path : String}
    {id : Option SafeId} :
    optionally (requireSafeId · path) value = .ok id ↔ value = Json.ofOption testedJson id :=
  optionally_eq_ok (fun _ _ => requireSafeId_eq_ok) (by simp)

@[simp] theorem optionally_requireSha_eq_ok {value : Json} {path : String}
    {sha : Option Sha256Hex} :
    optionally (requireSha · path) value = .ok sha ↔ value = Json.ofOption testedJson sha :=
  optionally_eq_ok (fun _ _ => requireSha_eq_ok) (by simp)

/-- `validate_task_state`. -/
def validateTaskState (record : Json) : Check WorkflowTaskState := do
  let code := "WORKFLOW_STATE_CORRUPT"
  let data ← requireMapping record (invalidOutcome code "$" "task state must be a mapping")
  withCode code (validateExactMapping data taskStateFields "task state" "")
  withCode code (validateSchemaVersion (data.get "schema_version") "schema_version")
  let taskId ← withCode code (requireSafeId (data.get "task_id") "task_id")
  let projectId ← withCode code (requireSafeId (data.get "project_id") "project_id")
  let currentState ← withCode code
    (requireMember TaskState.ofName (data.get "current_state") "current_state"
      "WORKFLOW_UNKNOWN_STATE")
  let auditGeneration ← withCode code
    (requirePositiveInt (data.get "audit_generation") "audit_generation")
  let auditHeadEventId ← withCode code
    (requireSafeId (data.get "audit_head_event_id") "audit_head_event_id")
  let auditHeadHash ← withCode code (requireSha (data.get "audit_head_hash") "audit_head_hash")
  let updatedAtUtc ← withCode code (validateUtc (data.get "updated_at_utc") "updated_at_utc")
  let previousState ← optionalState (data.get "previous_state")
    (invalidOutcome "WORKFLOW_UNKNOWN_STATE" "previous_state" "unknown previous_state")
  require (¬ (currentState = .waitingHuman ∧ (data.get "pending_decision_id").asStr.isNone = true))
    (invalidOutcome code "pending_decision_id" "WAITING_HUMAN requires pending_decision_id")
  require (¬ (currentState ≠ .waitingHuman ∧ data.get "pending_decision_id" ≠ .null))
    (invalidOutcome code "pending_decision_id" "pending_decision_id is only valid for WAITING_HUMAN")
  let lastTransitionId ← withCode code
    (optionally (requireSafeId · "last_transition_id") (data.get "last_transition_id"))
  let policyEvaluationId ← withCode code
    (optionally (requireSafeId · "policy_evaluation_id") (data.get "policy_evaluation_id"))
  let pendingDecisionId ← withCode code
    (optionally (requireSafeId · "pending_decision_id") (data.get "pending_decision_id"))
  return ⟨taskId, projectId, currentState, previousState, lastTransitionId, auditGeneration,
    auditHeadEventId, auditHeadHash, policyEvaluationId, pendingDecisionId, updatedAtUtc⟩

/-- **The state validator accepts the printed valid states.** -/
theorem validateTaskState_eq_ok_iff {record : Json} {s : WorkflowTaskState} :
    validateTaskState record = .ok s ↔ record = s.toJson ∧ s.Valid := by
  simp only [validateTaskState, bind_eq_ok, requireMapping_eq_ok, withCode_eq_ok,
    validateExactMapping_eq_ok_iff taskStateFields_sorted, validateSchemaVersion_eq_ok,
    requireSafeId_eq_ok, requireMember_taskState, requirePositiveInt_eq_ok, requireSha_eq_ok,
    validateUtc_eq_ok, optionalState_eq_ok, require_eq_ok, optionally_requireSafeId_eq_ok,
    pure_eq_ok]
  constructor
  · rintro ⟨data, rfl, _, hkeys, _, hversion, task, htask, project, hproject, current, hcurrent,
      generation, hgeneration, head, hhead, hash, hhash, t, ht, previous, hprevious, _, hwaiting, _,
      hrunning, transition, htransition, policy, hpolicy, pending, hpending, rfl⟩
    refine ⟨?_, ?_⟩
    · rw [Mapping.toJson, Mapping.entries_eq_map_get, hkeys]
      simp [taskStateFields, WorkflowTaskState.toJson, WorkflowTaskState.toMapping, Mapping.toJson,
        htask, hproject, hcurrent, hgeneration, hhead, hhash, ht, hprevious, htransition, hpolicy,
        hpending, hversion]
    · rw [hpending] at hwaiting hrunning
      change current = .waitingHuman ↔ pending.isSome = true
      cases pending with
      | none => simpa [Json.asStr] using hwaiting
      | some id => simpa [testedJson] using hrunning
  · rintro ⟨rfl, hvalid⟩
    refine ⟨s.toMapping, rfl, (), rfl, (), rfl, s.taskId, rfl, s.projectId, rfl, s.currentState, rfl,
      s.auditGeneration, rfl, s.auditHeadEventId, rfl, s.auditHeadHash, rfl, s.updatedAtUtc, rfl,
      s.previousState, rfl, (), ?_, (), ?_, s.lastTransitionId, rfl, s.policyEvaluationId, rfl,
      s.pendingDecisionId, rfl, rfl⟩
    · rintro ⟨hwaiting, hnone⟩
      change (Json.ofOption testedJson s.pendingDecisionId).asStr.isNone = true at hnone
      obtain ⟨id, hid⟩ := Option.isSome_iff_exists.mp (hvalid.mp hwaiting)
      simp [hid, testedJson, Json.asStr] at hnone
    · rintro ⟨hrunning, hsome⟩
      change Json.ofOption testedJson s.pendingDecisionId ≠ .null at hsome
      cases hid : s.pendingDecisionId with
      | none => simp [hid] at hsome
      | some id => exact hrunning (hvalid.mpr (by simp [hid]))

/-! ## Section 2: Trusted prefixes -/

/-- The event that a recovery trusts: the head of the part of the log that is kept. -/
structure TrustedPrefix where
  generation : PosNat
  sequence : PosNat
  eventId : SafeId
  eventHash : Sha256Hex
  deriving DecidableEq

/-- `TRUSTED_PREFIX_FIELDS`. -/
def trustedPrefixFields : List String := ["event_hash", "event_id", "generation", "sequence"]

theorem trustedPrefixFields_sorted : trustedPrefixFields.Pairwise (· < ·) := by
  decide +kernel

namespace TrustedPrefix

/-- The reference as a mapping. -/
def toMapping (t : TrustedPrefix) : Mapping where
  entries :=
    [("event_hash", .str t.eventHash.val), ("event_id", .str t.eventId.val),
      ("generation", .int t.generation.val), ("sequence", .int t.sequence.val)]
  sorted := trustedPrefixFields_sorted

/-- The reference as a value. -/
def toJson (t : TrustedPrefix) : Json := t.toMapping.toJson

end TrustedPrefix

/-- `_validate_trusted_prefix`. -/
def validateTrustedPrefix (record : Json) (path : String) : Check TrustedPrefix := do
  let code := "WORKFLOW_TRANSACTION_INCOMPLETE"
  let data ← requireMapping record (invalidOutcome code path "trusted prefix must be a mapping")
  withCode code (validateExactMapping data trustedPrefixFields "trusted prefix" path)
  let generation ← withCode code
    (requirePositiveInt (data.get "generation") (joinPath path "generation"))
  let sequence ← withCode code (requirePositiveInt (data.get "sequence") (joinPath path "sequence"))
  let eventId ← withCode code (requireSafeId (data.get "event_id") (joinPath path "event_id"))
  let eventHash ← withCode code (requireSha (data.get "event_hash") (joinPath path "event_hash"))
  return ⟨generation, sequence, eventId, eventHash⟩

theorem validateTrustedPrefix_eq_ok_iff {record : Json} {path : String} {t : TrustedPrefix} :
    validateTrustedPrefix record path = .ok t ↔ record = t.toJson := by
  simp only [validateTrustedPrefix, bind_eq_ok, requireMapping_eq_ok, withCode_eq_ok,
    validateExactMapping_eq_ok_iff trustedPrefixFields_sorted, requirePositiveInt_eq_ok,
    requireSafeId_eq_ok, requireSha_eq_ok, pure_eq_ok]
  constructor
  · rintro ⟨data, rfl, _, hkeys, generation, hgeneration, sequence, hsequence, id, hid, hash, hhash,
      rfl⟩
    rw [Mapping.toJson, Mapping.entries_eq_map_get, hkeys]
    simp [trustedPrefixFields, TrustedPrefix.toJson, TrustedPrefix.toMapping, Mapping.toJson,
      hgeneration, hsequence, hid, hhash]
  · rintro rfl
    exact ⟨t.toMapping, rfl, (), rfl, t.generation, rfl, t.sequence, rfl, t.eventId, rfl,
      t.eventHash, rfl, rfl⟩

theorem TrustedPrefix.toJson_injective : Function.Injective TrustedPrefix.toJson := by
  intro a b h
  have ha : validateTrustedPrefix a.toJson "" = .ok a := validateTrustedPrefix_eq_ok_iff.mpr rfl
  have hb : validateTrustedPrefix a.toJson "" = .ok b := validateTrustedPrefix_eq_ok_iff.mpr h
  rw [ha] at hb
  exact Except.ok.inj hb

/-! ## Section 3: Audit generations -/

/-- How an audit generation started. -/
structure AuditGeneration where
  taskId : SafeId
  generation : PosNat
  predecessorGeneration : Option PosNat
  predecessorValidHeadHash : Option Sha256Hex
  quarantinePath : Option SafePath
  startedByEventId : SafeId
  startedByEventType : EventType
  createdAtUtc : Utc
  deriving DecidableEq

/-- The only word of `THREAT_MODELS`. -/
def threatModel : String := "CORRUPTION_AND_NON_COORDINATED_TAMPER_ONLY"

/-- `RECOVERY_EVENT_TYPES`. -/
def recoveryEventTypes : List EventType := [.recoveryRecorded, .rollbackRecorded]

/-- `AUDIT_GENERATION_FIELDS`. -/
def auditGenerationFields : List String :=
  ["created_at_utc", "generation", "predecessor_generation", "predecessor_valid_head_hash",
    "quarantine_path", "schema_version", "started_by_event_id", "started_by_event_type", "task_id",
    "threat_model"]

theorem auditGenerationFields_sorted : auditGenerationFields.Pairwise (· < ·) := by
  decide +kernel

/-- A positive integer as a value. -/
def PosNat.toJson (n : PosNat) : Json := .int n.val

namespace AuditGeneration

/-- The record as a mapping. -/
def toMapping (g : AuditGeneration) : Mapping where
  entries :=
    [("created_at_utc", .str g.createdAtUtc.val), ("generation", .int g.generation.val),
      ("predecessor_generation", Json.ofOption PosNat.toJson g.predecessorGeneration),
      ("predecessor_valid_head_hash", Json.ofOption testedJson g.predecessorValidHeadHash),
      ("quarantine_path", Json.ofOption testedJson g.quarantinePath), ("schema_version", .int 1),
      ("started_by_event_id", .str g.startedByEventId.val),
      ("started_by_event_type", g.startedByEventType.toJson), ("task_id", .str g.taskId.val),
      ("threat_model", .str threatModel)]
  sorted := auditGenerationFields_sorted

/-- The record as a value. -/
def toJson (g : AuditGeneration) : Json := g.toMapping.toJson

/-- The first generation has no predecessor; every other one has, and a recovery started it. -/
structure Valid (g : AuditGeneration) : Prop where
  first : g.generation.val = 1 → g.startedByEventType = .taskCreated ∧
    g.predecessorGeneration = none ∧ g.predecessorValidHeadHash = none ∧ g.quarantinePath = none
  later : g.generation.val ≠ 1 → g.predecessorGeneration ≠ none ∧
    g.predecessorValidHeadHash ≠ none ∧ g.startedByEventType ∈ recoveryEventTypes

end AuditGeneration

/-- `not _is_safe_relative_path(value)` on a value that may be no string: a falsy value and a
collection with a backslash are refused, any other value has no `startswith`, or no members. -/
def requireSafePath (value : Json) (rejection : Rejection) : Check SafePath :=
  match value with
  | .str s => if h : isSafeRelativePath s = true then .ok ⟨s, h⟩ else .error rejection
  | .arr items =>
      if items = [] ∨ Json.str "\\" ∈ items then .error rejection
      else .error (.raised (.interpreter "AttributeError"
        [.text "'list' object has no attribute 'startswith'"]))
  | .obj members =>
      if members = [] ∨ "\\" ∈ members.map Prod.fst then .error rejection
      else .error (.raised (.interpreter "AttributeError"
        [.text "'dict' object has no attribute 'startswith'"]))
  | other =>
      if other.isFalsy then .error rejection
      else .error (.raised (.interpreter "TypeError"
        [.text "argument of type '", .text other.typeName, .text "' is not iterable"]))

@[simp] theorem requireSafePath_eq_ok {value : Json} {rejection : Rejection} {path : SafePath} :
    requireSafePath value rejection = .ok path ↔ value = .str path.val := by
  obtain ⟨path, hpath⟩ := path
  cases value with
  | str s =>
      by_cases hs : isSafeRelativePath s = true
      · simp [requireSafePath, hs]
      · have hne : s ≠ path := by
          rintro rfl
          exact hs hpath
        simp [requireSafePath, hs, hne]
  | arr items => by_cases h : items = [] ∨ Json.str "\\" ∈ items <;> simp [requireSafePath, h]
  | obj members =>
      by_cases h : members = [] ∨ "\\" ∈ members.map Prod.fst <;>
        simp only [requireSafePath, h, if_true, if_false, reduceCtorEq]
  | null => simp [requireSafePath, Json.isFalsy]
  | bool b => cases b <;> simp [requireSafePath, Json.isFalsy]
  | int n => by_cases h : (Json.int n).isFalsy = true <;> simp [requireSafePath, h]
  | float r => by_cases h : (Json.float r).isFalsy = true <;> simp [requireSafePath, h]

/-- What a generation record says about its predecessor. -/
def validateGenerationStart (generation : PosNat) (startedByEventType : EventType)
    (predecessorGeneration : Option PosNat) (predecessorValidHeadHash : Option Sha256Hex)
    (quarantinePath : Json) : Check Unit := do
  let code := "WORKFLOW_AUDIT_CORRUPT"
  if generation.val = 1 then do
    require (startedByEventType = .taskCreated)
      (invalidOutcome code "started_by_event_type" "generation 1 must start with TASK_CREATED")
    require (predecessorGeneration = none ∧ predecessorValidHeadHash = none ∧ quarantinePath = .null)
      (invalidOutcome code "predecessor_generation"
        "generation 1 must not have predecessor or quarantine")
  else do
    require (predecessorGeneration ≠ none ∧ predecessorValidHeadHash ≠ none)
      (invalidOutcome code "predecessor_generation" "generation greater than 1 requires predecessor")
    require (startedByEventType ∈ recoveryEventTypes)
      (invalidOutcome code "started_by_event_type"
        "generation greater than 1 must start with recovery or rollback")

/-- `validate_audit_generation`. -/
def validateAuditGeneration (record : Json) : Check AuditGeneration := do
  let code := "WORKFLOW_AUDIT_CORRUPT"
  let data ← requireMapping record (invalidOutcome code "$" "audit generation must be a mapping")
  withCode code (validateExactMapping data auditGenerationFields "audit generation" "")
  withCode code (validateSchemaVersion (data.get "schema_version") "schema_version")
  let taskId ← withCode code (requireSafeId (data.get "task_id") "task_id")
  let generation ← withCode code (requirePositiveInt (data.get "generation") "generation")
  let startedByEventId ← withCode code
    (requireSafeId (data.get "started_by_event_id") "started_by_event_id")
  let startedByEventType ← withCode code
    (requireMember EventType.ofName (data.get "started_by_event_type") "started_by_event_type" code)
  let _ ← withCode code
    (requireMember (wordOf [threatModel]) (data.get "threat_model") "threat_model" code)
  let createdAtUtc ← withCode code (validateUtc (data.get "created_at_utc") "created_at_utc")
  let predecessorGeneration ← withCode code
    (optionally (requirePositiveInt · "predecessor_generation") (data.get "predecessor_generation"))
  let predecessorValidHeadHash ← withCode code
    (optionally (requireSha · "predecessor_valid_head_hash")
      (data.get "predecessor_valid_head_hash"))
  validateGenerationStart generation startedByEventType predecessorGeneration
    predecessorValidHeadHash (data.get "quarantine_path")
  let quarantinePath ← optionally
    (requireSafePath · (invalidOutcome code "quarantine_path"
      "path must be safe relative POSIX path"))
    (data.get "quarantine_path")
  return ⟨taskId, generation, predecessorGeneration, predecessorValidHeadHash, quarantinePath,
    startedByEventId, startedByEventType, createdAtUtc⟩

@[simp] theorem optionally_requirePositiveInt_eq_ok {value : Json} {path : String}
    {n : Option PosNat} :
    optionally (requirePositiveInt · path) value = .ok n ↔ value = Json.ofOption PosNat.toJson n :=
  optionally_eq_ok (fun _ _ => requirePositiveInt_eq_ok) (by simp)

@[simp] theorem optionally_requireSafePath_eq_ok {value : Json} {rejection : Rejection}
    {p : Option SafePath} :
    optionally (requireSafePath · rejection) value = .ok p ↔ value = Json.ofOption testedJson p :=
  optionally_eq_ok (fun _ _ => requireSafePath_eq_ok) (by simp)

private theorem validateGenerationStart_eq_ok {generation : PosNat} {startedBy : EventType}
    {predecessor : Option PosNat} {hash : Option Sha256Hex} {path : Json} {u : Unit} :
    validateGenerationStart generation startedBy predecessor hash path = .ok u ↔
      (generation.val = 1 → startedBy = .taskCreated ∧ predecessor = none ∧ hash = none ∧
        path = .null) ∧
      (generation.val ≠ 1 → predecessor ≠ none ∧ hash ≠ none ∧ startedBy ∈ recoveryEventTypes) := by
  by_cases h : generation.val = 1
  · simp [validateGenerationStart, h]
  · simp [validateGenerationStart, h, and_assoc]

/-- **The generation validator accepts the printed valid records.** -/
theorem validateAuditGeneration_eq_ok_iff {record : Json} {g : AuditGeneration} :
    validateAuditGeneration record = .ok g ↔ record = g.toJson ∧ g.Valid := by
  simp only [validateAuditGeneration, bind_eq_ok, requireMapping_eq_ok, withCode_eq_ok,
    validateExactMapping_eq_ok_iff auditGenerationFields_sorted, validateSchemaVersion_eq_ok,
    requireSafeId_eq_ok, requirePositiveInt_eq_ok, requireMember_eventType, requireMember_wordOf,
    validateUtc_eq_ok, optionally_requirePositiveInt_eq_ok, optionally_requireSha_eq_ok,
    optionally_requireSafePath_eq_ok, validateGenerationStart_eq_ok, pure_eq_ok]
  constructor
  · rintro ⟨data, rfl, _, hkeys, _, hversion, task, htask, generation, hgeneration, id, hid, type,
      htype, threat, hthreat, t, ht, predecessor, hpredecessor, hash, hhash, _, ⟨hfirst, hlater⟩,
      path, hpath, rfl⟩
    have hmodel : threat.val = threatModel := by simpa using threat.property
    refine ⟨?_, fun hone => ?_, hlater⟩
    · rw [Mapping.toJson, Mapping.entries_eq_map_get, hkeys]
      simp [auditGenerationFields, AuditGeneration.toJson, AuditGeneration.toMapping,
        Mapping.toJson, htask, hgeneration, hid, htype, hthreat, hmodel, ht, hpredecessor, hhash,
        hpath, hversion]
    · obtain ⟨h1, h2, h3, h4⟩ := hfirst hone
      refine ⟨h1, h2, h3, ?_⟩
      rw [hpath] at h4
      cases path with
      | none => rfl
      | some p => simp [testedJson] at h4
  · rintro ⟨rfl, hvalid⟩
    refine ⟨g.toMapping, rfl, (), rfl, (), rfl, g.taskId, rfl, g.generation, rfl,
      g.startedByEventId, rfl, g.startedByEventType, rfl, ⟨threatModel, by simp⟩, rfl,
      g.createdAtUtc, rfl, g.predecessorGeneration, rfl, g.predecessorValidHeadHash, rfl, (),
      ⟨fun hone => ?_, hvalid.later⟩, g.quarantinePath, rfl, rfl⟩
    obtain ⟨h1, h2, h3, h4⟩ := hvalid.first hone
    refine ⟨h1, h2, h3, ?_⟩
    change Json.ofOption testedJson g.quarantinePath = .null
    rw [h4]
    rfl

end Acgps
