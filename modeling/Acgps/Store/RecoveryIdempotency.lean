import Acgps.Store.CommitHistory
import Acgps.Store.WriteOnce
import Acgps.Workflow.RecoveryTransactions

/-!
# Planned answers of recoveries

The validator of recovery transactions and the store both derive what an idempotency record has to
say from the request and the result of the operation, each with code of its own. They agree on
recoveries. For a rollback they bind different paths.

## Main Definitions

* `sampleTransaction` - a recovery and a rollback that are accepted

## Key Theorems

* `requireIdempotencyRecord_planned_iff` - which planned answers the store accepts
* `planned_answer_agrees_iff` - **the store takes and returns a planned answer iff it is the one of
  a recovery, has the result itself, and nothing is in the way of its path**
-/

namespace Acgps

open Checked

/-! ## Section 1: Parts of a record fit -/

/-- The text of a mapping gets longer with every member. -/
theorem Json.length_dumpsMembers_le_of_sublist {l l' : List (String × Json)} (h : l.Sublist l') :
    (dumpsMembers l).length ≤ (dumpsMembers l').length := by
  have hcons : ∀ (entry : String × Json) (rest : List (String × Json)),
      (dumpsMembers (entry :: rest)).length = (dumpsMembers [entry]).length
        + (if rest = [] then 0 else (dumpsMembers rest).length + 1) := by
    intro entry rest
    cases rest with
    | nil => rfl
    | cons next rest =>
        simp only [dumpsMembers, List.length_append, List.length_cons, reduceCtorEq, if_false]
        omega
  induction h with
  | slnil => exact le_rfl
  | @cons l l' entry _ ih =>
      rw [hcons entry l']
      split
      next hnil =>
        subst hnil
        simp only [dumpsMembers, List.length_nil, Nat.le_zero] at ih
        omega
      next => omega
  | @cons_cons l l' entry hsub ih =>
      rw [hcons entry l, hcons entry l']
      split
      next => omega
      next hne =>
        have hne' : l' ≠ [] := fun hnil => hne (List.sublist_nil.mp (hnil ▸ hsub))
        rw [if_neg hne']
        omega

/-- A mapping is at least as deep as a part of it. -/
theorem Json.nestingMembers_le_of_sublist {l l' : List (String × Json)} (h : l.Sublist l') :
    nestingMembers l ≤ nestingMembers l' := by
  induction h with
  | slnil => exact le_rfl
  | cons entry _ ih => exact ih.trans (le_max_right _ _)
  | cons_cons entry _ ih => exact max_le_max le_rfl ih

/-- A part of a mapping that fits, fits. -/
theorem FitsSqlite.of_sublist {a b : Mapping} (h : a.entries.Sublist b.entries)
    (hfits : FitsSqlite b.toJson) : FitsSqlite a.toJson := by
  obtain ⟨hlength, hdepth⟩ := hfits
  refine ⟨le_trans ?_ hlength, le_trans ?_ hdepth⟩
  · simp only [Mapping.toJson, Json.dumps, List.length_cons, List.length_append, List.length_nil]
    have := Json.length_dumpsMembers_le_of_sublist h
    omega
  · simp only [Json.jsonNestingDepth_dumps, Mapping.toJson, Json.nesting]
    exact Nat.succ_le_succ (Json.nestingMembers_le_of_sublist h)

/-- The identity of a record that fits, fits. -/
theorem IdempotencyRecord.fits_identity {r : IdempotencyRecord} (h : FitsSqlite r.toJson) :
    FitsSqlite r.identity.toJson :=
  FitsSqlite.of_sublist List.filter_sublist h

/-! ## Section 2: Paths and timestamps -/

/-- The store accepts the timestamps of the contracts. -/
theorem isStoreUtc_of_isUtc {s : String} (h : isUtc s = true) : isStoreUtc s = true := by
  simp only [isUtc, Bool.and_eq_true] at h
  simp only [isStoreUtc, Bool.and_eq_true]
  exact ⟨matchesTemplate_mono (fun _ => isDecimal_of_isDigit) h.1, h.2⟩

/-- The store binds a recovery to the path that the validator derives. -/
theorem transactionPath_recovery (taskId operationId : SafeId) :
    transactionPath OperationKind.recovery.lower taskId operationId
      = recoveryPath taskId operationId := by
  show "state/transactions/" ++ taskId.val ++ "/" ++ "recovery" ++ "-" ++ operationId.val
    = "state/transactions/" ++ taskId.val ++ "/recovery-" ++ operationId.val
  have hword : "/" ++ "recovery" ++ "-" = "/recovery-" := by decide
  have happend : ∀ a b c d : String, a ++ b ++ c ++ d = a ++ (b ++ c ++ d) := by
    intro a b c d
    apply String.toList_inj.mp
    simp only [String.toList_append, List.append_assoc]
  rw [happend _ "/", hword]

/-- The store binds a rollback to another path. -/
theorem transactionPath_rollback_ne (taskId operationId : SafeId) :
    transactionPath OperationKind.rollback.lower taskId operationId
      ≠ recoveryPath taskId operationId := by
  intro h
  have hlists : ("state/transactions/" ++ taskId.val ++ "/" ++ "rollback" ++ "-"
      ++ operationId.val).toList = ("state/transactions/" ++ taskId.val ++ "/recovery-"
        ++ operationId.val).toList := congrArg String.toList h
  have hroll : "rollback".toList = ['r', 'o', 'l', 'l', 'b', 'a', 'c', 'k'] := by decide
  have hrec : "/recovery-".toList = ['/', 'r', 'e', 'c', 'o', 'v', 'e', 'r', 'y', '-'] := by decide
  have hslash : "/".toList = ['/'] := by decide
  rw [String.toList_append, String.toList_append, String.toList_append, String.toList_append,
    String.toList_append, String.toList_append, String.toList_append, String.toList_append,
    hroll, hrec, hslash] at hlists
  -- behind the task both paths name the kind, and the words differ in their second letter
  simp only [List.append_assoc] at hlists
  have hrest := List.append_cancel_left (List.append_cancel_left hlists)
  simp at hrest

theorem hasWindowsDrive_of_letters {s : String} {a b : Char} {rest : List Char}
    (hs : s.toList = a :: b :: rest) (ha : a ≠ '/') (hb : b ≠ ':') : hasWindowsDrive s = false := by
  unfold hasWindowsDrive
  rw [hs]
  split
  next h => simp_all
  next h => simp_all
  next => rfl

/-- No path of a recovery has a drive. -/
theorem hasWindowsDrive_recoveryPath (taskId operationId : SafeId) :
    hasWindowsDrive (recoveryPath taskId operationId) = false := by
  have hword : "state/transactions/".toList = 's' :: 't' :: "ate/transactions/".toList := by
    decide
  have happend : ∀ t o : String, ("state/transactions/" ++ t ++ "/recovery-" ++ o).toList
      = 's' :: 't' :: ("ate/transactions/".toList ++ t.toList ++ "/recovery-".toList
        ++ o.toList) := by
    intro t o
    rw [String.toList_append, String.toList_append, String.toList_append, hword]
    simp only [List.cons_append]
  exact hasWindowsDrive_of_letters (happend taskId.val operationId.val) (by decide) (by decide)

/-! ## Section 3: What the store accepts -/

section Answers

variable [Platform]

/-- A result that Python finds equal to a printed one is its printed form, if a validator accepts
it. -/
theorem eq_of_pyEq_recoveryResult {value : Json} {r s : RecoveryResult} (hvalue : value = s.toJson)
    (hsame : value.pyEq r.toJson = true) : value = r.toJson := by
  subst hvalue
  exact Json.eq_of_pyEq hsame (alike_recoveryResult s r)

/-- The record that the store makes of a planned answer to a recovery. -/
def PlannedIdempotencyRecord.stored (p : PlannedIdempotencyRecord) (r : RecoveryResult) :
    IdempotencyRecord where
  schemaVersion := ⟨.int 1, Json.int_one_equalsOne⟩
  operationKind := .recovery
  operationId := p.operationId
  taskId := p.taskId
  idempotencyKey := p.idempotencyKey
  requestFingerprint := p.requestFingerprint
  resultFingerprint := p.resultFingerprint
  canonicalResult := r
  createdAtUtc := ⟨p.createdAtUtc.val, isStoreUtc_of_isUtc p.createdAtUtc.property⟩

/-- **Which planned answers the store accepts.** -/
theorem requireIdempotencyRecord_planned_iff {h : RecoveryHeader} {q : RecoveryRequest}
    {r : RecoveryResult} {p : PlannedIdempotencyRecord} {probe : PathProbe}
    (hsame : SameRecovery h q r) (hresult : r.Valid)
    (hplanned : p.PlannedFor q r h.operationKind (recoveryPath h.taskId h.operationId)) :
    (∃ data, requireIdempotencyRecord probe p.toJson q.toJson = .ok data) ↔
      h.operationKind = .recovery ∧ p.canonicalResult = r.toJson ∧
        probe p.transactionPath.val = none := by
  have hpath : recoveryPath h.taskId h.operationId = recoveryPath p.taskId p.operationId := by
    rw [hplanned.taskId, hplanned.operationId, hsame.requestTask, hsame.requestId]
  constructor
  · rintro ⟨data, hdata⟩
    obtain ⟨hjson, -, hprobe, _, -, -⟩ := requireIdempotencyRecord_eq_ok_iff.mp hdata
    have hentries := congrArg Mapping.entries (Mapping.toJson_injective hjson)
    simp only [PlannedIdempotencyRecord.toMapping, IdempotencyRecord.toMapping, List.cons.injEq,
      Prod.mk.injEq, Json.str.injEq, OperationKind.toJson, true_and, and_true] at hentries
    obtain ⟨hvalue, -, -, hid, hkind, -, -, -, htask, hdpath⟩ := hentries
    rw [← hdpath] at hprobe
    have hkind := OperationKind.name_injective hkind
    rw [hplanned.operationKind] at hkind
    rw [hplanned.transactionPath, hpath, IdempotencyRecord.path, ← hkind, ← Subtype.ext htask,
      ← Subtype.ext hid] at hdpath
    obtain ⟨_, kind, _, _, _, _, _, s, _⟩ := data
    change h.operationKind.kind = kind at hkind
    generalize h.operationKind = operation at *
    cases operation with
    | rollback =>
        subst hkind
        exact absurd hdpath.symm (transactionPath_rollback_ne _ _)
    | recovery =>
        subst hkind
        exact ⟨rfl, eq_of_pyEq_recoveryResult hvalue hplanned.canonicalResult, hprobe⟩
  · rintro ⟨hkind, hvalue, hprobe⟩
    have hstored : (p.stored r).path = p.transactionPath.val := by
      rw [hplanned.transactionPath, hpath]
      exact transactionPath_recovery p.taskId p.operationId
    refine ⟨p.stored r, requireIdempotencyRecord_eq_ok_iff.mpr ⟨?_, ?_, ?_, q, rfl, ?_⟩⟩
    · have hoperation : p.operationKind = .recovery := by
        rw [hplanned.operationKind, hkind]
        rfl
      apply congrArg Json.obj
      simp only [PlannedIdempotencyRecord.toMapping, IdempotencyRecord.toMapping, hstored]
      rw [hoperation, hvalue]
      rfl
    · rw [hstored, isStatePath, p.transactionPath.property, hplanned.transactionPath,
        hasWindowsDrive_recoveryPath]
      rfl
    · rw [hstored]
      exact hprobe
    · exact {
        result := hresult
        resultId := hsame.resultId.symm.trans (hsame.requestId.trans hplanned.operationId.symm)
        resultTask := hsame.resultTask.symm.trans (hsame.requestTask.trans hplanned.taskId.symm)
        resultFingerprint := hplanned.resultFingerprint
        request := trivial
        requestId := hplanned.operationId.symm
        requestTask := hplanned.taskId.symm
        requestKey := hplanned.idempotencyKey.symm
        requestFingerprint := hplanned.requestFingerprint }

/-- A record of an operation whose identity Python finds equal to itself. -/
theorem IdempotencyRecord.pyEq_identity (r : IdempotencyRecord)
    (hversion : r.schemaVersion.val = .int 1) :
    r.identity.toJson.pyEq r.identity.toJson = true := by
  apply Json.pyEq_self
  show Json.alikeMembers r.identity.entries r.identity.entries = true
  rw [identity_entries]
  simp only [Json.alikeMembers, hversion, alike_int, alike_str, OperationKind.toJson,
    OperationResult.alike, Bool.and_self]

end Answers

/-! ## Section 4: What the store returns -/

section Rows

variable [Interpreter]

/-- A record that the store accepts and that fits is read back from its row. -/
theorem validatedIdempotencyRow_row {probe : PathProbe} {record request : Json}
    {data : IdempotencyRecord} (h : requireIdempotencyRecord probe record request = .ok data)
    (hversion : data.schemaVersion.val = .int 1) (hrecord : FitsSqlite record)
    (hrequest : FitsSqlite request) :
    validatedIdempotencyRow probe (data.row request) data.target = .ok data := by
  obtain ⟨rfl, -, -, q, rfl, -⟩ := requireIdempotencyRecord_eq_ok_iff.mp h
  simp only [validatedIdempotencyRow, bind_eq_ok, require_eq_ok, mapError_eq_ok, pure_eq_ok,
    exists_const]
  refine ⟨_, loadsJsonMapping_of_fits (IdempotencyRecord.fits_identity hrecord), _,
    loadsJsonMapping_of_fits hrecord, _, loadsJsonMapping_of_fits hrequest, rfl, data, h, rfl, ?_,
    rfl⟩
  exact data.pyEq_identity hversion

/-- **The validator and the store agree on the planned answers of recoveries.** For an accepted
transaction that plans an answer within the limits of the store, the store takes the answer beside
the request and returns it unchanged from its row iff the operation is a recovery, the answer has
the result of the transaction itself and not a value that is only equal to it in Python, and nothing
on the disk is in the way of the path. -/
theorem planned_answer_agrees_iff {record : Json} {t : RecoveryTransaction}
    {p : PlannedIdempotencyRecord} (h : validateRecoveryTransaction record = .ok t)
    (hp : t.plannedIdempotencyRecord = some p) (hrecord : FitsSqlite p.toJson)
    (hrequest : FitsSqlite t.canonicalRecoveryRequest.toJson) (probe : PathProbe) :
    (∃ data, requireIdempotencyRecord probe p.toJson t.canonicalRecoveryRequest.toJson = .ok data ∧
      data.toJson = p.toJson ∧
      validatedIdempotencyRow probe (data.row t.canonicalRecoveryRequest.toJson) data.target
        = .ok data) ↔
      t.header.operationKind = .recovery ∧
        p.canonicalResult = t.canonicalRecoveryResult.toJson ∧
        probe p.transactionPath.val = none := by
  obtain ⟨_, -, -, hvalid⟩ := validateRecoveryTransaction_sound h
  rw [← requireIdempotencyRecord_planned_iff hvalid.same hvalid.result
    (hvalid.idempotencyRecord p hp)]
  constructor
  · rintro ⟨data, hdata, -⟩
    exact ⟨data, hdata⟩
  · rintro ⟨data, hdata⟩
    have hjson := (requireIdempotencyRecord_eq_ok_iff.mp hdata).1
    have hversion : data.schemaVersion.val = .int 1 := by
      have hget := congrArg (fun m : Mapping => m.get "schema_version")
        (Mapping.toJson_injective hjson)
      exact hget.symm
    exact ⟨data, hdata, hjson.symm,
      validatedIdempotencyRow_row hdata hversion hrecord hrequest⟩

end Rows

/-! ## Section 5: A recovery and a rollback -/

/-- The action of an operation of a kind that starts a generation. -/
def sampleAction : RecoveryOperationKind → { s : String // s ∈ recoveryActions }
  | .recovery => ⟨"quarantine_and_start_generation", by simp [recoveryActions]⟩
  | .rollback => ⟨"rollback_to_valid_prefix", by simp [recoveryActions]⟩

theorem isSafePath_sampleQuarantine :
    isSafeRelativePath "state/quarantine/task-1/r/audit-tail.bin" = true := by
  decide +kernel

theorem isSafePath_sampleAudit : isSafeRelativePath "state/audit" = true := by decide

theorem isSafePath_sampleTransaction :
    isSafeRelativePath "state/transactions/task-1/recovery-r" = true := by decide +kernel

theorem sampleKey_ne : "r" ≠ "" := by decide

theorem verifier_mem : "VERIFIER" ∈ recoveryActors := by decide

theorem tailCorrupt_ne : "AUDIT_TAIL_CORRUPT" ≠ "" := by decide

theorem noStalePhase_mem : "NONE" ∈ stalePhaseClassifications := by decide

/-- What the sample events say of the recovery: it trusts the creation of the task. -/
def sampleRecovery (kind : RecoveryOperationKind) : RecoveryDetails where
  recoveryId := ⟨"r", isSafeId_r⟩
  recoveryAction := (sampleAction kind).val
  recoveryTransactionId := ⟨"r", isSafeId_r⟩
  previousTrustedPrefix := ⟨⟨1, firstPosition⟩, ⟨1, firstPosition⟩, firstCreation.eventId,
    firstCreation.eventHash⟩
  quarantinePath := ⟨"state/quarantine/task-1/r/audit-tail.bin",
    isSafePath_sampleQuarantine⟩
  auditGeneration := ⟨firstCreation.taskId, ⟨2, secondPosition⟩, some ⟨1, firstPosition⟩,
    some firstCreation.eventHash,
    some ⟨"state/quarantine/task-1/r/audit-tail.bin", isSafePath_sampleQuarantine⟩,
    ⟨"evt-2", isSafeId_secondEvent⟩, kind.eventType,
    ⟨"2026-01-01T00:00:01Z", isUtc_secondEvent⟩⟩

/-- The event that starts the second generation. -/
def sampleRecoveryEvent (kind : RecoveryOperationKind) : AuditEvent where
  eventId := ⟨"evt-2", isSafeId_secondEvent⟩
  generation := ⟨2, secondPosition⟩
  sequence := ⟨1, firstPosition⟩
  projectId := firstCreation.projectId
  taskId := firstCreation.taskId
  eventType := kind.eventType
  actor := .verifier
  fromState := none
  toState := none
  transitionId := none
  policyEvaluationBinding := none
  evidenceBindings := []
  decisionResolutionBinding := none
  previousEventHash := none
  eventHash := ⟨unarySha 0, isSha256_unaryZero⟩
  createdAtUtc := ⟨"2026-01-01T00:00:01Z", isUtc_secondEvent⟩
  details := (sampleRecovery kind).toMapping

/-- The state that binds the recovery. -/
def sampleRecoveredState (kind : RecoveryOperationKind) : WorkflowTaskState :=
  stateOfCreation (sampleRecoveryEvent kind)

/-- The request for the recovery. -/
def sampleRecoveryRequest (kind : RecoveryOperationKind) : RecoveryRequest where
  recoveryId := ⟨"r", isSafeId_r⟩
  taskId := firstCreation.taskId
  projectId := firstCreation.projectId
  actor := ⟨"VERIFIER", verifier_mem⟩
  idempotencyKey := ⟨"r", sampleKey_ne⟩
  recoveryAction := sampleAction kind
  observedStatePath := none
  observedAuditGeneration := none
  observedAuditPath := some ⟨"state/audit", isSafePath_sampleAudit⟩
  requestedAtUtc := ⟨"2026-01-01T00:00:01Z", isUtc_secondEvent⟩

/-- The result of the recovery. -/
def sampleRecoveryResult (kind : RecoveryOperationKind) : RecoveryResult where
  recoveryId := ⟨"r", isSafeId_r⟩
  taskId := firstCreation.taskId
  projectId := firstCreation.projectId
  verdict := .accepted (sampleRecoveredState kind).currentState ()
  quarantinePath := some (sampleRecovery kind).quarantinePath
  previousGeneration := some ⟨1, firstPosition⟩
  previousValidHeadHash := some firstCreation.eventHash
  newGeneration := some ⟨2, secondPosition⟩
  startedByEventId := some ⟨"evt-2", isSafeId_secondEvent⟩
  startedByEventType := some ⟨kind.eventType.name, by cases kind <;> decide⟩
  createdAtUtc := ⟨"2026-01-01T00:00:01Z", isUtc_secondEvent⟩

/-- What is moved away. -/
def sampleManifest : QuarantineManifest where
  sourcePath := ⟨"state/audit", isSafePath_sampleAudit⟩
  destinationPath := ⟨"state/quarantine/task-1/r/audit-tail.bin",
    isSafePath_sampleQuarantine⟩
  sizeBytes := 0
  contentSha256 := ⟨unarySha 0, isSha256_unaryZero⟩

/-- The planned answer. -/
def sampleAnswer (kind : RecoveryOperationKind) : PlannedIdempotencyRecord where
  operationKind := kind.kind
  operationId := ⟨"r", isSafeId_r⟩
  taskId := firstCreation.taskId
  idempotencyKey := ⟨"r", sampleKey_ne⟩
  requestFingerprint := ⟨unarySha 0, isSha256_unaryZero⟩
  resultFingerprint := ⟨unarySha 0, isSha256_unaryZero⟩
  canonicalResult := (sampleRecoveryResult kind).toJson
  transactionPath := ⟨"state/transactions/task-1/recovery-r",
    isSafePath_sampleTransaction⟩
  createdAtUtc := ⟨"2026-01-01T00:00:01Z", isUtc_secondEvent⟩

/-- The record of the recovery, under one digest for everything. -/
def sampleRecoveryRecord (kind : RecoveryOperationKind) : RecoveryRecord where
  recoveryId := ⟨"r", isSafeId_r⟩
  taskId := firstCreation.taskId
  projectId := firstCreation.projectId
  operationKind := kind
  requestSha256 := ⟨unarySha 0, isSha256_unaryZero⟩
  resultSha256 := ⟨unarySha 0, isSha256_unaryZero⟩
  quarantineManifestSha256 := some ⟨unarySha 0, isSha256_unaryZero⟩
  generationEventSha256 := some ⟨unarySha 0, isSha256_unaryZero⟩
  stateSha256 := some ⟨unarySha 0, isSha256_unaryZero⟩
  diagnostic := ⟨⟨"AUDIT_TAIL_CORRUPT", tailCorrupt_ne⟩,
    (sampleRecovery kind).previousTrustedPrefix, ⟨"NONE", noStalePhase_mem⟩⟩
  recordSha256 := ⟨unarySha 0, isSha256_unaryZero⟩
  createdAtUtc := ⟨"2026-01-01T00:00:01Z", isUtc_secondEvent⟩

/-- The transaction of the recovery. -/
def sampleTransaction [Digest] (kind : RecoveryOperationKind) : Mapping where
  entries :=
    [("canonical_recovery_request", (sampleRecoveryRequest kind).toJson),
      ("canonical_recovery_result", (sampleRecoveryResult kind).toJson),
      ("created_at_utc", .str "2026-01-01T00:00:01Z"), ("idempotency_key", .str "r"),
      ("operation_id", .str "r"), ("operation_kind", kind.kind.toJson),
      ("phase_journal_index_path",
        .str "state/transactions/task-1/recovery-r/phase_segments.jsonl"),
      ("phase_journal_path", .str "state/transactions/task-1/recovery-r/phases.0001.jsonl"),
      ("planned_generation_event", (sampleRecoveryEvent kind).toJson),
      ("planned_hashes", .obj (recoveryPlannedHashKeys.map (·, .str (unarySha 0)))),
      ("planned_idempotency_record", (sampleAnswer kind).toJson),
      ("planned_quarantine_manifest", sampleManifest.toJson),
      ("planned_recovery_record", (sampleRecoveryRecord kind).toJson),
      ("planned_state", (sampleRecoveredState kind).toJson), ("schema_version", .int 1),
      ("task_id", .str "task-1"), ("transaction_id", .str "r")]
  sorted := recoveryTransactionFields_sorted

/-- What the validator makes of the transactions. -/
def sampleRecovered (kind : RecoveryOperationKind) : RecoveryTransaction where
  header := ⟨⟨"r", isSafeId_r⟩, kind, ⟨"r", isSafeId_r⟩, firstCreation.taskId, ⟨"r", sampleKey_ne⟩,
    ⟨"2026-01-01T00:00:01Z", isUtc_secondEvent⟩⟩
  canonicalRecoveryRequest := sampleRecoveryRequest kind
  canonicalRecoveryResult := sampleRecoveryResult kind
  plannedQuarantineManifest := some sampleManifest
  plannedRecoveryRecord := sampleRecoveryRecord kind
  plannedGenerationEvent := some (sampleRecoveryEvent kind)
  plannedState := some (sampleRecoveredState kind)
  plannedIdempotencyRecord := some (sampleAnswer kind)

theorem isRecovery_sampleRecoveryEvent (kind : RecoveryOperationKind) :
    (sampleRecoveryEvent kind).IsRecovery (sampleRecovery kind) where
  sequence := rfl
  generation := le_rfl
  noTransition := ⟨rfl, rfl, rfl, rfl, rfl, rfl⟩
  details := rfl
  action := (sampleAction kind).property
  eventType := by cases kind <;> decide
  startedBy := ⟨⟨nofun, fun _ => ⟨nofun, nofun, by cases kind <;> decide⟩⟩, rfl, rfl, rfl, rfl⟩
  predecessor := rfl
  predecessorHash := rfl
  quarantine := rfl

/-- The checks on the transactions as a whole. -/
theorem sampleRecovered_checked (kind : RecoveryOperationKind) :
    letI := smallestInterpreter
    (sampleRecovered kind).Checked (sampleTransaction kind) := by
  let _ := smallestInterpreter
  have hchecks : ∀ kind ∈ [RecoveryOperationKind.recovery, .rollback],
      ((sampleRecovered kind).checks (sampleTransaction kind)).toOption = some () := by
    decide +kernel
  apply RecoveryTransaction.Checked.of_checks
  · exact (validateExactMapping_eq_ok_iff recoveryTransactionFields_sorted).mpr rfl
  · simp only [validateRecoveryHeader, bind_eq_ok, requireSafeId_eq_ok, requireMember_recoveryKind,
      requireNonEmptyString_eq_ok, validateUtc_eq_ok, validateSchemaVersion_eq_ok, pure_eq_ok]
    exact ⟨(), rfl, _, rfl, kind, rfl, _, rfl, _, rfl, _, rfl, _, rfl, rfl⟩
  · exact hchecks kind (by cases kind <;> simp)

/-- Both transactions are accepted. -/
theorem sampleTransaction_accepted (kind : RecoveryOperationKind) :
    letI := smallestInterpreter
    ∃ t, validateRecoveryTransaction (sampleTransaction kind).toJson = .ok t := by
  let _ := smallestInterpreter
  refine ⟨sampleRecovered kind, validateRecoveryTransaction_eq_ok ?_ (sampleRecovered_checked kind)
    ?_ ?_ ?_ ?_ ?_ ?_ ?_⟩
  · exact ⟨rfl, rfl, rfl, rfl, rfl, rfl, rfl, rfl, rfl, rfl, rfl, rfl, rfl⟩
  · exact ⟨by cases kind <;> decide, rfl, rfl, rfl, rfl, rfl, rfl⟩
  · exact ⟨trivial, fun _ => ⟨nofun, nofun, fun _ => ⟨nofun, nofun⟩⟩, nofun⟩
  · rintro _ ⟨⟩
    rfl
  · rintro _ ⟨⟩
    refine ⟨(isRecovery_sampleRecoveryEvent kind).valid kind rfl rfl rfl, eq_ok_of_toOption ?_⟩
    cases kind <;> decide +kernel
  · rintro _ ⟨⟩
    refine ⟨⟨nofun, nofun⟩, eq_ok_of_toOption ?_⟩
    cases kind <;> decide +kernel
  · rintro _ ⟨⟩
    exact ⟨by cases kind <;> rfl, rfl, rfl, rfl, rfl, rfl,
      Json.pyEq_self (by cases kind <;> decide +kernel), by cases kind <;> decide +kernel⟩
  · exact ⟨rfl, rfl, rfl, rfl, rfl, rfl, rfl, rfl, rfl, rfl⟩

/-- What the validator reads of the transactions. -/
theorem sampleTransaction_reads (kind : RecoveryOperationKind) :
    letI := smallestInterpreter
    ∃ t p, validateRecoveryTransaction (sampleTransaction kind).toJson = .ok t ∧
      t.plannedIdempotencyRecord = some p ∧ p.toJson = (sampleAnswer kind).toJson ∧
      t.canonicalRecoveryRequest.toJson = (sampleRecoveryRequest kind).toJson ∧
      t.canonicalRecoveryResult.toJson = (sampleRecoveryResult kind).toJson ∧
      t.header.operationKind.kind = kind.kind := by
  let _ := smallestInterpreter
  obtain ⟨t, ht⟩ := sampleTransaction_accepted kind
  obtain ⟨data, hdata, hreads, -⟩ := validateRecoveryTransaction_sound ht
  obtain rfl := Mapping.toJson_injective hdata
  have hkind : (sampleTransaction kind).get "operation_kind" = .str kind.kind.name := rfl
  have hanswer := hreads.idempotencyRecord
  cases hp : t.plannedIdempotencyRecord with
  | none =>
      rw [hp] at hanswer
      exact absurd hanswer (Mapping.toJson_ne_null _)
  | some p =>
      rw [hp] at hanswer
      rw [hreads.operationKind] at hkind
      exact ⟨t, p, ht, hp, hanswer.symm, hreads.request.symm, hreads.result.symm,
        OperationKind.name_injective (Json.str.inj hkind)⟩

theorem fits_sampleAnswer (kind : RecoveryOperationKind) :
    FitsSqlite (sampleAnswer kind).toJson := by
  apply FitsSqlite.of_quickWidth
  · cases kind <;> decide +kernel
  · cases kind <;> decide +kernel

theorem fits_sampleRecoveryRequest (kind : RecoveryOperationKind) :
    FitsSqlite (sampleRecoveryRequest kind).toJson := by
  apply FitsSqlite.of_quickWidth
  · cases kind <;> decide +kernel
  · cases kind <;> decide +kernel

/-- The planned answer of the recovery is stored and returned. -/
theorem planned_answer_agrees_recovery :
    letI := smallestInterpreter
    ∃ t p data, validateRecoveryTransaction (sampleTransaction .recovery).toJson = .ok t ∧
      t.plannedIdempotencyRecord = some p ∧
      requireIdempotencyRecord (fun _ => none) p.toJson t.canonicalRecoveryRequest.toJson
        = .ok data ∧ data.toJson = p.toJson ∧
      validatedIdempotencyRow (fun _ => none) (data.row t.canonicalRecoveryRequest.toJson)
        data.target = .ok data := by
  let _ := smallestInterpreter
  obtain ⟨t, p, ht, hp, hanswer, hrequest, hresult, hkind⟩ := sampleTransaction_reads .recovery
  have hsame : p.canonicalResult = t.canonicalRecoveryResult.toJson := by
    rw [hresult]
    exact congrArg (fun m : Mapping => m.get "canonical_result") (Mapping.toJson_injective hanswer)
  have hop : t.header.operationKind = .recovery := by
    cases h : t.header.operationKind with
    | recovery => rfl
    | rollback =>
        rw [h] at hkind
        exact absurd hkind (by decide)
  obtain ⟨data, hdata⟩ := (planned_answer_agrees_iff ht hp (hanswer ▸ fits_sampleAnswer _)
    (hrequest ▸ fits_sampleRecoveryRequest _) (fun _ => none)).mpr ⟨hop, hsame, rfl⟩
  exact ⟨t, p, data, ht, hp, hdata⟩

/-- The planned answer of the rollback is refused by the store. -/
theorem rollback_answer_refused :
    letI := smallestInterpreter
    ∃ t p, validateRecoveryTransaction (sampleTransaction .rollback).toJson = .ok t ∧
      t.header.operationKind = .rollback ∧ t.plannedIdempotencyRecord = some p ∧
      FitsSqlite p.toJson ∧ FitsSqlite t.canonicalRecoveryRequest.toJson ∧
      ∀ data, requireIdempotencyRecord (fun _ => none) p.toJson t.canonicalRecoveryRequest.toJson
        ≠ .ok data := by
  let _ := smallestInterpreter
  obtain ⟨t, p, ht, hp, hanswer, hrequest, -, hkind⟩ := sampleTransaction_reads .rollback
  obtain ⟨_, -, -, hvalid⟩ := validateRecoveryTransaction_sound ht
  have hop : t.header.operationKind = .rollback := by
    cases h : t.header.operationKind with
    | rollback => rfl
    | recovery =>
        rw [h] at hkind
        exact absurd hkind (by decide)
  refine ⟨t, p, ht, hop, hp, hanswer ▸ fits_sampleAnswer _, hrequest ▸ fits_sampleRecoveryRequest _,
    fun data hdata => ?_⟩
  have haccepted := (requireIdempotencyRecord_planned_iff hvalid.same hvalid.result
    (hvalid.idempotencyRecord p hp)).mp ⟨data, hdata⟩
  rw [hop] at haccepted
  exact absurd haccepted.1 (by decide)

end Acgps
