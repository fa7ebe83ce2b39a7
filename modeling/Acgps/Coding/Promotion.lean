import Acgps.Coding.Record
import Acgps.Contracts.Completeness
import Acgps.Data.JsonCode
import Acgps.Contracts.FieldPasses

/-!
# Promotion of a candidate

The rule that makes untrusted code a candidate is written twice: the builder of a completed attempt
applies it to the observations, and the record contract applies it to the fields of a record. The
store publishes what the contract accepts.

## Main Definitions

* `AcceptedCodingRecord` - what the contract checks, block by block
* `PromotionConditions` - the conditions of the builder that a record shows
* `PromotionUnchecked` - those of them that the contract does not check

## Key Theorems

* `validateCodingExecutionRecord_eq_ok_iff` - **when a coding execution record is accepted**
* `promotionConditions_iff` - **a published candidate meets the conditions of the builder iff it
  meets those that the contract leaves out**
-/

namespace Acgps

open Checked

variable [Platform]

/-! ## Section 1: Accepted records -/

/-- What the contract checks. -/
structure AcceptedCodingRecord (data : Mapping) : Prop where
  version : data.get "schema_version" = .int 2
  fields : validateFields "" data (.ofList codingExecutionFields) = []
  noRaise : codingCheckRaises data = false
  keys : validateNoCasefoldKeyCollisions "$" data.toJson = []
  identity : codingIdentityIssues data = []
  packet : codingPacketIssues data = []
  baseline : codingBaselineIssues data = []
  executor : codingExecutorIssues data = []
  clones : codingCloneIssues data = []
  counts : codingCountIssues data = []
  capabilities : codingCapabilityIssues data = []
  prelaunch : codingPrelaunchIssues data = []
  attempt : codingAttemptIssues data = []
  process : codingProcessIssues data = []
  cloneAfter : codingCloneAfterIssues data = []
  candidate : codingCandidateIssues data = []
  hold : codingHoldIssues data = []
  diff : codingDiffIssues data = []
  outcome : codingOutcomeIssues data = []

private theorem check_eq_ok_iff {data : Mapping} (hversion : data.get "schema_version" = .int 2) :
    validateCodingExecutionRecord.check data = .ok () ↔ AcceptedCodingRecord data := by
  simp only [validateCodingExecutionRecord.check, codingConditions, bind_eq_ok, require_eq_ok,
    Except.ok.injEq, hversion, Json.asInt, Option.isSome_some, if_true, List.nil_append]
  constructor
  · rintro ⟨conditions, ⟨_, hraise, hconditions⟩, hnil⟩
    rw [← hconditions] at hnil
    simp only [List.append_eq_nil_iff, and_assoc] at hnil
    obtain ⟨hfields, hkeys, hidentity, hpacket, hbaseline, hexecutor, hclones, hcounts,
      hcapabilities, hprelaunch, hattempt, hprocess, hafter, hcandidate, hhold, hdiff,
      houtcome⟩ := hnil
    exact ⟨hversion, hfields, hraise, hkeys, hidentity, hpacket, hbaseline, hexecutor, hclones,
      hcounts, hcapabilities, hprelaunch, hattempt, hprocess, hafter, hcandidate, hhold, hdiff,
      houtcome⟩
  · intro h
    refine ⟨_, ⟨(), h.noRaise, rfl⟩, ?_⟩
    simp only [h.fields, h.keys, h.identity, h.packet, h.baseline, h.executor, h.clones, h.counts,
      h.capabilities, h.prelaunch, h.attempt, h.process, h.cloneAfter, h.candidate, h.hold, h.diff,
      h.outcome, List.append_nil]

/-- **When a coding execution record is accepted.** -/
theorem validateCodingExecutionRecord_eq_ok_iff {record : Json} :
    validateCodingExecutionRecord record = .ok () ↔
      ∃ data : Mapping, record = data.toJson ∧ AcceptedCodingRecord data := by
  unfold validateCodingExecutionRecord
  cases hdata : record.asMapping with
  | none =>
      have hne : ∀ data : Mapping, record ≠ data.toJson := by
        rintro data rfl
        simp at hdata
      simp [hne]
  | some data =>
      obtain rfl := Mapping.asMapping_eq_some.mp hdata
      have huniq : (∃ data' : Mapping, data.toJson = data'.toJson ∧ AcceptedCodingRecord data') ↔
          AcceptedCodingRecord data := by
        constructor
        · intro ⟨data', heq, h⟩
          rwa [Mapping.toJson_injective heq]
        · exact fun h => ⟨data, rfl, h⟩
      rw [huniq]
      dsimp only
      split
      next version hversion =>
        by_cases htwo : version = 2
        · subst htwo
          rw [if_pos rfl]
          exact check_eq_ok_iff hversion
        · rw [if_neg htwo]
          refine iff_of_false (by simp) (fun h => htwo ?_)
          simpa using hversion.symm.trans h.version
      next hversion =>
        have hnot : ¬ AcceptedCodingRecord data := fun h => hversion 2 h.version
        refine iff_of_false (fun h => ?_) hnot
        have hnone : (data.get "schema_version").asInt.isSome = false := by
          cases hv : data.get "schema_version" with
          | int n => exact absurd hv (hversion n)
          | _ => rfl
        simp only [validateCodingExecutionRecord.check, bind_eq_ok, require_eq_ok, hnone] at h
        obtain ⟨conditions, -, hnil⟩ := h
        simp at hnil

/-- The parts of an accepted record are mappings of their tables. -/
theorem AcceptedCodingRecord.part_fields {data part : Mapping} {name : String}
    {rows : List (String × FieldSpec)} (h : AcceptedCodingRecord data)
    (hrow : (name, .nested rows) ∈ codingExecutionFields) (hrows : rows ≠ [])
    (hpart : data.get name = part.toJson) :
    validateFields (joinPath "" name) part (.ofList rows) = [] := by
  have hfield := ((validateFields_eq_nil_iff.mp h.fields).2 _ hrow).2
  rwa [hpart, validateField_nested hrows] at hfield

/-- A field of a part of an accepted record is what its table says. -/
theorem AcceptedCodingRecord.part_accepts {data part : Mapping} {name : String}
    {rows : List (String × FieldSpec)} (h : AcceptedCodingRecord data)
    (hrow : (name, .nested rows) ∈ codingExecutionFields) (hrows : rows ≠ [])
    (hpart : data.get name = part.toJson) {row : String × FieldSpec} (hmem : row ∈ rows) :
    row.2.Accepts (part.get row.1) :=
  accepts_of_validateField_eq_nil
    ((validateFields_eq_nil_iff.mp (h.part_fields hrow hrows hpart)).2 row hmem).2

/-! ## Section 2: The conditions of the builder -/

/-- A field of a part of a record. -/
def recordField (data : Mapping) (name field : String) : Json := (data.get name).field field

/-- The operation rows of a record. -/
def recordRows (data : Mapping) : List (Mapping × Nat) :=
  ((data.get "capabilities").asMapping.map operationRows).getD []

/-- The conditions of the builder that the contract does not check: the changed paths are
authorised, a patch row comes from the file system diff and has its hash, a process row comes from
an observation of its kind, and the final response is the agent result. -/
structure PromotionUnchecked (data : Mapping) : Prop where
  authorized : ∀ path ∈ (recordField data "clone_after" "changed_paths").asList.getD [],
    path ∈ (recordField data "capabilities" "authorized_write_paths").asList.getD []
  patches : ∀ entry ∈ recordRows data, entry.1.get "class" = .str "APPROVED_FILE_PATCH" →
    entry.1.get "source" = .str "FILESYSTEM_DIFF" ∧
      entry.1.get "evidence_sha256" = recordField data "clone_after" "diff_sha256"
  checks : ∀ entry ∈ recordRows data, entry.1.get "class" = .str "LOCAL_CHECK_PROCESS" →
    entry.1.get "source" = .str "PROCESS_OBSERVATION"
  inspections : ∀ entry ∈ recordRows data,
    entry.1.get "class" = .str "GIT_READ_ONLY_INSPECTION" →
      entry.1.get "source" = .str "PROCESS_OBSERVATION" ∨ entry.1.get "source" = .str "GIT_DIFF"
  response : ∃ digest, recordField data "events" "final_response_sha256" = .str digest ∧
    recordField data "agent_result" "sha256" = .str digest

/-- The conditions of the builder that a record shows: those that the contract leaves out, no event
id on a patch row, and a created process that exited with zero. -/
structure PromotionConditions (data : Mapping) : Prop extends PromotionUnchecked data where
  eventIds : ∀ entry ∈ recordRows data, entry.1.get "class" = .str "APPROVED_FILE_PATCH" →
    entry.1.get "event_id" = .null
  created : (recordField data "process" "pid").asInt.isSome = true
  exitCode : recordField data "process" "exit_code" = .int 0

/-- What the promotion predicate of the contract says of a record. -/
structure PromotionReady (data : Mapping) : Prop where
  parts : ∀ name ∈ promotionParts, (data.get name).asMapping.isSome = true
  packet : recordField data "packet" "validation_status" = .str "PASS"
  baseline : recordField data "baseline" "unchanged" = .bool true
  prelaunch : recordField data "prelaunch" "state" = .str "PASS"
  number : isAttemptNumber (recordField data "attempt" "number") = true
  startCount : recordField data "attempt" "process_start_request_count" = .int 1
  executor : recordField data "executor" "identity_complete" = .bool true
  observations : recordField data "capabilities" "observations_complete" = .bool true
  rows : rowsPass (data.get "capabilities") = true
  changedPaths : recordField data "clone_after" "changed_paths" = Json.strs (patchPaths data)
  commit : recordField data "clone_before" "commit" = recordField data "clone_after" "commit"
  tree : recordField data "clone_before" "tree" = recordField data "clone_after" "tree"
  gitControl : recordField data "clone_before" "git_control_sha256"
    = recordField data "clone_after" "git_control_sha256"
  startRequested : recordField data "process" "start_requested" = .bool true
  exitCode : recordField data "process" "exit_code" = .int 0
  noError : recordField data "process" "error" = .null
  notTimedOut : recordField data "process" "timed_out" = .bool false
  notCancelled : recordField data "process" "cancelled" = .bool false
  terminated : recordField data "process" "all_descendants_terminated" = .bool true
  unknownCount : recordField data "events" "unknown_count" = .int 0
  prohibitedCount : recordField data "events" "prohibited_count" = .int 0
  schemaValid : recordField data "events" "output_schema_valid" = .bool true
  contractValid : recordField data "agent_result" "contract_valid" = .bool true
  claimsMatch : recordField data "agent_result" "claims_match" = .bool true
  claimedStatus : recordField data "agent_result" "claimed_status" = .str "DONE"
  candidateStatus : recordField data "candidate" "status" = .str "FROZEN_REVIEW"
  candidateId : recordField data "candidate" "candidate_id"
    = recordField data "slot" "active_candidate_after"
  diff : recordField data "candidate" "diff_sha256" = recordField data "clone_after" "diff_sha256"

omit [Platform] in
theorem promotionReady_of_coding {data : Mapping} (h : codingPromotionReady data = true) :
    PromotionReady data := by
  simp only [codingPromotionReady, Bool.and_eq_true, decide_eq_true_eq, List.all_eq_true,
    and_assoc] at h
  obtain ⟨hparts, hpacket, hbaseline, hprelaunch, hnumber, hcount, hexecutor, hobservations, hrows,
    hchanged, hcommit, htree, hgit, hstart, hexit, herror, htimed, hcancelled, hterminated, hunknown,
    hprohibited, hschema, hvalid, hmatch, hstatus, hcandidate, hid, hdiff⟩ := h
  exact ⟨hparts, hpacket, hbaseline, hprelaunch, hnumber, hcount, hexecutor, hobservations, hrows,
    hchanged, hcommit, htree, hgit, hstart, hexit, herror, htimed, hcancelled, hterminated, hunknown,
    hprohibited, hschema, hvalid, hmatch, hstatus, hcandidate, hid, hdiff⟩

omit [Platform] in
/-- The outcome that a record ready for promotion must have. -/
theorem PromotionReady.expectedOutcome {data : Mapping} (h : PromotionReady data) :
    codingExpectedOutcome data true
      = some (if recordField data "process" "pid" = .null then "ATTEMPT_FAILED"
        else "CANDIDATE_READY") := by
  have hparts : ["prelaunch", "attempt", "process", "agent_result"].all (fun name =>
      (data.get name).asMapping.isSome) = true := by
    rw [List.all_eq_true]
    intro name hmem
    apply h.parts
    revert hmem
    simp only [promotionParts, List.mem_cons, List.not_mem_nil, or_false]
    rintro (rfl | rfl | rfl | rfl) <;> simp
  have hstate := h.prelaunch
  have hnumber := h.number
  have hstart := h.startRequested
  have hexit := h.exitCode
  have herror := h.noError
  have htimed := h.notTimedOut
  have hcancelled := h.notCancelled
  have hterminated := h.terminated
  have hstatus := h.claimedStatus
  simp only [recordField] at hstate hnumber hstart hexit herror htimed hcancelled hterminated hstatus
  simp only [codingExpectedOutcome, hparts, hstate, hnumber, hstart, hexit, herror, htimed,
    hcancelled, hterminated, hstatus, recordField]
  by_cases hpid : (data.get "process").field "pid" = .null
  · simp [hpid]
  · simp [hpid, Json.asInt]

/-- An accepted candidate is ready for promotion by the predicate of the contract, and its process
was created. -/
theorem AcceptedCodingRecord.promotionReady {data : Mapping} (h : AcceptedCodingRecord data)
    (houtcome : data.get "outcome" = .str "CANDIDATE_READY") :
    PromotionReady data ∧ recordField data "process" "pid" ≠ .null := by
  have hissues := h.outcome
  simp only [codingOutcomeIssues, List.append_eq_nil_iff, issueUnless_eq_nil] at hissues
  have hready : codingPromotionReady data = true := by simpa [houtcome] using hissues.1.1
  refine ⟨promotionReady_of_coding hready, fun hnull => ?_⟩
  have hexpected := hissues.1.2
  rw [hready, (promotionReady_of_coding hready).expectedOutcome, if_pos hnull] at hexpected
  simp [houtcome] at hexpected

omit [Platform] in
/-- The part of a record that is ready for promotion. -/
theorem PromotionReady.exists_part {data : Mapping} (h : PromotionReady data) {name : String}
    (hname : name ∈ promotionParts) : ∃ part : Mapping, data.get name = part.toJson := by
  obtain ⟨part, hpart⟩ := Option.isSome_iff_exists.mp (h.parts name hname)
  exact ⟨part, Mapping.asMapping_eq_some.mp hpart⟩

/-- The operation rows of an accepted record have no issues. -/
theorem AcceptedCodingRecord.operationRow {data : Mapping} (h : AcceptedCodingRecord data)
    {entry : Mapping × Nat} (hentry : entry ∈ recordRows data) :
    operationRowIssues entry.2 entry.1 = [] := by
  cases hpart : (data.get "capabilities").asMapping with
  | none => simp [recordRows, hpart] at hentry
  | some capabilities =>
      have hissues := h.capabilities
      simp only [recordRows, hpart, Option.map_some, Option.getD_some] at hentry
      simp only [codingCapabilityIssues, whenMapping, hpart, List.append_eq_nil_iff,
        List.flatMap_eq_nil_iff] at hissues
      exact hissues.1.2 entry hentry

/-! ## Section 3: An unauthorised candidate -/

/-- A digest of zeros. -/
def zeroSha : Json := .str (unarySha 0)

/-- A Git object id of zeros. -/
def zeroOid : Json := .str (String.ofList (List.replicate 40 '0'))

/-- A timestamp of the coding records. -/
def zeroTime : Json := .str "2026-01-01T00:00:00.000Z"

/-- A drive as a path. -/
def drivePath : Json := .str "C:\\"

/-- A passing gate. -/
def passingGate (gateId : String) : Json :=
  .obj [("blocker_ids", .arr []), ("evidence_sha256", zeroSha), ("gate_id", .str gateId),
    ("status", .str "PASS")]

/-- A patch of the path `a` that is seen in the Git diff only. -/
def gitPatchRow : Json :=
  .obj [("argv", .arr []), ("class", .str "APPROVED_FILE_PATCH"), ("cwd", .null),
    ("event_id", .null), ("evidence_sha256", zeroSha), ("executable", .null),
    ("path_set", Json.strs ["a"]), ("sequence", .int 0), ("source", .str "GIT_DIFF"),
    ("status", .str "PASS")]

/-- A record of a candidate that changed the path `a`, although no path may be written. -/
def unauthorizedRecord : List (String × Json) :=
  [("agent_result", .obj [("claimed_status", .str "DONE"), ("claims_match", .bool true),
      ("contract_valid", .bool true), ("path", .null), ("sha256", .null), ("size_bytes", .int 0)]),
    ("attempt", .obj [("kind", .str "ORDINARY"), ("number", .int 1),
      ("parent_candidate_id", .null), ("process_start_request_count", .int 1),
      ("remaining_after", .int 1), ("remaining_before", .int 2), ("reserved_at_utc", zeroTime)]),
    ("baseline", .obj [("after_state_sha256", zeroSha), ("before_state_sha256", zeroSha),
      ("commit", zeroOid), ("repository_path", drivePath), ("tree", zeroOid),
      ("unchanged", .bool true)]),
    ("candidate", .obj [("candidate_id", .str "C"), ("checks_sha256", .null),
      ("diff_sha256", zeroSha), ("file_set_sha256", .null), ("parent_candidate_id", .null),
      ("promotion_predicates_passed", .bool true), ("status", .str "FROZEN_REVIEW"),
      ("version", .int 1)]),
    ("capabilities", .obj [("accepted_operation_classes", Json.strs codingOperationClasses),
      ("authorized_write_paths", .arr []), ("automatic_resume_enabled", .bool false),
      ("boundary_mode", .str "FIVE_CLASS_OPERATION_AND_PROMOTION_POLICY"),
      ("check_allowlist_sha256", zeroSha),
      ("disabled_surfaces", Json.strs codingDisabledSurfaces),
      ("effective_config_sha256", zeroSha), ("git_read_allowlist_sha256", zeroSha),
      ("hooks_enabled", .bool false), ("memories_enabled", .bool false),
      ("network_policy_sha256", zeroSha), ("observations_complete", .bool true),
      ("operation_rows", .arr [gitPatchRow]), ("shell_identity_present", .bool true)]),
    ("clone_after", .obj [("changed_paths", Json.strs ["a"]), ("commit", zeroOid),
      ("diff_sha256", zeroSha), ("file_inventory_sha256", zeroSha),
      ("git_control_sha256", zeroSha), ("index_sha256", zeroSha), ("status_sha256", zeroSha),
      ("tree", zeroOid)]),
    ("clone_before", .obj [("clean", .bool true), ("commit", zeroOid), ("detached", .bool true),
      ("file_inventory_sha256", zeroSha), ("git_control_sha256", zeroSha),
      ("independent_git", .bool true), ("index_sha256", zeroSha), ("path", drivePath),
      ("remote_count", .int 0), ("status_sha256", zeroSha), ("tree", zeroOid)]),
    ("created_at_utc", zeroTime),
    ("events", .obj [("final_response_sha256", .null), ("jsonl_sha256", .null),
      ("output_schema_valid", .bool true), ("parsed_count", .int 0), ("prohibited_count", .int 0),
      ("size_bytes", .int 0), ("unknown_count", .int 0)]),
    ("execution_id", .str "E"),
    ("executor", .obj [("approval_policy", .str "NEVER"), ("argv", Json.strs ["codex"]),
      ("auth_mode", .str "CHATGPT_SUBSCRIPTION"), ("authenticode_status", .str "VALID"),
      ("cli_version", .str "1"), ("identity_complete", .bool true), ("model", .str "gpt-5.6-sol"),
      ("path", drivePath), ("platform", .str (codingExecutorPlatformProfiles.headD "")),
      ("reasoning_effort", .str "high"), ("sandbox", .str "ISOLATED_CLONE"), ("sha256", zeroSha),
      ("signer", .str "signer"), ("size_bytes", .int 0)]),
    ("gate_id", .str "G"), ("outcome", .str "CANDIDATE_READY"),
    ("packet", .obj [("packet_id", .str "K"), ("path", .str "p"), ("role", .str "TASK_PACKET"),
      ("sha256", zeroSha), ("size_bytes", .int 0), ("validation_status", .str "PASS")]),
    ("prelaunch", .obj [("blocker_ids", .arr []), ("checked_at_utc", zeroTime),
      ("gate_rows", .arr (gateIds.map passingGate)), ("model_request_started", .bool true),
      ("process_start_requested", .bool true), ("state", .str "PASS")]),
    ("process", .obj [("all_descendants_terminated", .bool true), ("cancelled", .bool false),
      ("descendant_count", .int 0), ("ended_at_utc", zeroTime), ("error", .null),
      ("exit_code", .int 0), ("pid", .int 1), ("start_requested", .bool true),
      ("started_at_utc", zeroTime), ("stderr_sha256", zeroSha), ("stdout_sha256", zeroSha),
      ("timed_out", .bool false)]),
    ("project_id", .str "P"), ("schema_version", .int 2),
    ("slot", .obj [("active_candidate_after", .str "C"), ("active_candidate_before", .null),
      ("historical_candidate_ids", .arr []), ("slot_id", .str "S"),
      ("state_after", .str "FROZEN_REVIEW_V1"), ("state_before", .str "EMPTY")]),
    ("task_id", .str "T")]

/-- The platform under which the record is checked. -/
@[reducible] def foldingPlatform : Platform where
  canonicalSha := fun _ => unarySha 0
  taskToken := fun _ => "0000000000000000"
  fileSha := fun _ => unarySha 0
  casefold := id
  repr := fun _ => ""
  floatEq := fun _ _ => false

/-- The record as a mapping. -/
def unauthorizedCandidate : Mapping := ⟨unauthorizedRecord, by decide +kernel⟩

/-- A record of the second version keeps the field table, and no condition fails. -/
def recordPasses (record : Mapping) : Bool :=
  record.get "schema_version" = .int 2
    && keysPass record.entries (.ofList codingExecutionFields)
    && tablePasses [] record.entries (.ofList codingExecutionFields)
    && (codingConditions record).toOption = some []

/-- A record that passes is accepted. -/
theorem accepted_of_passes {record : Mapping} (h : recordPasses record = true) :
    validateCodingExecutionRecord record.toJson = .ok () := by
  simp only [recordPasses, Bool.and_eq_true, decide_eq_true_eq, and_assoc] at h
  obtain ⟨hversion, hkeys, hrows, hconditions⟩ := h
  unfold validateCodingExecutionRecord
  rw [Mapping.asMapping_toJson]
  simp only [hversion, if_true, validateCodingExecutionRecord.check,
    eq_ok_of_toOption hconditions, validateFields_eq_nil_of_passes hkeys hrows, Json.asInt,
    Option.isSome_some, List.append_nil]
  rfl

omit [Platform] in
/-- The contract accepts the record. -/
theorem unauthorizedCandidate_accepted :
    letI := foldingPlatform
    validateCodingExecutionRecord unauthorizedCandidate.toJson = .ok () := by
  let _ := foldingPlatform
  exact accepted_of_passes (by decide +kernel)

/-! ## Section 4: The two predicates -/

/-- **A published candidate meets the conditions of the builder iff it meets those that the
contract leaves out.** -/
theorem promotionConditions_iff {data : Mapping}
    (haccepted : validateCodingExecutionRecord data.toJson = .ok ())
    (houtcome : data.get "outcome" = .str "CANDIDATE_READY") :
    PromotionConditions data ↔ PromotionUnchecked data := by
  obtain ⟨data', heq, h⟩ := validateCodingExecutionRecord_eq_ok_iff.mp haccepted
  obtain rfl := Mapping.toJson_injective heq
  obtain ⟨hready, hpid⟩ := h.promotionReady houtcome
  refine ⟨PromotionConditions.toPromotionUnchecked, fun hunchecked => ⟨hunchecked, ?_, ?_,
    hready.exitCode⟩⟩
  · -- A row from a diff may not assert an event.
    intro entry hentry hclass
    have hissues := h.operationRow hentry
    simp only [operationRowIssues, List.append_eq_nil_iff, issueUnless_eq_nil] at hissues
    have hdiff := hissues.1.2
    rw [(hunchecked.patches entry hentry hclass).1] at hdiff
    simpa using hdiff
  · -- The table makes a process id that is not null an integer.
    obtain ⟨process, hprocess⟩ := hready.exists_part (show "process" ∈ promotionParts by
      simp [promotionParts])
    have haccepts := h.part_accepts (show (("process", .nested codingProcessFields) :
      String × FieldSpec) ∈ codingExecutionFields by simp [codingExecutionFields])
      (List.cons_ne_nil _ _) hprocess (show (("pid", .nullable .int) : String × FieldSpec) ∈
        codingProcessFields by simp [codingProcessFields])
    have htype := haccepts.type_ok
    rw [recordField, hprocess, Json.field_toJson] at hpid ⊢
    cases hvalue : process.get "pid" with
    | int n => rfl
    | null => exact absurd hvalue hpid
    | _ => simp [hvalue, FieldSpec.nullable, FieldSpec.expectedType, matchesExpectedType,
        PyType.accepts, Json.asMapping] at htype

omit [Platform] in
/-- The unauthorised candidate is a published one. -/
theorem promotionConditions_unauthorized :
    letI := foldingPlatform
    PromotionConditions unauthorizedCandidate ↔ PromotionUnchecked unauthorizedCandidate := by
  let _ := foldingPlatform
  exact promotionConditions_iff unauthorizedCandidate_accepted (by decide +kernel)

omit [Platform] in
/-- The contract accepts a candidate that changed a path outside the authorised ones. -/
theorem unauthorizedCandidate_published :
    letI := foldingPlatform
    validateCodingExecutionRecord unauthorizedCandidate.toJson = .ok () ∧
      unauthorizedCandidate.get "outcome" = .str "CANDIDATE_READY" ∧
      ¬ PromotionConditions unauthorizedCandidate := by
  let _ := foldingPlatform
  refine ⟨unauthorizedCandidate_accepted, by decide +kernel, fun h => ?_⟩
  have hchanged : Json.str "a" ∈
      (recordField unauthorizedCandidate "clone_after" "changed_paths").asList.getD [] := by
    decide +kernel
  have hnone : (recordField unauthorizedCandidate "capabilities"
      "authorized_write_paths").asList.getD [] = [] := by
    decide +kernel
  exact List.not_mem_nil (hnone ▸ h.authorized _ hchanged)

end Acgps
