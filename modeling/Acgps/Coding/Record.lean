import Acgps.Platform

/-!
# The coding execution record

One record tells how one attempt of an executor went: what it was given, what was observed before,
while and after it ran, and what came of it. The contract checks the field tables and, across the
fields, the forms that identifiers, sizes and paths have, and what one part says of another.

## Main Definitions

* `codingExecutionFields` - the field table
* `codingPromotionReady`, `codingExpectedOutcome` - the derived promotion and outcome
* `codingConditions` - `_validate_coding_execution_record`, one definition for each of its blocks
* `validateCodingExecutionRecord` - the contract check
-/

namespace Acgps

open Checked

/-! ## Section 1: Field tables -/

/-- `CODING_OPERATION_CLASSES`. -/
def codingOperationClasses : List String :=
  ["APPROVED_FILE_PATCH", "GIT_READ_ONLY_INSPECTION", "LOCAL_CHECK_PROCESS",
    "TARGETED_TEXT_SEARCH", "WORKSPACE_READ"]

/-- `CODING_DISABLED_SURFACES`. -/
def codingDisabledSurfaces : List String :=
  ["APPS", "AUTOMATIC_RESUME", "BROWSER", "HOOKS", "MCP", "MEMORIES", "MODEL_SEARCH",
    "MULTI_AGENT", "PLUGINS"]

/-- `CODING_EXECUTOR_PLATFORM_PROFILES`. -/
def codingExecutorPlatformProfiles : List String :=
  ["WINDOWS_11_X64_NTFS_PYTHON_3_13_ELEVATED_PRIVATE_DESKTOP",
    "WINDOWS_SERVER_2022_X64_NTFS_PYTHON_3_13_ELEVATED_PRIVATE_DESKTOP"]

/-- `CODING_SLOT_STATES`. -/
def codingSlotStates : List String :=
  ["EMPTY", "ACTIVE_V1", "FROZEN_REVIEW_V1", "REJECTED_HOLD_V1", "EMPTY_FOR_REMEDIATION",
    "ACTIVE_V2", "FROZEN_REVIEW_V2"]

/-- `CODING_PACKET_FIELDS`. -/
def codingPacketFields : List (String × FieldSpec) :=
  [("packet_id", .ofType .str), ("path", .ofType .str), ("sha256", .ofType .str),
    ("size_bytes", .ofType .int), ("role", .word ["TASK_PACKET"]),
    ("validation_status", .word ["PASS", "HOLD"])]

/-- `CODING_BASELINE_FIELDS`. -/
def codingBaselineFields : List (String × FieldSpec) :=
  [("repository_path", .ofType .str), ("commit", .ofType .str), ("tree", .ofType .str),
    ("before_state_sha256", .ofType .str), ("after_state_sha256", .ofType .str),
    ("unchanged", .ofType .bool)]

/-- `CODING_SLOT_FIELDS`. -/
def codingSlotFields : List (String × FieldSpec) :=
  [("slot_id", .ofType .str), ("state_before", .word codingSlotStates),
    ("state_after", .word codingSlotStates), ("active_candidate_before", .nullable .str),
    ("active_candidate_after", .nullable .str), ("historical_candidate_ids", .strings)]

/-- `CODING_ATTEMPT_FIELDS`. -/
def codingAttemptFields : List (String × FieldSpec) :=
  [("number", .oneOf [.int, .none] [.null, .int 1, .int 2]), ("reserved_at_utc", .nullable .str),
    ("parent_candidate_id", .nullable .str),
    ("kind", .word ["PRELAUNCH", "ORDINARY", "REMEDIATION"]),
    ("remaining_before", .oneOf [.int] [.int 0, .int 1, .int 2]),
    ("remaining_after", .oneOf [.int] [.int 0, .int 1, .int 2]),
    ("process_start_request_count", .ofType .int)]

/-- `CODING_EXECUTOR_FIELDS`. -/
def codingExecutorFields : List (String × FieldSpec) :=
  [("path", .ofType .str), ("size_bytes", .nullable .int), ("sha256", .nullable .str),
    ("authenticode_status", .word ["VALID", "INVALID", "MISSING"]), ("signer", .nullable .str),
    ("cli_version", .nullable .str), ("identity_complete", .ofType .bool), ("argv", .strings),
    ("model", .word ["gpt-5.6-sol"]), ("reasoning_effort", .word ["high"]),
    ("auth_mode", .word ["CHATGPT_SUBSCRIPTION"]), ("sandbox", .word ["ISOLATED_CLONE"]),
    ("approval_policy", .word ["NEVER"]), ("platform", .word codingExecutorPlatformProfiles)]

/-- `CODING_OPERATION_ROW_FIELDS`. -/
def codingOperationRowFields : List (String × FieldSpec) :=
  [("sequence", .ofType .int), ("class", .word codingOperationClasses),
    ("source", .word ["CONTROLLER_EVENT", "PROCESS_OBSERVATION", "FILESYSTEM_DIFF", "GIT_DIFF"]),
    ("event_id", .nullable .str), ("executable", .nullable .str), ("argv", .strings),
    ("cwd", .nullable .str), ("path_set", .strings), ("status", .word ["PASS", "HOLD"]),
    ("evidence_sha256", .ofType .str)]

/-- `CODING_CAPABILITY_FIELDS`. -/
def codingCapabilityFields : List (String × FieldSpec) :=
  [("boundary_mode", .word ["FIVE_CLASS_OPERATION_AND_PROMOTION_POLICY"]),
    ("shell_identity_present", .oneOf [.bool] [.bool true]),
    ("accepted_operation_classes", .strings), ("effective_config_sha256", .nullable .str),
    ("automatic_resume_enabled", .oneOf [.bool] [.bool false]),
    ("hooks_enabled", .oneOf [.bool] [.bool false]),
    ("memories_enabled", .oneOf [.bool] [.bool false]), ("disabled_surfaces", .strings),
    ("authorized_write_paths", .strings), ("check_allowlist_sha256", .ofType .str),
    ("git_read_allowlist_sha256", .ofType .str), ("network_policy_sha256", .nullable .str),
    ("observations_complete", .ofType .bool), ("operation_rows", .items codingOperationRowFields)]

/-- `CODING_CLONE_BEFORE_FIELDS`. -/
def codingCloneBeforeFields : List (String × FieldSpec) :=
  [("path", .ofType .str), ("commit", .ofType .str), ("tree", .ofType .str),
    ("index_sha256", .ofType .str), ("status_sha256", .ofType .str),
    ("git_control_sha256", .ofType .str), ("file_inventory_sha256", .ofType .str),
    ("remote_count", .oneOf [.int] [.int 0]), ("independent_git", .oneOf [.bool] [.bool true]),
    ("detached", .oneOf [.bool] [.bool true]), ("clean", .oneOf [.bool] [.bool true])]

/-- `CODING_PRELAUNCH_GATE_FIELDS`. -/
def codingPrelaunchGateFields : List (String × FieldSpec) :=
  [("gate_id", .word ["P0", "P1", "P2", "P3", "P4", "P5", "P6"]),
    ("status", .word ["PASS", "HOLD"]), ("evidence_sha256", .ofType .str),
    ("blocker_ids", .strings)]

/-- `CODING_PRELAUNCH_FIELDS`. -/
def codingPrelaunchFields : List (String × FieldSpec) :=
  [("state", .word ["PASS", "HOLD"]), ("checked_at_utc", .ofType .str),
    ("gate_rows", .items codingPrelaunchGateFields), ("model_request_started", .ofType .bool),
    ("process_start_requested", .ofType .bool), ("blocker_ids", .strings)]

/-- `CODING_PROCESS_FIELDS`. -/
def codingProcessFields : List (String × FieldSpec) :=
  [("start_requested", .ofType .bool), ("pid", .nullable .int), ("started_at_utc", .nullable .str),
    ("ended_at_utc", .nullable .str), ("exit_code", .nullable .int), ("timed_out", .ofType .bool),
    ("cancelled", .ofType .bool), ("error", .nullable .str), ("descendant_count", .ofType .int),
    ("all_descendants_terminated", .ofType .bool), ("stdout_sha256", .nullable .str),
    ("stderr_sha256", .nullable .str)]

/-- `CODING_EVENT_FIELDS`. -/
def codingEventFields : List (String × FieldSpec) :=
  [("jsonl_sha256", .nullable .str), ("size_bytes", .ofType .int), ("parsed_count", .ofType .int),
    ("unknown_count", .ofType .int), ("prohibited_count", .ofType .int),
    ("final_response_sha256", .nullable .str), ("output_schema_valid", .ofType .bool)]

/-- `CODING_AGENT_RESULT_FIELDS`. -/
def codingAgentResultFields : List (String × FieldSpec) :=
  [("path", .nullable .str), ("sha256", .nullable .str), ("size_bytes", .ofType .int),
    ("contract_valid", .ofType .bool),
    ("claimed_status", .oneOf [.str, .none]
      [.null, .str "DONE", .str "DONE_WITH_CONCERNS", .str "NEEDS_CONTEXT", .str "BLOCKED",
        .str "FAILED"]),
    ("claims_match", .ofType .bool)]

/-- `CODING_CLONE_AFTER_FIELDS`. -/
def codingCloneAfterFields : List (String × FieldSpec) :=
  [("commit", .ofType .str), ("tree", .ofType .str), ("index_sha256", .ofType .str),
    ("status_sha256", .ofType .str), ("git_control_sha256", .ofType .str),
    ("file_inventory_sha256", .ofType .str), ("changed_paths", .strings),
    ("diff_sha256", .ofType .str)]

/-- `CODING_CANDIDATE_FIELDS`. -/
def codingCandidateFields : List (String × FieldSpec) :=
  [("candidate_id", .nullable .str), ("version", .oneOf [.int, .none] [.null, .int 1, .int 2]),
    ("status", .word ["NONE", "FROZEN_REVIEW"]), ("parent_candidate_id", .nullable .str),
    ("diff_sha256", .nullable .str), ("file_set_sha256", .nullable .str),
    ("checks_sha256", .nullable .str), ("promotion_predicates_passed", .ofType .bool)]

/-- A mapping with a table of its own, or null. -/
def FieldSpec.nullableNested (rows : List (String × FieldSpec)) : FieldSpec :=
  .mk [.dict, .none] none (.ofList rows) .nil none none

/-- `CODING_EXECUTION_FIELDS`. -/
def codingExecutionFields : List (String × FieldSpec) :=
  [("schema_version", .ofType .int), ("execution_id", .ofType .str), ("gate_id", .ofType .str),
    ("project_id", .ofType .str), ("task_id", .ofType .str), ("packet", .nested codingPacketFields),
    ("baseline", .nested codingBaselineFields), ("slot", .nested codingSlotFields),
    ("attempt", .nested codingAttemptFields), ("executor", .nested codingExecutorFields),
    ("capabilities", .nested codingCapabilityFields),
    ("clone_before", .nullableNested codingCloneBeforeFields),
    ("prelaunch", .nested codingPrelaunchFields), ("process", .nested codingProcessFields),
    ("events", .nested codingEventFields), ("agent_result", .nested codingAgentResultFields),
    ("clone_after", .nullableNested codingCloneAfterFields),
    ("candidate", .nested codingCandidateFields),
    ("outcome", .word ["PRELAUNCH_HOLD", "ATTEMPT_FAILED", "ATTEMPT_HOLD", "CANDIDATE_READY"]),
    ("created_at_utc", .ofType .str)]

/-! ## Section 2: Single values -/

/-- The class `[A-Z0-9]`. -/
def isUpperAlphanum (c : Char) : Bool := c.isUpper || c.isDigit

/-- `_is_coding_safe_id`. -/
def isCodingSafeId (s : String) : Bool :=
  match s.toList with
  | [] => false
  | c :: rest =>
      isUpperAlphanum c && rest.length ≤ 127
        && rest.all (fun c => isUpperAlphanum c || c = '_' || c = '.' || c = '-')

/-- `_is_coding_utc`: milliseconds are required. -/
def isCodingUtc (s : String) : Bool :=
  matchesTemplate isDecimal utcMillisTemplate s.toList && (strptimeUtc s.toList).isSome

/-- `re.fullmatch(r"[0-9a-f]{40}", value)`. -/
def isGitOid (s : String) : Bool := s.toList.length = 40 && s.toList.all isLowerHex

/-- A check that applies to strings only. -/
def checkStr (ok : String → Bool) (path : String) (message : Text) (value : Json) :
    List ValidationIssue :=
  match value with
  | .str s => issueUnless (ok s) path message
  | _ => []

/-- A check that applies to integers only. -/
def checkInt (limit : Int) (path : String) (message : Text) (value : Json) :
    List ValidationIssue :=
  match value with
  | .int n => issueUnless (0 ≤ n ∧ n ≤ limit) path message
  | _ => []

/-- `require_git_oid`. -/
def requireGitOid (path : String) (value : Json) : List ValidationIssue :=
  checkStr isGitOid path "expected 40-character lowercase Git object ID" value

/-- `require_size`, of a nullable field too: `None` is no integer. -/
def requireSize (path : String) (value : Json) : List ValidationIssue :=
  checkInt 9223372036854775807 path "expected Size in 0..2^63-1" value

/-- `require_count`, of a nullable field too. -/
def requireCount (path : String) (value : Json) : List ValidationIssue :=
  checkInt 2147483647 path "expected Count in 0..2^31-1" value

/-- An entry of an argument vector. -/
def isArgument : Json → Bool
  | .str s => s ≠ "" && !s.toList.contains '\x00'
  | _ => false

/-- `require_argv`. -/
def requireArgv (path : String) (allowEmpty : Bool) (value : Json) : List ValidationIssue :=
  match value with
  | .arr items =>
      issueUnless (allowEmpty || items ≠ []) path "expected nonempty direct argument vector"
        ++ issueUnless (items.all isArgument) path
          "argv entries must be nonempty strings without NUL"
  | _ => []

/-- A safe path without NUL. -/
def isStoredPath (s : String) : Bool := !s.toList.contains '\x00' && isSafeRelativePath s

/-- The strings of a list of strings. -/
def Json.asStrings (value : Json) : Option (List String) :=
  value.asList.bind (fun items => items.mapM Json.asStr)

/-- `isinstance(value, Mapping)`, with the issues of the mapping. -/
def whenMapping (value : Json) (check : Mapping → List ValidationIssue) : List ValidationIssue :=
  match value.asMapping with
  | some data => check data
  | none => []

/-- The windows path of a field. -/
def requireWindowsPath (path : String) (value : Json) : List ValidationIssue :=
  checkStr isWindowsAbsolutePath path "expected normalized absolute Windows path" value

/-- The uppercase identifier of a field. -/
def requireCodingSafeId (path : String) (value : Json) : List ValidationIssue :=
  checkStr isCodingSafeId path "expected uppercase SafeId" value

/-- The timestamp of a field. -/
def requireCodingUtc (path : String) (value : Json) : List ValidationIssue :=
  checkStr isCodingUtc path "expected UTC timestamp with millisecond precision" value

variable [Platform]

/-- `_validate_sorted_unique_relpaths`. -/
def validateSortedUniqueRelpaths (path : String) (value : Json) : List ValidationIssue :=
  match value.asStrings with
  | none => []
  | some paths =>
      issueUnless (paths.Pairwise (· < ·)) path "must be ASCII-ordered and unique"
        ++ issueUnless (paths.map casefold).Nodup path "must not contain case-fold-colliding paths"
        ++ paths.flatMap (fun item =>
          issueUnless (isStoredPath item) path [.text "unsafe relative path: ", .repr (.str item)])

/-- The keys of one mapping against case-folded collisions, behind the keys already seen. -/
def keyCollisions (path : String) (seen : List String) : List String → List ValidationIssue
  | [] => []
  | key :: rest =>
      match seen.find? (fun other => casefold other = casefold key) with
      | some previous =>
          ⟨path ++ "." ++ key, [.text "case-fold-colliding key with ", .repr (.str previous)]⟩
            :: keyCollisions path seen rest
      | none => keyCollisions path (seen ++ [key]) rest

mutual

/-- `_validate_no_casefold_key_collisions`. -/
def validateNoCasefoldKeyCollisions (path : String) : Json → List ValidationIssue
  | .obj members =>
      keyCollisions path [] (members.map Prod.fst) ++ collisionsOfMembers path members
  | .arr items => collisionsOfItems path 0 items
  | _ => []

/-- The collisions below the items of a list. -/
def collisionsOfItems (path : String) (index : Nat) : List Json → List ValidationIssue
  | [] => []
  | item :: rest =>
      validateNoCasefoldKeyCollisions (itemPath path index) item
        ++ collisionsOfItems path (index + 1) rest

/-- The collisions below the members of a mapping. -/
def collisionsOfMembers (path : String) : List (String × Json) → List ValidationIssue
  | [] => []
  | (key, value) :: rest =>
      validateNoCasefoldKeyCollisions (path ++ "." ++ key) value ++ collisionsOfMembers path rest

end

/-! ## Section 3: The blocks of the check -/

/-- The identifiers and the timestamp of the record. -/
def codingIdentityIssues (data : Mapping) : List ValidationIssue :=
  ["execution_id", "gate_id", "project_id", "task_id"].flatMap (fun fieldName =>
      requireCodingSafeId fieldName (data.get fieldName))
    ++ requireCodingUtc "created_at_utc" (data.get "created_at_utc")

/-- The path, the size and the identifier of the packet. -/
def codingPacketIssues (data : Mapping) : List ValidationIssue :=
  whenMapping (data.get "packet") (fun packet =>
    checkStr isSafeRelativePath "packet.path" "expected canonical relative path" (packet.get "path")
      ++ requireSize "packet.size_bytes" (packet.get "size_bytes")
      ++ requireCodingSafeId "packet.packet_id" (packet.get "packet_id"))

/-- The repository, the commit and the flag of the baseline. -/
def codingBaselineIssues (data : Mapping) : List ValidationIssue :=
  whenMapping (data.get "baseline") (fun baseline =>
    let before := baseline.get "before_state_sha256"
    let unchanged := before.asStr.isSome && before = baseline.get "after_state_sha256"
    requireWindowsPath "baseline.repository_path" (baseline.get "repository_path")
      ++ requireGitOid "baseline.commit" (baseline.get "commit")
      ++ requireGitOid "baseline.tree" (baseline.get "tree")
      ++ issueUnless (baseline.get "unchanged" = .bool unchanged) "baseline.unchanged"
        "must equal before-state and after-state byte equality")

/-- The path, the size, the arguments and the flag of the executor. -/
def codingExecutorIssues (data : Mapping) : List ValidationIssue :=
  whenMapping (data.get "executor") (fun executor =>
    let complete := (executor.get "size_bytes").asInt.isSome && (executor.get "sha256").asStr.isSome
      && executor.get "authenticode_status" = .str "VALID" && (executor.get "signer").asStr.isSome
      && (executor.get "cli_version").asStr.isSome
    requireWindowsPath "executor.path" (executor.get "path")
      ++ requireSize "executor.size_bytes" (executor.get "size_bytes")
      ++ requireArgv "executor.argv" false (executor.get "argv")
      ++ issueUnless (executor.get "identity_complete" = .bool complete)
        "executor.identity_complete" "must equal completeness of the observed artifact identity")

/-- The Git objects of both clones, and what the clone before has besides. -/
def codingCloneIssues (data : Mapping) : List ValidationIssue :=
  whenMapping (data.get "clone_before") (fun clone =>
      requireGitOid "clone_before.commit" (clone.get "commit")
        ++ requireGitOid "clone_before.tree" (clone.get "tree")
        ++ requireWindowsPath "clone_before.path" (clone.get "path")
        ++ requireCount "clone_before.remote_count" (clone.get "remote_count"))
    ++ whenMapping (data.get "clone_after") (fun clone =>
      requireGitOid "clone_after.commit" (clone.get "commit")
        ++ requireGitOid "clone_after.tree" (clone.get "tree"))

/-- The counts and sizes of the attempt, the process, the events and the agent result. -/
def codingCountIssues (data : Mapping) : List ValidationIssue :=
  whenMapping (data.get "attempt") (fun attempt =>
      ["remaining_before", "remaining_after", "process_start_request_count"].flatMap (fun field =>
        requireCount ("attempt." ++ field) (attempt.get field)))
    ++ whenMapping (data.get "process") (fun process =>
      requireCount "process.pid" (process.get "pid")
        ++ requireCount "process.descendant_count" (process.get "descendant_count"))
    ++ whenMapping (data.get "events") (fun events =>
      requireSize "events.size_bytes" (events.get "size_bytes")
        ++ ["parsed_count", "unknown_count", "prohibited_count"].flatMap (fun field =>
          requireCount ("events." ++ field) (events.get field)))
    ++ whenMapping (data.get "agent_result") (fun agentResult =>
      requireSize "agent_result.size_bytes" (agentResult.get "size_bytes"))

/-- A class of `LOCAL_CHECK_PROCESS` and `GIT_READ_ONLY_INSPECTION`. -/
def isProcessClass (operationClass : Json) : Bool :=
  operationClass = .str "LOCAL_CHECK_PROCESS" || operationClass = .str "GIT_READ_ONLY_INSPECTION"

/-- The path of an operation row. -/
def operationRowPath (index : Nat) : String := itemPath "capabilities.operation_rows" index

/-- The checks on one operation row. -/
def operationRowIssues (index : Nat) (row : Mapping) : List ValidationIssue :=
  let path := operationRowPath index
  let operationClass := row.get "class"
  let source := row.get "source"
  requireCount (path ++ ".sequence") (row.get "sequence")
    ++ requireArgv (path ++ ".argv") (!isProcessClass operationClass) (row.get "argv")
    ++ requireWindowsPath (path ++ ".executable") (row.get "executable")
    ++ requireWindowsPath (path ++ ".cwd") (row.get "cwd")
    ++ issueUnless (row.get "sequence" = .int index) (path ++ ".sequence")
      "must be contiguous from zero"
    ++ validateSortedUniqueRelpaths (path ++ ".path_set") (row.get "path_set")
    ++ issueUnless (!((source = .str "CONTROLLER_EVENT" || source = .str "PROCESS_OBSERVATION")
        && row.get "event_id" = .null)) (path ++ ".event_id")
      "event and process observations require an event identity"
    ++ issueUnless (!((source = .str "FILESYSTEM_DIFF" || source = .str "GIT_DIFF")
        && row.get "event_id" ≠ .null)) (path ++ ".event_id")
      "derived diff rows cannot assert an event identity"
    ++ if isProcessClass operationClass then
        issueUnless ((row.get "executable").asStr.isSome && (row.get "argv").isNonEmptyList
          && (row.get "cwd").asStr.isSome) path "process classes require executable, argv, and cwd"
      else
        issueUnless (row.get "executable" = .null && row.get "argv" = .arr []
          && row.get "cwd" = .null) path
          "nonprocess classes require null process identity and empty argv"

/-- `capabilities.operation_rows`, as mappings with their positions. -/
def operationRows (capabilities : Mapping) : List (Mapping × Nat) :=
  (((capabilities.get "operation_rows").asList.getD []).zipIdx).filterMap (fun (row, index) =>
    row.asMapping.map (·, index))

/-- The paths of the approved patch rows, with repetitions. -/
def patchOccurrences (capabilities : Mapping) : List String :=
  (operationRows capabilities).flatMap (fun (row, _) =>
    if row.get "class" = .str "APPROVED_FILE_PATCH" then
      ((row.get "path_set").asList.getD []).filterMap Json.asStr
    else [])

/-- The word lists, the flag and the rows of the capabilities. -/
def codingCapabilityIssues (data : Mapping) : List ValidationIssue :=
  whenMapping (data.get "capabilities") (fun capabilities =>
    let classes := capabilities.get "accepted_operation_classes"
    let surfaces := capabilities.get "disabled_surfaces"
    let complete := (capabilities.get "effective_config_sha256").asStr.isSome
      && (capabilities.get "network_policy_sha256").asStr.isSome
      && capabilities.get "automatic_resume_enabled" = .bool false
      && capabilities.get "hooks_enabled" = .bool false
      && capabilities.get "memories_enabled" = .bool false
      && classes = Json.strs codingOperationClasses
      && surfaces = Json.strs codingDisabledSurfaces
    issueUnless (classes = Json.strs codingOperationClasses)
        "capabilities.accepted_operation_classes"
        "must equal the exact five-class ASCII-ordered universe"
      ++ issueUnless (surfaces = Json.strs codingDisabledSurfaces) "capabilities.disabled_surfaces"
        "must equal the exact disabled-surface universe"
      ++ validateSortedUniqueRelpaths "capabilities.authorized_write_paths"
        (capabilities.get "authorized_write_paths")
      ++ issueUnless (capabilities.get "observations_complete" = .bool complete)
        "capabilities.observations_complete"
        "must equal the completeness of the recorded capability observations"
      ++ (operationRows capabilities).flatMap (fun (row, index) => operationRowIssues index row)
      ++ issueUnless (patchOccurrences capabilities).Nodup "capabilities.operation_rows"
        "approved patch paths must have exact one-row coverage")

/-- The identifiers of the gates. -/
def gateIds : List String := ["P0", "P1", "P2", "P3", "P4", "P5", "P6"]

/-- The gates of the prelaunch check. -/
def codingPrelaunchIssues (data : Mapping) : List ValidationIssue :=
  whenMapping (data.get "prelaunch") (fun prelaunch =>
    let rows := (prelaunch.get "gate_rows").asList.getD []
    let ids := rows.map (fun row => (row.asMapping.map (·.get "gate_id")).getD .null)
    let passes (row : Json) : Bool :=
      match row.asMapping with
      | some row => row.get "status" = .str "PASS" && row.get "blocker_ids" = .arr []
      | none => true
    requireCodingUtc "prelaunch.checked_at_utc" (prelaunch.get "checked_at_utc")
      ++ if (prelaunch.get "gate_rows").asList.isSome && ids = gateIds.map .str then
          issueUnless (!(prelaunch.get "state" = .str "PASS")
            || (rows.all passes && prelaunch.get "blocker_ids" = .arr [])) "prelaunch.state"
            "PASS requires seven passing rows and no blockers"
        else [⟨"prelaunch.gate_rows", "must contain exactly P0 through P6 in order"⟩])

/-- `value in (1, 2)`. -/
def isAttemptNumber (value : Json) : Bool := value = .int 1 || value = .int 2

/-- The number, the kind and the budget of the attempt. -/
def codingAttemptIssues (data : Mapping) : List ValidationIssue :=
  whenMapping (data.get "attempt") (fun attempt =>
    let number := attempt.get "number"
    let kind := attempt.get "kind"
    let before := attempt.get "remaining_before"
    let after := attempt.get "remaining_after"
    let reservedAt := attempt.get "reserved_at_utc"
    let parentId := attempt.get "parent_candidate_id"
    let startCount := attempt.get "process_start_request_count"
    (if kind = .str "PRELAUNCH" then
        issueUnless (number = .null && reservedAt = .null && parentId = .null) "attempt.kind"
            "PRELAUNCH must not reserve an attempt"
          ++ issueUnless (after = before) "attempt.remaining_after"
            "PRELAUNCH must not consume budget"
          ++ issueUnless (startCount = .int 0) "attempt.process_start_request_count"
            "PRELAUNCH cannot request a process start"
      else if isAttemptNumber number then
        issueUnless (before.asInt.any (fun n => after = .int (n - 1))) "attempt.remaining_after"
            "a reserved attempt must decrement the budget exactly once"
          ++ issueUnless (reservedAt.asStr.any isCodingUtc) "attempt.reserved_at_utc"
            "a reserved attempt requires a millisecond UTC timestamp"
          ++ issueUnless (!(kind = .str "ORDINARY" && parentId ≠ .null))
            "attempt.parent_candidate_id" "ORDINARY attempts have no parent"
          ++ issueUnless (!(kind = .str "REMEDIATION"
              && (number ≠ .int 2 || !parentId.asStr.isSome))) "attempt.kind"
            "REMEDIATION requires Attempt 2 and a parent candidate"
          ++ issueUnless (startCount = .int 1) "attempt.process_start_request_count"
            "a reserved attempt requires exactly one process-start request"
      else
        [⟨"attempt.number",
          "attempt number is null exactly for PRELAUNCH and otherwise one or two"⟩])
      ++ checkInt 1 "attempt.process_start_request_count" "must be zero or one" startCount)

/-- The fields of the process that its form decides: nothing ran, a process was created, or the
creation failed. -/
def codingProcessIssues (data : Mapping) : List ValidationIssue :=
  whenMapping (data.get "process") (fun process =>
    let mustBeNull (message : Text) (fields : List String) :=
      fields.flatMap (fun field =>
        issueUnless (process.get field = .null) ("process." ++ field) message)
    if process.get "start_requested" = .bool false then
      mustBeNull "must be null when no process start was requested"
        ["pid", "started_at_utc", "ended_at_utc", "exit_code", "error", "stdout_sha256",
          "stderr_sha256"]
    else if (process.get "pid").asInt.isSome then
      ["started_at_utc", "ended_at_utc", "stdout_sha256", "stderr_sha256"].flatMap (fun field =>
          issueUnless (process.get field ≠ .null) ("process." ++ field)
            "must be present for a created process")
        ++ ["started_at_utc", "ended_at_utc"].flatMap (fun field =>
          requireCodingUtc ("process." ++ field) (process.get field))
    else if process.get "start_requested" = .bool true then
      issueUnless (!(process.get "error").isNoneOrEmpty) "process.error"
          "process creation failure requires a nonempty error"
        ++ mustBeNull "must be null when process creation fails"
          ["started_at_utc", "ended_at_utc", "exit_code", "stdout_sha256", "stderr_sha256"]
    else [])

/-- `sorted(set(values))`. -/
def sortedSet (values : List String) : List String := values.dedup.insertionSort (· ≤ ·)

/-- The paths of the approved patch rows of a record. -/
def patchPaths (data : Mapping) : List String :=
  sortedSet (((data.get "capabilities").asMapping.map patchOccurrences).getD [])

/-- What the clone after must share with the clone before, and its changed paths. -/
def codingCloneAfterIssues (data : Mapping) : List ValidationIssue :=
  whenMapping (data.get "clone_after") (fun after =>
    whenMapping (data.get "clone_before") (fun before =>
        ["commit", "tree", "git_control_sha256"].flatMap (fun field =>
          issueUnless (after.get field = before.get field) ("clone_after." ++ field)
            [.text "must equal clone_before.", .text field]))
      ++ validateSortedUniqueRelpaths "clone_after.changed_paths" (after.get "changed_paths")
      ++ issueUnless (after.get "changed_paths" = Json.strs (patchPaths data))
        "clone_after.changed_paths" "must exactly equal paths covered by approved patch rows")

/-- What a frozen candidate says of its slot and of the attempt. -/
def codingCandidateIssues (data : Mapping) : List ValidationIssue :=
  whenMapping (data.get "candidate") (fun candidate =>
    whenMapping (data.get "slot") (fun slot =>
      let parent := candidate.get "parent_candidate_id"
      let attempt := data.get "attempt"
      if candidate.get "status" = .str "FROZEN_REVIEW" then
        issueUnless (slot.get "active_candidate_after" = candidate.get "candidate_id")
            "slot.active_candidate_after" "must equal the frozen candidate identity"
          ++ issueUnless (!(candidate.get "version" = .int 1)
              || (parent = .null && slot.get "state_before" = .str "EMPTY"
                && slot.get "state_after" = .str "FROZEN_REVIEW_V1"
                && slot.get "historical_candidate_ids" = .arr []))
            "candidate.version" "Candidate v1 must derive from the EMPTY slot"
          ++ issueUnless (!(candidate.get "version" = .int 2)
              || (parent.asStr.isSome && attempt.field "number" = .int 2
                && attempt.field "kind" = .str "REMEDIATION"
                && attempt.field "parent_candidate_id" = parent
                && slot.get "state_before" = .str "EMPTY_FOR_REMEDIATION"
                && slot.get "state_after" = .str "FROZEN_REVIEW_V2"
                && slot.get "historical_candidate_ids" = .arr [parent]))
            "candidate.version" "Candidate v2 requires the sole authorized remediation transition"
      else []))

/-- What a prelaunch hold forbids. -/
def codingHoldIssues (data : Mapping) : List ValidationIssue :=
  whenMapping (data.get "prelaunch") (fun prelaunch =>
    if prelaunch.get "state" = .str "HOLD" then
      issueUnless (prelaunch.get "model_request_started" = .bool false)
          "prelaunch.model_request_started" "must be false when prelaunch state is HOLD"
        ++ issueUnless (prelaunch.get "process_start_requested" = .bool false)
          "prelaunch.process_start_requested" "must be false when prelaunch state is HOLD"
        ++ whenMapping (data.get "process") (fun process =>
          issueUnless (process.get "start_requested" = .bool false) "process.start_requested"
            "must be false when prelaunch state is HOLD")
    else [])

/-- The diff of a frozen candidate. -/
def codingDiffIssues (data : Mapping) : List ValidationIssue :=
  whenMapping (data.get "candidate") (fun candidate =>
    whenMapping (data.get "clone_after") (fun after =>
      issueUnless (!(candidate.get "status" = .str "FROZEN_REVIEW")
        || candidate.get "diff_sha256" = after.get "diff_sha256") "candidate.diff_sha256"
        "must equal clone_after.diff_sha256"))

/-! ## Section 4: Promotion and outcome -/

/-- The parts of a record that the promotion looks at. -/
def promotionParts : List String :=
  ["packet", "baseline", "slot", "attempt", "executor", "capabilities", "clone_before",
    "prelaunch", "process", "events", "agent_result", "clone_after", "candidate"]

/-- Every operation row is a mapping that passed, in sequence. -/
def rowsPass (capabilities : Json) : Bool :=
  match (capabilities.field "operation_rows").asList with
  | some rows =>
      rows.zipIdx.all (fun (row, index) =>
        row.asMapping.isSome && row.field "status" = .str "PASS"
          && row.field "sequence" = .int index)
  | none => false

/-- `_coding_promotion_ready`. -/
def codingPromotionReady (data : Mapping) : Bool :=
  let part (name field : String) : Json := (data.get name).field field
  promotionParts.all (fun name => (data.get name).asMapping.isSome)
    && part "packet" "validation_status" = .str "PASS"
    && part "baseline" "unchanged" = .bool true
    && part "prelaunch" "state" = .str "PASS"
    && isAttemptNumber (part "attempt" "number")
    && part "attempt" "process_start_request_count" = .int 1
    && part "executor" "identity_complete" = .bool true
    && part "capabilities" "observations_complete" = .bool true
    && rowsPass (data.get "capabilities")
    && part "clone_after" "changed_paths" = Json.strs (patchPaths data)
    && part "clone_before" "commit" = part "clone_after" "commit"
    && part "clone_before" "tree" = part "clone_after" "tree"
    && part "clone_before" "git_control_sha256" = part "clone_after" "git_control_sha256"
    && part "process" "start_requested" = .bool true
    && part "process" "exit_code" = .int 0
    && part "process" "error" = .null
    && part "process" "timed_out" = .bool false
    && part "process" "cancelled" = .bool false
    && part "process" "all_descendants_terminated" = .bool true
    && part "events" "unknown_count" = .int 0
    && part "events" "prohibited_count" = .int 0
    && part "events" "output_schema_valid" = .bool true
    && part "agent_result" "contract_valid" = .bool true
    && part "agent_result" "claims_match" = .bool true
    && part "agent_result" "claimed_status" = .str "DONE"
    && part "candidate" "status" = .str "FROZEN_REVIEW"
    && part "candidate" "candidate_id" = part "slot" "active_candidate_after"
    && part "candidate" "diff_sha256" = part "clone_after" "diff_sha256"

/-- `_coding_expected_outcome`. -/
def codingExpectedOutcome (data : Mapping) (promotionReady : Bool) : Option String :=
  let part (name field : String) : Json := (data.get name).field field
  if !(["prelaunch", "attempt", "process", "agent_result"].all fun name =>
      (data.get name).asMapping.isSome) then none
  else if part "prelaunch" "state" = .str "HOLD" then some "PRELAUNCH_HOLD"
  else if !isAttemptNumber (part "attempt" "number") then none
  else if part "process" "start_requested" ≠ .bool true || part "process" "pid" = .null
      || part "process" "error" ≠ .null || part "process" "timed_out" = .bool true
      || part "process" "cancelled" = .bool true
      || part "process" "all_descendants_terminated" ≠ .bool true
      || (part "process" "exit_code").asInt.any (· ≠ 0)
      || part "agent_result" "claimed_status" = .str "FAILED" then some "ATTEMPT_FAILED"
  else if promotionReady then some "CANDIDATE_READY"
  else some "ATTEMPT_HOLD"

/-- The fields of a candidate that is none. -/
def isNoneCandidate (candidate : Mapping) : Bool :=
  ["candidate_id", "version", "parent_candidate_id", "diff_sha256", "file_set_sha256",
      "checks_sha256"].all (fun field => candidate.get field = .null)
    && candidate.get "status" = .str "NONE"

/-- The outcome and the candidate against what is derived. -/
def codingOutcomeIssues (data : Mapping) : List ValidationIssue :=
  let promotionReady := codingPromotionReady data
  issueUnless (!(data.get "outcome" = .str "CANDIDATE_READY" && !promotionReady)) "outcome"
      "CANDIDATE_READY requires all promotion predicates"
    ++ (match codingExpectedOutcome data promotionReady with
      | some expected =>
          issueUnless (data.get "outcome" = .str expected) "outcome"
            [.text "must equal the derived terminal outcome ", .text expected]
      | none => [])
    ++ whenMapping (data.get "candidate") (fun candidate =>
      issueUnless (candidate.get "promotion_predicates_passed" = .bool promotionReady)
          "candidate.promotion_predicates_passed" "must equal the derived promotion predicate"
        ++ issueUnless (promotionReady || isNoneCandidate candidate) "candidate"
          "non-promotable outcomes require the exact NONE candidate form")

/-! ## Section 5: The contract check -/

/-- The places where the check is an error of the interpreter: a class or a source that cannot be
looked up in a set, and a budget that is no number. Each has the wrong type as well. -/
def codingCheckRaises (data : Mapping) : Bool :=
  let rows := ((data.get "capabilities").asMapping.map operationRows).getD []
  let attempt := data.get "attempt"
  rows.any (fun (row, _) =>
      (row.get "class").isUnhashable || (row.get "source").isUnhashable)
    || (attempt.asMapping.isSome && attempt.field "kind" ≠ .str "PRELAUNCH"
      && isAttemptNumber (attempt.field "number")
      && match attempt.field "remaining_before" with
        | .int _ | .bool _ | .float _ => false
        | _ => true)

/-- `_validate_coding_execution_record`. The issues stand block by block. -/
def codingConditions (data : Mapping) : Outcome (List ValidationIssue) := do
  require (codingCheckRaises data = false) (.interpreter "TypeError" "unsupported operand")
  .ok (validateNoCasefoldKeyCollisions "$" data.toJson
    ++ codingIdentityIssues data ++ codingPacketIssues data ++ codingBaselineIssues data
    ++ codingExecutorIssues data ++ codingCloneIssues data ++ codingCountIssues data
    ++ codingCapabilityIssues data ++ codingPrelaunchIssues data ++ codingAttemptIssues data
    ++ codingProcessIssues data ++ codingCloneAfterIssues data ++ codingCandidateIssues data
    ++ codingHoldIssues data ++ codingDiffIssues data ++ codingOutcomeIssues data)

/-- `validate_contract("coding_execution_record", data)`: version 2 is the only one. -/
def validateCodingExecutionRecord (data : Json) : Outcome Unit :=
  match data.asMapping with
  | none => .error (.contractValidation "coding_execution_record" [⟨"$", "expected mapping"⟩])
  | some data =>
      match data.get "schema_version" with
      | .int version =>
          if version = 2 then check data
          else .error (.unsupportedContractVersion "coding_execution_record" version)
      | _ => check data
where
  check (data : Mapping) : Outcome Unit := do
    let conditions ← codingConditions data
    let issues := (if (data.get "schema_version").asInt.isSome then []
        else [⟨"schema_version",
          ["expected int, got ", (data.get "schema_version").typeName].map Piece.text⟩])
      ++ validateFields "" data (.ofList codingExecutionFields) ++ conditions
    require (issues = []) (.contractValidation "coding_execution_record" issues)

end Acgps
