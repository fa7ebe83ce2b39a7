import Acgps.Coding.Record
import Acgps.Data.JsonCode
import Acgps.Data.JsonText

/-!
# The gates in front of a launch

Before an executor starts, seven gates look at what was prepared for it: the packet, the slot, the
clone, the executor, its capabilities, the roots and the secrets, and that nothing has started yet.
The packet names the digest of the boundary that the executor is to run in.

## Main Definitions

* `PreflightContext` - what was prepared and observed
* `prelaunchGates` - the seven gates with their evidence
* `evaluatePrelaunch` - the rows of the gates and what blocks the launch
* `SameBoundary` - the contexts let the same executor run in the same boundary

## Key Theorems

* `evaluatePrelaunch_eq_pass_iff` - a launch is let through iff every gate passes
* `packet_fixes_boundary` - **a packet lets an executor run in one boundary only**
-/

namespace Acgps

open Checked

/-! ## Section 1: Contexts -/

/-- `ControllerBoundaryObservation`. -/
structure ControllerBoundaryObservation where
  effectiveConfigBytes : FileContent
  networkPolicyBytes : FileContent
  authorizedWritePaths : List String
  writableRoots : List String
  immutableRoots : List String
  environment : List (String × String)
  checkArgvAllowlist : List (List String)
  gitReadArgvAllowlist : List (List String)
  eventCaptureSource : String
  filesystemReconciliationSource : String
  gitReconciliationSource : String
  networkEnforcementSource : String
  processCaptureSource : String

/-- `PreflightContext`. The environment has its names in order. -/
structure PreflightContext where
  projectId : String
  packet : Mapping
  packetBytes : FileContent
  baseline : Mapping
  baselineBeforeState : FileContent
  baselineAfterState : FileContent
  slot : Mapping
  cloneBefore : Mapping
  executor : Mapping
  expectedExecutor : Mapping
  capabilities : Mapping
  baselineRoot : String
  stateRoot : String
  evidenceRoot : String
  cloneRoot : String
  evidenceDestinations : List String
  environment : List (String × String)
  checkArgvAllowlist : List (List String)
  gitReadArgvAllowlist : List (List String)
  controllerBoundaryObservation : Option ControllerBoundaryObservation
  wallClockLimitSeconds : Int
  modelRequestStarted : Bool
  processStartRequested : Bool
  environment_sorted : (environment.map Prod.fst).Pairwise (· < ·)

/-- What `pathlib` answers about the paths of a context: the parts by which paths are compared, and
the parts of the resolved path. -/
structure PathAnswers where
  parts : String → List String
  resolved : String → List String

/-- `_is_under`. -/
def PathAnswers.isUnder (paths : PathAnswers) (path root : String) : Bool :=
  (paths.resolved root).isPrefixOf (paths.resolved path)

/-- `_roots_are_separate`. -/
def PathAnswers.rootsAreSeparate (paths : PathAnswers) (cloneRoot : String) (roots : List String) :
    Bool :=
  roots.all (fun root => !paths.isUnder root cloneRoot && !paths.isUnder cloneRoot root)

/-- `==` on tuples of paths. -/
def PathAnswers.same (paths : PathAnswers) (observed expected : List String) : Bool :=
  observed.map paths.parts = expected.map paths.parts

/-! ## Section 2: Secrets -/

/-- A character matches a letter under `re.IGNORECASE`, which knows four letters beyond ASCII. -/
def matchesLetter (letter c : Char) : Bool :=
  c.toUpper = letter || (letter = 'I' && (c.toNat = 0x130 || c.toNat = 0x131))
    || (letter = 'S' && c.toNat = 0x17F) || (letter = 'K' && c.toNat = 0x212A)

/-- The text behind a word, in any case. -/
def behindWord : List Char → List Char → Option (List Char)
  | [], text => some text
  | letter :: word, c :: text => if matchesLetter letter c then behindWord word text else none
  | _ :: _, [] => none

/-- The alternatives of `(?:API[_-]?KEY|PASSWORD|SECRET|TOKEN)`. -/
def secretWords : List String :=
  ["APIKEY", "API_KEY", "API-KEY", "PASSWORD", "SECRET", "TOKEN"]

/-- `(?:API[_-]?KEY|AUTH|PASSWORD|SECRET|TOKEN)` is found. -/
def isSecretName (text : List Char) : Bool :=
  text.tails.any (fun rest =>
    ("AUTH" :: secretWords).any (fun word => (behindWord word.toList rest).isSome))

/-- `(?:API[_-]?KEY|PASSWORD|SECRET|TOKEN)\s*[:=]` is found. -/
def assignsSecret (text : List Char) : Bool :=
  text.tails.any (fun rest => secretWords.any (fun word =>
    (behindWord word.toList rest).any (fun rest =>
      match rest.dropWhile isSpace with
      | c :: _ => c = ':' || c = '='
      | [] => false)))

/-- The class `[A-Za-z0-9_-]`. -/
def isKeyChar (c : Char) : Bool := c.isAlphanum || c = '_' || c = '-'

/-- `[A-Z ]+PRIVATE KEY-----` matches here. -/
def opensKeyBlock : List Char → Bool
  | [] => false
  | c :: rest =>
      (c.isUpper || c = ' ')
        && ("PRIVATE KEY-----".toList.isPrefixOf rest || opensKeyBlock rest)

/-- `(?:sk-[A-Za-z0-9_-]{12,}|-----BEGIN [A-Z ]+PRIVATE KEY-----)` is found. -/
def holdsKey (text : List Char) : Bool :=
  text.tails.any (fun rest =>
    ("sk-".toList.isPrefixOf rest && ((rest.drop 3).take 12).length = 12
        && ((rest.drop 3).take 12).all isKeyChar)
      || ("-----BEGIN ".toList.isPrefixOf rest && opensKeyBlock (rest.drop 11)))

/-- `_contains_secret`. -/
def containsSecret (environment : List (String × String)) : Bool :=
  environment.any (fun (name, value) => isSecretName name.toList || holdsKey value.toList)

/-- `_contains_secret_bytes`, of bytes that are text. -/
def containsSecretText (text : List Char) : Bool := assignsSecret text || holdsKey text

/-- The text of a file, if its bytes are text. -/
def FileContent.text? : FileContent → Option (List Char)
  | canonicalLine record => some (record.toJson.dumps ++ ['\n'])
  | other payload _ => (String.fromUTF8? ⟨payload.toArray⟩).map String.toList

/-- `_contains_secret_bytes`: bytes that are no text count as a secret. -/
def FileContent.containsSecret (content : FileContent) : Bool :=
  match content.text? with
  | some text => containsSecretText text
  | none => true

/-! ## Section 3: The boundary that a packet binds -/

/-- `[list(argv) for argv in allowlist]`. -/
def argvJson (allowlist : List (List String)) : Json := .arr (allowlist.map Json.strs)

/-- The value whose digest is `coding_execution_binding_sha256`. -/
def codingExecutionBinding (c : PreflightContext)
    (writePaths : List String) (effectiveConfigSha256 networkPolicySha256 : String) : Json :=
  .obj [("authorized_write_paths", Json.strs writePaths),
    ("baseline", .obj [("commit", c.baseline.get "commit"),
      ("repository_path", c.baseline.get "repository_path"), ("tree", c.baseline.get "tree")]),
    ("check_argv_allowlist", argvJson c.checkArgvAllowlist),
    ("effective_config_sha256", .str effectiveConfigSha256),
    ("executor", c.expectedExecutor.toJson),
    ("git_read_argv_allowlist", argvJson c.gitReadArgvAllowlist),
    ("network_policy_sha256", .str networkPolicySha256),
    ("wall_clock_limit_seconds", .int c.wallClockLimitSeconds)]

theorem strs_injective : Function.Injective Json.strs := by
  intro values values' h
  simpa [Json.strs, List.map_inj_right] using h

theorem argvJson_injective : Function.Injective argvJson := by
  intro allowlist allowlist' h
  simpa [argvJson, List.map_inj_right fun _ _ h => strs_injective h] using h

/-- `packet_payload`, when the contract of the packet holds and its bytes are canonical. -/
def PreflightContext.packetPayload (c : PreflightContext) : Option Mapping :=
  match c.packetBytes with
  | .canonicalLine record =>
      match validateContract .agentTaskContract record.toJson with
      | .ok () => some record
      | .error _ => none
  | .other _ _ => none

/-- The word in front of the digest in a packet. -/
def bindingConstraint (digest : String) : String := "ACGPS-CODING-BINDING-SHA256:" ++ digest

theorem bindingConstraint_injective : Function.Injective bindingConstraint := by
  intro digest digest' h
  exact (String.append_right_inj _).mp h

variable [Platform]

/-- `expected_binding_constraint`, `None` when the capabilities do not say what is bound. -/
def expectedBindingConstraint (c : PreflightContext) : Option Json := do
  let writePaths ← (c.capabilities.get "authorized_write_paths").asStrings
  let config ← (c.capabilities.get "effective_config_sha256").asStr
  let network ← (c.capabilities.get "network_policy_sha256").asStr
  some (Json.strs
    [bindingConstraint (canonicalSha (codingExecutionBinding c writePaths config network))])

/-! ## Section 4: The gates -/

/-- `value in (1, 2)`. -/
def isOneOrTwo (value : Json) : Bool := value.pyEq (.int 1) || value.pyEq (.int 2)

/-- `isinstance(value, int)`, which a bool is too. -/
def Json.isIntInstance : Json → Bool
  | .int _ | .bool _ => true
  | _ => false

/-- P0: the packet is what the context says, is for its task, and binds its boundary; the baseline
did not change, and the clone is of it. -/
def identityPasses (c : PreflightContext) : Bool :=
  c.packet.get "validation_status" = .str "PASS"
    && c.packetPayload.any (fun payload =>
      payload.get "packet_id" = c.packet.get "packet_id"
        && payload.get "project_id" = .str c.projectId
        && payload.get "task_id" = c.slot.get "task_id"
        && payload.get "role" = .str "CODER"
        && payload.get "relevant_paths" = c.capabilities.get "authorized_write_paths"
        && some (payload.get "binding_constraints") = expectedBindingConstraint c)
    && c.packet.get "sha256" = .str (fileSha c.packetBytes)
    && (c.packet.get "size_bytes").pyEq (.int c.packetBytes.sizeBytes)
    && c.baseline.get "before_state_sha256" = .str (fileSha c.baselineBeforeState)
    && c.baseline.get "after_state_sha256" = .str (fileSha c.baselineAfterState)
    && c.baseline.get "unchanged" = .bool true
    && fileSha c.baselineBeforeState = fileSha c.baselineAfterState
    && (c.cloneBefore.get "commit").pyEq (c.baseline.get "commit")
    && (c.cloneBefore.get "tree").pyEq (c.baseline.get "tree")

/-- P1: the slot is empty, with attempts left. -/
def slotPasses (c : PreflightContext) : Bool :=
  let remaining := c.slot.get "remaining_attempts"
  c.slot.get "active_candidate_id" = .null && c.slot.get "reserved_attempt" = .null
    && ((c.slot.get "state" = .str "EMPTY" && isOneOrTwo remaining)
      || (c.slot.get "state" = .str "EMPTY_FOR_REMEDIATION" && remaining.pyEq (.int 1)
        && (c.slot.get "historical_candidate_ids").asList.any (fun ids => ids.length = 1)
        && (c.slot.get "remediation_authorization_id").asStr.isSome))

/-- P2: the clone stands at its root, is of the baseline, and is cut off from everything. -/
def clonePasses (paths : PathAnswers) (c : PreflightContext) : Bool :=
  (c.cloneBefore.get "path").asStr.any (fun path =>
      paths.resolved path = paths.resolved c.cloneRoot)
    && (c.cloneBefore.get "commit").pyEq (c.baseline.get "commit")
    && (c.cloneBefore.get "tree").pyEq (c.baseline.get "tree")
    && (c.cloneBefore.get "remote_count").pyEq (.int 0)
    && c.cloneBefore.get "independent_git" = .bool true
    && c.cloneBefore.get "detached" = .bool true && c.cloneBefore.get "clean" = .bool true

/-- P3: the executor is the expected one. -/
def executorPasses (c : PreflightContext) : Bool :=
  let e := c.executor
  e.toJson.pyEq c.expectedExecutor.toJson && e.get "identity_complete" = .bool true
    && e.get "authenticode_status" = .str "VALID" && (e.get "signer").asStr.isSome
    && (e.get "sha256").asStr.isSome && (e.get "size_bytes").isIntInstance
    && (e.get "cli_version").asStr.isSome
    && (e.get "argv").asList.any (fun argv => argv[1]? = some (.str "exec"))
    && e.get "model" = .str "gpt-5.6-sol" && e.get "reasoning_effort" = .str "high"
    && e.get "auth_mode" = .str "CHATGPT_SUBSCRIPTION"
    && e.get "sandbox" = .str "ISOLATED_CLONE" && e.get "approval_policy" = .str "NEVER"
    && (e.get "platform").asStr.any (· ∈ codingExecutorPlatformProfiles)
    && c.wallClockLimitSeconds = 1800

/-- P4: the capabilities are the bounded ones, and the controller has observed them. -/
def capabilitiesPass (c : PreflightContext) : Bool :=
  let k := c.capabilities
  k.get "boundary_mode" = .str "FIVE_CLASS_OPERATION_AND_PROMOTION_POLICY"
    && k.get "shell_identity_present" = .bool true
    && k.get "accepted_operation_classes" = Json.strs codingOperationClasses
    && k.get "disabled_surfaces" = Json.strs codingDisabledSurfaces
    && k.get "automatic_resume_enabled" = .bool false && k.get "hooks_enabled" = .bool false
    && k.get "memories_enabled" = .bool false && k.get "observations_complete" = .bool true
    && k.get "check_allowlist_sha256" = .str (canonicalSha (argvJson c.checkArgvAllowlist))
    && k.get "git_read_allowlist_sha256" = .str (canonicalSha (argvJson c.gitReadArgvAllowlist))
    && c.controllerBoundaryObservation.any (fun o =>
      k.get "effective_config_sha256" = .str (fileSha o.effectiveConfigBytes)
        && k.get "network_policy_sha256" = .str (fileSha o.networkPolicyBytes)
        && k.get "authorized_write_paths" = Json.strs o.authorizedWritePaths
        && o.checkArgvAllowlist = c.checkArgvAllowlist
        && o.gitReadArgvAllowlist = c.gitReadArgvAllowlist
        && o.environment = c.environment
        && o.eventCaptureSource = "CONTROLLER_EVENT_RECONCILER_V1"
        && o.filesystemReconciliationSource = "CONTROLLER_FILESYSTEM_SNAPSHOT_V1"
        && o.gitReconciliationSource = "CONTROLLER_GIT_SNAPSHOT_V1"
        && o.networkEnforcementSource = "WINDOWS_NETWORK_POLICY_OBSERVER_V1"
        && o.processCaptureSource = "WINDOWS_JOB_OBJECT_V1")

/-- P5: the roots are apart, and nothing holds a secret. -/
def rootsPass (paths : PathAnswers) (c : PreflightContext) : Bool :=
  paths.rootsAreSeparate c.cloneRoot [c.baselineRoot, c.stateRoot, c.evidenceRoot]
    && c.evidenceDestinations.all (fun path =>
      paths.isUnder path c.evidenceRoot && !paths.isUnder path c.cloneRoot)
    && c.controllerBoundaryObservation.any (fun o =>
      paths.same o.writableRoots [c.cloneRoot]
        && paths.same o.immutableRoots [c.baselineRoot, c.stateRoot, c.evidenceRoot]
        && o.networkPolicyBytes.sizeBytes ≠ 0
        && c.capabilities.get "network_policy_sha256" = .str (fileSha o.networkPolicyBytes))
    && !containsSecret c.environment && !c.packetBytes.containsSecret
    && !containsSecretText (c.executor.get "argv").dumps

/-- P6: nothing has started, and the state before is known. -/
def frozenPasses (c : PreflightContext) : Bool :=
  !c.modelRequestStarted && !c.processStartRequested
    && ["index_sha256", "status_sha256", "git_control_sha256", "file_inventory_sha256"].all
      (fun field => c.cloneBefore.get field ≠ .null)
    && c.evidenceDestinations ≠ []

/-! ## Section 5: Evidence and rows -/

/-- `p0_evidence`. -/
def identityEvidence (c : PreflightContext) : Json :=
  .obj [("after_sha256", .str (fileSha c.baselineAfterState)), ("baseline", c.baseline.toJson),
    ("before_sha256", .str (fileSha c.baselineBeforeState)),
    ("clone_commit", c.cloneBefore.get "commit"), ("clone_tree", c.cloneBefore.get "tree"),
    ("packet", c.packet.toJson), ("packet_contract_valid", .bool c.packetPayload.isSome),
    ("packet_sha256", .str (fileSha c.packetBytes)),
    ("packet_size", .int c.packetBytes.sizeBytes)]

/-- `observation_evidence`. -/
def observationEvidence (o : ControllerBoundaryObservation) : Json :=
  .obj [("authorized_write_paths", Json.strs o.authorizedWritePaths),
    ("check_argv_allowlist", argvJson o.checkArgvAllowlist),
    ("effective_config_sha256", .str (fileSha o.effectiveConfigBytes)),
    ("environment_names", Json.strs (o.environment.map Prod.fst)),
    ("event_capture_source", .str o.eventCaptureSource),
    ("filesystem_reconciliation_source", .str o.filesystemReconciliationSource),
    ("git_read_argv_allowlist", argvJson o.gitReadArgvAllowlist),
    ("git_reconciliation_source", .str o.gitReconciliationSource),
    ("immutable_roots", Json.strs o.immutableRoots),
    ("network_enforcement_source", .str o.networkEnforcementSource),
    ("network_policy_sha256", .str (fileSha o.networkPolicyBytes)),
    ("process_capture_source", .str o.processCaptureSource),
    ("writable_roots", Json.strs o.writableRoots)]

/-- A gate with what it found. -/
structure PrelaunchGate where
  gateId : String
  passed : Bool
  blockerId : String
  evidence : Json

/-- The blockers of a gate. -/
def PrelaunchGate.blockerIds (gate : PrelaunchGate) : List String :=
  if gate.passed then [] else [gate.blockerId]

omit [Platform] in
theorem gateRowFields_sorted :
    ["blocker_ids", "evidence_sha256", "gate_id", "status"].Pairwise (· < ·) := by decide +kernel

/-- `_gate_row`. -/
def PrelaunchGate.row (gate : PrelaunchGate) : Mapping where
  entries :=
    [("blocker_ids", Json.strs gate.blockerIds),
      ("evidence_sha256", .str (canonicalSha gate.evidence)), ("gate_id", .str gate.gateId),
      ("status", .str (if gate.passed then "PASS" else "HOLD"))]
  sorted := gateRowFields_sorted

/-- The gates of a context, in order. -/
def prelaunchGates (paths : PathAnswers) (c : PreflightContext) : List PrelaunchGate :=
  [⟨"P0", identityPasses c, "P0-IDENTITY-MISMATCH", identityEvidence c⟩,
    ⟨"P1", slotPasses c, "P1-SLOT-OR-BUDGET-INVALID", c.slot.toJson⟩,
    ⟨"P2", clonePasses paths c, "P2-CLONE-INVALID", c.cloneBefore.toJson⟩,
    ⟨"P3", executorPasses c, "P3-EXECUTOR-INVALID",
      .obj [("expected", c.expectedExecutor.toJson), ("observed", c.executor.toJson)]⟩,
    ⟨"P4", capabilitiesPass c, "P4-CAPABILITY-INCOMPLETE",
      .obj [("capabilities", c.capabilities.toJson),
        ("check_allowlist_sha256", .str (canonicalSha (argvJson c.checkArgvAllowlist))),
        ("git_read_allowlist_sha256", .str (canonicalSha (argvJson c.gitReadArgvAllowlist))),
        ("observation", Json.ofOption observationEvidence c.controllerBoundaryObservation)]⟩,
    ⟨"P5", rootsPass paths c, "P5-SECRET-OR-ROOT-BOUNDARY",
      .obj [("baseline_root", .str c.baselineRoot), ("clone_root", .str c.cloneRoot),
        ("environment_names", Json.strs (c.environment.map Prod.fst)),
        ("evidence_root", .str c.evidenceRoot), ("state_root", .str c.stateRoot)]⟩,
    ⟨"P6", frozenPasses c, "P6-BEFORE-STATE-NOT-FROZEN",
      .obj [("evidence_destinations", Json.strs c.evidenceDestinations),
        ("model_request_started", .bool c.modelRequestStarted),
        ("process_start_requested", .bool c.processStartRequested)]⟩]

/-- `PASS` or `HOLD`. -/
inductive GateState where
  | pass
  | hold
  deriving DecidableEq

/-- `PreflightEvaluation`. -/
structure PreflightEvaluation where
  state : GateState
  gateRows : List Mapping
  blockerIds : List String

/-- `evaluate_prelaunch`. -/
def evaluatePrelaunch (paths : PathAnswers) (c : PreflightContext) : PreflightEvaluation :=
  let gates := prelaunchGates paths c
  let blockers := gates.flatMap PrelaunchGate.blockerIds
  ⟨if blockers = [] then .pass else .hold, gates.map PrelaunchGate.row, blockers⟩

/-! ## Section 6: What a launch establishes -/

omit [Platform] in
/-- The gate passed. -/
theorem PrelaunchGate.blockerIds_eq_nil_iff {gate : PrelaunchGate} :
    gate.blockerIds = [] ↔ gate.passed = true := by
  cases h : gate.passed <;> simp [blockerIds, h]

/-- **A launch is let through iff every gate passes.** -/
theorem evaluatePrelaunch_eq_pass_iff {paths : PathAnswers} {c : PreflightContext} :
    (evaluatePrelaunch paths c).state = .pass ↔ ∀ gate ∈ prelaunchGates paths c,
      gate.passed = true := by
  simp only [← PrelaunchGate.blockerIds_eq_nil_iff, ← List.flatMap_eq_nil_iff]
  by_cases h : (prelaunchGates paths c).flatMap PrelaunchGate.blockerIds = [] <;>
    simp [evaluatePrelaunch, h]

/-- What the gates of a launch have found. -/
structure Launches (paths : PathAnswers) (c : PreflightContext) : Prop where
  identity : identityPasses c = true
  slot : slotPasses c = true
  clone : clonePasses paths c = true
  executor : executorPasses c = true
  capabilities : capabilitiesPass c = true
  roots : rootsPass paths c = true
  frozen : frozenPasses c = true

/-- What the gates find is decided gate by gate. -/
theorem launches_iff {paths : PathAnswers} {c : PreflightContext} : Launches paths c ↔
    (identityPasses c && slotPasses c && clonePasses paths c && executorPasses c
      && capabilitiesPass c && rootsPass paths c && frozenPasses c) = true := by
  simp only [Bool.and_eq_true, and_assoc]
  constructor
  · intro h
    exact ⟨h.identity, h.slot, h.clone, h.executor, h.capabilities, h.roots, h.frozen⟩
  · rintro ⟨hidentity, hslot, hclone, hexecutor, hcapabilities, hroots, hfrozen⟩
    exact ⟨hidentity, hslot, hclone, hexecutor, hcapabilities, hroots, hfrozen⟩

theorem evaluatePrelaunch_eq_pass {paths : PathAnswers} {c : PreflightContext} :
    (evaluatePrelaunch paths c).state = .pass ↔ Launches paths c := by
  rw [evaluatePrelaunch_eq_pass_iff]
  simp only [prelaunchGates, List.forall_mem_cons, List.not_mem_nil, false_imp_iff, implies_true,
    and_true]
  exact ⟨fun ⟨h₀, h₁, h₂, h₃, h₄, h₅, h₆⟩ => ⟨h₀, h₁, h₂, h₃, h₄, h₅, h₆⟩,
    fun ⟨h₀, h₁, h₂, h₃, h₄, h₅, h₆⟩ => ⟨h₀, h₁, h₂, h₃, h₄, h₅, h₆⟩⟩

/-- A launch stays one with another slot of its task that is empty. -/
theorem Launches.withSlot {paths : PathAnswers} {c : PreflightContext} (h : Launches paths c)
    {slot : Mapping} (htask : slot.get "task_id" = c.slot.get "task_id")
    (hslot : slotPasses { c with slot := slot } = true) :
    Launches paths { c with slot := slot } := by
  refine ⟨?_, hslot, h.clone, h.executor, h.capabilities, h.roots, h.frozen⟩
  rw [← h.identity]
  simp only [identityPasses, htask]
  rfl

/-- The packet of a context, as the gates accept it. -/
structure AcceptedPacket (c : PreflightContext) (payload : Mapping) : Prop where
  bytes : c.packetBytes = .canonicalLine payload
  valid : validateContract .agentTaskContract payload.toJson = .ok ()
  projectId : payload.get "project_id" = .str c.projectId
  taskId : payload.get "task_id" = c.slot.get "task_id"
  writePaths : payload.get "relevant_paths" = c.capabilities.get "authorized_write_paths"
  constraint : some (payload.get "binding_constraints") = expectedBindingConstraint c

omit [Platform] in
theorem PreflightContext.packetPayload_eq_some {c : PreflightContext} {payload : Mapping} :
    c.packetPayload = some payload ↔ c.packetBytes = .canonicalLine payload ∧
      validateContract .agentTaskContract payload.toJson = .ok () := by
  unfold packetPayload
  split
  next record hbytes =>
    rw [hbytes, FileContent.canonicalLine.injEq]
    split
    next hvalid =>
      rw [Option.some.injEq]
      refine ⟨?_, fun h => h.1⟩
      rintro rfl
      exact ⟨rfl, hvalid⟩
    next failure hvalid =>
      refine iff_of_false (by simp) ?_
      rintro ⟨rfl, hok⟩
      rw [hvalid] at hok
      cases hok
  next bytes loads hbytes => simp [hbytes]

theorem exists_acceptedPacket {c : PreflightContext} (h : identityPasses c = true) :
    ∃ payload, AcceptedPacket c payload := by
  simp only [identityPasses, Bool.and_eq_true, Option.any_eq_true, decide_eq_true_eq,
    PreflightContext.packetPayload_eq_some, and_assoc] at h
  obtain ⟨-, ⟨payload, hbytes, hvalid, -, hproject, htask, -, hpaths, hconstraint⟩, -⟩ := h
  exact ⟨payload, hbytes, hvalid, hproject, htask, hpaths, hconstraint⟩

/-- What the capabilities say that a packet binds. -/
theorem exists_of_expectedBindingConstraint {c : PreflightContext} {constraint : Json}
    (h : some constraint = expectedBindingConstraint c) : ∃ writePaths config network,
      (c.capabilities.get "authorized_write_paths").asStrings = some writePaths ∧
      c.capabilities.get "effective_config_sha256" = .str config ∧
      c.capabilities.get "network_policy_sha256" = .str network ∧
      constraint = Json.strs
        [bindingConstraint
          (canonicalSha (codingExecutionBinding c writePaths config network))] := by
  simp only [expectedBindingConstraint, Option.bind_eq_bind] at h
  obtain ⟨writePaths, hpaths, h⟩ := Option.bind_eq_some_iff.mp h.symm
  obtain ⟨config, hconfig, h⟩ := Option.bind_eq_some_iff.mp h
  obtain ⟨network, hnetwork, h⟩ := Option.bind_eq_some_iff.mp h
  exact ⟨writePaths, config, network, hpaths, Json.asStr_eq_some.mp hconfig,
    Json.asStr_eq_some.mp hnetwork, (Option.some.inj h).symm⟩

/-- Two contexts let the same executor run, on the same baseline, with the same paths to write,
commands, configuration, network policy and time, for the same task. -/
structure SameBoundary (c c' : PreflightContext) : Prop where
  projectId : c.projectId = c'.projectId
  taskId : c.slot.get "task_id" = c'.slot.get "task_id"
  writePaths : c.capabilities.get "authorized_write_paths"
    = c'.capabilities.get "authorized_write_paths"
  baseline : ∀ field ∈ ["commit", "repository_path", "tree"],
    c.baseline.get field = c'.baseline.get field
  expectedExecutor : c.expectedExecutor = c'.expectedExecutor
  executors : c.executor.toJson.pyEq c.expectedExecutor.toJson = true ∧
    c'.executor.toJson.pyEq c.expectedExecutor.toJson = true
  checks : c.checkArgvAllowlist = c'.checkArgvAllowlist
  inspections : c.gitReadArgvAllowlist = c'.gitReadArgvAllowlist
  observed : ∃ o o', c.controllerBoundaryObservation = some o ∧
    c'.controllerBoundaryObservation = some o' ∧
    fileSha o.effectiveConfigBytes = fileSha o'.effectiveConfigBytes ∧
    fileSha o.networkPolicyBytes = fileSha o'.networkPolicyBytes
  limit : c.wallClockLimitSeconds = c'.wallClockLimitSeconds

/-- The digests that the capabilities name are those of what the controller has observed. -/
theorem Launches.exists_observation {paths : PathAnswers} {c : PreflightContext}
    (h : Launches paths c) : ∃ o, c.controllerBoundaryObservation = some o ∧
      c.capabilities.get "effective_config_sha256" = .str (fileSha o.effectiveConfigBytes) ∧
      c.capabilities.get "network_policy_sha256" = .str (fileSha o.networkPolicyBytes) := by
  have hcapabilities := h.capabilities
  simp only [capabilitiesPass, Bool.and_eq_true, Option.any_eq_true, decide_eq_true_eq,
    and_assoc] at hcapabilities
  obtain ⟨-, -, -, -, -, -, -, -, -, -, o, hsome, hconfig, hnetwork, -⟩ := hcapabilities
  exact ⟨o, hsome, hconfig, hnetwork⟩

/-- The executor is the expected one. -/
theorem Launches.executor_eq {paths : PathAnswers} {c : PreflightContext} (h : Launches paths c) :
    c.executor.toJson.pyEq c.expectedExecutor.toJson = true := by
  have hexecutor := h.executor
  simp only [executorPasses, Bool.and_eq_true, and_assoc] at hexecutor
  exact hexecutor.1

/-! ## Section 7: Two attempts -/

/-- Every path is a part of its own. -/
def singleParts : PathAnswers := ⟨fun path => [path], fun path => [path]⟩

/-- The executor of an attempt. -/
def launchedExecutor : Mapping :=
  ⟨[("approval_policy", .str "NEVER"), ("argv", Json.strs ["codex", "exec"]),
    ("auth_mode", .str "CHATGPT_SUBSCRIPTION"), ("authenticode_status", .str "VALID"),
    ("cli_version", .str "1"), ("identity_complete", .bool true), ("model", .str "gpt-5.6-sol"),
    ("path", .str "C:\\"), ("platform", .str (codingExecutorPlatformProfiles.headD "")),
    ("reasoning_effort", .str "high"), ("sandbox", .str "ISOLATED_CLONE"),
    ("sha256", .str (unarySha 0)), ("signer", .str "signer"), ("size_bytes", .int 0)],
    by decide +kernel⟩

omit [Platform] in
theorem samplePacketFields_sorted :
    ["packet_id", "path", "role", "sha256", "size_bytes", "validation_status"].Pairwise
      (· < ·) := by
  decide +kernel

omit [Platform] in
theorem attemptSlotFields_sorted :
    ["active_candidate_id", "gate_id", "historical_candidate_ids", "remaining_attempts",
      "remediation_authorization_id", "reserved_attempt", "state", "task_id"].Pairwise (· < ·) := by
  decide +kernel

/-- An empty slot with attempts left. -/
def attemptSlot (remaining : Int) : Mapping :=
  ⟨[("active_candidate_id", .null), ("gate_id", .str "G"), ("historical_candidate_ids", .arr []),
    ("remaining_attempts", .int remaining), ("remediation_authorization_id", .null),
    ("reserved_attempt", .null), ("state", .str "EMPTY"), ("task_id", .str "T")],
    attemptSlotFields_sorted⟩

/-- A Git object. -/
def sampleOid : Json := .str (String.ofList (List.replicate 40 '0'))

omit [Platform] in
theorem noVariables_sorted : (([] : List (String × String)).map Prod.fst).Pairwise (· < ·) := .nil

/-- A context for an attempt on a task, which may write the path `a`. -/
def sampleAttempt (packet : FileContent) (slot : Mapping) : PreflightContext where
  projectId := "P"
  packet := ⟨[("packet_id", .str "K"), ("path", .str "p"), ("role", .str "TASK_PACKET"),
    ("sha256", .str (unarySha 0)), ("size_bytes", .int packet.sizeBytes),
    ("validation_status", .str "PASS")], samplePacketFields_sorted⟩
  packetBytes := packet
  baseline := ⟨[("after_state_sha256", .str (unarySha 0)),
    ("before_state_sha256", .str (unarySha 0)), ("commit", sampleOid),
    ("repository_path", .str "C:\\"), ("tree", sampleOid), ("unchanged", .bool true)],
    by decide +kernel⟩
  baselineBeforeState := .other [] (.error .malformed)
  baselineAfterState := .other [] (.error .malformed)
  slot := slot
  cloneBefore := ⟨[("clean", .bool true), ("commit", sampleOid), ("detached", .bool true),
    ("file_inventory_sha256", .str (unarySha 0)), ("git_control_sha256", .str (unarySha 0)),
    ("independent_git", .bool true), ("index_sha256", .str (unarySha 0)),
    ("path", .str "C:\\clone"), ("remote_count", .int 0), ("status_sha256", .str (unarySha 0)),
    ("tree", sampleOid)], by decide +kernel⟩
  executor := launchedExecutor
  expectedExecutor := launchedExecutor
  capabilities := ⟨[("accepted_operation_classes", Json.strs codingOperationClasses),
    ("authorized_write_paths", Json.strs ["a"]), ("automatic_resume_enabled", .bool false),
    ("boundary_mode", .str "FIVE_CLASS_OPERATION_AND_PROMOTION_POLICY"),
    ("check_allowlist_sha256", .str (unarySha 0)),
    ("disabled_surfaces", Json.strs codingDisabledSurfaces),
    ("effective_config_sha256", .str (unarySha 0)),
    ("git_read_allowlist_sha256", .str (unarySha 0)), ("hooks_enabled", .bool false),
    ("memories_enabled", .bool false), ("network_policy_sha256", .str (unarySha 0)),
    ("observations_complete", .bool true), ("operation_rows", .arr []),
    ("shell_identity_present", .bool true)], by decide +kernel⟩
  baselineRoot := "baseline"
  stateRoot := "state"
  evidenceRoot := "evidence"
  cloneRoot := "C:\\clone"
  evidenceDestinations := ["evidence"]
  environment := []
  checkArgvAllowlist := []
  gitReadArgvAllowlist := []
  controllerBoundaryObservation := some {
    effectiveConfigBytes := .other [] (.error .malformed)
    networkPolicyBytes := .other [0] (.error .malformed)
    authorizedWritePaths := ["a"]
    writableRoots := ["C:\\clone"]
    immutableRoots := ["baseline", "state", "evidence"]
    environment := []
    checkArgvAllowlist := []
    gitReadArgvAllowlist := []
    eventCaptureSource := "CONTROLLER_EVENT_RECONCILER_V1"
    filesystemReconciliationSource := "CONTROLLER_FILESYSTEM_SNAPSHOT_V1"
    gitReconciliationSource := "CONTROLLER_GIT_SNAPSHOT_V1"
    networkEnforcementSource := "WINDOWS_NETWORK_POLICY_OBSERVER_V1"
    processCaptureSource := "WINDOWS_JOB_OBJECT_V1" }
  wallClockLimitSeconds := 1800
  modelRequestStarted := false
  processStartRequested := false
  environment_sorted := noVariables_sorted

/-- What the packet of the attempt binds. -/
def launchedBinding : Json :=
  codingExecutionBinding (sampleAttempt (.other [] (.error .malformed)) (attemptSlot 2)) ["a"]
    (unarySha 0) (unarySha 0)

omit [Platform] in
theorem launchedPacketFields_sorted :
    ["acceptance_criteria", "binding_constraints", "interfaces_consumed", "interfaces_produced",
      "non_goals", "objective", "packet_id", "prohibited_actions", "project_id", "relevant_paths",
      "required_evidence", "required_skills", "return_schema", "role", "schema_version",
      "task_id"].Pairwise (· < ·) := by decide +kernel

/-- The packet of the attempt, with the digest that it binds. -/
def launchedPacket (digest : String) : Mapping :=
  ⟨[("acceptance_criteria", .arr []),
    ("binding_constraints", Json.strs [bindingConstraint digest]),
    ("interfaces_consumed", .arr []), ("interfaces_produced", .arr []), ("non_goals", .arr []),
    ("objective", .str "o"), ("packet_id", .str "K"), ("prohibited_actions", .arr []),
    ("project_id", .str "P"), ("relevant_paths", Json.strs ["a"]), ("required_evidence", .arr []),
    ("required_skills", .arr []), ("return_schema", .str "r"), ("role", .str "CODER"),
    ("schema_version", .int 1), ("task_id", .str "T")], launchedPacketFields_sorted⟩

omit [Platform] in
/-- A record holds a secret where its canonical text does. -/
theorem containsSecret_canonicalLine (record : Mapping) :
    (FileContent.canonicalLine record).containsSecret
      = containsSecretText (record.toJson.quickDumps ++ ['\n']) := by
  rw [Json.quickDumps_eq]
  rfl

omit [Platform] in
/-- The packet holds no secret, whichever digest it binds. -/
theorem launchedPacket_noSecret : ∀ digest ∈ [unarySha 0, unarySha 1],
    (FileContent.canonicalLine (launchedPacket digest)).containsSecret = false := by
  simp only [containsSecret_canonicalLine]
  decide +kernel

/-- The context names the size of its packet. -/
theorem sampleAttempt_sized (packet : FileContent) (slot : Mapping) :
    ((sampleAttempt packet slot).packet.get "size_bytes").pyEq
      (.int (sampleAttempt packet slot).packetBytes.sizeBytes) = true := by
  have hsize : (sampleAttempt packet slot).packet.get "size_bytes" = .int packet.sizeBytes := rfl
  rw [hsize]
  exact decide_eq_true rfl

/-- A platform that digests the values of the attempt to their positions. -/
@[reducible] def launchPlatform : Platform where
  canonicalSha := tableSha [.arr [], launchedBinding]
  taskToken := fun _ => "0000000000000000"
  fileSha := fun _ => unarySha 0
  casefold := id
  repr := fun _ => ""
  floatEq := fun _ _ => false

omit [Platform] in
/-- The first attempt passes the gates. -/
theorem firstAttempt_launches :
    letI := launchPlatform
    Launches singleParts
      (sampleAttempt (.canonicalLine (launchedPacket (unarySha 1))) (attemptSlot 2)) := by
  let _ := launchPlatform
  have hbytes : (sampleAttempt (.canonicalLine (launchedPacket (unarySha 1)))
      (attemptSlot 2)).packetBytes = .canonicalLine (launchedPacket (unarySha 1)) := rfl
  rw [launches_iff, identityPasses, rootsPass, sampleAttempt_sized, hbytes,
    launchedPacket_noSecret _ (by simp)]
  decide +kernel

omit [Platform] in
/-- The second attempt passes the gates: only its slot is another. -/
theorem secondAttempt_launches :
    letI := launchPlatform
    Launches singleParts
      (sampleAttempt (.canonicalLine (launchedPacket (unarySha 1))) (attemptSlot 1)) := by
  let _ := launchPlatform
  exact firstAttempt_launches.withSlot (by decide +kernel) (by decide +kernel)

/-! ## Section 8: The boundary of a packet -/

/-- **A packet lets an executor run in one boundary only.** Contexts that pass the gates with the
same packet agree on the task, the baseline, the executor, the paths that may be written, the
commands that may be run, the configuration, the network policy and the time limit. -/
theorem packet_fixes_boundary (hinj : Function.Injective canonicalSha) {paths paths' : PathAnswers}
    {c c' : PreflightContext} (hpass : (evaluatePrelaunch paths c).state = .pass)
    (hpass' : (evaluatePrelaunch paths' c').state = .pass)
    (hbytes : c.packetBytes = c'.packetBytes) : SameBoundary c c' := by
  have hlaunch := evaluatePrelaunch_eq_pass.mp hpass
  have hlaunch' := evaluatePrelaunch_eq_pass.mp hpass'
  obtain ⟨payload, hpacket⟩ := exists_acceptedPacket hlaunch.identity
  obtain ⟨payload', hpacket'⟩ := exists_acceptedPacket hlaunch'.identity
  -- both packets are read from the same bytes, so they bind the same digest
  obtain rfl : payload = payload' := by
    have hline := hpacket.bytes.symm.trans (hbytes.trans hpacket'.bytes)
    exact FileContent.canonicalLine.inj hline
  obtain ⟨writePaths, config, network, hpaths, hconfig, hnetwork, hconstraint⟩ :=
    exists_of_expectedBindingConstraint hpacket.constraint
  obtain ⟨writePaths', config', network', hpaths', hconfig', hnetwork', hconstraint'⟩ :=
    exists_of_expectedBindingConstraint hpacket'.constraint
  have hbinding : codingExecutionBinding c writePaths config network
      = codingExecutionBinding c' writePaths' config' network' := by
    have hdigests := strs_injective (hconstraint.symm.trans hconstraint')
    exact hinj (bindingConstraint_injective (List.cons.inj hdigests).1)
  simp only [codingExecutionBinding, Json.obj.injEq, List.cons.injEq, Prod.mk.injEq, true_and,
    and_true, Json.str.injEq, Json.int.injEq] at hbinding
  obtain ⟨-, ⟨hcommit, hrepository, htree⟩, hchecks, hconfigs, hexecutor, hinspections, hnetworks,
    hlimit⟩ := hbinding
  have hexpected := Mapping.toJson_injective hexecutor
  obtain ⟨o, hsome, hobserved, hpolicy⟩ := hlaunch.exists_observation
  obtain ⟨o', hsome', hobserved', hpolicy'⟩ := hlaunch'.exists_observation
  refine ⟨?_, hpacket.taskId.symm.trans hpacket'.taskId,
    hpacket.writePaths.symm.trans hpacket'.writePaths, ?_, hexpected, ⟨?_, ?_⟩,
    argvJson_injective hchecks, argvJson_injective hinspections,
    ⟨o, o', hsome, hsome', ?_, ?_⟩, hlimit⟩
  · exact Json.str.inj (hpacket.projectId.symm.trans hpacket'.projectId)
  · simp [hcommit, hrepository, htree]
  · exact hlaunch.executor_eq
  · rw [hexpected]
    exact hlaunch'.executor_eq
  · refine Json.str.inj ?_
    rw [← hobserved, ← hobserved', hconfig, hconfig', hconfigs]
  · refine Json.str.inj ?_
    rw [← hpolicy, ← hpolicy', hnetwork, hnetwork', hnetworks]

omit [Platform] in
/-- The second attempt with a packet runs in the boundary of the first. -/
theorem packet_fixes_boundary_attempts :
    letI := launchPlatform
    SameBoundary (sampleAttempt (.canonicalLine (launchedPacket (unarySha 1))) (attemptSlot 2))
      (sampleAttempt (.canonicalLine (launchedPacket (unarySha 1))) (attemptSlot 1)) := by
  let _ := launchPlatform
  exact packet_fixes_boundary (tableSha_injective _)
    (evaluatePrelaunch_eq_pass.mpr firstAttempt_launches)
    (evaluatePrelaunch_eq_pass.mpr secondAttempt_launches) rfl

end Acgps
