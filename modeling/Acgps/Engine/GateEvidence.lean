import Acgps.Engine.EvidenceFiles
import Acgps.Engine.GateChecks

/-!
# The evidence of the gates

One validator for each kind of evidence. Each reads the files it was given, and what the audit log
binds, and returns the snapshots of the bytes that it checked; the two kinds that only take findings
return none.

## Main Definitions

* `validateReviewFindings`, `validateFixRequiredFindings`, `validateReleaseCandidateManifest` - the
  checks of the review adapter
* `currentFixCycleBlockers` - the findings and failures that the current fix cycle has to close
* `validateGateEvidence` - the validator of the kind that a gate needs
-/

namespace Acgps

open Checked History Interleaving

variable [Platform]

/-! ## Section 1: The review adapter -/

/-- `raise ReviewEvidenceError(message)`. -/
def reviewError (message : Text) : Failure := .reviewEvidence message

/-- `_validate_record`. -/
def validateReviewRecord (contract : Contract) (record : Mapping) (name : String) : Outcome Unit :=
  mapError (fun failure => match failure with
    | .contractValidation _ _ => reviewError
        ([.text "invalid ", .text contract.name, .text " at ", .text name, .text ": "]
          ++ failure.str)
    | other => other) (validateContract contract record.toJson)

/-- `_read_mapping` on the bytes of a file. -/
def loadReviewMapping (content : FileContent) (name : String) : Outcome Mapping := do
  let value ← mapError (fun failure => match failure with
    | .undecodable => .interpreter "UnicodeDecodeError" "'utf-8' codec can't decode bytes"
    | .malformed => reviewError [.text "evidence is unreadable: ", .text name]) content.loads
  expect value.asMapping (reviewError [.text "evidence must be a mapping: ", .text name])

/-- `_read_mapping`: links and files outside the trees are read too. -/
def readReviewMapping (engine : Engine) (path : EvidencePath) : EngineQuery Mapping :=
  Query.read (fun w =>
    match ((w.files engine.projectRoot).entry path).target with
    | .missing | .notRegular =>
        .error (reviewError [.text "evidence is unreadable: ", .text (engine.pathText path)])
    | .file _ _ content => loadReviewMapping content (engine.pathText path))

/-- `_relative_regular_file`, with the bytes of the file. -/
def relativeRegularFile (engine : Engine) (path : EvidencePath) :
    EngineQuery (String × FileContent) :=
  Query.read (fun w =>
    let entry := (w.files engine.projectRoot).entry path
    let name := engine.pathText path
    let irregular := reviewError
      [.text "evidence file must be a regular file under output_dir: ", .text name]
    match entry.target with
    | .missing => .error (reviewError [.text "required evidence file is missing: ", .text name])
    | .notRegular => .error irregular
    | .file resolved _ content => do
        require (entry.isSymlink = false ∧ entry.withinParent = true) irregular
        return (resolved, content))

/-- One turn of the loop of `validate_review_findings`. -/
def readReviewFinding (engine : Engine) (path : EvidencePath) : EngineQuery Mapping := do
  let record ← readReviewMapping engine path
  Query.lift (validateReviewRecord .reviewFinding record (engine.pathText path))
  Query.lift (require (isOpenBlocking record = false)
    (reviewError [.text "blocking review finding remains open: ",
      .text (record.word "finding_id")]))
  return record

/-- `validate_review_findings`. -/
def validateReviewFindings (engine : Engine) (paths : List EvidencePath) :
    EngineQuery (List Mapping) := do
  let records ← paths.mapM (readReviewFinding engine)
  Query.lift (require (records ≠ []) (reviewError "at least one review finding is required"))
  return records

/-- `validate_fix_required_findings`. -/
def validateFixRequiredFindings (engine : Engine) (paths : List EvidencePath) :
    EngineQuery (List Mapping) := do
  let records ← paths.mapM (fun path => do
    let record ← readReviewMapping engine path
    Query.lift (validateReviewRecord .reviewFinding record (engine.pathText path))
    return record)
  Query.lift (require (records.any isCurrentFixBlocker = true)
    (reviewError "FIX_REQUIRED requires an accepted open P0 or P1 review finding"))
  return records

/-- The artifacts of a manifest: the source and the builds. -/
def manifestArtifacts (manifest : Mapping) : List Json :=
  manifest.get "source_artifact" :: (manifest.get "build_artifacts").asList.getD []

/-- The string in a field of a value that a contract has accepted. -/
def Json.word (value : Json) (field : String) : String := (value.field field).asStr.getD ""

/-- The fields of a manifest that are checked before any file is looked at. -/
def validateManifestFields (manifest : Mapping) (name : String) (current : WorkflowTaskState) :
    Outcome Unit := do
  validateReviewRecord .releaseCandidateManifest manifest name
  require (manifest.get "status" = .str "RC_READY")
    (reviewError "release candidate manifest status must be RC_READY")
  require (manifest.get "human_release_authorization" = .null)
    (reviewError "RC_READY must not claim human release authorization")
  require (manifest.get "project_id" = .str current.projectId.val)
    (reviewError "release candidate project_id does not match the current project")
  require ((manifest.get "verification_records").isFalsy = false ∧
      (manifest.get "review_closures").isFalsy = false)
    (reviewError "RC_READY requires verification and independent review evidence")

/-- An artifact has the digest that the manifest states. -/
def validateArtifact (engine : Engine) (manifestPath : EvidencePath) (artifact : Json) :
    EngineQuery Unit := do
  let (_, content) ← relativeRegularFile engine (.sibling manifestPath (artifact.word "path"))
  Query.lift (require (.str (fileSha content) = artifact.field "sha256")
    (reviewError [.text "artifact hash mismatch: ", .text (artifact.word "path")]))

/-- A verification record that a manifest names. -/
def validateManifestVerification (engine : Engine) (manifest : Mapping)
    (manifestPath : EvidencePath) (current : WorkflowTaskState) (relativePath : String) :
    EngineQuery Unit := do
  let (resolved, content) ← relativeRegularFile engine (.sibling manifestPath relativePath)
  let record ← Query.lift (loadReviewMapping content resolved)
  Query.lift (validateReviewRecord .verificationRecord record resolved)
  Query.lift (require (record.get "recommendation" = .str "VERIFIED")
    (reviewError "verification evidence no longer recommends VERIFIED"))
  Query.lift (require (record.get "project_id" = manifest.get "project_id")
    (reviewError "verification evidence project_id does not match the manifest"))
  Query.lift (require (record.get "task_id" = .str current.taskId.val)
    (reviewError "verification evidence task_id does not match the current task"))

/-- `validate_release_candidate_manifest`, for the current task. -/
def validateReleaseCandidateManifest (engine : Engine) (manifest : Mapping)
    (manifestPath : EvidencePath) (current : WorkflowTaskState) : EngineQuery Unit := do
  Query.lift (validateManifestFields manifest (engine.pathText manifestPath) current)
  forM (manifestArtifacts manifest) (validateArtifact engine manifestPath)
  forM (manifest.get "verification_records").strings
    (validateManifestVerification engine manifest manifestPath current)
  let _ ← validateReviewFindings engine
    ((manifest.get "review_closures").strings.map (EvidencePath.sibling manifestPath))
  let _ ← relativeRegularFile engine (.sibling manifestPath (manifest.word "rollback_plan_path"))
  return ()

/-! ## Section 2: Plans and handoffs -/

/-- The gate of a source and a target takes these paths and no others. -/
def requireShape {α : Type} (shape : Option α) (message : Text) : EngineQuery α :=
  Query.lift (expect shape (engineError message))

/-- Exactly two paths. -/
def asPair : List EvidencePath → Option (EvidencePath × EvidencePath)
  | [a, b] => some (a, b)
  | _ => none

/-- Exactly one path. -/
def asSingle : List EvidencePath → Option EvidencePath
  | [a] => some a
  | _ => none

/-- Two paths and the paths behind them. -/
def asPairWithTail : List EvidencePath → Option (EvidencePath × EvidencePath × List EvidencePath)
  | a :: b :: rest => some (a, b, rest)
  | _ => none

/-- `_validate_planner_transition_evidence`. -/
def validatePlannerTransitionEvidence (engine : Engine) (target : TaskState)
    (paths : List EvidencePath) (current : WorkflowTaskState) : EngineQuery (List Snapshot) := do
  let (packetPath, resultPath) ← requireShape (asPair paths) [.text target.name,
    .text " requires the canonical PLANNER packet and result as exactly two evidence files"]
  let (packet, packetSnapshot) ← readCanonicalEvidenceJson engine packetPath
  let (agentResult, resultSnapshot) ← readCanonicalEvidenceJson engine resultPath
  Query.lift (requireRoleResult (buildSupervisedPlannerResultReceiptPreview packet agentResult)
    packet agentResult "PLANNER" target current)
  return [packetSnapshot, resultSnapshot]

/-- `_validate_coder_packet_against_frozen_plan`. -/
def validateCoderPacketAgainstFrozenPlan (engine : Engine) (packet : Mapping)
    (current : WorkflowTaskState) (requireLatestTransition : Bool) : EngineQuery Unit := do
  let lineage ← trustedLineage current
  let boundary ← Query.lift (planBoundary current lineage requireLatestTransition)
  let bindings ← Query.lift (frozenPlanBindings boundary)
  let bound := fun (i : Nat) => bindings[i]?.bind EvidenceBinding.snapshot?
  let (plannerPacket, _) ← readBoundCanonicalEvidenceJson engine (bound 0)
  let (plannerResult, _) ← readBoundCanonicalEvidenceJson engine (bound 1)
  let _ ← Query.lift (mapError asEngineError
    (buildSupervisedPlannerResultReceiptPreview plannerPacket plannerResult))
  Query.lift (require (plannerPacket.OfTask current ∧
      plannerResult.get "status" ∈ completedStatuses ∧
      plannerResult.get "recommended_next_state" = TaskState.planReady.toJson)
    (engineError "IMPLEMENTING requires the accepted frozen PLAN_READY PLANNER boundary"))
  Query.lift (require (packet = coderPacketOf plannerPacket current.taskId.val)
    (engineError "CODER packet must preserve the frozen PLAN_READY task boundary"))

/-- The canonical CODER packet that a handoff starts with. -/
def readCoderPacket (engine : Engine) (path : EvidencePath) (current : WorkflowTaskState) :
    EngineQuery (Mapping × Snapshot) := do
  let (packet, snapshot) ← readCanonicalEvidenceJson engine path
  let _ ← Query.lift (mapError asEngineError (buildSupervisedCoderHandoffPreview packet))
  Query.lift (requirePacketTask packet "CODER" current)
  return (packet, snapshot)

/-- `_validate_coder_handoff_evidence`. -/
def validateCoderHandoffEvidence (engine : Engine) (paths : List EvidencePath)
    (current : WorkflowTaskState) : EngineQuery (List Snapshot) := do
  let path ← requireShape (asSingle paths)
    "IMPLEMENTING requires the canonical CODER packet as exactly one evidence file"
  let (packet, snapshot) ← readCoderPacket engine path current
  validateCoderPacketAgainstFrozenPlan engine packet current true
  return [snapshot]

/-- `_validate_task_review_evidence`. -/
def validateTaskReviewEvidence (engine : Engine) (paths : List EvidencePath)
    (current : WorkflowTaskState) : EngineQuery (List Snapshot) := do
  let (packetPath, resultPath) ← requireShape (asPair paths)
    "TASK_REVIEW requires the canonical CODER packet and result as exactly two evidence files"
  let (packet, packetSnapshot) ← readCanonicalEvidenceJson engine packetPath
  let (agentResult, resultSnapshot) ← readCanonicalEvidenceJson engine resultPath
  Query.lift (requireRoleResult (buildSupervisedCoderResultReceiptPreview packet agentResult)
    packet agentResult "CODER" .taskReview current)
  return [packetSnapshot, resultSnapshot]

/-! ## Section 3: The fix cycle -/

/-- `except (ContractValidationError, WorkflowEngineError)` around stored verifier evidence. -/
def asStoredVerifierError (failure : Failure) : Failure :=
  match failure with
  | .contractValidation _ _ | .workflowEngine _ =>
      engineError (.text "stored FIX_REQUIRED verifier evidence is invalid: " :: failure.str)
  | other => other

/-- `except (ContractValidationError, ValueError)` around stored reviewer evidence. -/
def asStoredReviewerError (failure : Failure) : Failure :=
  if failure.isValueError then
    engineError (.text "stored FIX_REQUIRED reviewer evidence is invalid: " :: failure.str)
  else failure

/-- The failed verifications that an event binds behind the packet and the result of a verifier. -/
def verifierBlockers (engine : Engine) (current : WorkflowTaskState)
    (bindings : List (Option Snapshot)) : EngineQuery (List (Mapping × Snapshot)) := do
  Query.lift (require (3 ≤ bindings.length)
    (engineError "stored FIX_REQUIRED verifier evidence is incomplete"))
  let (packet, _) ← readBoundCanonicalEvidenceJson engine (bindings[0]?.join)
  let (agentResult, _) ← readBoundCanonicalEvidenceJson engine (bindings[1]?.join)
  Query.lift (mapError asStoredVerifierError
    (validateVerifierResultBinding packet agentResult .fixRequired current))
  let records ← (bindings.drop 2).mapM (fun binding => do
    let (record, snapshot) ← readBoundEvidenceJsonSnapshot engine binding
    Query.lift (mapError asStoredVerifierError
      (validateFixRequiredVerificationRecord record current))
    return (record, snapshot))
  Query.lift (require (records ≠ [])
    (engineError "stored FIX_REQUIRED verifier evidence has no failed requirement"))
  return records

/-- The packet and the result of a reviewer that an event binds before its findings. -/
def requireStoredReview (engine : Engine) (current : WorkflowTaskState)
    (bindings : List (Option Snapshot)) : EngineQuery Unit := do
  Query.lift (require (3 ≤ bindings.length)
    (engineError "stored FIX_REQUIRED reviewer evidence is incomplete"))
  let (packet, _) ← readBoundCanonicalEvidenceJson engine (bindings[0]?.join)
  let (agentResult, _) ← readBoundCanonicalEvidenceJson engine (bindings[1]?.join)
  let _ ← Query.lift (mapError asStoredReviewerError
    (buildSupervisedReviewerResultReceiptPreview packet agentResult))
  Query.lift (require (packet.OfTask current ∧ agentResult.get "status" ∈ completedStatuses ∧
      agentResult.get "recommended_next_state" = TaskState.fixRequired.toJson)
    (engineError "stored FIX_REQUIRED reviewer evidence is invalid"))

/-- The blocking findings that an event binds. -/
def findingBlockers (engine : Engine) (bindings : List (Option Snapshot)) :
    EngineQuery (List (Mapping × Snapshot)) := do
  let records ← bindings.mapM (fun binding => do
    let (record, snapshot) ← readBoundEvidenceJsonSnapshot engine binding
    Query.lift (validateContract .reviewFinding record.toJson)
    return (record, snapshot))
  let blockers := records.filter (fun entry => isCurrentFixBlocker entry.1)
  Query.lift (require (blockers ≠ [])
    (engineError "stored FIX_REQUIRED evidence has no accepted open P0 or P1 blocker"))
  return blockers

/-- The blockers that an entry into `FIX_REQUIRED` binds. The role in its first record says whether a
verifier or a reviewer sent it there. -/
def eventBlockers (engine : Engine) (current : WorkflowTaskState) (event : AuditEvent) :
    EngineQuery (List (Mapping × Snapshot)) := do
  let bindings := event.evidenceBindings.map EvidenceBinding.snapshot?
  match bindings with
  | [] => findingBlockers engine bindings
  | first :: _ =>
      if event.fromState = some .integrating then do
        let (record, _) ← readBoundEvidenceJsonSnapshot engine first
        if record.get "role" = .str "VERIFIER" then verifierBlockers engine current bindings
        else findingBlockers engine bindings
      else if event.fromState = some .taskReview then do
        let (record, _) ← readBoundEvidenceJsonSnapshot engine first
        if record.get "role" = .str "REVIEWER" then do
          requireStoredReview engine current bindings
          findingBlockers engine (bindings.drop 2)
        else findingBlockers engine bindings
      else findingBlockers engine bindings

/-- `_current_fix_cycle_blockers`. -/
def currentFixCycleBlockers (engine : Engine) (current : WorkflowTaskState) :
    EngineQuery (List (Mapping × Snapshot)) := do
  let lineage ← trustedLineage current
  let blockers ← ((currentFixCycleEvents lineage).filter (AuditEvent.enters .fixRequired)).mapM
    (eventBlockers engine current)
  return blockers.flatten

/-- The identities of the findings among blockers. -/
def blockerIds (blockers : List (Mapping × Snapshot)) : List String :=
  (blockers.filter (fun entry => entry.1.has "finding_id")).map
    (fun entry => entry.1.word "finding_id")

/-- `_current_fix_cycle_blocker_ids`. -/
def currentFixCycleBlockerIds (engine : Engine) (current : WorkflowTaskState) :
    EngineQuery (List String) := do
  let blockers ← currentFixCycleBlockers engine current
  return blockerIds blockers

/-- A blocking finding, or a failed verification of the task, that a remediation hands over. -/
def requireRemediationRecord (record : Mapping) (current : WorkflowTaskState) : Outcome Unit := do
  let notBlocking := engineError
    "FIX_REQUIRED to IMPLEMENTING requires current blocking remediation evidence"
  if record.has "finding_id" then do
    validateContract .reviewFinding record.toJson
    require (isCurrentFixBlocker record = true) notBlocking
  else if record.has "verification_id" then do
    validateContract .verificationRecord record.toJson
    require (record.OfTask current ∧ isCurrentVerificationFailure record = true) notBlocking
  else .error notBlocking

/-- `_validate_coder_remediation_handoff_evidence`. -/
def validateCoderRemediationHandoffEvidence (engine : Engine) (paths : List EvidencePath)
    (current : WorkflowTaskState) : EngineQuery (List Snapshot) := do
  let (packetPath, first, rest) ← requireShape (asPairWithTail paths)
    "FIX_REQUIRED to IMPLEMENTING requires the canonical CODER packet followed by current blocking review findings"
  let (packet, packetSnapshot) ← readCoderPacket engine packetPath current
  validateCoderPacketAgainstFrozenPlan engine packet current false
  let expectedBlockers ← currentFixCycleBlockers engine current
  Query.lift (require (expectedBlockers ≠ [])
    (engineError "FIX_REQUIRED to IMPLEMENTING requires current blocking review findings"))
  let submitted ← (first :: rest).mapM (fun path => do
    let (record, snapshot) ← readEvidenceJsonSnapshot engine path
    Query.lift (requireRemediationRecord record current)
    return snapshot)
  Query.lift (require (submitted = expectedBlockers.map Prod.snd)
    (engineError
      "FIX_REQUIRED to IMPLEMENTING requires the exact current blocking review findings"))
  return packetSnapshot :: submitted

/-! ## Section 4: Reviews and verifications -/

/-- `zip(finding_paths, records, strict=True)` with the loop over it: each finding is read again. -/
def readFindingSnapshot (engine : Engine) (target : TaskState)
    (finding : EvidencePath × Mapping) : EngineQuery Snapshot := do
  let (record, snapshot) ← readEvidenceJsonSnapshot engine finding.1
  Query.lift (require (record.toJson.pyEq finding.2.toJson = true)
    (engineError [.text target.name, .text " review finding changed during validation"]))
  return snapshot

/-- The findings of a review; an integration has to close the blockers of the fix cycle. -/
def reviewFindings (engine : Engine) (target : TaskState) (paths : List EvidencePath)
    (current : WorkflowTaskState) : EngineQuery (List Mapping) :=
  if target = .fixRequired then validateFixRequiredFindings engine paths
  else do
    let records ← if paths = [] then pure [] else validateReviewFindings engine paths
    let required ← currentFixCycleBlockerIds engine current
    Query.lift (requireClosed required records)
    return records

/-- `_validate_reviewer_transition_evidence`. -/
def validateReviewerTransitionEvidence (engine : Engine) (target : TaskState)
    (paths : List EvidencePath) (current : WorkflowTaskState) : EngineQuery (List Snapshot) := do
  let minimumCount := if target = .fixRequired then 3 else 2
  let (packetPath, resultPath, findingPaths) ← requireShape
    ((asPairWithTail paths).filter (fun _ => minimumCount ≤ paths.length))
    [.text target.name, .text (" from TASK_REVIEW requires the canonical REVIEWER packet and result "
      ++ "followed by review findings")]
  let (packet, packetSnapshot) ← readCanonicalEvidenceJson engine packetPath
  let (agentResult, resultSnapshot) ← readCanonicalEvidenceJson engine resultPath
  Query.lift (requireRoleResult (buildSupervisedReviewerResultReceiptPreview packet agentResult)
    packet agentResult "REVIEWER" target current)
  Query.lift (require (target = .integrating → findingPaths = [] →
      agentResult.get "status" = .str "DONE")
    (engineError "INTEGRATING with zero review findings requires reviewer status DONE"))
  let records ← reviewFindings engine target findingPaths current
  let findingSnapshots ← (findingPaths.zip records).mapM (readFindingSnapshot engine target)
  return packetSnapshot :: resultSnapshot :: findingSnapshots

/-- A verification record of a transition into `VERIFIED`: one that recommends it is not older than
the last integration of the fix cycle. -/
def requireVerification (record : Mapping) (boundary : Option Nat) (current : WorkflowTaskState) :
    Outcome Unit := do
  validateContract .verificationRecord record.toJson
  requireRecordTask record current
  match boundary with
  | none => return ()
  | some instant =>
      checkWhen (record.get "recommendation" = .str "VERIFIED") (do
        let verified ← requireInstant (record.word "verified_at_utc")
        require (instant ≤ verified)
          (engineError
            "verification evidence predates the current fix-cycle integration boundary"))

/-- The boundary that a verification must not predate. -/
def verificationBoundary (target : TaskState) (current : WorkflowTaskState) :
    EngineQuery (Option Nat) :=
  if target = .verified then do
    let lineage ← trustedLineage current
    Query.lift (fixCycleIntegrationBoundary lineage)
  else pure none

/-- `_validate_verifier_transition_evidence`. -/
def validateVerifierTransitionEvidence (engine : Engine) (target : TaskState)
    (paths : List EvidencePath) (current : WorkflowTaskState) : EngineQuery (List Snapshot) := do
  let (packetPath, resultPath, recordPaths) ← requireShape
    ((asPairWithTail paths).filter (fun _ => 3 ≤ paths.length))
    [.text target.name, .text (" requires the canonical VERIFIER packet and result "
      ++ "followed by verification records")]
  let (packet, packetSnapshot) ← readCanonicalEvidenceJson engine packetPath
  let (agentResult, resultSnapshot) ← readCanonicalEvidenceJson engine resultPath
  Query.lift (validateVerifierResultBinding packet agentResult target current)
  let boundary ← verificationBoundary target current
  let records ← recordPaths.mapM (fun path => do
    let (record, snapshot) ← readEvidenceJsonSnapshot engine path
    Query.lift (if target = .fixRequired then validateFixRequiredVerificationRecord record current
      else requireVerification record boundary current)
    return (record, snapshot))
  let accepted := target = .fixRequired ∨
    ∃ entry ∈ records, entry.1.get "recommendation" = .str "VERIFIED"
  Query.lift (require accepted (engineError (if target = .verified then
      "VERIFIED requires a successful verification record"
    else "FIX_REQUIRED requires a failed verification record")))
  return packetSnapshot :: resultSnapshot :: records.map Prod.snd

/-! ## Section 5: Releases -/

/-- The bindings of the latest event that satisfies `p`, if they are enough. -/
def latestBindings (p : AuditEvent → Bool) (lineage : List AuditEvent) (enough : Nat → Bool)
    (message : Text) : Outcome (List EvidenceBinding) :=
  expect (((latest p lineage).map AuditEvent.evidenceBindings).filter
    (fun bindings => enough bindings.length)) (engineError message)

/-- `_validate_rc_verification_lineage`. -/
def validateRcVerificationLineage (engine : Engine) (manifest : Mapping)
    (manifestPath : EvidencePath) (current : WorkflowTaskState) : EngineQuery Unit := do
  let lineage ← trustedLineage current
  let bindings ← Query.lift (latestBindings (AuditEvent.enters .verified) lineage (3 ≤ ·)
    "RC_READY requires the latest VERIFIED audit evidence lineage")
  let bound := bindings.map EvidenceBinding.snapshot?
  let (packet, _) ← readBoundCanonicalEvidenceJson engine (bound[0]?.join)
  let (agentResult, _) ← readBoundCanonicalEvidenceJson engine (bound[1]?.join)
  Query.lift (validateVerifierResultBinding packet agentResult .verified current)
  let records ← (bound.drop 2).mapM (fun binding => do
    let (record, snapshot) ← readBoundEvidenceJsonSnapshot engine binding
    Query.lift (validateContract .verificationRecord record.toJson)
    return (record, snapshot))
  let verified := (records.filter (fun entry =>
    entry.1.get "recommendation" = .str "VERIFIED")).map Prod.snd
  let named ← (manifest.get "verification_records").strings.mapM
    (fun relativePath => readEvidenceJsonSnapshot engine (.sibling manifestPath relativePath))
  Query.lift (require ((named.map Prod.snd).Perm verified)
    (engineError "RC_READY manifest verification records must exactly match the latest VERIFIED audit evidence"))

/-- A manifest, the files that it names, and the verification that it releases. -/
def validateManifest (engine : Engine) (manifest : Mapping) (manifestPath : EvidencePath)
    (current : WorkflowTaskState) : EngineQuery Unit := do
  Query.mapError asGateError
    (validateReleaseCandidateManifest engine manifest manifestPath current)
  validateRcVerificationLineage engine manifest manifestPath current

/-- The release candidate manifest of an entry into `RC_READY`. -/
def validateRcReadyManifest (engine : Engine) (paths : List EvidencePath)
    (current : WorkflowTaskState) : EngineQuery (List Snapshot) := do
  let path ← requireShape (asSingle paths)
    "RC_READY requires exactly one release-candidate manifest"
  let (manifest, snapshot) ← readEvidenceJsonSnapshot engine path
  validateManifest engine manifest path current
  return [snapshot]

/-- `_validate_rc_ready_closure_manifest`. -/
def validateRcReadyClosureManifest (engine : Engine) (paths : List EvidencePath)
    (current : WorkflowTaskState) : EngineQuery (List Snapshot) := do
  let path ← requireShape (asSingle paths)
    "CLOSED requires exactly one release-candidate manifest"
  let (manifest, snapshot) ← readEvidenceJsonSnapshot engine path
  validateManifest engine manifest path current
  let lineage ← trustedLineage current
  let bindings ← Query.lift (latestBindings (AuditEvent.isEntry .rcReady) lineage (1 = ·)
    "CLOSED requires the trusted RC_READY manifest audit evidence")
  let (trusted, trustedSnapshot) ← readBoundEvidenceJsonSnapshot engine
    (bindings[0]?.bind EvidenceBinding.snapshot?)
  Query.lift (require (manifest = trusted ∧ snapshot = trustedSnapshot)
    (engineError "CLOSED manifest must exactly match the trusted RC_READY audit evidence"))
  return [snapshot]

/-- The snapshots that a validator returned are those of the bindings. -/
def requireUnchanged (snapshots : List Snapshot) (bindings : List PathBinding) : Outcome Unit :=
  require (snapshots = bindings.map PathBinding.snapshot)
    (engineError "CLOSED evidence changed after binding")

/-- `_revalidate_rc_ready_closure_evidence`. -/
def revalidateRcReadyClosureEvidence (engine : Engine) (paths : List EvidencePath)
    (bindings : List PathBinding) (current : WorkflowTaskState) : EngineQuery Unit := do
  let snapshots ← validateRcReadyClosureManifest engine paths current
  Query.lift (requireUnchanged snapshots bindings)

/-- `_latest_verified_evidence_bindings`. -/
def latestVerifiedEvidenceBindings (current : WorkflowTaskState) :
    EngineQuery (List EvidenceBinding) := do
  let lineage ← trustedLineage current
  Query.lift (latestBindings (AuditEvent.isEntry .verified) lineage (3 ≤ ·)
    "CLOSED requires the latest trusted VERIFIED audit evidence")

/-- `_validate_verified_closure_evidence`. -/
def validateVerifiedClosureEvidence (engine : Engine) (paths : List EvidencePath)
    (current : WorkflowTaskState) : EngineQuery (List Snapshot) := do
  let bindings ← latestVerifiedEvidenceBindings current
  let trusted ← Query.lift (expect (bindings.mapM EvidenceBinding.snapshot?)
    (engineError "CLOSED requires valid latest trusted VERIFIED audit evidence bindings"))
  let snapshots ← validateVerifierTransitionEvidence engine .verified paths current
  Query.lift (require (snapshots = trusted)
    (engineError
      "CLOSED evidence must exactly match the latest trusted VERIFIED audit evidence"))
  return snapshots

/-- `_revalidate_verified_closure_evidence`. -/
def revalidateVerifiedClosureEvidence (engine : Engine) (paths : List EvidencePath)
    (bindings : List PathBinding) (current : WorkflowTaskState) : EngineQuery Unit := do
  let snapshots ← validateVerifiedClosureEvidence engine paths current
  Query.lift (requireUnchanged snapshots bindings)

/-! ## Section 6: The gate -/

/-- The findings of an entry into `INTEGRATING` that is no review. -/
def validateIntegratingFindings (engine : Engine) (paths : List EvidencePath)
    (current : WorkflowTaskState) : EngineQuery Unit := do
  let records ← validateReviewFindings engine paths
  let required ← currentFixCycleBlockerIds engine current
  Query.lift (requireClosed required records)

/-- The validator of a kind; a kind that is checked without snapshots returns `none`. -/
def validateEvidenceOfKind (engine : Engine) (kind : EvidenceKind) (source target : TaskState)
    (paths : List EvidencePath) (current : WorkflowTaskState) :
    EngineQuery (Option (List Snapshot)) :=
  match kind with
  | .plannerResult => some <$> validatePlannerTransitionEvidence engine target paths current
  | .coderHandoff => some <$> validateCoderHandoffEvidence engine paths current
  | .coderRemediationHandoff =>
      some <$> validateCoderRemediationHandoffEvidence engine paths current
  | .verifiedClosureEvidence => some <$> validateVerifiedClosureEvidence engine paths current
  | .verifierResult => some <$> validateVerifierTransitionEvidence engine target paths current
  | .reviewerResult => some <$> validateReviewerTransitionEvidence engine target paths current
  | .fixRequiredFindings => do
      let _ ← validateFixRequiredFindings engine paths
      return none
  | .integratingFindings => do
      validateIntegratingFindings engine paths current
      return none
  | .coderResult => some <$> validateTaskReviewEvidence engine paths current
  | .releaseCandidateManifest =>
      if source = .rcReady ∧ target = .closed then
        some <$> validateRcReadyClosureManifest engine paths current
      else some <$> validateRcReadyManifest engine paths current
  | .genericEvidence => return none

/-- `_validate_gate_evidence`. -/
def validateGateEvidence (engine : Engine) (source target : TaskState) (paths : List EvidencePath)
    (current : WorkflowTaskState) : EngineQuery (Option (List Snapshot)) :=
  Query.mapError asGateError
    (validateEvidenceOfKind engine (gateEvidenceKind source target) source target paths current)

end Acgps
