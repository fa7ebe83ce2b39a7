import Acgps.Engine.Intake

/-!
# Trusted packets

The packet of a task is compared with the one that the engine generates from the intake and the
policy result of the classification; both are found through the audit log.

## Main Definitions

* `requireTailBinding` - the state of a task is the one that its last event results in
* `requireTrustedInitializationProof` - an intake is the one that the task was created from
* `trustedClassificationPolicyResult` - the policy result of the only classification
* `taskPacketVerification`, `trustedTaskPacketResultReceiptPreview` - the two previews
-/

namespace Acgps

open Checked Interleaving

variable [Platform]

/-! ## Section 1: The tail -/

/-- `_canonical_sha` of a lineage. -/
def lineageSha (lineage : List AuditEvent) : String :=
  canonicalSha (.arr (lineage.map AuditEvent.toJson))

/-- The decision that a state after an event waits for. -/
def expectedPendingDecision (tail : AuditEvent) : Json :=
  if tail.isEntry .waitingHuman = true then
    .str (recordId "decision" (taskToken tail.taskId.val) tail.sequence.val) else .null

/-- `_require_task_state_audit_tail_binding`, with the tail. -/
def requireTailBinding (current : WorkflowTaskState) (lineage : List AuditEvent) :
    Outcome AuditEvent := do
  let tail ← expect lineage.getLast? (engineError "trusted audit lineage is empty")
  let mismatch := engineError "task state does not match the trusted audit tail"
  mapError (fun _ => mismatch) (validateStateEventPair tail current)
  require (Json.ofOption testedJson current.pendingDecisionId = expectedPendingDecision tail ∧
    current.updatedAtUtc = tail.createdAtUtc) mismatch
  return tail

/-- What a state has to agree on with its last event. -/
structure TailBound (current : WorkflowTaskState) (tail : AuditEvent) : Prop where
  binds : StateBinds tail current
  pending : Json.ofOption testedJson current.pendingDecisionId = expectedPendingDecision tail
  updated : current.updatedAtUtc = tail.createdAtUtc

@[simp] theorem requireTailBinding_eq_ok {current : WorkflowTaskState} {lineage : List AuditEvent}
    {tail : AuditEvent} :
    requireTailBinding current lineage = .ok tail ↔
      lineage.getLast? = some tail ∧ TailBound current tail := by
  simp only [requireTailBinding, bind_eq_ok, expect_eq_ok, mapError_eq_ok, require_eq_ok,
    pure_eq_ok, validateStateEventPair_eq_ok]
  constructor
  · rintro ⟨_, htail, _, hbinds, _, ⟨hpending, hupdated⟩, rfl⟩
    exact ⟨htail, hbinds, hpending, hupdated⟩
  · rintro ⟨htail, hbinds, hpending, hupdated⟩
    exact ⟨tail, htail, (), hbinds, (), ⟨hpending, hupdated⟩, rfl⟩

/-- A state and a lineage that are read again have not changed. -/
def requireSameTask (taskId : String) (current : WorkflowTaskState) (lineage : List AuditEvent)
    (query : String) : EngineQuery Unit := do
  let state ← status taskId
  Query.lift (require (state = current)
    (engineError [.text "task state identity changed during ", .text query]))
  let final ← trustedLineage current
  Query.lift (require (lineageSha final = lineageSha lineage)
    (engineError [.text "audit lineage identity changed during ", .text query]))

/-! ## Section 2: The intake -/

/-- The path of the intake of a task. -/
def intakePath (taskId : String) : EvidencePath :=
  .rooted ⟨.state, "tasks/" ++ taskId ++ "/intake.json", by
    rw [String.append_assoc]
    intro h
    have hlength := congrArg String.length h
    rw [String.length_append] at hlength
    have hpos : "tasks/".length = 6 := rfl
    have hzero : "".length = 0 := rfl
    omega⟩

/-- The request that a task was created with, from its intake and its first event. -/
def trustedInitializationRequest (current : WorkflowTaskState) (creation : AuditEvent)
    (intake : Mapping) : Mapping :=
  initializationRequest intake creation.actor.toJson (.str current.taskId.val)
    (.str current.projectId.val) (taskToken current.taskId.val)

/-- `_require_trusted_initialization_proof`. -/
def requireTrustedInitializationProof (current : WorkflowTaskState) (lineage : List AuditEvent)
    (intake : Mapping) : EngineQuery Unit := do
  Query.lift (mapError asContractError (validateContract .taskIntake intake.toJson))
  Query.lift (require (intake.OfTask current)
    (engineError "task intake does not match the trusted initialization proof"))
  let creation ← Query.lift (match lineage.filter (fun e => e.eventType = .taskCreated) with
    | [creation] => .ok creation
    | _ => .error (engineError "trusted initialization audit event is missing"))
  let request := trustedInitializationRequest current creation intake
  Query.lift (requestOutcome (validateTaskInitializationRequest request.toJson))
  let actual ← readInitializationRecord current.taskId.val
  let record ← Query.lift (expect actual (engineError "trusted initialization proof is missing"))
  Query.lift (require
    (record = initializationRecord request (initializationResult request creation.toMapping))
    (engineError "task intake does not match the trusted initialization proof"))

/-! ## Section 3: The classification -/

/-- The policy result of the only entry into `CLASSIFIED`, as the binding of the event embeds it. -/
def classificationPolicy (current : WorkflowTaskState) (lineage : List AuditEvent) :
    Outcome Mapping := do
  let event ← match lineage.filter (AuditEvent.isEntry .classified) with
    | [event] => .ok event
    | _ => .error (engineError
        "task packet generation requires exactly one trusted accepted CLASSIFIED policy")
  let notEmbedded := engineError
    "trusted accepted CLASSIFIED policy must be an embedded policy result"
  let binding ← expect event.policyEvaluationBinding notEmbedded
  let policyResult ← expect (match binding.source with
    | .embedded record => record.val.asMapping
    | .path _ => none) notEmbedded
  mapError asContractError (validateContract .policyEvaluationResult policyResult.toJson)
  let result := policyResult.get "result"
  require (policyResult.OfTask current ∧
      canonicalSha policyResult.toJson = binding.resultSha256.val ∧
      policyResult.get "policy_bundle_digest" = .str binding.policyBundleDigest.val ∧
      (result.field "fail_closed").isFalsy = true ∧
      (result.field "decision_emitted").isFalsy = false)
    (engineError
      "trusted accepted CLASSIFIED policy identity or executable result is invalid")
  return policyResult

/-- `trusted_classification_policy_result`, with the intake of the caller. -/
def trustedClassificationPolicyResult (taskId : String) (intake : Mapping) :
    EngineQuery Mapping := do
  let current ← status taskId
  let lineage ← trustedLineage current
  let _ ← Query.lift (requireTailBinding current lineage)
  let policyResult ← Query.lift (classificationPolicy current lineage)
  requireTrustedInitializationProof current lineage intake
  requireSameTask taskId current lineage "classification policy lookup"
  return policyResult

/-! ## Section 4: Packets and results -/

/-- What `task_packet_verification` returns. -/
structure PacketVerification where
  taskId : SafeId
  projectId : SafeId
  currentState : TaskState
  auditGeneration : PosNat
  auditHeadEventId : SafeId
  auditHeadHash : Sha256Hex
  packetId : Json
  role : Json
  packetSha256 : String
  deriving DecidableEq

/-- The verification of a packet in a state. -/
def PacketVerification.of (current : WorkflowTaskState) (packet : Mapping) : PacketVerification :=
  ⟨current.taskId, current.projectId, current.currentState, current.auditGeneration,
    current.auditHeadEventId, current.auditHeadHash, packet.get "packet_id", packet.get "role",
    canonicalSha packet.toJson⟩

/-- A file that is read again has not changed. -/
def requireSameRecord (engine : Engine) (path : EvidencePath) (record : Mapping)
    (snapshot : Snapshot) (message : Text) : EngineQuery Unit := do
  let final ← readCanonicalEvidenceJson engine path
  Query.lift (require (final = (record, snapshot)) (engineError message))

/-- `task_packet_verification`. -/
def taskPacketVerification (engine : Engine) (taskId : String) (packetPath : EvidencePath) :
    EngineQuery PacketVerification := do
  let (packet, packetSnapshot) ← readCanonicalEvidenceJson engine packetPath
  Query.lift (mapError asContractError (validateContract .agentTaskContract packet.toJson))
  let current ← status taskId
  let lineage ← trustedLineage current
  let _ ← Query.lift (requireTailBinding current lineage)
  Query.lift (require (packet.OfTask current)
    (engineError "task packet project_id or task_id does not match the current task"))
  let path := intakePath current.taskId.val
  let (intake, intakeSnapshot) ← readCanonicalEvidenceJson engine path
  let policyResult ← trustedClassificationPolicyResult taskId intake
  let expected ← Query.lift (generateTaskPacket (packet.word "role") intake policyResult)
  Query.lift (require (packet = expected)
    (engineError "task packet does not match the current trusted task policy and intake lineage"))
  requireSameRecord engine packetPath packet packetSnapshot
    "task packet identity changed during task packet verification"
  requireSameRecord engine path intake intakeSnapshot
    "task intake identity changed during task packet verification"
  requireSameTask taskId current lineage "task packet verification"
  return .of current packet

/-- `builders`: the receipt preview of a role. -/
def receiptPreview (role : Json) (packet agentResult : Mapping) : Outcome ReceiptPreview :=
  if role = .str "PLANNER" then buildSupervisedPlannerResultReceiptPreview packet agentResult
  else if role = .str "CODER" then buildSupervisedCoderResultReceiptPreview packet agentResult
  else if role = .str "REVIEWER" then
    buildSupervisedReviewerResultReceiptPreview packet agentResult
  else if role = .str "VERIFIER" then
    buildSupervisedVerifierResultReceiptPreview packet agentResult
  else .error (engineError
    [.text "unsupported trusted task packet role: ", .text (role.asStr.getD "")])

/-- What `trusted_task_packet_result_receipt_preview` returns. -/
structure TrustedReceipt where
  verification : PacketVerification
  preview : ReceiptPreview
  deriving DecidableEq

/-- `trusted_task_packet_result_receipt_preview`. -/
def trustedTaskPacketResultReceiptPreview (engine : Engine) (taskId : String)
    (packetPath resultPath : EvidencePath) : EngineQuery TrustedReceipt := do
  let verification ← taskPacketVerification engine taskId packetPath
  let (packet, packetSnapshot) ← readCanonicalEvidenceJson engine packetPath
  let (agentResult, resultSnapshot) ← readCanonicalEvidenceJson engine resultPath
  let preview ← Query.lift (receiptPreview verification.role packet agentResult)
  Query.lift (require (packet.get "packet_id" = verification.packetId ∧
      packet.get "role" = verification.role ∧ preview.packetId = verification.packetId ∧
      preview.packetSha256 = verification.packetSha256 ∧
      preview.agentResultSha256 = canonicalSha agentResult.toJson)
    (engineError
      "trusted task packet or agent result identity does not match the receipt preview"))
  requireSameRecord engine packetPath packet packetSnapshot
    "task packet identity changed during trusted result receipt preview"
  let final ← taskPacketVerification engine taskId packetPath
  Query.lift (require (final = verification)
    (engineError "trusted task packet identity changed during result receipt preview"))
  requireSameRecord engine resultPath agentResult resultSnapshot
    "agent result identity changed during trusted result receipt preview"
  return ⟨final, preview⟩

end Acgps
