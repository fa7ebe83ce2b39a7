import Acgps.Engine.Packets

/-!
# Trusted transitions

The transition that the result of an agent recommends, and the verification that it was committed.

## Main Definitions

* `TrustedArgs` - the arguments of the trusted advance
* `trustedAdvance` - `trusted_task_packet_result_transition_advance`
* `packetResultContract` - the pairs that the verification knows
* `trustedCommitVerification`, `transitionCommitVerification` - the verification and its router
-/

namespace Acgps

open Checked Interleaving

variable [Platform]

/-! ## Section 1: The trusted advance -/

/-- The arguments of a trusted transition. -/
structure TrustedArgs where
  taskId : String
  packetPath : EvidencePath
  resultPath : EvidencePath
  evidencePaths : List EvidencePath
  createdAtUtc : String
  riskTriggers : List String
  humanTriggers : List String
  taskAttributes : List (String × String)

/-- The arguments of the transition that a result recommends. -/
def TrustedArgs.transition (args : TrustedArgs) (role target : String) : TransitionArgs where
  taskId := args.taskId
  toState := target
  actor := role
  evidencePaths := args.packetPath :: args.resultPath :: args.evidencePaths
  createdAtUtc := args.createdAtUtc
  riskTriggers := args.riskTriggers
  humanTriggers := args.humanTriggers
  taskAttributes := args.taskAttributes
  decisionResolution := none

/-- A target whose gate takes a packet and a result of the role. -/
def takesResultOf (source : TaskState) (role target : String) : Prop :=
  ∃ t ∈ TaskState.ofName target, (requiredTransitionActor source t).map Actor.name = some role ∧
    (gateEvidenceKind source t).name = role ++ "_RESULT"

instance (source : TaskState) (role target : String) : Decidable (takesResultOf source role target) :=
  inferInstanceAs (Decidable (∃ t ∈ TaskState.ofName target,
    (requiredTransitionActor source t).map Actor.name = some role ∧
      (gateEvidenceKind source t).name = role ++ "_RESULT"))

/-- The state that a transition was prepared in is the one that the packet was verified in. -/
def PacketVerification.Identifies (v : PacketVerification) (current : WorkflowTaskState) : Prop :=
  current.taskId = v.taskId ∧ current.projectId = v.projectId ∧
    current.currentState = v.currentState ∧ current.auditGeneration = v.auditGeneration ∧
    current.auditHeadEventId = v.auditHeadEventId ∧ current.auditHeadHash = v.auditHeadHash

instance (v : PacketVerification) (current : WorkflowTaskState) :
    Decidable (v.Identifies current) :=
  inferInstanceAs (Decidable (_ ∧ _))

/-- `require_final_trusted_identity`. -/
def requireFinalTrustedIdentity (engine : Engine) (args : TrustedArgs) (receipt : TrustedReceipt)
    (packet agentResult : Mapping × Snapshot) : EngineQuery Unit := do
  let changed := engineError
    "trusted Packet/Result identity changed before trusted transition commit"
  let final ← Query.mapError (fun failure => match failure with
      | .workflowEngine _ => changed
      | other => other) (do
    let finalReceipt ← trustedTaskPacketResultReceiptPreview engine args.taskId args.packetPath
      args.resultPath
    let finalPacket ← readCanonicalEvidenceJson engine args.packetPath
    let finalResult ← readCanonicalEvidenceJson engine args.resultPath
    return (finalReceipt, finalPacket, finalResult))
  Query.lift (require (final = (receipt, packet, agentResult)) changed)

/-- The packet and the result of a trusted transition, with the receipt that was made of them. -/
def trustedRecords (engine : Engine) (args : TrustedArgs) :
    EngineQuery (TrustedReceipt × (Mapping × Snapshot) × (Mapping × Snapshot)) := do
  let receipt ← trustedTaskPacketResultReceiptPreview engine args.taskId args.packetPath
    args.resultPath
  let (packet, packetSnapshot) ← readCanonicalEvidenceJson engine args.packetPath
  let (agentResult, resultSnapshot) ← readCanonicalEvidenceJson engine args.resultPath
  Query.lift (require (packet.get "packet_id" = receipt.verification.packetId ∧
      packet.get "role" = receipt.verification.role ∧
      canonicalSha packet.toJson = receipt.verification.packetSha256 ∧
      receipt.preview.agentResult = agentResult ∧
      receipt.preview.agentResultSha256 = canonicalSha agentResult.toJson)
    (engineError "trusted Packet/Result identity does not match the receipt preview"))
  return (receipt, (packet, packetSnapshot), (agentResult, resultSnapshot))

/-- The role and the target of a trusted transition. -/
def trustedTarget (receipt : TrustedReceipt) (agentResult : Mapping) :
    Outcome (String × String) := do
  let role := receipt.verification.role.asStr.getD ""
  let target := agentResult.word "recommended_next_state"
  require (takesResultOf receipt.verification.currentState role target)
    (engineError
      "trusted result receipt does not match the current transition evidence contract")
  return (role, target)

/-- What a prepared transition has to agree on with the receipt. -/
def requireTrustedPreparation (p : PreparedTransition) (target : String) (receipt : TrustedReceipt)
    (packetSnapshot resultSnapshot : Snapshot) : Outcome Unit := do
  require (p.target.name = target)
    (engineError
      "trusted result transition advance requires a direct policy-authorized transition")
  require (receipt.verification.Identifies p.current)
    (engineError "trusted task state identity changed during transition preparation")
  require ((p.evidenceBindings.take 2).map PathBinding.snapshot = [packetSnapshot, resultSnapshot])
    (engineError "trusted Packet/Result identity changed during transition preparation")

/-- `trusted_task_packet_result_transition_advance`. -/
def trustedAdvance (engine : Engine) (args : TrustedArgs) : EngineProg WorkflowTaskState := do
  Prog.lift (requireWritable engine)
  let (receipt, packet, agentResult) ← Prog.query (trustedRecords engine args)
  let (role, target) ← Prog.lift (trustedTarget receipt agentResult.1)
  let transition := args.transition role target
  let p ← Prog.query (prepareTransitionValidation engine transition)
  Prog.lift (requireTrustedPreparation p target receipt packet.2 agentResult.2)
  commitPreparedTransition engine transition p
    (requireFinalTrustedIdentity engine args receipt packet agentResult)

/-! ## Section 2: The verification of a commit -/

/-- The transitions that the verification knows, with the role that each takes a result of. -/
def packetResultContract (source target : TaskState) : Option (Actor × EvidenceKind) :=
  match source, target with
  | .classified, .specReady | .specReady, .planReady => some (.planner, .plannerResult)
  | .implementing, .taskReview => some (.coder, .coderResult)
  | .taskReview, .fixRequired | .taskReview, .integrating => some (.reviewer, .reviewerResult)
  | .integrating, .fixRequired | .integrating, .verified => some (.verifier, .verifierResult)
  | _, _ => none

/-- What the verification of a commit returns. -/
structure CommitVerification where
  taskId : SafeId
  projectId : SafeId
  currentState : TaskState
  transitionId : Option SafeId
  fromState : Option TaskState
  toState : Option TaskState
  actor : Actor
  packetId : Json
  role : Json
  packetContentSha256 : String
  resultContentSha256 : String
  evidenceCount : Nat
  auditGeneration : PosNat
  auditHeadEventId : SafeId
  auditHeadHash : Sha256Hex
  deriving DecidableEq

/-- The tail is a transition that takes a packet and a result. -/
def packetResultTail (tail : AuditEvent) : Outcome (Actor × TaskState × TaskState) := do
  let unsupported := engineError
    "authoritative audit tail is not a supported trusted Packet/Result transition"
  require (tail.isTransition = true) unsupported
  let source ← expect tail.fromState unsupported
  let target ← expect tail.toState unsupported
  let (role, kind) ← expect (packetResultContract source target) unsupported
  require (tail.actor = role ∧ requiredTransitionActor source target = some role ∧
    gateEvidenceKind source target = kind) unsupported
  return (role, source, target)

/-- `trusted_task_packet_result_transition_commit_verification`. -/
def trustedCommitVerification (engine : Engine) (taskId : String) :
    EngineQuery CommitVerification := do
  let current ← status taskId
  let lineage ← trustedLineage current
  let tail ← Query.lift (requireTailBinding current lineage)
  let (role, source, target) ← Query.lift (packetResultTail tail)
  let bindings := tail.evidenceBindings.map EvidenceBinding.snapshot?
  Query.lift (require (2 ≤ bindings.length)
    (engineError "authoritative Packet/Result transition evidence is incomplete"))
  let paths ← bindings.mapM (boundEvidencePath engine)
  let (packetPath, resultPath, _) ← requireShape (asPairWithTail paths)
    "authoritative Packet/Result transition evidence is incomplete"
  let (packet, packetSnapshot) ← readBoundCanonicalEvidenceJson engine (bindings[0]?.join)
  let (agentResult, resultSnapshot) ← readBoundCanonicalEvidenceJson engine (bindings[1]?.join)
  let receipt ← trustedTaskPacketResultReceiptPreview engine taskId packetPath resultPath
  Query.lift (require (packet.get "role" = role.toJson ∧
      receipt.verification.role = role.toJson ∧
      receipt.verification.packetId = packet.get "packet_id" ∧
      receipt.preview.agentResult = agentResult ∧
      agentResult.get "recommended_next_state" = target.toJson)
    (engineError
      "authoritative Packet/Result transition identity or recommendation is invalid"))
  let validated ← validateGateEvidence engine source target paths current
  Query.lift (require (validated = some bindings.reduceOption)
    (engineError
      "authoritative Packet/Result transition evidence does not match its audit bindings"))
  let finalReceipt ← trustedTaskPacketResultReceiptPreview engine taskId packetPath resultPath
  let finalSnapshots ← validateGateEvidence engine source target paths current
  let finalCurrent ← status taskId
  let finalLineage ← trustedLineage finalCurrent
  let finalTail ← Query.lift (requireTailBinding finalCurrent finalLineage)
  Query.lift (require (finalReceipt = receipt ∧ finalSnapshots = some bindings.reduceOption ∧
      finalCurrent = current ∧ lineageSha finalLineage = lineageSha lineage ∧
      finalTail.toMapping = tail.toMapping)
    (engineError "trusted transition commit identity changed during verification"))
  return ⟨current.taskId, current.projectId, current.currentState, tail.transitionId,
    tail.fromState, tail.toState, tail.actor, packet.get "packet_id", packet.get "role",
    packetSnapshot.sha256, resultSnapshot.sha256, bindings.length, current.auditGeneration,
    current.auditHeadEventId, current.auditHeadHash⟩

/-! ## Section 3: The router -/

/-- The verifications of the other kinds of transitions. -/
structure OtherVerifications where
  resume : String → EngineQuery CommitVerification
  handoff : String → EngineQuery CommitVerification
  rcReady : String → EngineQuery CommitVerification
  closed : String → EngineQuery CommitVerification

/-- The verification that a transition is routed to. -/
def routeVerification (engine : Engine) (others : OtherVerifications) (tail : AuditEvent) :
    Option (String → EngineQuery CommitVerification) :=
  if tail.isTransition = false then none
  else match tail.fromState, tail.toState with
    | some .waitingHuman, _ => some others.resume
    | some .classified, some .specReady | some .specReady, some .planReady
    | some .implementing, some .taskReview | some .taskReview, some .fixRequired
    | some .taskReview, some .integrating | some .integrating, some .fixRequired
    | some .integrating, some .verified => some (trustedCommitVerification engine)
    | some .planReady, some .implementing | some .fixRequired, some .implementing =>
        some others.handoff
    | some .verified, some .rcReady => some others.rcReady
    | some .verified, some .closed | some .rcReady, some .closed => some others.closed
    | _, _ => none

/-- `transition_commit_verification`. -/
def transitionCommitVerification (engine : Engine) (others : OtherVerifications)
    (taskId : String) : EngineQuery CommitVerification := do
  let current ← status taskId
  let lineage ← trustedLineage current
  let tail ← Query.lift (requireTailBinding current lineage)
  let verifier ← Query.lift (expect (routeVerification engine others tail)
    (engineError "authoritative audit tail is not supported by unified committed transition verification"))
  let result ← verifier taskId
  Query.lift (require (result.taskId = current.taskId ∧ result.projectId = current.projectId ∧
      result.currentState = current.currentState ∧ result.transitionId = tail.transitionId ∧
      result.fromState = tail.fromState ∧ result.toState = tail.toState ∧
      result.auditGeneration = current.auditGeneration ∧
      result.auditHeadEventId = current.auditHeadEventId ∧
      result.auditHeadHash = current.auditHeadHash)
    (engineError "unified transition commit identity changed during routing"))
  return result

end Acgps
