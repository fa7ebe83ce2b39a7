import Acgps.Engine.Handoff
import Acgps.Lib.History

/-!
# The checks of the gates

What the gates decide without reading anything: who may take a transition, which evidence it needs,
what the audit log says about the plan and the fix cycle, and what a record has to say.

## Main Definitions

* `requiredTransitionActor`, `gateEvidenceKind` - the two tables over source and target
* `gateSourceState` - the state whose gate a task stands at
* `planBoundary`, `currentFixCycleEvents`, `fixCycleIntegrationBoundary` - lookups in the audit log
* `requireRoleResult` - a packet and the result that an agent returned for it

## Key Theorems

* `requireRoleResult_eq_ok` - what an accepted result says
* `validateFixRequiredVerificationRecord_eq_ok` - what a failed verification says
-/

namespace Acgps

open Checked History

/-! ## Section 1: Tables -/

/-- `_required_transition_actor`: the pair, or else the target. -/
def requiredTransitionActor (source target : TaskState) : Option Actor :=
  let byPair : Option Actor := match source, target with
    | .classified, .specReady => some .planner
    | .specReady, .planReady => some .planner
    | .planReady, .implementing => some .coder
    | .fixRequired, .implementing => some .coder
    | .integrating, .fixRequired => some .verifier
    | .verified, .closed => some .controller
    | .rcReady, .closed => some .controller
    | _, _ => none
  let byTarget : Option Actor := match target with
    | .fixRequired => some .reviewer
    | .integrating => some .reviewer
    | .taskReview => some .coder
    | .verified => some .verifier
    | .rcReady => some .verifier
    | _ => none
  byPair.or byTarget

/-- The kinds of evidence. -/
inductive EvidenceKind where
  | plannerResult
  | coderHandoff
  | coderRemediationHandoff
  | verifierResult
  | verifiedClosureEvidence
  | releaseCandidateManifest
  | reviewerResult
  | fixRequiredFindings
  | integratingFindings
  | coderResult
  | genericEvidence
  deriving DecidableEq

/-- The word of a kind. -/
def EvidenceKind.name : EvidenceKind → String
  | plannerResult => "PLANNER_RESULT"
  | coderHandoff => "CODER_HANDOFF"
  | coderRemediationHandoff => "CODER_REMEDIATION_HANDOFF"
  | verifierResult => "VERIFIER_RESULT"
  | verifiedClosureEvidence => "VERIFIED_CLOSURE_EVIDENCE"
  | releaseCandidateManifest => "RELEASE_CANDIDATE_MANIFEST"
  | reviewerResult => "REVIEWER_RESULT"
  | fixRequiredFindings => "FIX_REQUIRED_FINDINGS"
  | integratingFindings => "INTEGRATING_FINDINGS"
  | coderResult => "CODER_RESULT"
  | genericEvidence => "GENERIC_EVIDENCE"

/-- `_gate_evidence_kind`. -/
def gateEvidenceKind (source target : TaskState) : EvidenceKind :=
  match source, target with
  | .classified, .specReady | .specReady, .planReady => .plannerResult
  | .planReady, .implementing => .coderHandoff
  | .fixRequired, .implementing => .coderRemediationHandoff
  | .integrating, .fixRequired => .verifierResult
  | .verified, .closed => .verifiedClosureEvidence
  | .rcReady, .closed => .releaseCandidateManifest
  | .taskReview, .fixRequired | .taskReview, .integrating => .reviewerResult
  | _, .fixRequired => .fixRequiredFindings
  | _, .integrating => .integratingFindings
  | _, .taskReview => .coderResult
  | _, .verified => .verifierResult
  | _, .rcReady => .releaseCandidateManifest
  | _, _ => .genericEvidence

/-! ## Section 2: The audit log -/

/-- `event["event_type"] == "TRANSITION_ACCEPTED"`. -/
def AuditEvent.isTransition (e : AuditEvent) : Bool := e.eventType = .transitionAccepted

/-- `event["to_state"] == target`. -/
def AuditEvent.enters (target : TaskState) (e : AuditEvent) : Bool := e.toState = some target

/-- A transition into a state. -/
def AuditEvent.isEntry (target : TaskState) (e : AuditEvent) : Bool :=
  e.isTransition && e.enters target

/-- A transition from one state into another. -/
def AuditEvent.isStep (source target : TaskState) (e : AuditEvent) : Bool :=
  e.isTransition && e.fromState = some source && e.enters target

/-- The pause that a waiting task stands at, and the state it was taken in. -/
def requirePauseBoundary (lineage : List AuditEvent) (source : TaskState) : Outcome Unit := do
  let boundary ← expect ((latest AuditEvent.isTransition lineage).filter (·.enters .waitingHuman))
    (engineError "WAITING_HUMAN state is not bound to a trusted human-pause audit boundary")
  require (boundary.fromState = some source)
    (engineError "previous_state does not match the trusted WAITING_HUMAN audit boundary")

/-- The state that a waiting task was in before the pause. -/
def pausedState (current : WorkflowTaskState) : Outcome TaskState :=
  expect (current.previousState.filter (· ≠ .waitingHuman))
    (engineError "WAITING_HUMAN state requires a valid original source state")

/-- `_transition_gate_source_state` on a lineage that was read before. -/
def gateSourceState (current : WorkflowTaskState) (lineage : List AuditEvent) :
    Outcome TaskState :=
  if current.currentState ≠ .waitingHuman then .ok current.currentState
  else do
    let source ← pausedState current
    requirePauseBoundary lineage source
    return source

/-- The event that may have frozen the plan. A first handoff looks at the last transition, or behind
the pause at the one before it; a later one looks for the latest `SPEC_READY` to `PLAN_READY`. -/
def planBoundary (current : WorkflowTaskState) (lineage : List AuditEvent)
    (requireLatestTransition : Bool) : Outcome (Option AuditEvent) :=
  let transitions := lineage.filter AuditEvent.isTransition
  if requireLatestTransition then
    if current.currentState = .waitingHuman then do
      let source ← gateSourceState current lineage
      return if source = .planReady then transitions.reverse[1]? else none
    else .ok transitions.getLast?
  else .ok (latest (AuditEvent.isStep .specReady .planReady) transitions)

/-- The bindings of the event that froze the plan. -/
def frozenPlanBindings (boundary : Option AuditEvent) : Outcome (List EvidenceBinding) := do
  let event ← expect (boundary.filter
      (fun e => e.fromState = some .specReady ∧ e.toState = some .planReady))
    (engineError "IMPLEMENTING requires the current frozen SPEC_READY to PLAN_READY boundary")
  require (event.evidenceBindings.length = 2)
    (engineError "IMPLEMENTING requires the frozen PLAN_READY PLANNER packet and result")
  return event.evidenceBindings

/-- `_current_fix_cycle_events` on a lineage: what has happened since the last `VERIFIED`, if that
contains a `FIX_REQUIRED`. -/
def currentFixCycleEvents (lineage : List AuditEvent) : List AuditEvent :=
  let interval := since (AuditEvent.enters .verified) lineage
  if interval.any (AuditEvent.enters .fixRequired) then interval else []

/-- `_utc_instant`. -/
def requireInstant (value : String) : Outcome Nat :=
  expect (utcInstant value) (engineError "evidence timestamp must be an RFC 3339 instant")

/-- `_fix_cycle_integration_boundary` on a lineage. -/
def fixCycleIntegrationBoundary (lineage : List AuditEvent) : Outcome (Option Nat) := do
  let events := currentFixCycleEvents lineage
  if events = [] then return none
  else do
    let integration ← expect
      (latest (AuditEvent.enters .integrating) (since (AuditEvent.enters .fixRequired) events))
      (engineError "VERIFIED requires an INTEGRATING boundary after the latest FIX_REQUIRED")
    let instant ← requireInstant integration.createdAtUtc.val
    return some instant

/-! ## Section 3: Records -/

/-- The project and the task of a record are those of the current task. -/
def Mapping.OfTask (record : Mapping) (current : WorkflowTaskState) : Prop :=
  record.get "project_id" = .str current.projectId.val ∧
    record.get "task_id" = .str current.taskId.val

instance (record : Mapping) (current : WorkflowTaskState) : Decidable (record.OfTask current) :=
  inferInstanceAs (Decidable (_ ∧ _))

/-- The statuses of a completed result. -/
def completedStatuses : List Json := [.str "DONE", .str "DONE_WITH_CONCERNS"]

/-- The packet of a role belongs to the current task. -/
def requirePacketTask (packet : Mapping) (role : String) (current : WorkflowTaskState) :
    Outcome Unit :=
  require (packet.OfTask current)
    (engineError [.text role,
      .text " packet project_id and task_id must match the current task"])

/-- The result of a role is completed and recommends the target. -/
def requireRecommendation (agentResult : Mapping) (role : String) (target : TaskState) :
    Outcome Unit := do
  require (agentResult.get "status" ∈ completedStatuses)
    (engineError [.text target.name, .text " requires a completed ", .text role, .text " result"])
  require (agentResult.get "recommended_next_state" = target.toJson)
    (engineError [.text role, .text " result must recommend ", .text target.name])

/-- A packet and a result, with the receipt preview of their role: they are of the current task, and
the result is completed and recommends the target. -/
def requireRoleResult (preview : Outcome ReceiptPreview) (packet agentResult : Mapping)
    (role : String) (target : TaskState) (current : WorkflowTaskState) : Outcome Unit := do
  let _ ← mapError asEngineError preview
  requirePacketTask packet role current
  requireRecommendation agentResult role target

section Results

variable [Platform]

/-- `_validate_verifier_result_binding`. -/
def validateVerifierResultBinding (packet agentResult : Mapping) (target : TaskState)
    (current : WorkflowTaskState) : Outcome Unit :=
  requireRoleResult (buildSupervisedVerifierResultReceiptPreview packet agentResult) packet
    agentResult "VERIFIER" target current

/-- What an accepted result of a role says. -/
structure RoleResult (role : String) (packet agentResult : Mapping) (target : TaskState)
    (current : WorkflowTaskState) : Prop where
  supervised : SupervisedResult role packet agentResult
  ofTask : packet.OfTask current
  completed : agentResult.get "status" ∈ completedStatuses
  recommends : agentResult.get "recommended_next_state" = target.toJson

/-- **What an accepted result says.** -/
theorem requireRoleResult_eq_ok {packet agentResult : Mapping} {role : String}
    {target : TaskState} {current : WorkflowTaskState} {u : Unit} :
    requireRoleResult (buildSupervisedResultReceiptPreview packet agentResult role) packet
        agentResult role target current = .ok u ↔
      RoleResult role packet agentResult target current := by
  simp only [requireRoleResult, requirePacketTask, requireRecommendation, bind_eq_ok,
    mapError_eq_ok, buildSupervisedResultReceiptPreview_eq_ok, require_eq_ok]
  constructor
  · rintro ⟨_, ⟨hsupervised, _⟩, _, htask, _, hcompleted, hrecommends⟩
    exact ⟨hsupervised, htask, hcompleted, hrecommends⟩
  · rintro ⟨hsupervised, htask, hcompleted, hrecommends⟩
    exact ⟨_, ⟨hsupervised, rfl⟩, (), htask, (), hcompleted, hrecommends⟩

@[simp] theorem validateVerifierResultBinding_eq_ok {packet agentResult : Mapping}
    {target : TaskState} {current : WorkflowTaskState} {u : Unit} :
    validateVerifierResultBinding packet agentResult target current = .ok u ↔
      RoleResult "VERIFIER" packet agentResult target current :=
  requireRoleResult_eq_ok

end Results

/-- `_is_current_fix_blocker`. -/
def isCurrentFixBlocker (record : Mapping) : Bool :=
  (record.get "severity" = .str "P0" || record.get "severity" = .str "P1")
    && (record.get "status" = .str "OPEN" || record.get "status" = .str "IN_PROGRESS")
    && (record.get "disposition" = .str "ACCEPTED" || record.get "disposition" = .str "PARTIAL")

/-- `_is_current_verification_failure`. -/
def isCurrentVerificationFailure (record : Mapping) : Bool :=
  record.get "recommendation" = .str "FIX_REQUIRED"
    && (record.get "failed_requirements").strings.any (fun requirement => !isBlank requirement)

/-- `record["severity"] in {"P0", "P1"} and record["status"] not in {"VERIFIED", "CLOSED"}`. -/
def isOpenBlocking (record : Mapping) : Bool :=
  (record.get "severity" = .str "P0" || record.get "severity" = .str "P1")
    && !(record.get "status" = .str "VERIFIED" || record.get "status" = .str "CLOSED")

/-- The findings that a list of records closes. -/
def closedIds (records : List Mapping) : List String :=
  (records.filter (fun record =>
    record.get "status" = .str "VERIFIED" || record.get "status" = .str "CLOSED")).map
    (·.word "finding_id")

/-- Every required finding is closed by a record. -/
def requireClosed (required : List String) (records : List Mapping) : Outcome Unit :=
  let missing := ((required.filter (· ∉ closedIds records)).dedup).mergeSort (· ≤ ·)
  require (missing = [])
    (engineError [.text "INTEGRATING requires closed review evidence for: ",
      .text (", ".intercalate missing)])

theorem requireClosed_eq_ok {required : List String} {records : List Mapping} {u : Unit} :
    requireClosed required records = .ok u ↔ ∀ id ∈ required, id ∈ closedIds records := by
  have hnil : ∀ l : List String, l.mergeSort (· ≤ ·) = [] ↔ l = [] := fun l =>
    ⟨fun h => List.length_eq_zero_iff.mp (by rw [← List.length_mergeSort l, h]; rfl),
      fun h => by simp [h]⟩
  simp only [requireClosed, require_eq_ok, hnil]
  rw [List.eq_nil_iff_forall_not_mem]
  simp

/-- A verification record belongs to the current task. -/
def requireRecordTask (record : Mapping) (current : WorkflowTaskState) : Outcome Unit :=
  require (record.OfTask current)
    (engineError "verification evidence project_id and task_id must match the current task")

/-- `_validate_fix_required_verification_record`. -/
def validateFixRequiredVerificationRecord (record : Mapping) (current : WorkflowTaskState) :
    Outcome Unit := do
  validateContract .verificationRecord record.toJson
  requireRecordTask record current
  require (record.get "recommendation" = .str "FIX_REQUIRED")
    (engineError "FIX_REQUIRED requires every verification record to recommend FIX_REQUIRED")
  require (isCurrentVerificationFailure record = true)
    (engineError "FIX_REQUIRED verification evidence requires failed requirements")

/-- A verification of the current task that failed. -/
structure VerificationFailure (record : Mapping) (current : WorkflowTaskState) : Prop where
  contract : validateContract .verificationRecord record.toJson = .ok ()
  ofTask : record.OfTask current
  failure : isCurrentVerificationFailure record = true

@[simp] theorem validateFixRequiredVerificationRecord_eq_ok {record : Mapping}
    {current : WorkflowTaskState} {u : Unit} :
    validateFixRequiredVerificationRecord record current = .ok u ↔
      VerificationFailure record current := by
  simp only [validateFixRequiredVerificationRecord, requireRecordTask, bind_eq_ok, require_eq_ok]
  constructor
  · rintro ⟨_, hcontract, _, htask, _, _, hfailure⟩
    exact ⟨hcontract, htask, hfailure⟩
  · rintro ⟨hcontract, htask, hfailure⟩
    have hrecommendation : record.get "recommendation" = .str "FIX_REQUIRED" := by
      simp only [isCurrentVerificationFailure, Bool.and_eq_true, decide_eq_true_eq] at hfailure
      exact hfailure.1
    exact ⟨(), hcontract, (), htask, (), hrecommendation, hfailure⟩

end Acgps
