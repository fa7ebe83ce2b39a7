import Acgps.Engine.Decisions
import Acgps.Engine.GateEvidence
import Acgps.Workflow.Requests

/-!
# Transitions

`advance`: the checks that a transition has to pass, the records that it makes, and the commit.

## Main Definitions

* `TransitionArgs` - the arguments of `advance`
* `prepareTransitionValidation` - everything that is checked before a record is made
* `waitingHumanResolutionBinding` - the decision that a waiting task resumes with
* `commitPreparedTransition` - the pause or the resumption, the records, and the commit
* `advance` - the two parts together
-/

namespace Acgps

open Checked History Interleaving

variable [Platform]

/-! ## Section 1: The state whose gate a task stands at -/

/-- The arguments of a transition. -/
structure TransitionArgs where
  taskId : String
  toState : String
  actor : String
  evidencePaths : List EvidencePath
  createdAtUtc : String
  riskTriggers : List String
  humanTriggers : List String
  taskAttributes : List (String × String)
  decisionResolution : Option Mapping

/-- `_transition_gate_source_state`. -/
def transitionGateSourceState (current : WorkflowTaskState) : EngineQuery TaskState :=
  if current.currentState ≠ .waitingHuman then pure current.currentState
  else do
    let source ← Query.lift (pausedState current)
    let lineage ← trustedLineage current
    Query.lift (requirePauseBoundary lineage source)
    return source

/-! ## Section 2: Preparation -/

/-- What `_prepare_transition_validation` returns. -/
structure PreparedTransition where
  current : WorkflowTaskState
  gateSource : TaskState
  sequence : Nat
  token : String
  policy : PolicyEvaluation
  target : TaskState
  evidenceItems : List EvidencePath
  evidenceBindings : List PathBinding

/-- The identity that a transition gives to one of its records. -/
def recordId (kind token : String) (sequence : Nat) : String :=
  kind ++ "-" ++ token ++ "-" ++ fourDigits sequence

/-- `policy_record`. -/
def policyInput (engine : Engine) (args : TransitionArgs) (current : WorkflowTaskState)
    (sequence : Nat) : PolicyInput where
  evaluationId := recordId "eval" (taskToken args.taskId) sequence
  projectId := current.projectId.val
  taskId := args.taskId
  currentState := current.currentState
  riskTriggers := args.riskTriggers
  humanTriggers := args.humanTriggers
  taskAttributes := args.taskAttributes
  projectProfileId := engine.profileId
  createdAtUtc := args.createdAtUtc

/-- `actual_target`: a human gate turns every target but `ABANDONED` into a pause. -/
def actualTarget (toState : String) (result : PolicyResult) : String :=
  if result.humanGate = true ∧ toState ≠ TaskState.abandoned.name then TaskState.waitingHuman.name
  else toState

/-- The target that the policy authorises. -/
def authorizedTarget (toState : String) (current : WorkflowTaskState) (result : PolicyResult) :
    Outcome TaskState := do
  require (result.failClosed = false)
    (engineError [.text "policy evaluation failed closed: ", .text (result.errorCode.getD "None")])
  let target := actualTarget toState result
  expect ((TaskState.ofName target).filter (· ∈ result.authorizedTransitions))
    (engineError [.text "transition ", .text current.currentState.name, .text " -> ", .text target,
      .text " is not policy-authorized"])

/-- The actor that the transition needs, if it needs one. -/
def requireTransitionActor (source target : TaskState) (actor : String) : Outcome Unit :=
  match requiredTransitionActor source target with
  | none => .ok ()
  | some required => require (actor = required.name)
      (engineError [.text target.name, .text " requires actor ", .text required.name])

/-- `evidence_bindings`: each path is read once more and gets the next number. -/
def evidenceBindings (engine : Engine) (args : TransitionArgs) (sequence : Nat)
    (target : TaskState) : EngineQuery (List PathBinding) :=
  args.evidencePaths.zipIdx.mapM (fun item => pathEvidenceBinding engine item.1
    (taskToken args.taskId) sequence (item.2 + 1) target args.createdAtUtc)

/-- The snapshots that a validator returned, if it returned any, are those of the bindings. -/
def requireValidated (target : TaskState) (validated : Option (List Snapshot))
    (bindings : List PathBinding) : Outcome Unit :=
  require (∀ snapshots ∈ validated, bindings.map PathBinding.snapshot = snapshots)
    (engineError [.text target.name, .text " evidence changed after validation"])

/-- `except ReviewEvidenceError as exc: raise WorkflowEngineError(str(exc))`. -/
def asReviewGateError (failure : Failure) : Failure :=
  match failure with
  | .reviewEvidence _ => .workflowEngine failure.str
  | other => other

/-- The manifest of an entry into `RC_READY` is validated again, from the bytes that are bound. -/
def revalidateBoundManifest (engine : Engine) (paths : List EvidencePath)
    (bindings : List PathBinding) (current : WorkflowTaskState) : EngineQuery Unit := do
  let manifestPath ← requireShape paths.head? "every accepted transition requires evidence"
  let (manifest, _) ← readBoundEvidenceJsonSnapshot engine (bindings.head?.map PathBinding.snapshot)
  Query.mapError asReviewGateError
    (validateReleaseCandidateManifest engine manifest manifestPath current)
  validateRcVerificationLineage engine manifest manifestPath current

/-- The evidence of a closure is validated again. -/
def revalidateClosure (engine : Engine) (source target : TaskState) (paths : List EvidencePath)
    (bindings : List PathBinding) (current : WorkflowTaskState) : EngineQuery Unit :=
  if source = .rcReady ∧ target = .closed then
    revalidateRcReadyClosureEvidence engine paths bindings current
  else if source = .verified ∧ target = .closed then
    revalidateVerifiedClosureEvidence engine paths bindings current
  else pure ()

/-- The second validation of a preparation. -/
def revalidatePrepared (engine : Engine) (source target : TaskState) (paths : List EvidencePath)
    (bindings : List PathBinding) (current : WorkflowTaskState) : EngineQuery Unit :=
  if target = .rcReady then revalidateBoundManifest engine paths bindings current
  else revalidateClosure engine source target paths bindings current

/-- `_prepare_transition_validation`. -/
def prepareTransitionValidation (engine : Engine) (args : TransitionArgs) :
    EngineQuery PreparedTransition := do
  let current ← status args.taskId
  let gateSource ← transitionGateSourceState current
  let events ← audit args.taskId
  let sequence := events.length + 1
  let policy := evaluatePolicy engine.bundle (policyInput engine args current sequence)
  let target ← Query.lift (authorizedTarget args.toState current policy.result)
  -- the gate is that of the state before a pause, for the actor as for the evidence
  Query.lift (requireTransitionActor gateSource target args.actor)
  Query.lift (require (args.evidencePaths ≠ [])
    (engineError "every accepted transition requires evidence"))
  let validated ← validateGateEvidence engine gateSource target args.evidencePaths current
  let bindings ← evidenceBindings engine args sequence target
  Query.lift (requireValidated target validated bindings)
  revalidatePrepared engine gateSource target args.evidencePaths bindings current
  return ⟨current, gateSource, sequence, taskToken args.taskId, policy, target,
    args.evidencePaths, bindings⟩

/-! ## Section 3: Pauses and resumptions -/

/-- The option that every request of the engine offers. -/
def resumeOption (toState : String) : Json :=
  .obj [("benefits", Json.strs ["continues the approved task"]), ("costs", .arr []),
    ("description", .str ("Resume at " ++ toState ++ ".")), ("id", .str "RESUME"),
    ("reversible", .bool true), ("risks", .arr [])]

/-- The request for a human decision that a pause makes. -/
def decisionRequest (args : TransitionArgs) (p : PreparedTransition) (trigger : String) :
    Mapping where
  entries :=
    [("created_at_utc", .str args.createdAtUtc),
      ("decision_id", .str (recordId "decision" p.token p.sequence)),
      ("default_without_response", .str "PAUSE"),
      ("evidence_paths", Json.strs (p.evidenceBindings.map (·.snapshot.path))),
      ("options", .arr [resumeOption args.toState]),
      ("project_id", .str p.current.projectId.val),
      ("question", .str ("Authorize transition to " ++ args.toState ++ "?")),
      ("recommendation_rationale", .str "Resume only within the existing bounded task."),
      ("recommended_option", .str "RESUME"), ("risk_level", .str p.policy.result.riskLevel.name),
      ("schema_version", .int 1), ("stage", .str args.toState), ("status", .str "PENDING"),
      ("task_id", .str args.taskId), ("trigger", .str trigger)]
  sorted := by
    show ["created_at_utc", "decision_id", "default_without_response", "evidence_paths", "options",
      "project_id", "question", "recommendation_rationale", "recommended_option", "risk_level",
      "schema_version", "stage", "status", "task_id", "trigger"].Pairwise (· < ·)
    decide +kernel

/-- The binding of a resolution that `_waiting_human_resolution_binding` returns. -/
def resolutionBinding (resolution : Mapping) : Mapping where
  entries :=
    [("authorized_target_state", resolution.get "resume_state"),
      ("decision_id", resolution.get "decision_id"), ("embedded_record", resolution.toJson),
      ("path", .null), ("project_id", resolution.get "project_id"),
      ("resolution_sha256", .str (canonicalSha resolution.toJson)),
      ("resolved_at_utc", resolution.get "resolved_at_utc"), ("schema_version", .int 1),
      ("source", .str "embedded"), ("status", resolution.get "status"),
      ("task_id", resolution.get "task_id")]
  sorted := decisionBindingFields_sorted

/-- A resolution that was written before is the one that is given now. -/
def requireSameResolution (resolution : Mapping) : EngineQuery Unit := do
  let decisionId := resolution.word "decision_id"
  Query.lift (containedPath "resolved" decisionId)
  let stored ← Query.read (fun w => .ok (w.decisions.resolved.lookup decisionId))
  match stored with
  | none => return ()
  | some content => do
      let record ← Query.lift (parseCanonicalEvidenceJson content (decisionFileName decisionId))
      Query.lift (require (record = resolution)
        (engineError "resolution does not match the existing resolved decision record"))

/-- `_waiting_human_resolution_binding`. -/
def waitingHumanResolutionBinding (engine : Engine) (current : WorkflowTaskState)
    (toState : String) (decisionResolution : Option Mapping) : EngineQuery (Mapping × Mapping) := do
  Query.lift (require (current.currentState = .waitingHuman)
    (engineError "resume gate preview requires current state WAITING_HUMAN"))
  let resolution ← Query.lift (expect (decisionResolution.filter (fun record =>
      record.get "decision_id" = Json.ofOption testedJson current.pendingDecisionId))
    (engineError "WAITING_HUMAN requires its matching decision resolution"))
  let (request, pending) ← Query.mapError asQueueError (do
    let request ← validateResolution resolution
    let pending ← listPending
    return (request, pending))
  requireSameResolution resolution
  Query.lift (require (request.OfTask current)
    (engineError "pending decision identity does not match WAITING_HUMAN state"))
  Query.lift (require (pending.filter (fun record =>
      record.get "decision_id" = request.get "decision_id") = [request])
    (engineError "resolution request does not match the authoritative pending decision"))
  Query.lift (require
    (request.get "stage" = .str toState ∧ resolution.get "resume_state" = .str toState)
    (engineError "decision resolution does not authorize the requested resume state"))
  let source ← transitionGateSourceState current
  Query.lift (require (toState ∈ (engine.bundle.targets source).map TaskState.name)
    (engineError [.text "resume target ", .text toState,
      .text " is not legal from original state ", .text source.name]))
  return (request, resolutionBinding resolution)

/-- The decision of a transition: a pause asks for one, a resumption binds one, and any other
transition has none. -/
def transitionDecision (engine : Engine) (args : TransitionArgs) (p : PreparedTransition) :
    EngineProg (Option Mapping) :=
  if p.target = .waitingHuman then do
    let trigger ← Prog.lift (expect p.policy.result.requiredHumanTriggers.head?
      (engineError "WAITING_HUMAN requires a policy-defined human trigger"))
    createDecision (decisionRequest args p trigger)
    return none
  else if p.current.currentState = .waitingHuman then do
    let bound ← Prog.query (waitingHumanResolutionBinding engine p.current p.target.name
      args.decisionResolution)
    return some bound.2
  else do
    Prog.lift (require (args.decisionResolution = none)
      (engineError "decision resolution is only valid when resuming WAITING_HUMAN"))
    return none

/-! ## Section 4: Records -/

/-- `policy_binding`. -/
def policyBinding (policy : PolicyEvaluation) (createdAtUtc : String) : Mapping where
  entries :=
    [("authorized_transitions", statesJson policy.result.authorizedTransitions),
      ("created_at_utc", .str createdAtUtc), ("embedded_record", policy.toMapping.toJson),
      ("evaluation_id", .str policy.evaluationId), ("human_gate", .bool policy.result.humanGate),
      ("path", .null), ("policy_bundle_digest", Json.ofOption .str policy.policyBundleDigest),
      ("result_sha256", .str (canonicalSha policy.toMapping.toJson)), ("schema_version", .int 1),
      ("source", .str "embedded")]
  sorted := policyBindingFields_sorted

/-- The bindings of the evidence as a value. -/
def pathBindingsJson (bindings : List PathBinding) : Json := .arr (bindings.map PathBinding.toJson)

/-- `request`. -/
def transitionRequest (args : TransitionArgs) (p : PreparedTransition) (decision : Option Mapping) :
    Mapping where
  entries :=
    [("actor", .str args.actor), ("created_at_utc", .str args.createdAtUtc),
      ("decision_resolution_binding", Json.ofOption Mapping.toJson decision),
      ("evidence_bindings", pathBindingsJson p.evidenceBindings),
      ("from_state", p.current.currentState.toJson),
      ("idempotency_key", .str (recordId "tr" p.token p.sequence)),
      ("policy_evaluation_binding", (policyBinding p.policy args.createdAtUtc).toJson),
      ("project_id", .str p.current.projectId.val), ("schema_version", .int 1),
      ("task_id", .str args.taskId), ("to_state", p.target.toJson),
      ("transition_id", .str (recordId "tr" p.token p.sequence))]
  sorted := transitionRequestFields_sorted

/-- `event`, with a given value for its hash. -/
def transitionEventWithHash (args : TransitionArgs) (p : PreparedTransition)
    (decision : Option Mapping) (hash : Json) : Mapping where
  entries :=
    [("actor", .str args.actor), ("created_at_utc", .str args.createdAtUtc),
      ("decision_resolution_binding", Json.ofOption Mapping.toJson decision),
      ("details", .obj []), ("event_hash", hash),
      ("event_id", .str (recordId "evt" p.token p.sequence)),
      ("event_type", .str "TRANSITION_ACCEPTED"),
      ("evidence_bindings", pathBindingsJson p.evidenceBindings),
      ("from_state", p.current.currentState.toJson),
      ("generation", .int p.current.auditGeneration.val),
      ("policy_evaluation_binding", (policyBinding p.policy args.createdAtUtc).toJson),
      ("previous_event_hash", .str p.current.auditHeadHash.val),
      ("project_id", .str p.current.projectId.val), ("schema_version", .int 1),
      ("sequence", .int p.sequence), ("task_id", .str args.taskId), ("to_state", p.target.toJson),
      ("transition_id", .str (recordId "tr" p.token p.sequence))]
  sorted := auditEventFields_sorted

/-- `event["event_hash"]`. -/
def transitionEventHash (args : TransitionArgs) (p : PreparedTransition)
    (decision : Option Mapping) : String :=
  canonicalSha (transitionEventWithHash args p decision .null).toJson

/-- `event`. -/
def transitionEvent (args : TransitionArgs) (p : PreparedTransition) (decision : Option Mapping) :
    Mapping :=
  transitionEventWithHash args p decision (.str (transitionEventHash args p decision))

/-- `pending_decision_id`. -/
def pendingDecisionId (p : PreparedTransition) : Json :=
  if p.target = .waitingHuman then .str (recordId "decision" p.token p.sequence) else .null

/-- `state`. -/
def transitionState (args : TransitionArgs) (p : PreparedTransition) (decision : Option Mapping) :
    Mapping where
  entries :=
    [("audit_generation", .int p.current.auditGeneration.val),
      ("audit_head_event_id", .str (recordId "evt" p.token p.sequence)),
      ("audit_head_hash", .str (transitionEventHash args p decision)),
      ("current_state", p.target.toJson),
      ("last_transition_id", .str (recordId "tr" p.token p.sequence)),
      ("pending_decision_id", pendingDecisionId p),
      ("policy_evaluation_id", .str p.policy.evaluationId),
      ("previous_state", p.current.currentState.toJson),
      ("project_id", .str p.current.projectId.val), ("schema_version", .int 1),
      ("task_id", .str args.taskId), ("updated_at_utc", .str args.createdAtUtc)]
  sorted := taskStateFields_sorted

/-! ## Section 5: The commit -/

/-- `if not outcome.valid: raise WorkflowEngineError(outcome.issues[0].message)`. -/
def requestOutcome {α : Type} (x : Check α) : Outcome Unit :=
  match x with
  | .ok _ => .ok ()
  | .error (.invalid issue) => .error (engineError issue.message)
  | .error (.raised failure) => .error failure

/-- `store.commit_task_state_and_audit` under `except WorkflowStoreError`. -/
def commitRecords (event state : Mapping) : EngineProg Bool :=
  Prog.update (fun w =>
    let committed := commitTaskStateAndAudit w.store event.toJson state.toJson w.exportFault
    (wrapStoreError committed.1, { w with store := committed.2 }))

/-- The resolution that was given is written to the queue. -/
def resolveGiven (decisionResolution : Option Mapping) : EngineProg Unit :=
  match decisionResolution with
  | none => pure ()
  | some resolution => Prog.mapError asQueueError (resolveDecision resolution)

/-- `_commit_prepared_transition`. -/
def commitPreparedTransition (engine : Engine) (args : TransitionArgs) (p : PreparedTransition)
    (finalIdentityCheck : EngineQuery Unit) : EngineProg WorkflowTaskState := do
  let decision ← transitionDecision engine args p
  Prog.lift (requestOutcome (validateTransitionRequest (transitionRequest args p decision).toJson))
  resolveGiven args.decisionResolution
  Prog.query (revalidateClosure engine p.gateSource p.target p.evidenceItems p.evidenceBindings
    p.current)
  Prog.query finalIdentityCheck
  let _ ← commitRecords (transitionEvent args p decision) (transitionState args p decision)
  Prog.query (status args.taskId)

/-- `advance`. -/
def advance (engine : Engine) (args : TransitionArgs) : EngineProg WorkflowTaskState := do
  Prog.lift (requireWritable engine)
  let p ← Prog.query (prepareTransitionValidation engine args)
  commitPreparedTransition engine args p (pure ())

end Acgps
