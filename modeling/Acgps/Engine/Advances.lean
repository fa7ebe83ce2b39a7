import Acgps.Engine.Acceptance

/-!
# Calls without interruption

What `advance` does to a world in which nobody else takes a step: it leaves the tables alone, or it
has passed every check and commits one event.

## Main Definitions

* `World.SameEvidence` - two worlds with the same tables and the same files
* `AdvancePasses` - every check of a call, in the order of the call
* `World.Moves` - the tables of a world with one more transition of a task

## Key Theorems

* `revalidateClosure_run_eq` - the last validation does not depend on the decision queue
* `advance_run_cases` - **what a call does**
* `AdvancePasses.moves` - a call that passes its checks and is committable moves the task
-/

namespace Acgps

open Checked Interleaving

variable [Platform]

/-! ## Section 1: What the decision queue has no part in -/

omit [Platform] in
/-- The tables and the files of two worlds are the same. -/
structure World.SameEvidence (w w' : World) : Prop where
  store : w.store = w'.store
  files : w.files = w'.files

section Agreement

variable {w w' : World} (h : w.SameEvidence w') (engine : Engine)

include h

theorem agree_trustedLineage (current : WorkflowTaskState) :
    (trustedLineage current).Agree w w' := by
  apply Query.agree_read
  rw [h.store]

omit [Platform] in
theorem agree_readEvidence (path : EvidencePath) : (readEvidence engine path).Agree w w' := by
  apply Query.agree_read
  rw [h.files]

theorem agree_readEvidenceJsonSnapshot (path : EvidencePath) :
    (readEvidenceJsonSnapshot engine path).Agree w w' :=
  Query.agree_bind (agree_readEvidence h engine path) (fun _ =>
    Query.agree_bind Query.agree_lift (fun _ => Query.agree_pure))

theorem agree_readCanonicalEvidenceJson (path : EvidencePath) :
    (readCanonicalEvidenceJson engine path).Agree w w' :=
  Query.agree_bind (agree_readEvidence h engine path) (fun _ =>
    Query.agree_bind Query.agree_lift (fun _ => Query.agree_pure))

theorem agree_readBoundEvidenceJsonSnapshot (bound : Option Snapshot) :
    (readBoundEvidenceJsonSnapshot engine bound).Agree w w' :=
  Query.agree_bind Query.agree_lift (fun _ =>
    Query.agree_bind (agree_readEvidence h engine _) (fun _ =>
      Query.agree_bind Query.agree_lift (fun _ => Query.agree_bind Query.agree_lift (fun _ =>
        Query.agree_bind Query.agree_lift (fun _ => Query.agree_pure)))))

theorem agree_readBoundCanonicalEvidenceJson (bound : Option Snapshot) :
    (readBoundCanonicalEvidenceJson engine bound).Agree w w' :=
  Query.agree_bind Query.agree_lift (fun _ =>
    Query.agree_bind (agree_readEvidence h engine _) (fun _ =>
      Query.agree_bind Query.agree_lift (fun _ =>
        Query.agree_bind Query.agree_lift (fun _ => Query.agree_pure))))

omit [Platform] in
theorem agree_relativeRegularFile (path : EvidencePath) :
    (relativeRegularFile engine path).Agree w w' := by
  apply Query.agree_read
  rw [h.files]

omit [Platform] in
theorem agree_readReviewFinding (path : EvidencePath) :
    (readReviewFinding engine path).Agree w w' := by
  apply Query.agree_bind
  · apply Query.agree_read
    rw [h.files]
  · intro record
    exact Query.agree_bind Query.agree_lift (fun _ =>
      Query.agree_bind Query.agree_lift (fun _ => Query.agree_pure))

omit [Platform] in
theorem agree_validateReviewFindings (paths : List EvidencePath) :
    (validateReviewFindings engine paths).Agree w w' :=
  Query.agree_bind (Query.agree_mapM (agree_readReviewFinding h engine) paths) (fun _ =>
    Query.agree_bind Query.agree_lift (fun _ => Query.agree_pure))

theorem agree_validateReleaseCandidateManifest (manifest : Mapping) (manifestPath : EvidencePath)
    (current : WorkflowTaskState) :
    (validateReleaseCandidateManifest engine manifest manifestPath current).Agree w w' := by
  apply Query.agree_bind Query.agree_lift
  intro _
  apply Query.agree_bind
  · apply Query.agree_forM
    intro artifact
    exact Query.agree_bind (agree_relativeRegularFile h engine _) (fun _ => Query.agree_lift)
  intro _
  apply Query.agree_bind
  · apply Query.agree_forM
    intro relativePath
    exact Query.agree_bind (agree_relativeRegularFile h engine _) (fun _ =>
      Query.agree_bind Query.agree_lift (fun _ => Query.agree_bind Query.agree_lift (fun _ =>
        Query.agree_bind Query.agree_lift (fun _ =>
          Query.agree_bind Query.agree_lift (fun _ => Query.agree_lift)))))
  intro _
  apply Query.agree_bind (agree_validateReviewFindings h engine _)
  intro _
  exact Query.agree_bind (agree_relativeRegularFile h engine _) (fun _ => Query.agree_pure)

theorem agree_validateRcVerificationLineage (manifest : Mapping) (manifestPath : EvidencePath)
    (current : WorkflowTaskState) :
    (validateRcVerificationLineage engine manifest manifestPath current).Agree w w' := by
  apply Query.agree_bind (agree_trustedLineage h current)
  intro lineage
  apply Query.agree_bind Query.agree_lift
  intro bindings
  apply Query.agree_bind (agree_readBoundCanonicalEvidenceJson h engine _)
  intro packet
  apply Query.agree_bind (agree_readBoundCanonicalEvidenceJson h engine _)
  intro agentResult
  apply Query.agree_bind Query.agree_lift
  intro _
  apply Query.agree_bind
  · apply Query.agree_mapM
    intro binding
    exact Query.agree_bind (agree_readBoundEvidenceJsonSnapshot h engine _) (fun _ =>
      Query.agree_bind Query.agree_lift (fun _ => Query.agree_pure))
  intro records
  apply Query.agree_bind
  · apply Query.agree_mapM
    intro relativePath
    exact agree_readEvidenceJsonSnapshot h engine _
  intro named
  exact Query.agree_lift

theorem agree_validateRcReadyClosureManifest (paths : List EvidencePath)
    (current : WorkflowTaskState) :
    (validateRcReadyClosureManifest engine paths current).Agree w w' := by
  apply Query.agree_bind Query.agree_lift
  intro path
  apply Query.agree_bind (agree_readEvidenceJsonSnapshot h engine path)
  intro manifest
  apply Query.agree_bind
  · apply Query.agree_bind
    · exact Query.agree_mapError (agree_validateReleaseCandidateManifest h engine _ _ _)
    · exact fun _ => agree_validateRcVerificationLineage h engine _ _ _
  intro _
  apply Query.agree_bind (agree_trustedLineage h current)
  intro lineage
  apply Query.agree_bind Query.agree_lift
  intro bindings
  apply Query.agree_bind (agree_readBoundEvidenceJsonSnapshot h engine _)
  intro trusted
  exact Query.agree_bind Query.agree_lift (fun _ => Query.agree_pure)

theorem agree_validateVerifierTransitionEvidence (target : TaskState) (paths : List EvidencePath)
    (current : WorkflowTaskState) :
    (validateVerifierTransitionEvidence engine target paths current).Agree w w' := by
  apply Query.agree_bind Query.agree_lift
  intro shape
  apply Query.agree_bind (agree_readCanonicalEvidenceJson h engine _)
  intro packet
  apply Query.agree_bind (agree_readCanonicalEvidenceJson h engine _)
  intro agentResult
  apply Query.agree_bind Query.agree_lift
  intro _
  apply Query.agree_bind
  · unfold verificationBoundary
    split
    · exact Query.agree_bind (agree_trustedLineage h current) (fun _ => Query.agree_lift)
    · exact Query.agree_pure
  intro boundary
  apply Query.agree_bind
  · apply Query.agree_mapM
    intro path
    exact Query.agree_bind (agree_readEvidenceJsonSnapshot h engine path) (fun _ =>
      Query.agree_bind Query.agree_lift (fun _ => Query.agree_pure))
  intro records
  exact Query.agree_bind Query.agree_lift (fun _ => Query.agree_pure)

theorem agree_validateVerifiedClosureEvidence (paths : List EvidencePath)
    (current : WorkflowTaskState) :
    (validateVerifiedClosureEvidence engine paths current).Agree w w' := by
  apply Query.agree_bind
  · exact Query.agree_bind (agree_trustedLineage h current) (fun _ => Query.agree_lift)
  intro bindings
  apply Query.agree_bind Query.agree_lift
  intro trusted
  apply Query.agree_bind (agree_validateVerifierTransitionEvidence h engine _ paths current)
  intro snapshots
  exact Query.agree_bind Query.agree_lift (fun _ => Query.agree_pure)

/-- **The last validation of a closure** does not depend on the decision queue. -/
theorem revalidateClosure_run_eq (source target : TaskState) (paths : List EvidencePath)
    (bindings : List PathBinding) (current : WorkflowTaskState) :
    (revalidateClosure engine source target paths bindings current).run w
      = (revalidateClosure engine source target paths bindings current).run w' := by
  apply Query.Agree.run_eq
  unfold revalidateClosure
  split
  · exact Query.agree_bind (agree_validateRcReadyClosureManifest h engine paths current)
      (fun _ => Query.agree_lift)
  · split
    · exact Query.agree_bind (agree_validateVerifiedClosureEvidence h engine paths current)
        (fun _ => Query.agree_lift)
    · exact Query.agree_pure

end Agreement

/-! ## Section 2: The decision queue -/

omit [Platform] in
/-- A world with another decision queue. -/
def World.withDecisions (w : World) (decisions : DecisionFiles) : World :=
  { w with decisions := decisions }

omit [Platform] in
theorem createDecision_run_world (request : Mapping) (w : World) :
    ∃ decisions, ((createDecision request).run w).2 = w.withDecisions decisions := by
  unfold createDecision
  rcases Prog.run_bind_cases (Prog.lift (validateDecisionRequest request)) _ w with
    ⟨_, -, hrun⟩ | ⟨_, -, hrun⟩
  · exact ⟨w.decisions, by rw [hrun]; rfl⟩
  · rw [hrun]
    rcases Prog.run_bind_cases (Prog.lift (containedPath "pending" (request.word "decision_id"))) _
      w with ⟨_, -, hnext⟩ | ⟨_, -, hnext⟩
    · exact ⟨w.decisions, congrArg Prod.snd hnext⟩
    · exact ⟨_, congrArg Prod.snd hnext⟩

theorem transitionDecision_run_world (engine : Engine) (args : TransitionArgs)
    (p : PreparedTransition) (w : World) :
    ∃ decisions, ((transitionDecision engine args p).run w).2 = w.withDecisions decisions := by
  unfold transitionDecision
  split
  · rcases Prog.run_bind_cases (Prog.lift (expect p.policy.result.requiredHumanTriggers.head?
      (engineError "WAITING_HUMAN requires a policy-defined human trigger"))) _ w with
      ⟨_, -, hrun⟩ | ⟨trigger, -, hrun⟩
    · exact ⟨w.decisions, by rw [hrun]; rfl⟩
    · rw [hrun]
      obtain ⟨decisions, hdecisions⟩ := createDecision_run_world (decisionRequest args p trigger) w
      rcases Prog.run_bind_cases (createDecision (decisionRequest args p trigger)) _ w with
        ⟨_, -, hnext⟩ | ⟨_, -, hnext⟩
      · exact ⟨decisions, (congrArg Prod.snd hnext).trans hdecisions⟩
      · exact ⟨decisions, (congrArg Prod.snd hnext).trans hdecisions⟩
  · refine ⟨w.decisions, ?_⟩
    split
    · rcases Prog.run_bind_cases (Prog.query (waitingHumanResolutionBinding engine p.current
        p.target.name args.decisionResolution)) _ w with ⟨_, -, hrun⟩ | ⟨_, -, hrun⟩
      · rw [hrun, Prog.run_query]
        rfl
      · rw [hrun, Prog.run_query]
        rfl
    · rcases Prog.run_bind_cases (Prog.lift (require (args.decisionResolution = none)
        (engineError "decision resolution is only valid when resuming WAITING_HUMAN"))) _ w with
        ⟨_, -, hrun⟩ | ⟨_, -, hrun⟩
      · rw [hrun]
        rfl
      · rw [hrun]
        rfl

omit [Platform] in
theorem resolveDecision_run_world (resolution : Mapping) (w : World) :
    ∃ decisions, ((resolveDecision resolution).run w).2 = w.withDecisions decisions := by
  unfold resolveDecision
  rcases Prog.run_bind_cases (Prog.query (validateResolution resolution)) _ w with
    ⟨_, -, hrun⟩ | ⟨_, -, hrun⟩
  · exact ⟨w.decisions, by rw [hrun, Prog.run_query]; rfl⟩
  · rw [hrun, Prog.run_query]
    rcases Prog.run_bind_cases (Prog.lift (containedPath "resolved" (resolution.word "decision_id")))
      _ w with ⟨_, -, hnext⟩ | ⟨_, -, hnext⟩
    · exact ⟨w.decisions, congrArg Prod.snd hnext⟩
    · exact ⟨_, congrArg Prod.snd hnext⟩

omit [Platform] in
theorem resolveGiven_run_world (resolution : Option Mapping) (w : World) :
    ∃ decisions, ((resolveGiven resolution).run w).2 = w.withDecisions decisions := by
  cases resolution with
  | none => exact ⟨w.decisions, rfl⟩
  | some resolution =>
      rw [resolveGiven, Prog.run_mapError]
      exact resolveDecision_run_world resolution w

/-! ## Section 3: What a call does -/

/-- Every check of a call, in the order of the call: `opened` and `queue` are the decision queue
after a request was opened, and after the given resolution was written. -/
structure AdvancePasses (engine : Engine) (args : TransitionArgs) (w : World)
    (p : PreparedTransition) (decision : Option Mapping) (opened queue : DecisionFiles) : Prop where
  writable : engine.readOnly = false
  prepared : (prepareTransitionValidation engine args).run w = .ok p
  decided : (transitionDecision engine args p).run w = (.ok decision, w.withDecisions opened)
  requested : requestOutcome
    (validateTransitionRequest (transitionRequest args p decision).toJson) = .ok ()
  resolved : (resolveGiven args.decisionResolution).run (w.withDecisions opened)
    = (.ok (), w.withDecisions queue)
  closure : (revalidateClosure engine p.gateSource p.target p.evidenceItems p.evidenceBindings
    p.current).run w = .ok ()

/-- The outcome of the commit of a prepared transition, and the tables after it. -/
def preparedCommit (w : World) (args : TransitionArgs) (p : PreparedTransition)
    (decision : Option Mapping) : Outcome Bool × ControlStore :=
  commitTaskStateAndAudit w.store (transitionEvent args p decision).toJson
    (transitionState args p decision).toJson w.exportFault

/-- A call that passes its checks ends with the commit, and reads the state back. -/
theorem AdvancePasses.run_eq {engine : Engine} {args : TransitionArgs} {w : World}
    {p : PreparedTransition} {decision : Option Mapping} {opened queue : DecisionFiles}
    (h : AdvancePasses engine args w p decision opened queue) :
    (advance engine args).run w =
      ((commitRecords (transitionEvent args p decision) (transitionState args p decision) >>=
        fun _ => Prog.query (status args.taskId)).run (w.withDecisions queue)) := by
  have hsame : (w.withDecisions queue).SameEvidence w := ⟨rfl, rfl⟩
  have hwritable : (Prog.lift (requireWritable engine) : EngineProg Unit).run w = (.ok (), w) := by
    simp [Prog.run_lift, requireWritable, h.writable]
  have hprepared : (Prog.query (prepareTransitionValidation engine args)).run w = (.ok p, w) := by
    rw [Prog.run_query, h.prepared]
  have hrequested : (Prog.lift (requestOutcome (validateTransitionRequest
      (transitionRequest args p decision).toJson)) : EngineProg Unit).run (w.withDecisions opened)
      = (.ok (), w.withDecisions opened) := by
    rw [Prog.run_lift, h.requested]
  have hclosure : (Prog.query (revalidateClosure engine p.gateSource p.target p.evidenceItems
      p.evidenceBindings p.current)).run (w.withDecisions queue)
      = (.ok (), w.withDecisions queue) := by
    rw [Prog.run_query, revalidateClosure_run_eq hsame, h.closure]
  rw [advance, Prog.run_bind_of_ok hwritable, Prog.run_bind_of_ok hprepared,
    commitPreparedTransition, Prog.run_bind_of_ok h.decided, Prog.run_bind_of_ok hrequested,
    Prog.run_bind_of_ok h.resolved, Prog.run_bind_of_ok hclosure]
  rfl

/-- The world that a call leaves behind. -/
theorem AdvancePasses.run_world {engine : Engine} {args : TransitionArgs} {w : World}
    {p : PreparedTransition} {decision : Option Mapping} {opened queue : DecisionFiles}
    (h : AdvancePasses engine args w p decision opened queue) :
    ((advance engine args).run w).2 =
      { w.withDecisions queue with store := (preparedCommit w args p decision).2 } := by
  rw [h.run_eq]
  rcases Prog.run_bind_cases (commitRecords (transitionEvent args p decision)
    (transitionState args p decision)) (fun _ => Prog.query (status args.taskId))
    (w.withDecisions queue) with ⟨_, -, hrun⟩ | ⟨_, -, hrun⟩
  · rw [hrun]
    rfl
  · rw [hrun, Prog.run_query]
    rfl

/-- What the second part of a call does. -/
theorem commitPreparedTransition_run_cases (engine : Engine) (args : TransitionArgs)
    (p : PreparedTransition) (w : World) :
    (∃ failure decisions, (commitPreparedTransition engine args p (pure ())).run w
      = (.error failure, w.withDecisions decisions)) ∨
    ∃ decision opened queue,
      (transitionDecision engine args p).run w = (.ok decision, w.withDecisions opened) ∧
      requestOutcome (validateTransitionRequest (transitionRequest args p decision).toJson) = .ok () ∧
      (resolveGiven args.decisionResolution).run (w.withDecisions opened)
        = (.ok (), w.withDecisions queue) ∧
      (revalidateClosure engine p.gateSource p.target p.evidenceItems p.evidenceBindings
        p.current).run w = .ok () := by
  obtain ⟨opened, hopened⟩ := transitionDecision_run_world engine args p w
  obtain ⟨queue, hqueue⟩ := resolveGiven_run_world args.decisionResolution (w.withDecisions opened)
  have hsame : (w.withDecisions queue).SameEvidence w := ⟨rfl, rfl⟩
  unfold commitPreparedTransition
  rcases Prog.run_bind_cases (transitionDecision engine args p) _ w with
    ⟨_, -, hrun⟩ | ⟨decision, hdecided, hrun⟩
  · exact .inl ⟨_, opened, hrun.trans (congrArg _ hopened)⟩
  rw [hopened] at hrun
  rw [hrun]
  rcases Prog.run_bind_cases (Prog.lift (requestOutcome (validateTransitionRequest
    (transitionRequest args p decision).toJson))) _ (w.withDecisions opened) with
    ⟨_, -, hrun⟩ | ⟨_, hrequested, hrun⟩
  · exact .inl ⟨_, opened, hrun⟩
  rw [hrun, Prog.run_lift]
  rcases Prog.run_bind_cases (resolveGiven args.decisionResolution) _ (w.withDecisions opened) with
    ⟨_, -, hrun⟩ | ⟨_, hresolved, hrun⟩
  · exact .inl ⟨_, queue, hrun.trans (congrArg _ hqueue)⟩
  rw [hqueue] at hrun
  rw [hrun]
  rcases Prog.run_bind_cases (Prog.query (revalidateClosure engine p.gateSource p.target
    p.evidenceItems p.evidenceBindings p.current)) _ (w.withDecisions queue) with
    ⟨failure, -, hrun⟩ | ⟨_, hclosure, -⟩
  · refine .inl ⟨failure, queue, hrun.trans ?_⟩
    rw [Prog.run_query]
  · rw [Prog.run_query, revalidateClosure_run_eq hsame] at hclosure
    exact .inr ⟨decision, opened, queue, Prod.ext hdecided hopened, hrequested,
      Prod.ext hresolved hqueue, hclosure⟩

/-- **What a call does**: it fails and leaves the tables alone, or it passes every check. -/
theorem advance_run_cases (engine : Engine) (args : TransitionArgs) (w : World) :
    (∃ failure decisions, (advance engine args).run w = (.error failure, w.withDecisions decisions)) ∨
      ∃ p decision opened queue, AdvancePasses engine args w p decision opened queue := by
  unfold advance
  rcases Prog.run_bind_cases (Prog.lift (requireWritable engine)) _ w with
    ⟨_, -, hrun⟩ | ⟨_, hwritable, hrun⟩
  · exact .inl ⟨_, w.decisions, hrun⟩
  rw [hrun]
  rcases Prog.run_bind_cases (Prog.query (prepareTransitionValidation engine args)) _ w with
    ⟨failure, -, hrun⟩ | ⟨p, hprepared, hrun⟩
  · refine .inl ⟨failure, w.decisions, hrun.trans ?_⟩
    rw [Prog.run_query]
    rfl
  rw [Prog.run_query] at hprepared hrun
  rcases commitPreparedTransition_run_cases engine args p w with
    ⟨failure, decisions, hfails⟩ | ⟨decision, opened, queue, hdecided, hrequested, hresolved, hclosure⟩
  · exact .inl ⟨failure, decisions, hrun.trans hfails⟩
  · have hwritable' : engine.readOnly = false := by
      simpa [Prog.run_lift, requireWritable] using hwritable
    exact .inr ⟨p, decision, opened, queue, hwritable', hprepared, hdecided, hrequested, hresolved,
      hclosure⟩

/-! ## Section 4: Moves -/

omit [Platform] in
/-- A write changes the tables. -/
theorem ControlStore.write_ne [Digest] (store : ControlStore) (e : AuditEvent)
    (s : WorkflowTaskState) : store.write e s ≠ store := by
  intro h
  have hrows := congrArg (fun t => t.auditEvents.length) h
  simp [ControlStore.write, ControlStore.insertEvent, ControlStore.upsertTaskState] at hrows

omit [Platform] in
/-- Two writes with one result are of one event. -/
theorem ControlStore.write_event_eq [Digest] {store store' : ControlStore} {e e' : AuditEvent}
    {s s' : WorkflowTaskState} (he : e.Valid) (he' : e'.Valid)
    (h : store.write e s = store'.write e' s') : e = e' := by
  have hrows := congrArg ControlStore.auditEvents h
  have hlast : [e.row] = [e'.row] := List.append_inj_right' hrows rfl
  exact AuditEvent.eq_of_row_eq he he' (List.cons.inj hlast).1

/-- The tables of a world with one more transition of a task. -/
def World.Moves (w w' : World) (taskId : String) (source target : TaskState) : Prop :=
  ∃ e s, CommitPair e s ∧ w'.store = w.store.write e s ∧ e.taskId.val = taskId ∧
    e.eventType = .transitionAccepted ∧ e.fromState = some source ∧ e.toState = some target

/-- The chain that a preparation has read. -/
theorem Preparation.storedChain {engine : Engine} {args : TransitionArgs} {w : World}
    {p : PreparedTransition} (h : Preparation (· = w) engine args p)
    (hbound : TaskBound w.store args.taskId) :
    ∃ events last, StoredChain w.store events last p.current ∧ p.sequence = events.length + 1 := by
  obtain ⟨_, rfl, hread⟩ := h.status
  obtain ⟨hid, events, last, hstored⟩ := hbound.storedChain_of_readTaskState hread
  obtain ⟨events', haudit, hsequence⟩ := h.sequence
  simp only [may_audit, exists_eq_left] at haudit
  obtain ⟨state, hstate, hevents⟩ := haudit
  obtain rfl : p.current = state := Except.ok.inj (hread.symm.trans hstate)
  have hall := hstored.chain.readAuditEvents hstored.auditRows
  rw [hid] at hall
  rw [hstored.generation_eq] at hevents
  obtain rfl : events = events' := Except.ok.inj (hall.symm.trans hevents)
  exact ⟨events, last, hstored, hsequence⟩

namespace AdvancePasses

variable {engine : Engine} {args : TransitionArgs} {w : World} {p : PreparedTransition}
  {decision : Option Mapping} {opened queue : DecisionFiles}

theorem preparation (h : AdvancePasses engine args w p decision opened queue) :
    Preparation (· = w) engine args p :=
  prepareTransitionValidation_may.mp (Query.may_eq_iff.mpr h.prepared)

/-- A request that was accepted is requestable, and its decision is made. -/
theorem requestable (h : AdvancePasses engine args w p decision opened queue) :
    Requestable args p decision := by
  obtain ⟨r, hr⟩ := requestOutcome_eq_ok.mp h.requested
  exact requestable_of_toJson_eq (validateTransitionRequest_eq_ok_iff.mp hr).1

/-- A task that waits is not made to wait again. -/
theorem pauses (h : AdvancePasses engine args w p decision opened queue)
    (htarget : p.target = .waitingHuman) : p.current.currentState ≠ .waitingHuman := by
  intro hwaiting
  obtain ⟨r, hr⟩ := requestOutcome_eq_ok.mp h.requested
  obtain ⟨hrequest, hvalid⟩ := validateTransitionRequest_eq_ok_iff.mp hr
  have hdecided := Prog.may_of_run (congrArg Prod.fst h.decided)
  simp only [transitionDecision, htarget, if_true, Prog.may_bind, Prog.may_pure] at hdecided
  obtain ⟨_, -, _, -, rfl⟩ := hdecided
  have hentries := congrArg Mapping.entries (Mapping.toJson_injective hrequest)
  simp only [transitionRequest, TransitionRequest.toMapping, List.cons.injEq, Prod.mk.injEq,
    true_and, and_true] at hentries
  obtain ⟨-, -, hdecision, -, hfrom, -⟩ := hentries
  have hsource : r.fromState = .waitingHuman := by
    rw [← hwaiting]
    exact (TaskState.toJson_injective hfrom).symm
  -- from a pause the request needs a decision, and a call that pauses has none
  obtain ⟨d, hd⟩ := Option.isSome_iff_exists.mp (hvalid.resumes.mp hsource)
  rw [hd] at hdecision
  exact absurd hdecision.symm (Mapping.toJson_ne_null _)

theorem decisionMade (h : AdvancePasses engine args w p decision opened queue) :
    DecisionMade p decision :=
  decisionMade_of_may (Prog.may_of_run (congrArg Prod.fst h.decided)) h.pauses

/-- The rows that the commit of a call leaves. -/
theorem preparedCommit_store (w : World) (args : TransitionArgs) (p : PreparedTransition)
    (decision : Option Mapping) :
    (preparedCommit w args p decision).2 = (commitRows w.store
      (transitionEvent args p decision).toJson (transitionState args p decision).toJson).2 :=
  CommitCall.run_store ⟨_, _, w.exportFault⟩ w.store

/-- **A call that passes its checks and is committable moves the task**, and its chain is one event
longer. -/
theorem exists_moved (h : AdvancePasses engine args w p decision opened queue)
    (hloaded : engine.bundle.Loaded) (hbound : TaskBound w.store args.taskId)
    (hformed : RecordsFormed args p decision) (hcommittable : Committable args p decision) :
    ∃ events last e s, StoredChain w.store events last p.current ∧
      (transitionEvent args p decision).toJson = e.toJson ∧
      (transitionState args p decision).toJson = s.toJson ∧
      ((advance engine args).run w).2
        = { w.withDecisions queue with store := w.store.write e s } ∧
      StoredChain (w.store.write e s) (events ++ [e]) e s ∧ s.taskId = p.current.taskId := by
  obtain ⟨events, last, hstored, hsequence⟩ := h.preparation.storedChain hbound
  have hevidence : p.evidenceBindings ≠ [] := by
    intro hnil
    have hlength := (evidenceBindings_may.mp h.preparation.bound).length_eq
    rw [hnil, List.length_zipIdx, List.length_nil] at hlength
    exact h.preparation.evidence (List.length_eq_zero_iff.mp hlength)
  obtain ⟨e, s, hevent, hstate, hfollows⟩ := h.preparation.preparedFor.exists_follows hloaded hformed
    h.decisionMade hcommittable hevidence hstored hsequence
  obtain ⟨hcommit, hnew⟩ := hstored.commit hfollows
  refine ⟨events, last, e, s, hstored, hevent, hstate, ?_, hnew, ?_⟩
  · rw [h.run_world, preparedCommit_store, hevent, hstate, hcommit]
  · rw [← hfollows.pair.binds.taskId, hfollows.taskId]

theorem moves (h : AdvancePasses engine args w p decision opened queue)
    (hloaded : engine.bundle.Loaded) (hbound : TaskBound w.store args.taskId)
    (hformed : RecordsFormed args p decision) (hcommittable : Committable args p decision) :
    w.Moves ((advance engine args).run w).2 args.taskId p.current.currentState p.target := by
  obtain ⟨events, last, e, s, -, hevent, -, hworld, hnew, -⟩ :=
    h.exists_moved hloaded hbound hformed hcommittable
  have hmade := eventOf hevent
  exact ⟨e, s, hnew.pair, by rw [hworld], hmade.taskId, hmade.eventType, hmade.fromState,
    hmade.toState⟩

end AdvancePasses

/-- **A call that moves a task** has passed its checks and was committable. -/
theorem exists_passes_of_moves {engine : Engine} {args : TransitionArgs} {w : World}
    {taskId : String} {source target : TaskState}
    (h : w.Moves ((advance engine args).run w).2 taskId source target) :
    ∃ p decision opened queue, AdvancePasses engine args w p decision opened queue ∧
      Committable args p decision ∧ p.current.currentState = source ∧ p.target = target := by
  obtain ⟨e, s, hpair, hstore, htask, htype, hsource, htarget⟩ := h
  rcases advance_run_cases engine args w with ⟨failure, decisions, hrun⟩ | ⟨p, decision, opened,
    queue, hpasses⟩
  · rw [hrun] at hstore
    exact absurd hstore.symm (ControlStore.write_ne _ _ _)
  rw [hpasses.run_world] at hstore
  change (preparedCommit w args p decision).2 = _ at hstore
  rw [AdvancePasses.preparedCommit_store] at hstore
  rcases commitRows_cases w.store (transitionEvent args p decision).toJson
    (transitionState args p decision).toJson with ⟨_, hrows⟩ | ⟨e', s', hevent, -, hpair', hcase⟩
  · rw [hrows] at hstore
    exact absurd hstore.symm (ControlStore.write_ne _ _ _)
  rcases hcase with ⟨-, hrows⟩ | ⟨hdecide, hrows⟩
  · rw [hrows] at hstore
    exact absurd hstore.symm (ControlStore.write_ne _ _ _)
  rw [hrows] at hstore
  obtain rfl := ControlStore.write_event_eq hpair'.event hpair.event hstore
  have hmade := eventOf hevent
  refine ⟨p, decision, opened, queue, hpasses, ⟨hpasses.requestable, ?_, ?_⟩, ?_, ?_⟩
  · rw [← hmade.sequence]
    exact (decideCommit_eq_true.mp hdecide).2.1
  · rw [hevent]
    exact hpair'.eventFits
  · exact Option.some.inj (hmade.fromState.symm.trans hsource)
  · exact Option.some.inj (hmade.toState.symm.trans htarget)

end Acgps
