import Acgps.Engine.Runs

/-!
# What a transition has passed

The checks of a transition, read off the log that it was committed behind.

## Main Definitions

* `Preparation` - everything that a preparation establishes
* `logGate` - the state whose gate a log stands at: the last state, or the one before a pause

## Key Theorems

* `prepareTransitionValidation_may` - a preparation establishes this and nothing else
* `Preparation.target_mem` - the target is a transition of the state
* `TransitionCommit.gate` - a transition was checked at the gate of its log
* `TransitionCommit.legal` - **its target is a transition of the state at that gate**
-/

namespace Acgps

open Checked History Interleaving

variable [Platform]

/-! ## Section 1: Preparations -/

/-- Everything that a preparation establishes. -/
structure Preparation (S : World → Prop) (engine : Engine) (args : TransitionArgs)
    (p : PreparedTransition) : Prop where
  status : ∃ w, S w ∧ readTaskState w.store args.taskId = .ok p.current
  gateSource : (transitionGateSourceState p.current).May S (.ok p.gateSource)
  sequence : ∃ events, (audit args.taskId).May S (.ok events) ∧ p.sequence = events.length + 1
  token : p.token = taskToken args.taskId
  policy : p.policy = evaluatePolicy engine.bundle (policyInput engine args p.current p.sequence)
  target : authorizedTarget args.toState p.current p.policy.result = .ok p.target
  actor : requireTransitionActor p.gateSource p.target args.actor = .ok ()
  evidence : args.evidencePaths ≠ []
  validated : ∃ validated, (validateGateEvidence engine p.gateSource p.target args.evidencePaths
      p.current).May S (.ok validated) ∧
    ∀ snapshots ∈ validated, p.evidenceBindings.map PathBinding.snapshot = snapshots
  bound : (evidenceBindings engine args p.sequence p.target).May S (.ok p.evidenceBindings)
  revalidated : (revalidatePrepared engine p.gateSource p.target args.evidencePaths
    p.evidenceBindings p.current).May S (.ok ())
  items : p.evidenceItems = args.evidencePaths

/-- **A preparation establishes this and nothing else.** -/
theorem prepareTransitionValidation_may {S : World → Prop} {engine : Engine}
    {args : TransitionArgs} {p : PreparedTransition} :
    (prepareTransitionValidation engine args).May S (.ok p) ↔ Preparation S engine args p := by
  simp only [prepareTransitionValidation, Query.may_bind, may_status, Query.may_lift,
    Query.may_pure, requireValidated, require_eq_ok]
  constructor
  · rintro ⟨current, hread, source, hsource, events, haudit, target, htarget, _, hactor, _, hpaths,
      validated, hvalidated, bindings, hbindings, _, hsame, _, hagain, rfl⟩
    exact ⟨hread, hsource, ⟨events, haudit, rfl⟩, rfl, rfl, htarget, hactor, hpaths,
      ⟨validated, hvalidated, hsame⟩, hbindings, hagain, rfl⟩
  · rintro ⟨hread, hsource, ⟨events, haudit, hsequence⟩, htoken, hpolicy, htarget, hactor, hpaths,
      ⟨validated, hvalidated, hsame⟩, hbindings, hagain, hitems⟩
    obtain ⟨current, gateSource, sequence, token, policy, target, items, bindings⟩ := p
    dsimp only at *
    subst hsequence htoken hpolicy hitems
    exact ⟨current, hread, gateSource, hsource, events, haudit, target, htarget, (), hactor, (),
      hpaths, validated, hvalidated, bindings, hbindings, (), hsame, (), hagain, rfl⟩

/-- What a gate source tells about the state. -/
theorem transitionGateSourceState_may {S : World → Prop} {current : WorkflowTaskState}
    {source : TaskState} :
    (transitionGateSourceState current).May S (.ok source) ↔
      if current.currentState = .waitingHuman then
        pausedState current = .ok source ∧ ∃ lineage,
          (∃ w, S w ∧ trustedAuditLineage w.store current = .ok lineage) ∧
          requirePauseBoundary lineage source = .ok ()
      else source = current.currentState := by
  by_cases hwaiting : current.currentState = .waitingHuman
  · simp only [transitionGateSourceState, hwaiting, ne_eq, not_true_eq_false, if_false, if_true,
      Query.may_bind, Query.may_lift, may_trustedLineage, Query.may_pure]
    constructor
    · rintro ⟨_, hpaused, lineage, hlineage, _, hboundary, rfl⟩
      exact ⟨hpaused, lineage, hlineage, hboundary⟩
    · rintro ⟨hpaused, lineage, hlineage, hboundary⟩
      exact ⟨source, hpaused, lineage, hlineage, (), hboundary, rfl⟩
  · simp only [transitionGateSourceState, hwaiting, ne_eq, not_false_eq_true, if_true, if_false,
      Query.may_pure, eq_comm]

/-- A state has one gate source. -/
theorem transitionGateSourceState_unique {S : World → Prop} {current : WorkflowTaskState}
    {source source' : TaskState}
    (h : (transitionGateSourceState current).May S (.ok source))
    (h' : (transitionGateSourceState current).May S (.ok source')) : source = source' := by
  rw [transitionGateSourceState_may] at h h'
  split at h
  next hwaiting =>
    rw [if_pos hwaiting] at h'
    exact Except.ok.inj (h.1.symm.trans h'.1)
  next hwaiting =>
    rw [if_neg hwaiting] at h'
    rw [h, h']

namespace Preparation

variable {S : World → Prop} {engine : Engine} {args : TransitionArgs} {p : PreparedTransition}

/-- The policy has decided on the request. -/
theorem policy_decides (h : Preparation S engine args p) :
    p.policy.result.Decides engine.bundle (policyInput engine args p.current p.sequence).input := by
  have htarget := h.target
  simp only [authorizedTarget, bind_eq_ok, require_eq_ok] at htarget
  obtain ⟨_, hopen, -⟩ := htarget
  rw [h.policy] at hopen ⊢
  obtain ⟨r, -, hdecides, hresult, -⟩ := evaluatePolicy_open hopen
  rw [hresult]
  exact hdecides

/-- The target is the requested one, or a pause in its place. -/
theorem target_eq (h : Preparation S engine args p) :
    p.target.name = actualTarget args.toState p.policy.result ∧
      p.target ∈ p.policy.result.authorizedTransitions := by
  have htarget := h.target
  simp only [authorizedTarget, bind_eq_ok, require_eq_ok, expect_eq_ok, Option.filter_eq_some_iff,
    TaskState.ofName_eq_some_iff, decide_eq_true_eq] at htarget
  exact ⟨htarget.choose_spec.2.1.symm, htarget.choose_spec.2.2⟩

/-- The target is a transition of the state that was read. -/
theorem target_mem (h : Preparation S engine args p) :
    p.target ∈ engine.bundle.targets p.current.currentState :=
  h.policy_decides.mem_targets h.target_eq.2

/-- The target of a transition that does not pause is the requested one. -/
theorem name_of_ne (h : Preparation S engine args p) (htarget : p.target ≠ .waitingHuman) :
    p.target.name = args.toState := by
  have hname := h.target_eq.1
  unfold actualTarget at hname
  split at hname
  · exact absurd (TaskState.name_injective hname) htarget
  · exact hname

end Preparation

/-! ## Section 2: The gate of a log -/

/-- The state whose gate a log stands at: the last state, or the one before a pause. -/
def logGate (log : List AuditEvent) : Option TaskState :=
  log.getLast?.bind (fun last =>
    if last.stateAfter = .waitingHuman then last.fromState else some last.stateAfter)

omit [Platform] in
theorem logGate_concat {log : List AuditEvent} {e : AuditEvent} :
    logGate (log ++ [e]) =
      if e.stateAfter = .waitingHuman then e.fromState else some e.stateAfter := by
  simp [logGate]

namespace TransitionCommit

variable {S : World → Prop} {engine : Engine} {args : TransitionArgs} {p : PreparedTransition}
  {decision : Option Mapping} {before : List AuditEvent} {e : AuditEvent}

theorem preparation (h : TransitionCommit S engine args p decision before e) :
    Preparation S engine args p := prepareTransitionValidation_may.mp h.checks.prepared

/-- The state that a call has read is the one that the log leads to. -/
theorem currentState (h : TransitionCommit S engine args p decision before e) :
    before.getLast?.map AuditEvent.stateAfter = some p.current.currentState := by
  obtain ⟨last, hlast, hpair⟩ := h.head
  rw [hlast, hpair.currentState]
  rfl

/-- **A transition was checked at the gate of its log.** -/
theorem gate (h : TransitionCommit S engine args p decision before e) :
    logGate before = some p.gateSource := by
  obtain ⟨last, hlast, hpair⟩ := h.head
  have hsource := transitionGateSourceState_may.mp h.preparation.gateSource
  rw [hpair.currentState] at hsource
  rw [logGate, hlast, Option.bind_some]
  split at hsource
  next hwaiting =>
    rw [if_pos hwaiting]
    have hprevious := hsource.1
    simp only [pausedState, expect_eq_ok, Option.filter_eq_some_iff] at hprevious
    rw [← hprevious.1]
    -- a task that waits was moved there by a transition
    have hfields := hpair.binds.fields
    cases htype : last.eventType with
    | taskCreated =>
        have hdraft := (hpair.event.creation_fields htype).2.2
        rw [hdraft] at hwaiting
        cases hwaiting
    | transitionAccepted =>
        simp only [StateFieldsMatch, htype] at hfields
        exact hfields.2.1.symm
    | recoveryRecorded => simp [StateFieldsMatch, htype] at hfields
    | rollbackRecorded => simp [StateFieldsMatch, htype] at hfields
  next hwaiting => rw [if_neg hwaiting, hsource]

/-- The target is a transition of the state that was read. -/
theorem target_mem (h : TransitionCommit S engine args p decision before e) :
    p.target ∈ engine.bundle.targets p.current.currentState :=
  h.preparation.target_mem

/-- A resumption goes where the state before the pause could go. -/
theorem resume_mem (h : TransitionCommit S engine args p decision before e)
    (hwaiting : p.current.currentState = .waitingHuman) (htarget : p.target ≠ .waitingHuman) :
    p.target ∈ engine.bundle.targets p.gateSource := by
  have hdecided := h.checks.decided
  simp only [transitionDecision, if_neg htarget, if_pos hwaiting, Prog.may_bind, Prog.may_query,
    waitingHumanResolutionBinding, Query.may_bind, Query.may_lift, require_eq_ok] at hdecided
  obtain ⟨_, ⟨_, _, _, _, _, _, _, _, _, _, _, _, _, _, source, hsource, _, hlegal, _⟩, _⟩ := hdecided
  rw [transitionGateSourceState_unique hsource h.preparation.gateSource] at hlegal
  obtain ⟨t, ht, hname⟩ := List.mem_map.mp hlegal
  rwa [TaskState.name_injective hname] at ht

/-- **The target of a transition** is a pause, or a transition of the state at the gate. -/
theorem legal (h : TransitionCommit S engine args p decision before e) :
    p.target = .waitingHuman ∨ p.target ∈ engine.bundle.targets p.gateSource := by
  by_cases htarget : p.target = .waitingHuman
  · exact .inl htarget
  · right
    by_cases hwaiting : p.current.currentState = .waitingHuman
    · exact h.resume_mem hwaiting htarget
    · have hsource := transitionGateSourceState_may.mp h.preparation.gateSource
      rw [if_neg hwaiting] at hsource
      rw [hsource]
      exact h.target_mem

end TransitionCommit

end Acgps
