import Acgps.Engine.ReadBack
import Acgps.Engine.Trusted

/-!
# What a call can commit

Whatever a call has read, it can write a record of the queue, the proof of an intake, or one event
with the state that it results in.

## Main Definitions

* `EventOf` - an event that was made from a prepared transition
* `TransitionCommit` - everything that a call has established when it commits an event
* `Call` - the calls of the engine that write

## Key Theorems

* `eventOf` - the record that a transition commits is such an event
* `Call.writes_cases` - **what a call can write**
-/

namespace Acgps

open Checked Interleaving

variable [Platform]

/-! ## Section 1: The event of a transition -/

/-- An event that was made from a prepared transition. -/
structure EventOf (args : TransitionArgs) (p : PreparedTransition) (decision : Option Mapping)
    (e : AuditEvent) : Prop where
  actor : e.actor.name = args.actor
  createdAtUtc : e.createdAtUtc.val = args.createdAtUtc
  decision : Json.ofOption Mapping.toJson decision
    = Json.ofOption DecisionResolutionBinding.toJson e.decisionResolutionBinding
  eventType : e.eventType = .transitionAccepted
  evidence : e.evidenceBindings.map EvidenceBinding.snapshot?
    = p.evidenceBindings.map (fun b => some b.snapshot)
  fromState : e.fromState = some p.current.currentState
  policy : (policyBinding p.policy args.createdAtUtc).toJson
    = Json.ofOption PolicyEvaluationBinding.toJson e.policyEvaluationBinding
  previousEventHash : e.previousEventHash = some p.current.auditHeadHash
  projectId : e.projectId = p.current.projectId
  sequence : e.sequence.val = p.sequence
  taskId : e.taskId.val = args.taskId
  toState : e.toState = some p.target

/-- The bindings of an event keep the snapshots that they were made from. -/
theorem snapshots_of_pathBindingsJson_eq {bindings : List PathBinding}
    {stored : List EvidenceBinding} (h : pathBindingsJson bindings = evidenceListJson stored) :
    stored.map EvidenceBinding.snapshot? = bindings.map (fun b => some b.snapshot) := by
  have hlist : bindings.map PathBinding.toJson = stored.map EvidenceBinding.toJson :=
    Json.arr.inj h
  clear h
  induction bindings generalizing stored with
  | nil => simp [List.map_eq_nil_iff.mp hlist.symm]
  | cons b bindings ih =>
      cases stored with
      | nil => simp at hlist
      | cons e stored =>
          simp only [List.map_cons, List.cons.injEq] at hlist
          rw [List.map_cons, List.map_cons, PathBinding.snapshot_of_toJson_eq hlist.1,
            ih hlist.2]

/-- **The record that a transition commits** is an event that was made from it. -/
theorem eventOf {args : TransitionArgs} {p : PreparedTransition} {decision : Option Mapping}
    {e : AuditEvent} (h : (transitionEvent args p decision).toJson = e.toJson) :
    EventOf args p decision e := by
  have hentries := congrArg Mapping.entries (Mapping.toJson_injective h)
  simp only [transitionEvent, transitionEventWithHash, AuditEvent.toMapping, AuditEvent.withHash,
    List.cons.injEq, Prod.mk.injEq, true_and, and_true] at hentries
  obtain ⟨hactor, hcreated, hdecision, -, -, -, htype, hevidence, hfrom, -, hpolicy,
    hprevious, hproject, hsequence, htask, hto, -⟩ := hentries
  have hstate : ∀ s : TaskState, s.toJson ≠ .null := by simp [TaskState.toJson]
  exact {
    actor := (Json.str.inj hactor).symm
    createdAtUtc := (Json.str.inj hcreated).symm
    decision := hdecision
    eventType := by
      have hname : EventType.transitionAccepted.name = e.eventType.name := Json.str.inj htype
      exact (EventType.name_injective hname).symm
    evidence := snapshots_of_pathBindingsJson_eq hevidence
    fromState := Json.eq_some_of_ofOption_eq TaskState.toJson_injective (hstate _) hfrom
    policy := hpolicy
    previousEventHash := Json.eq_some_of_ofOption_eq testedJson_injective (by simp [testedJson])
      hprevious
    projectId := (Subtype.ext (Json.str.inj hproject)).symm
    sequence := (Int.ofNat.inj (Json.int.inj hsequence)).symm
    taskId := (Json.str.inj htask).symm
    toState := Json.eq_some_of_ofOption_eq TaskState.toJson_injective (hstate _) hto }

/-! ## Section 2: Calls and what they write -/

/-- A call that may write. -/
inductive Call where
  | intake (engine : Engine) (record : Mapping) (actor : String)
  | advance (engine : Engine) (args : TransitionArgs)
  | trustedAdvance (engine : Engine) (args : TrustedArgs)

/-- The engine of a call. -/
def Call.engine : Call → Engine
  | intake engine _ _ => engine
  | advance engine _ => engine
  | trustedAdvance engine _ => engine

/-- The program of a call. -/
def Call.program : Call → EngineProg WorkflowTaskState
  | intake engine record actor => Acgps.intake engine record actor
  | advance engine args => Acgps.advance engine args
  | trustedAdvance engine args => Acgps.trustedAdvance engine args

/-- The write of a commit. -/
def commitWrite (event state : Mapping) (w : World) : World :=
  { w with
    store := (commitTaskStateAndAudit w.store event.toJson state.toJson w.exportFault).2 }

/-- A write that leaves the tables and the files alone. -/
def KeepsStore (x : World → World) : Prop :=
  ∀ w, (x w).store = w.store ∧ (x w).files = w.files

/-- What a call has established about an event when it writes it. -/
structure TransitionChecks (S : World → Prop) (engine : Engine) (args : TransitionArgs)
    (p : PreparedTransition) (decision : Option Mapping) : Prop where
  prepared : (prepareTransitionValidation engine args).May S (.ok p)
  decided : (transitionDecision engine args p).May S (.ok decision)
  requested : requestOutcome
    (validateTransitionRequest (transitionRequest args p decision).toJson) = .ok ()
  closure : (revalidateClosure engine p.gateSource p.target p.evidenceItems p.evidenceBindings
    p.current).May S (.ok ())

theorem TransitionChecks.mono {S S' : World → Prop} {engine : Engine} {args : TransitionArgs}
    {p : PreparedTransition} {decision : Option Mapping} (hS : ∀ w, S w → S' w)
    (h : TransitionChecks S engine args p decision) :
    TransitionChecks S' engine args p decision where
  prepared := h.prepared.mono hS
  decided := h.decided.mono hS
  requested := h.requested
  closure := h.closure.mono hS

omit [Platform] in
theorem keepsStore_createDecision {S : World → Prop} {request : Mapping} {x : World → World}
    (h : (createDecision request).Writes S x) : KeepsStore x := by
  simp only [createDecision, Prog.writes_bind, Prog.writes_lift, Prog.may_lift, false_or,
    Prog.writes_update] at h
  obtain ⟨_, _, _, _, rfl⟩ := h
  exact fun w => ⟨rfl, rfl⟩

omit [Platform] in
theorem keepsStore_resolveGiven {S : World → Prop} {resolution : Option Mapping}
    {x : World → World} (h : (resolveGiven resolution).Writes S x) : KeepsStore x := by
  cases resolution with
  | none => exact absurd h Prog.writes_pure
  | some resolution =>
      simp only [resolveGiven, Prog.writes_mapError, resolveDecision, Prog.writes_bind,
        Prog.writes_query, Prog.writes_lift, Prog.may_lift, false_or, Prog.writes_update] at h
      obtain ⟨_, _, _, _, rfl⟩ := h
      exact fun w => ⟨rfl, rfl⟩

theorem keepsStore_transitionDecision {S : World → Prop} {engine : Engine} {args : TransitionArgs}
    {p : PreparedTransition} {x : World → World}
    (h : (transitionDecision engine args p).Writes S x) : KeepsStore x := by
  unfold transitionDecision at h
  split at h
  · simp only [Prog.writes_bind, Prog.writes_lift, false_or, Prog.writes_pure, and_false,
      exists_false, or_false] at h
    obtain ⟨_, _, h⟩ := h
    exact keepsStore_createDecision h
  · split at h
    · simp [Prog.writes_bind] at h
    · simp [Prog.writes_bind] at h

/-- What the second part of a transition can write. -/
theorem commitPreparedTransition_writes {S : World → Prop} {engine : Engine}
    {args : TransitionArgs} {p : PreparedTransition} {final : EngineQuery Unit}
    {x : World → World} (hprepared : (prepareTransitionValidation engine args).May S (.ok p))
    (h : (commitPreparedTransition engine args p final).Writes S x) :
    KeepsStore x ∨ ∃ decision, TransitionChecks S engine args p decision ∧
      x = commitWrite (transitionEvent args p decision) (transitionState args p decision) := by
  simp only [commitPreparedTransition, Prog.writes_bind, Prog.writes_lift, Prog.writes_query,
    Prog.may_lift, Prog.may_query, false_or, or_false, and_false, exists_false, commitRecords,
    Prog.writes_update] at h
  rcases h with h | ⟨decision, hdecided, _, hrequested, h | ⟨_, _, _, hclosure, _, _, rfl⟩⟩
  · exact .inl (keepsStore_transitionDecision h)
  · exact .inl (keepsStore_resolveGiven h)
  · exact .inr ⟨decision, ⟨hprepared, hdecided, hrequested, hclosure⟩, rfl⟩

/-- The write of the first event of a task. -/
def creationWrite (intake : Mapping) (actor : String) : World → World :=
  let eventId := "evt-" ++ taskToken (intake.word "task_id") ++ "-0001"
  commitWrite (creationEventRecord intake actor eventId) (creationStateRecord intake actor eventId)

omit [Platform] in
theorem keepsStore_writeInitializationRecord {S : World → Prop} {taskId : String}
    {record request : Mapping} {x : World → World}
    (h : (writeInitializationRecord taskId record request).Writes S x) : KeepsStore x := by
  rw [writeInitializationRecord, Prog.writes_update] at h
  subst h
  intro w
  dsimp only
  split
  · exact ⟨rfl, rfl⟩
  · split
    · exact ⟨rfl, rfl⟩
    · exact ⟨rfl, rfl⟩

/-- What an intake can write. -/
theorem intake_writes {S : World → Prop} {engine : Engine} {record : Mapping} {actor : String}
    {x : World → World} (h : (intake engine record actor).Writes S x) :
    KeepsStore x ∨ x = creationWrite record actor := by
  simp only [intake, Prog.writes_bind, Prog.writes_lift, Prog.writes_query, Prog.writes_mapError,
    commitRecords, Prog.writes_update, false_or, or_false, and_false, exists_false] at h
  obtain ⟨_, _, _, _, _, _, _, _, _, _, _, _, h | ⟨_, _, rfl⟩⟩ := h
  · exact .inl (keepsStore_writeInitializationRecord h)
  · exact .inr rfl

/-- **What a call can write**: nothing that the tables or the files hold, the first event of a task,
or an event that has passed the checks of a transition. -/
theorem Call.writes_cases {S : World → Prop} {c : Call} {x : World → World}
    (h : c.program.Writes S x) :
    KeepsStore x ∨ (∃ record actor, x = creationWrite record actor) ∨
      ∃ args p decision, TransitionChecks S c.engine args p decision ∧
        x = commitWrite (transitionEvent args p decision) (transitionState args p decision) := by
  cases c with
  | intake engine record actor =>
      rcases intake_writes h with h | h
      · exact .inl h
      · exact .inr (.inl ⟨record, actor, h⟩)
  | advance engine args =>
      simp only [Call.program, Acgps.advance, Prog.writes_bind, Prog.writes_lift, Prog.writes_query,
        Prog.may_query, false_or] at h
      obtain ⟨_, _, p, hprepared, h⟩ := h
      rcases commitPreparedTransition_writes hprepared h with h | ⟨decision, h⟩
      · exact .inl h
      · exact .inr (.inr ⟨args, p, decision, h⟩)
  | trustedAdvance engine args =>
      simp only [Call.program, Acgps.trustedAdvance, Prog.writes_bind, Prog.writes_lift,
        Prog.writes_query, Prog.may_query, false_or] at h
      obtain ⟨_, _, records, _, target, _, p, hprepared, _, _, h⟩ := h
      rcases commitPreparedTransition_writes hprepared h with h | ⟨decision, h⟩
      · exact .inl h
      · exact .inr (.inr ⟨_, p, decision, h⟩)

end Acgps
