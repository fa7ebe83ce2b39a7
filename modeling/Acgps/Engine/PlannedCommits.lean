import Acgps.Engine.ReadBack
import Acgps.Policy.Loader
import Acgps.Workflow.TransitionTransactions

/-!
# Planned records are committed

The validator of transition transactions and the store check the same pair of records with code of
their own. A plan that the validator accepts is a pair that the store takes, and at the tail of the
task's log it is committed.

## Main Definitions

* `ControlStore.StoredTail` - the stored state of a task and the last event of its generation

## Key Theorems

* `TransitionTransaction.Valid.stateBinds` - a valid plan binds its state to its event
* `planned_records_commit` - **an accepted transaction plans a pair that the store accepts, and at
  the tail commits**
-/

namespace Acgps

open Checked

section Tails

variable [Digest]

/-! ## Section 1: The tail of a task -/

/-- The state row of a task, and the last row of the generation that the state is in: the event that
the state binds. -/
structure ControlStore.StoredTail (store : ControlStore) (taskId : String)
    (current : WorkflowTaskState) (tail : AuditEvent) : Prop where
  state : store.selectTaskState taskId = some (.canonical current.toJson)
  last : (store.selectGeneration taskId current.auditGeneration.val).getLast? = some tail.row
  stateValid : current.Valid
  tailValid : tail.Valid
  stateFits : FitsSqlite current.toJson
  tailFits : FitsSqlite tail.toJson
  generation : tail.generation = current.auditGeneration
  headEventId : tail.eventId = current.auditHeadEventId
  headHash : tail.eventHash = current.auditHeadHash

/-- A task with rows has a tail after any commits. -/
theorem TaskBound.storedTail {store : ControlStore} {taskId : String} (h : TaskBound store taskId)
    (hrows : store.taskRows taskId ≠ []) : ∃ current tail, store.StoredTail taskId current tail := by
  rcases h with ⟨-, hnone⟩ | ⟨events, last, state, hchain, hlast, hpair, haudit, htask⟩
  · exact absurd hnone hrows
  · have hmem : last ∈ events := List.mem_of_getLast? hlast
    have hone : state.auditGeneration.val = 1 := by
      rw [hpair.binds.generation, hchain.generation last hmem]
    refine ⟨state, last, ?_, ?_, hpair.state, hpair.event, hpair.stateFits, hpair.eventFits,
      hpair.binds.generation.symm, hpair.binds.headEventId.symm, hpair.binds.headHash.symm⟩
    · rw [ControlStore.selectTaskState, htask]
      rfl
    · rw [hone]
      show (store.selectGeneration taskId 1).getLast? = _
      rw [hchain.selectGeneration haudit, List.getLast?_map, hlast]
      rfl

omit [Digest] in
/-- No row of the generation is behind the last one. -/
theorem ControlStore.sequence_le_of_last {store : ControlStore} {taskId : String} {generation : Int}
    {last row : AuditEventRow}
    (hlast : (store.selectGeneration taskId generation).getLast? = some last)
    (hrow : row ∈ store.auditRows taskId) (hgeneration : row.generation = generation) :
    row.sequence ≤ last.sequence := by
  obtain ⟨before, hsplit⟩ := List.getLast?_eq_some_iff.mp hlast
  have hmem : row ∈ store.selectGeneration taskId generation := by
    apply (List.mem_insertionSort _).mpr
    exact List.mem_filter.mpr ⟨hrow, decide_eq_true hgeneration⟩
  have hsorted : (store.selectGeneration taskId generation).Pairwise
      (fun a b => a.sequence ≤ b.sequence) := by
    have htotal : Std.Total (fun a b : AuditEventRow => a.sequence ≤ b.sequence) :=
      ⟨fun a b => le_total a.sequence b.sequence⟩
    have htrans : IsTrans AuditEventRow (fun a b => a.sequence ≤ b.sequence) :=
      ⟨fun _ _ _ => le_trans⟩
    exact List.pairwise_insertionSort _ _
  rw [hsplit] at hmem hsorted
  rcases List.mem_append.mp hmem with hbefore | hend
  · exact (List.pairwise_append.mp hsorted).2.2 row hbefore last (List.mem_singleton_self last)
  · rw [List.mem_singleton.mp hend]

/-- The coordinate behind the tail is free. -/
theorem ControlStore.StoredTail.selectEvent_eq_none {store : ControlStore} {taskId : String}
    {current : WorkflowTaskState} {tail : AuditEvent} (h : store.StoredTail taskId current tail)
    {generation sequence : ℕ} (hgeneration : generation = current.auditGeneration.val)
    (hsequence : sequence = tail.sequence.val + 1) :
    store.selectEvent taskId generation sequence = none := by
  subst hgeneration hsequence
  rw [ControlStore.selectEvent, Option.map_eq_none_iff, List.find?_eq_none]
  intro row hrow hfound
  obtain ⟨hgeneration, hbehind⟩ := of_decide_eq_true hfound
  have hle := ControlStore.sequence_le_of_last h.last hrow hgeneration
  have htail : tail.row.sequence = tail.sequence.val := rfl
  omega

/-- **A pair that continues the tail of its task is committed.** -/
theorem ControlStore.StoredTail.commitRows_eq {store : ControlStore} {e tail : AuditEvent}
    {s current : WorkflowTaskState} (h : store.StoredTail e.taskId.val current tail)
    (hpair : CommitPair e s) (htype : e.eventType = .transitionAccepted)
    (hgeneration : e.generation = tail.generation)
    (hsequence : e.sequence.val = tail.sequence.val + 1)
    (hprevious : e.previousEventHash = some tail.eventHash)
    (hfrom : e.fromState = some current.currentState)
    (hsmall : e.generation.val < 2 ^ 63 ∧ e.sequence.val < 2 ^ 63) :
    commitRows store e.toJson s.toJson = (.ok true, store.write e s) := by
  have hfields := hpair.binds.fields
  simp only [StateFieldsMatch, htype] at hfields
  have hcurrent : e.generation = current.auditGeneration := hgeneration.trans h.generation
  have hauthority : validateSuccessor store e s (.canonical current.toJson) = .ok () := by
    simp only [validateSuccessor, bind_eq_ok, raiseOutcome_eq_ok, expect_eq_ok, require_eq_ok,
      bindInteger, exists_const]
    refine ⟨current.toJson, loadsJsonMapping_of_fits h.stateFits, current,
      validateTaskState_eq_ok_iff.mpr ⟨rfl, h.stateValid⟩, hcurrent ▸ hsmall.1, tail.row, h.last,
      tail.toJson, loadsJsonMapping_of_fits h.tailFits, tail,
      validateAuditEvent_eq_ok_iff.mpr ⟨rfl, h.tailValid⟩, htype, hcurrent, ?_, ?_,
      h.headEventId, h.headHash, hfrom, ?_⟩
    · show (e.sequence.val : Int) = tail.sequence.val + 1
      omega
    · rw [hprevious, h.headHash]
    · rw [hfields.2.1, hfrom]
  have hdecide : decideCommit store e s = .ok true := by
    apply decideCommit_eq_true.mpr
    refine ⟨hsmall.1, hsmall.2, h.selectEvent_eq_none (by rw [hcurrent]) hsequence, ?_⟩
    rw [← hpair.binds.taskId, h.state]
    exact hauthority
  rw [commitRows, prepareCommit_eq_ok.mpr ⟨rfl, rfl, hpair⟩]
  simp only [commitTransaction, hdecide]

end Tails

section Plans

variable [Platform]

/-! ## Section 2: Plans -/

/-- Bindings that are equal in the source name one evaluation. -/
theorem PolicyEvaluationBinding.evaluationId_of_pyEq {binding : Option PolicyEvaluationBinding}
    {p : PolicyEvaluationBinding}
    (h : (Json.ofOption PolicyEvaluationBinding.toJson binding).pyEq p.toJson = true) :
    binding.map PolicyEvaluationBinding.evaluationId = some p.evaluationId := by
  cases binding with
  | none => exact absurd (Json.pyEq_null_left.mp h) (Mapping.toJson_ne_null _)
  | some b =>
      have hmembers : Json.pyEqMembers b.toMapping.entries p.toMapping.entries = true := h
      simp only [PolicyEvaluationBinding.toMapping, Json.pyEqMembers, Bool.and_eq_true,
        Json.pyEq_str_left, Json.str.injEq] at hmembers
      obtain ⟨-, -, -, -, -, -, -, hid, -⟩ := hmembers
      exact congrArg some (Subtype.ext hid.symm)

/-- **A valid plan binds its state to its event**, for both kinds of transactions. -/
theorem TransitionTransaction.Valid.stateBinds {t : TransitionTransaction} (h : t.Valid) :
    StateBinds t.plannedAuditEvent t.plannedState where
  taskId := h.eventTask.trans h.stateTask.symm
  projectId := h.eventProject.trans h.stateProject.symm
  generation := h.headGeneration
  headEventId := h.headEventId
  headHash := h.headHash
  fields := by
    obtain ⟨⟨_, kind, _, _, _, _, _, _, _, _, _, _⟩, q, r, e, s⟩ := t
    have hresult := h.result
    have hplan := h.plan
    cases kind with
    | initialization =>
        change InitializationPlan q r e s at hplan
        change InitializationResult.Valid r at hresult
        obtain ⟨event, hverdict, -⟩ := hplan.result
        show StateFieldsMatch e s
        rw [StateFieldsMatch, hplan.eventType]
        exact ⟨hresult.draft _ event hverdict, hplan.previousState, hplan.lastTransitionId,
          hplan.policyEvaluationId⟩
    | transition =>
        change TransitionPlan q r e s at hplan
        show StateFieldsMatch e s
        rw [StateFieldsMatch, hplan.eventType]
        refine ⟨?_, ?_, ?_, ?_⟩
        · rw [hplan.currentState, hplan.toState]
        · rw [hplan.previousState, hplan.fromState]
        · rw [hplan.lastTransitionId, hplan.transitionId]
        · rw [hplan.policyEvaluationId,
            PolicyEvaluationBinding.evaluationId_of_pyEq hplan.policy]

/-- A transition plans an event of a transition. -/
theorem TransitionTransaction.Valid.eventType {t : TransitionTransaction} (h : t.Valid)
    (hkind : t.header.operationKind = .transition) :
    t.plannedAuditEvent.eventType = .transitionAccepted := by
  obtain ⟨⟨_, kind, _, _, _, _, _, _, _, _, _, _⟩, q, r, e, s⟩ := t
  obtain rfl : kind = .transition := hkind
  have hplan : TransitionPlan q r e s := h.plan
  exact hplan.eventType

end Plans

/-! ## Section 3: A planned move -/

/-- The creation of a task. -/
def plannedCreation : AuditEvent :=
  creationEvent movedEvent.projectId movedEvent.taskId firstCreation.eventId .controller
    firstCreation.createdAtUtc

/-- A policy result that authorises the first step of the task. -/
def plannedPolicy : PolicyEvaluationBinding :=
  { movedEvent.policyEvaluationBinding.get rfl with resultSha256 := ⟨unarySha 0, isSha256_unaryZero⟩ }

/-- The first step of the task, under one digest for everything. -/
def plannedMove : AuditEvent :=
  { movedEvent with
    policyEvaluationBinding := some plannedPolicy
    eventHash := ⟨unarySha 0, isSha256_unaryZero⟩ }

/-- The state after the first step. -/
def plannedMoveState : WorkflowTaskState :=
  { movedState with auditHeadHash := ⟨unarySha 0, isSha256_unaryZero⟩ }

/-- The request for the first step. -/
def plannedRequest : TransitionRequest where
  transitionId := movedEvent.transitionId.get rfl
  taskId := movedEvent.taskId
  projectId := movedEvent.projectId
  fromState := .draft
  toState := .readyForClassification
  actor := .controller
  idempotencyKey := ⟨"step", by simp⟩
  policyEvaluationBinding := plannedPolicy
  evidenceBindings := movedEvent.evidenceBindings
  decisionResolutionBinding := none
  createdAtUtc := movedEvent.createdAtUtc

/-- The answer to the request. -/
def plannedResult : TransitionResult where
  transitionId := plannedRequest.transitionId
  taskId := movedEvent.taskId
  verdict := .accepted .readyForClassification ⟨"evt-2", by simp⟩
  idempotentReplay := false
  createdAtUtc := movedEvent.createdAtUtc

/-- The transaction of the first step. -/
def plannedTransaction [Platform] : TransitionTransaction where
  header :=
    { transactionId := plannedRequest.transitionId
      operationKind := .transition
      operationId := plannedRequest.transitionId
      taskId := movedEvent.taskId
      idempotencyKey := plannedRequest.idempotencyKey
      requestFingerprint := ⟨unarySha 0, isSha256_unaryZero⟩
      latestPhase := ⟨"PREPARED", by simp [transitionPhases]⟩
      plannedAuditEventHash := ⟨unarySha 0, isSha256_unaryZero⟩
      plannedStateHash := ⟨unarySha 0, isSha256_unaryZero⟩
      plannedResultHash := ⟨unarySha 0, isSha256_unaryZero⟩
      createdAtUtc := movedEvent.createdAtUtc
      updatedAtUtc := movedEvent.createdAtUtc }
  canonicalRequest := plannedRequest
  canonicalResult := plannedResult
  plannedAuditEvent := plannedMove
  plannedState := plannedMoveState

theorem plannedPolicy_valid :
    letI := smallestPlatform
    plannedPolicy.Valid := by
  let _ := smallestPlatform
  refine ⟨by decide, by simp [plannedPolicy, movedEvent], fun record hrecord => ?_⟩
  obtain rfl := TaggedSource.embedded.inj hrecord
  exact ⟨movedPolicyRecord_accepted, rfl, by decide +kernel, by decide +kernel, by decide +kernel,
    by decide +kernel⟩

theorem plannedMove_valid :
    letI := smallestPlatform
    plannedMove.Valid := by
  let _ := smallestPlatform
  have htransition : ∃ record, plannedMove.IsTransition .draft .readyForClassification
      plannedRequest.transitionId plannedPolicy record := ⟨_,
    { sequence := by decide
      fromState := rfl
      toState := rfl
      transitionId := rfl
      policyBinding := rfl
      embedded := rfl
      projectId := by decide +kernel
      taskId := by decide +kernel
      authorized := by decide
      evidence := by simp [plannedMove, movedEvent]
      decision := by simp [plannedMove, movedEvent]
      resumes := by simp }⟩
  refine ⟨by decide, ⟨?_, by decide⟩, ?_, by simp [plannedMove, movedEvent],
    ⟨_, _, _, _, htransition⟩, rfl⟩
  · simp [plannedMove, movedEvent, EvidenceBinding.Valid]
  · intro p hp
    obtain rfl := Option.some.inj hp
    exact plannedPolicy_valid

theorem plannedTransaction_valid :
    letI := smallestPlatform
    plannedTransaction.Valid := by
  let _ := smallestPlatform
  have hrequest : plannedRequest.Valid :=
    { policy := plannedPolicy_valid
      embedded := ⟨_, rfl, by decide +kernel, by decide +kernel⟩
      authorized := by decide
      resumes := by decide
      decision := by simp [plannedRequest]
      evidence := plannedMove_valid.evidence }
  have hsame : plannedPolicy.toJson.pyEq plannedPolicy.toJson = true :=
    Json.pyEq_self (by decide +kernel)
  have hevidence : (evidenceListJson movedEvent.evidenceBindings).pyEq
      (evidenceListJson movedEvent.evidenceBindings) = true :=
    Json.pyEq_self (by decide +kernel)
  have hplan : TransitionPlan plannedRequest plannedResult plannedMove plannedMoveState :=
    ⟨rfl, ⟨_, rfl, rfl⟩, rfl, rfl, rfl, rfl, hsame, hsame, hevidence, hevidence, rfl, rfl, rfl, rfl,
      rfl⟩
  exact {
    journal := by decide +kernel
    journalIndex := by decide +kernel
    request := hrequest
    requestId := rfl
    requestTask := rfl
    requestKey := rfl
    requestFingerprint := rfl
    result := trivial
    resultId := rfl
    resultTask := rfl
    resultHash := rfl
    event := plannedMove_valid
    eventTask := rfl
    eventProject := rfl
    eventHash := rfl
    state := by simp [WorkflowTaskState.Valid, plannedTransaction, plannedMoveState, movedState]
    stateTask := rfl
    stateProject := rfl
    stateHash := rfl
    headEventId := rfl
    headHash := rfl
    headGeneration := rfl
    plan := hplan }

/-- The store after the creation of the task. -/
theorem plannedCreation_tail :
    letI := smallestPlatform
    (ControlStore.empty.write plannedCreation (stateOfCreation plannedCreation)).StoredTail
      plannedMove.taskId.val (stateOfCreation plannedCreation) plannedCreation := by
  let _ := smallestPlatform
  have hpair : CommitPair plannedCreation (stateOfCreation plannedCreation) :=
    commitPair_creation rfl
  exact ⟨rfl, rfl, hpair.state, hpair.event, hpair.stateFits, hpair.eventFits, rfl, rfl, rfl⟩

/-! ## Section 4: Acceptance -/

/-- **Planned records commit.** The planned event and state of an accepted transaction are a pair
that the store accepts; and if the event of a transition has the next sequence, the generation and
the hash of the tail of its task and leaves from the stored state, then the commit of the pair
succeeds, for records within the limits of the store. -/
theorem planned_records_commit [Platform] {record : Json} {t : TransitionTransaction}
    (h : validateTransitionTransaction record = .ok t) :
    validateStateEventPair t.plannedAuditEvent t.plannedState = .ok () ∧
    ∀ (store : ControlStore) (current : WorkflowTaskState) (tail : AuditEvent),
      t.header.operationKind = .transition →
      store.StoredTail t.plannedAuditEvent.taskId.val current tail →
      t.plannedAuditEvent.sequence.val = tail.sequence.val + 1 →
      t.plannedAuditEvent.generation = tail.generation →
      t.plannedAuditEvent.previousEventHash = some tail.eventHash →
      t.plannedAuditEvent.fromState = some current.currentState →
      FitsSqlite t.plannedAuditEvent.toJson → FitsSqlite t.plannedState.toJson →
      t.plannedAuditEvent.generation.val < 2 ^ 63 → t.plannedAuditEvent.sequence.val < 2 ^ 63 →
      commitTaskStateAndAudit store t.plannedAuditEvent.toJson t.plannedState.toJson none
        = (.ok true, store.write t.plannedAuditEvent t.plannedState) := by
  obtain ⟨rfl, hvalid⟩ := validateTransitionTransaction_eq_ok_iff.mp h
  have hbinds := hvalid.stateBinds
  refine ⟨validateStateEventPair_eq_ok.mpr hbinds, ?_⟩
  intro store current tail hkind htail hsequence hgeneration hprevious hfrom hevent hstate hsmall
    hsmall'
  have hpair : CommitPair t.plannedAuditEvent t.plannedState :=
    ⟨hvalid.event, hvalid.state, hbinds, hevent, hstate⟩
  have hrows := htail.commitRows_eq hpair (hvalid.eventType hkind) hgeneration hsequence hprevious
    hfrom ⟨hsmall, hsmall'⟩
  simp only [commitTaskStateAndAudit, hrows]

/-- The first step is accepted, planned and committed behind the creation of the task. -/
theorem planned_records_commit_move :
    letI := smallestPlatform
    validateTransitionTransaction plannedTransaction.toJson = .ok plannedTransaction ∧
    validateStateEventPair plannedMove plannedMoveState = .ok () ∧
    commitTaskStateAndAudit (ControlStore.empty.write plannedCreation
        (stateOfCreation plannedCreation)) plannedMove.toJson plannedMoveState.toJson none
      = (.ok true, (ControlStore.empty.write plannedCreation (stateOfCreation plannedCreation)).write
          plannedMove plannedMoveState) := by
  let _ := smallestPlatform
  have haccepted : validateTransitionTransaction plannedTransaction.toJson
      = .ok plannedTransaction :=
    validateTransitionTransaction_eq_ok_iff.mpr ⟨rfl, plannedTransaction_valid⟩
  obtain ⟨hpair, hcommit⟩ := planned_records_commit haccepted
  exact ⟨haccepted, hpair, hcommit _ _ _ rfl plannedCreation_tail rfl rfl rfl rfl
    (.of_quickWidth (by decide +kernel) (by decide +kernel)) (WorkflowTaskState.fits rfl) (by decide)
    (by decide)⟩

end Acgps
