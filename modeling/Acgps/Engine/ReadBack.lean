import Acgps.Contracts.FieldPasses
import Acgps.Engine.Lineage

/-!
# Reading committed tasks back

The store and the engine each read the history of a task with checks of their own. The store's
writer makes all of them but one: it does not compare the project of a successor with the project of
its task.

## Main Definitions

* `ControlStore.ReadsBack` - both readers take the history of a task
* `CommitCall.KeepsProject` - a call for a task that is stored stays in the project of the task

## Key Theorems

* `StoredChain.trustedAuditLineage_eq`, `StoredChain.hasCommittedDecisionResolution_eq_ok` - a chain
  of one project is read back
* `commits_read_back_iff` - **a run reads back iff its accepted calls keep their projects**
-/

namespace Acgps

open Checked HashChain

variable [Digest]

/-! ## Section 1: Chains of one project -/

omit [Digest] in
/-- The only row of a task is read as its state. -/
theorem readTaskState_of_rows {store : ControlStore} {s : WorkflowTaskState} (hvalid : s.Valid)
    (hfits : FitsSqlite s.toJson) (hrows : store.taskRows s.taskId.val = [s.row]) :
    readTaskState store s.taskId.val = .ok s := by
  have hselect : store.selectTaskState s.taskId.val = some (.canonical s.toJson) := by
    rw [ControlStore.selectTaskState, hrows]
    rfl
  simp only [readTaskState, bind_eq_ok, require_eq_ok, expect_eq_ok, raiseOutcome_eq_ok,
    validateTaskState_eq_ok_iff, pure_eq_ok, exists_const, hselect, Option.some.injEq,
    exists_eq_left']
  exact ⟨s.taskId.property, s.toJson, loadsJsonMapping_of_fits hfits, s, ⟨rfl, hvalid⟩, rfl, rfl⟩

/-- The state of a stored chain is read back. -/
theorem StoredChain.readTaskState_eq {store : ControlStore} {events : List AuditEvent}
    {last : AuditEvent} {current : WorkflowTaskState}
    (h : StoredChain store events last current) :
    readTaskState store current.taskId.val = .ok current :=
  readTaskState_of_rows h.pair.state h.pair.stateFits h.taskRows

/-- A task with a row in one of the tables has a chain in the store. -/
theorem TaskBound.storedChain {store : ControlStore} {taskId : String}
    (h : TaskBound store taskId)
    (hrows : store.auditRows taskId ≠ [] ∨ store.taskRows taskId ≠ []) :
    ∃ events last current, StoredChain store events last current ∧ current.taskId.val = taskId := by
  rcases h with ⟨haudit, htask⟩ | ⟨events, last, current, hchain, hlast, hpair, haudit, htask⟩
  · simp [haudit, htask] at hrows
  · have hid : current.taskId.val = taskId := by
      rw [← hpair.binds.taskId, hchain.task last (List.mem_of_getLast? hlast)]
    subst hid
    exact ⟨events, last, current, ⟨hchain, hlast, hpair, haudit, htask⟩, rfl⟩

/-- **The store's walk reads a stored chain of one project too.** -/
theorem StoredChain.hasCommittedDecisionResolution_eq_ok {store : ControlStore}
    {events : List AuditEvent} {last : AuditEvent} {current : WorkflowTaskState}
    (h : StoredChain store events last current)
    (hproject : ∀ e ∈ events, e.projectId = current.projectId)
    (hnodup : (events.map AuditEvent.eventHash).Nodup) {resolution : Mapping}
    (hresolution : Mapping.lookup "task_id" resolution.entries = some (.str current.taskId.val)) :
    hasCommittedDecisionResolution store resolution
      = .ok (events.any (fun e => e.embedsResolution resolution)) := by
  have hread : ∀ e ∈ events,
      readWalkRow current 1 e.sequence.val e.previousEventHash e.row = .ok e := by
    intro e he
    simp only [readWalkRow, bind_eq_ok, require_eq_ok, raiseOutcome_eq_ok,
      validateAuditEvent_eq_ok_iff, pure_eq_ok]
    refine ⟨(), rfl, e.toJson, loadsJsonMapping_of_fits (h.chain.fits e he), e,
      ⟨rfl, h.chain.valid e he⟩, (), ⟨Subtype.ext (h.chain.task e he), hproject e he, ?_, rfl, rfl⟩,
      rfl⟩
    rw [h.chain.generation e he]
    rfl
  have hfound := takeThroughHead_complete AuditEvent.row hread h.chain.contiguous
    h.chain.hashLinked hnodup h.getLast
  have hread' : readStorePrefix store current current.walkHead = .ok events := by
    simp only [readStorePrefix, h.walkHead_eq, bindInteger, h.chain.selectGeneration h.auditRows,
      bind_eq_ok, expect_eq_ok, checkHead, require_eq_ok, pure_eq_ok, exists_const]
    exact ⟨by decide, _, hfound, events, rfl, last, h.getLast,
      ⟨.inr rfl, fun hne => absurd rfl hne, fun _ => by simp⟩, rfl⟩
  obtain ⟨start, rest, g, rfl, hg⟩ := h.chain.start h.ne_nil
  have hgeneration : current.walkHead.generation = start.generation.val := by
    rw [h.walkHead_eq, hg.generation]
    rfl
  have hwalk := walkGenerations_creation storeWalkErrors hread' hg hgeneration
  have htested : (Json.str current.taskId.val).asTested isSafeId = some current.taskId := by simp
  simp only [hasCommittedDecisionResolution, bind_eq_ok, expect_eq_ok, hresolution,
    Option.some.injEq, exists_eq_left', htested, h.readTaskState_eq, Except.ok.injEq, pure_eq_ok]
  exact ⟨[start :: rest], hwalk, by simp⟩

/-- All events of a trusted history are of one project. -/
theorem TrustedLineage.project {taskId projectId : String} {generation : Int}
    {events : List AuditEvent} (h : TrustedLineage taskId projectId generation events) :
    ∀ e ∈ events, e.projectId.val = projectId := by
  induction h with
  | first hsegment _ => exact hsegment.project
  | hop _ _ _ _ _ hsegment ih =>
      intro e he
      rcases List.mem_append.mp he with he | he
      · exact ih e he
      · exact hsegment.project e he

/-! ## Section 2: Reading back -/

/-- Both readers take the history of a task: the engine returns the events of all its rows in the
order of their sequence numbers, and the store answers for every resolution of the task. -/
def ControlStore.ReadsBack (store : ControlStore) (taskId : String) : Prop :=
  ∃ current lineage, readTaskState store taskId = .ok current ∧
    trustedAuditLineage store current = .ok lineage ∧
    lineage.map AuditEvent.row = store.auditRows taskId ∧
    lineage.map (fun e => e.sequence.val) = List.range' 1 lineage.length ∧
    ∀ resolution : Mapping, Mapping.lookup "task_id" resolution.entries = some (.str taskId) →
      ∃ found, hasCommittedDecisionResolution store resolution = .ok found

/-- An accepted event of a task with a stored state is of the project of that state. -/
def CommitCall.KeepsProject (call : CommitCall) (store : ControlStore) : Prop :=
  ∀ e current, call.Accepts store e → readTaskState store e.taskId.val = .ok current →
    e.projectId = current.projectId

/-- A state that is read is the one that the chain of its task binds. -/
theorem TaskBound.storedChain_of_readTaskState {store : ControlStore} {taskId : String}
    {current : WorkflowTaskState} (h : TaskBound store taskId)
    (hread : readTaskState store taskId = .ok current) :
    current.taskId.val = taskId ∧ ∃ events last, StoredChain store events last current := by
  have hrow : store.taskRows taskId ≠ [] := by
    intro hnone
    simp [readTaskState, ControlStore.selectTaskState, hnone] at hread
  obtain ⟨events, last, found, hstored, hid⟩ := h.storedChain (.inr hrow)
  have hfound := hstored.readTaskState_eq
  rw [hid, hread] at hfound
  obtain rfl : current = found := Except.ok.inj hfound
  exact ⟨hid, events, last, hstored⟩

/-- The events in the rows of a task are of the project of its state. -/
def OneProject (store : ControlStore) (taskId : String) : Prop :=
  ∀ (e : AuditEvent) (current : WorkflowTaskState), e.Valid → e.row ∈ store.auditRows taskId → readTaskState store taskId = .ok current →
    e.projectId = current.projectId

omit [Digest] in
/-- What a reader of a task sees in its rows. -/
theorem readTaskState_congr {store store' : ControlStore} {taskId : String}
    (h : store'.taskRows taskId = store.taskRows taskId) :
    readTaskState store' taskId = readTaskState store taskId := by
  simp only [readTaskState, ControlStore.selectTaskState, h]

/-- A valid event is determined by its row. -/
theorem AuditEvent.eq_of_row_eq {a b : AuditEvent} (ha : a.Valid) (hb : b.Valid)
    (h : a.row = b.row) : a = b :=
  AuditEvent.eq_of_toJson_eq ha hb (by simpa [AuditEvent.row] using congrArg AuditEventRow.eventJson h)

/-- One call that keeps the project of its task keeps every task in one project. -/
theorem CommitCall.run_oneProject {call : CommitCall} {store : ControlStore}
    (hbound : ∀ taskId, TaskBound store taskId) (h : ∀ taskId, OneProject store taskId)
    (hkeeps : call.KeepsProject store) (taskId : String) :
    OneProject (call.run store).2 taskId := by
  rw [call.run_store]
  rcases commitRows_cases store call.event call.state with
    ⟨_, hrun⟩ | ⟨e, s, hevent, hstate, hpair, ⟨-, hrun⟩ | ⟨-, hrun⟩⟩
  · rw [hrun]
    exact h taskId
  · rw [hrun]
    exact h taskId
  · have haccepts : call.Accepts store e :=
      ⟨s, true, prepareCommit_eq_ok.mpr ⟨hevent, hstate, hpair⟩, by rw [hrun]⟩
    rw [hrun]
    intro other current hvalid hrow hread
    by_cases htask : e.taskId.val = taskId
    · subst htask
      obtain ⟨haudit, htask'⟩ := store.write_self hpair (hbound _).taskRows_length
      have hcurrent : current = s := by
        rw [hpair.binds.taskId] at hread htask'
        have hsame := readTaskState_of_rows hpair.state hpair.stateFits htask'
        exact Except.ok.inj (hread.symm.trans hsame)
      rw [hcurrent, ← hpair.binds.projectId]
      rw [haudit, List.mem_append, List.mem_singleton] at hrow
      rcases hrow with hrow | hrow
      · obtain ⟨events, last, old, hstored, hid⟩ :=
          (hbound e.taskId.val).storedChain (.inl (List.ne_nil_of_mem hrow))
        have hold := hstored.readTaskState_eq
        rw [hid] at hold
        rw [h _ other old hvalid hrow hold, hkeeps e old haccepts hold]
      · rw [AuditEvent.eq_of_row_eq hvalid hpair.event hrow]
    · have hne : s.row.taskId ≠ taskId := by
        rw [WorkflowTaskState.row, ← hpair.binds.taskId]
        exact htask
      have haudit : (store.write e s).auditRows taskId = store.auditRows taskId := by
        simp [ControlStore.write, AuditEvent.row, htask]
      have hrows : (store.write e s).taskRows taskId = store.taskRows taskId :=
        ControlStore.taskRows_upsertTaskState_ne _ _ hne
      rw [haudit] at hrow
      rw [readTaskState_congr hrows] at hread
      exact h taskId other current hvalid hrow hread

/-- Every run of calls that keep their projects keeps every task in one project. -/
theorem runCommits_oneProject {store : ControlStore} (hbound : ∀ taskId, TaskBound store taskId)
    (h : ∀ taskId, OneProject store taskId) {calls : List CommitCall}
    (hkeeps : ∀ before call after, calls = before ++ call :: after →
      call.KeepsProject (runCommits store before)) (taskId : String) :
    OneProject (runCommits store calls) taskId := by
  induction calls generalizing store with
  | nil => exact h taskId
  | cons call rest ih =>
      rw [runCommits_cons]
      refine ih (fun id => ?_) (fun id => ?_) (fun before next after heq => ?_)
      · rw [call.run_store]
        exact commitRows_taskBound hbound _ _ id
      · exact call.run_oneProject hbound h (hkeeps [] call rest rfl) id
      · have := hkeeps (call :: before) next after (by rw [heq]; rfl)
        rwa [runCommits_cons] at this

/-- A chain of one project is read back by both readers. -/
theorem StoredChain.readsBack (hinj : Function.Injective canonicalSha) {store : ControlStore}
    {events : List AuditEvent} {last : AuditEvent} {current : WorkflowTaskState}
    (h : StoredChain store events last current) (hone : OneProject store current.taskId.val) :
    store.ReadsBack current.taskId.val := by
  have hproject : ∀ e ∈ events, e.projectId = current.projectId := by
    intro e he
    refine hone e current (h.chain.valid e he) ?_ h.readTaskState_eq
    rw [h.auditRows]
    exact List.mem_map_of_mem he
  have hnodup := h.chain.hashes_nodup hinj
  exact ⟨current, events, h.readTaskState_eq, h.trustedAuditLineage_eq hproject hnodup,
    h.auditRows.symm, h.chain.contiguous, fun resolution hresolution =>
      ⟨_, h.hasCommittedDecisionResolution_eq_ok hproject hnodup hresolution⟩⟩

/-- What the engine reads back is of one project. -/
theorem ControlStore.ReadsBack.oneProject {store : ControlStore} {taskId : String}
    (h : store.ReadsBack taskId) : OneProject store taskId := by
  obtain ⟨current, lineage, hread, hlineage, hrows, -⟩ := h
  simp only [trustedAuditLineage, bind_eq_ok, pure_eq_ok] at hlineage
  obtain ⟨generations, hwalk, rfl⟩ := hlineage
  obtain ⟨htrusted, -⟩ := walk_sound hwalk
  intro e current' hvalid hrow hread'
  obtain rfl : current = current' := Except.ok.inj (hread.symm.trans hread')
  rw [← hrows] at hrow
  obtain ⟨e', he', heq⟩ := List.mem_map.mp hrow
  rw [← AuditEvent.eq_of_row_eq (htrusted.valid e' he') hvalid heq]
  exact Subtype.ext (htrusted.project e' he')

/-! ## Section 3: Every run -/

/-- **What the store commits can be read back exactly when no accepted event leaves the project of
its task.** -/
theorem commits_read_back_iff (hinj : Function.Injective canonicalSha) (calls : List CommitCall) :
    (∀ taskId, (runCommits .empty calls).taskRows taskId ≠ [] →
      (runCommits .empty calls).ReadsBack taskId) ↔
    ∀ before call after, calls = before ++ call :: after →
      call.KeepsProject (runCommits .empty before) := by
  have hbound := fun calls => runCommits_taskBound taskBound_empty calls
  constructor
  · rintro hreads before call after rfl e current ⟨s, committed, hprepare, hrun⟩ hcurrent
    obtain ⟨hid, events, last, hstored⟩ :=
      (hbound before e.taskId.val).storedChain_of_readTaskState hcurrent
    -- both the event and the last event before it stay in the rows of the task
    have hcall := row_mem_of_accepted hprepare hrun
    obtain ⟨first, hfirst⟩ := commitRows_auditRows (runCommits .empty before) call.event call.state
      e.taskId.val
    obtain ⟨more, hmore⟩ := runCommits_auditRows (call.run (runCommits .empty before)).2 after
      e.taskId.val
    rw [call.run_store] at hmore
    have hfinal : (runCommits .empty (before ++ call :: after)).auditRows e.taskId.val
        = (commitRows (runCommits .empty before) call.event call.state).2.auditRows e.taskId.val
          ++ more := by
      rw [runCommits_append, runCommits_cons, call.run_store, hmore]
    have hmem : e.row ∈ (runCommits .empty (before ++ call :: after)).auditRows e.taskId.val := by
      rw [hfinal]
      exact List.mem_append_left _ hcall
    have hlast : last.row ∈ (runCommits .empty (before ++ call :: after)).auditRows e.taskId.val := by
      rw [hfinal, hfirst, ← hid, hstored.auditRows]
      simp [List.mem_map_of_mem (List.mem_of_getLast? hstored.getLast)]
    obtain ⟨_, _, state, hfound, hstate⟩ :=
      (hbound (before ++ call :: after) e.taskId.val).storedChain (.inl (List.ne_nil_of_mem hmem))
    have hone := (hreads e.taskId.val (by
      rw [← hstate, hfound.taskRows]
      simp)).oneProject
    have hread := hfound.readTaskState_eq
    rw [hstate] at hread
    rw [hone e state (prepareCommit_eq_ok.mp hprepare).2.2.event hmem hread,
      ← hone last state hstored.pair.event hlast hread, hstored.pair.binds.projectId]
  · intro hkeeps taskId hrows
    obtain ⟨events, last, current, hstored, rfl⟩ := (hbound calls taskId).storedChain (.inr hrows)
    have hempty : ∀ taskId, OneProject .empty taskId := by
      intro taskId e current _ hrow
      simp [ControlStore.empty, ControlStore.auditRows] at hrow
    exact hstored.readsBack hinj (runCommits_oneProject taskBound_empty hempty hkeeps _)

omit [Digest] in
theorem commits_read_back_iff_creation :
    letI := firstDigest
    (runCommits .empty [firstCall]).ReadsBack firstCreation.taskId.val := by
  let _ := firstDigest
  have hcommit : commitRows .empty firstCall.event firstCall.state
      = (.ok true, ControlStore.empty.write firstCreation (stateOfCreation firstCreation)) :=
    commitRows_creation commitPair_firstCreation rfl
  have hrows := (ControlStore.empty.write_self commitPair_firstCreation (Nat.zero_le 1)).2
  refine (commits_read_back_iff (tableSha_injective _) [firstCall]).mpr ?_ _ ?_
  · intro before call after hcalls e current _ hread
    obtain rfl : before = [] := by
      cases before with
      | nil => rfl
      | cons first rest => simp at hcalls
    simp [runCommits_nil, readTaskState, ControlStore.selectTaskState, ControlStore.empty,
      ControlStore.taskRows] at hread
  · rw [runCommits_cons, runCommits_nil, CommitCall.run_store, hcommit, hrows]
    simp

/-! ## Section 4: A successor of another project -/

/-- A policy result of another project that authorises the first step of the task. -/
def movedPolicyRecord : Json :=
  .obj [("created_at_utc", .str "2026-01-01T00:00:00Z"), ("evaluation_id", .str "eval-2"),
    ("policy_bundle_digest", .str (unarySha 64)), ("project_id", .str "project-b"),
    ("result", .obj [("authorized_transitions", .strs ["READY_FOR_CLASSIFICATION"]),
      ("decision_emitted", .bool true), ("error_code", .null), ("fail_closed", .bool false),
      ("human_gate", .bool false), ("issues", .arr []),
      ("legal_transitions", .strs ["READY_FOR_CLASSIFICATION"]), ("mandatory_gates", .arr []),
      ("model_roles", .obj []), ("provenance", .arr []), ("required_human_triggers", .arr []),
      ("required_skills", .arr []), ("risk_level", .str "R0")]),
    ("schema_version", .int 1), ("task_id", .str "task-1")]

omit [Digest] in
theorem movedPolicyRecord_accepted :
    validateContract .policyEvaluationResult movedPolicyRecord = .ok () :=
  validateContract_of_passes (by decide +kernel)

/-- A transition of the task under that policy result. -/
def movedEvent : AuditEvent where
  eventId := ⟨"evt-2", isSafeId_secondEvent⟩
  generation := ⟨1, firstPosition⟩
  sequence := ⟨2, secondPosition⟩
  projectId := ⟨"project-b", by decide⟩
  taskId := ⟨"task-1", isSafeId_task⟩
  eventType := .transitionAccepted
  actor := .controller
  fromState := some .draft
  toState := some .readyForClassification
  transitionId := some ⟨"tr-2", by decide⟩
  policyEvaluationBinding := some
    { evaluationId := ⟨"eval-2", by decide⟩
      source := .embedded ⟨movedPolicyRecord, by simp [movedPolicyRecord]⟩
      resultSha256 := ⟨unarySha 1, isSha256_unaryOne⟩
      policyBundleDigest := ⟨unarySha 64, isSha256_unarySha (by decide)⟩
      authorizedTransitions := [.readyForClassification]
      humanGate := false
      createdAtUtc := none }
  evidenceBindings :=
    [{ bindingId := ⟨"ev-2", by decide⟩
       evidenceKind := ⟨"CONTROLLER_RECORD", by decide⟩
       source := .path ⟨"evidence/record.json", by decide⟩
       contentSha256 := ⟨unarySha 64, isSha256_unarySha (by decide)⟩
       sizeBytes := 0
       createdAtUtc := none }]
  decisionResolutionBinding := none
  previousEventHash := some ⟨unarySha 0, isSha256_unaryZero⟩
  eventHash := ⟨unarySha 2, isSha256_unarySha (by decide)⟩
  createdAtUtc := ⟨"2026-01-01T00:00:01Z", isUtc_secondEvent⟩
  details := ⟨[], Mapping.sorted_nil⟩

/-- The state after the transition. -/
def movedState : WorkflowTaskState where
  taskId := movedEvent.taskId
  projectId := movedEvent.projectId
  currentState := .readyForClassification
  previousState := some .draft
  lastTransitionId := movedEvent.transitionId
  auditGeneration := movedEvent.generation
  auditHeadEventId := movedEvent.eventId
  auditHeadHash := movedEvent.eventHash
  policyEvaluationId := some ⟨"eval-2", by decide⟩
  pendingDecisionId := none
  updatedAtUtc := movedEvent.createdAtUtc

/-- An injective digest under which both events are valid. -/
@[reducible] def movedDigest : Digest :=
  ⟨tableSha [@AuditEvent.preimage ⟨fun _ => ""⟩ firstCreation, movedPolicyRecord,
    @AuditEvent.preimage ⟨fun _ => ""⟩ movedEvent]⟩

/-- The calls that create the task and move it to another project. -/
def movedCalls : List CommitCall :=
  letI := movedDigest
  [⟨firstCreation.toJson, (stateOfCreation firstCreation).toJson, none⟩,
    ⟨movedEvent.toJson, movedState.toJson, none⟩]

omit [Digest] in
private theorem preimage_movedEvent (D D' : Digest) :
    @AuditEvent.preimage D movedEvent = @AuditEvent.preimage D' movedEvent := rfl

omit [Digest] in
private theorem movedDigest_values :
    letI := movedDigest
    canonicalSha firstCreation.preimage = unarySha 0 ∧ canonicalSha movedPolicyRecord = unarySha 1 ∧
      canonicalSha movedEvent.preimage = unarySha 2 := by
  let _ := movedDigest
  have hnodup : [@AuditEvent.preimage ⟨fun _ => ""⟩ firstCreation, movedPolicyRecord,
      @AuditEvent.preimage ⟨fun _ => ""⟩ movedEvent].Nodup := by
    decide +kernel
  rw [firstCreation, preimage_creationEvent _ ⟨fun _ => ""⟩, preimage_movedEvent _ ⟨fun _ => ""⟩]
  exact ⟨tableSha_getElem hnodup (i := 0) (by decide), tableSha_getElem hnodup (i := 1) (by decide),
    tableSha_getElem hnodup (i := 2) (by decide)⟩

omit [Digest] in
private theorem movedEvent_valid :
    letI := movedDigest
    movedEvent.Valid := by
  let _ := movedDigest
  obtain ⟨-, hpolicy, hhash⟩ := movedDigest_values
  have htransition : movedEvent.IsTransition .draft .readyForClassification ⟨"tr-2", by decide⟩
      (movedEvent.policyEvaluationBinding.get rfl) ⟨movedPolicyRecord, by simp [movedPolicyRecord]⟩ :=
    { sequence := by decide
      fromState := rfl
      toState := rfl
      transitionId := rfl
      policyBinding := rfl
      embedded := rfl
      projectId := by decide +kernel
      taskId := by decide +kernel
      authorized := by decide
      evidence := by simp [movedEvent]
      decision := by simp [movedEvent]
      resumes := by simp }
  refine ⟨by decide, ⟨?_, by decide⟩, ?_, by simp [movedEvent], ⟨_, _, _, _, _, htransition⟩, hhash⟩
  · simp [movedEvent, EvidenceBinding.Valid]
  · intro p hp
    obtain rfl := Option.some.inj hp
    refine ⟨by decide, by simp, fun record hrecord => ?_⟩
    obtain rfl := TaggedSource.embedded.inj hrecord
    exact ⟨movedPolicyRecord_accepted, hpolicy, by decide +kernel, by decide +kernel,
      by decide +kernel, by decide +kernel⟩

omit [Digest] in
private theorem commitPair_movedCreation :
    letI := movedDigest
    CommitPair firstCreation (stateOfCreation firstCreation) := by
  let _ := movedDigest
  exact commitPair_creation movedDigest_values.1

omit [Digest] in
private theorem commitPair_moved :
    letI := movedDigest
    CommitPair movedEvent movedState := by
  let _ := movedDigest
  refine ⟨movedEvent_valid, ?_, ⟨rfl, rfl, rfl, rfl, rfl, ⟨rfl, rfl, rfl, rfl⟩⟩,
    .of_quickWidth (by decide +kernel) (by decide +kernel), WorkflowTaskState.fits rfl⟩
  simp [WorkflowTaskState.Valid, movedState]

omit [Digest] in
private theorem movedEvent_follows :
    letI := movedDigest
    StoredChain.Follows [firstCreation] firstCreation (stateOfCreation firstCreation) movedEvent
      movedState := by
  let _ := movedDigest
  exact ⟨commitPair_moved, rfl, rfl, rfl, rfl, by decide, rfl, rfl, rfl⟩

omit [Digest] in
private theorem storedChain_movedCalls :
    letI := movedDigest
    StoredChain (runCommits .empty movedCalls) [firstCreation, movedEvent] movedEvent
      movedState := by
  let _ := movedDigest
  have hcreated := StoredChain.creation commitPair_movedCreation rfl
  have hfirst : commitRows .empty firstCreation.toJson (stateOfCreation firstCreation).toJson
      = (.ok true, ControlStore.empty.write firstCreation (stateOfCreation firstCreation)) :=
    commitRows_creation commitPair_movedCreation rfl
  obtain ⟨hsecond, hmoved⟩ := hcreated.commit movedEvent_follows
  have hstore : runCommits .empty movedCalls
      = (ControlStore.empty.write firstCreation (stateOfCreation firstCreation)).write movedEvent
        movedState := by
    rw [movedCalls, runCommits_cons, CommitCall.run_store, hfirst, runCommits_cons,
      CommitCall.run_store, hsecond, runCommits_nil]
  rw [hstore]
  exact hmoved

omit [Digest] in
/-- Both calls are accepted, and the history of the task cannot be read any more. -/
theorem moved_task_does_not_read_back :
    letI := movedDigest
    Function.Injective canonicalSha ∧
      (runCommits .empty movedCalls).auditRows "task-1" = [firstCreation.row, movedEvent.row] ∧
      (runCommits .empty movedCalls).taskRows "task-1" = [movedState.row] ∧
      ¬ (runCommits .empty movedCalls).ReadsBack "task-1" := by
  let _ := movedDigest
  have hstored := storedChain_movedCalls
  refine ⟨tableSha_injective _, hstored.auditRows, hstored.taskRows, fun hreads => ?_⟩
  have hrow : firstCreation.row ∈ (runCommits .empty movedCalls).auditRows "task-1" := by
    rw [show (runCommits .empty movedCalls).auditRows "task-1" = _ from hstored.auditRows]
    simp
  have hproject := hreads.oneProject firstCreation movedState commitPair_movedCreation.event hrow
    hstored.readTaskState_eq
  exact absurd hproject (by decide)

end Acgps
