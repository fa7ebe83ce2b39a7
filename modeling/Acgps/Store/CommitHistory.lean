import Acgps.Lib.HashChain
import Acgps.Data.JsonCode
import Acgps.Store.Sizes

/-!
# Histories of commits

Whatever calls are made, in whatever order their transactions are serialised, each task has one
contiguous audit chain and a state row that binds its last event.

## Main Definitions

* `TaskChain` - the events of one task, from its creation on
* `TaskBound` - the rows of one task: none, or a chain and the state that binds its head
* `CommitCall`, `runCommits` - a serialised interleaving of calls

## Key Theorems

* `commitRows_taskBound` - one call keeps the rows of every task in this form
* `runCommits_taskBound` - so does every run from the empty store
* `commits_keep_one_chain` - **one chain, one head, one successor, idempotent replay, clean
  rejection**
-/

namespace Acgps

open Checked HashChain

variable [Digest]

/-! ## Section 1: The chain of a task -/

/-- The state a task is in after an event; a creation names no states. -/
def AuditEvent.stateAfter (e : AuditEvent) : TaskState := e.toState.getD .draft

/-- The events of one task: created once, then moved from state to state, each event linked to the
one before it. -/
structure TaskChain (taskId : String) (events : List AuditEvent) : Prop where
  valid : ∀ e ∈ events, e.Valid
  fits : ∀ e ∈ events, FitsSqlite e.toJson
  task : ∀ e ∈ events, e.taskId.val = taskId
  generation : ∀ e ∈ events, e.generation.val = 1
  contiguous : events.map (fun e => e.sequence.val) = List.range' 1 events.length
  bounded : events.length < 2 ^ 63
  created : ∀ e ∈ events, e.sequence.val = 1 → e.eventType = .taskCreated
  accepted : ∀ e ∈ events, e.sequence.val ≠ 1 → e.eventType = .transitionAccepted
  hashLinked : LinkedFrom AuditEvent.eventHash AuditEvent.previousEventHash none events
  stateLinked : LinkedFrom AuditEvent.stateAfter AuditEvent.fromState none events

namespace TaskChain

theorem nil (taskId : String) : TaskChain taskId [] where
  valid := by simp
  fits := by simp
  task := by simp
  generation := by simp
  contiguous := rfl
  bounded := by simp
  created := by simp
  accepted := by simp
  hashLinked := trivial
  stateLinked := trivial

/-- What an event has to satisfy to extend a chain. -/
structure Extends (taskId : String) (events : List AuditEvent) (e : AuditEvent) : Prop where
  valid : e.Valid
  fits : FitsSqlite e.toJson
  task : e.taskId.val = taskId
  generation : e.generation.val = 1
  sequence : e.sequence.val = events.length + 1
  bounded : e.sequence.val < 2 ^ 63
  eventType : e.eventType = if events = [] then .taskCreated else .transitionAccepted
  previousHash : e.previousEventHash = headHash AuditEvent.eventHash none events
  fromState : e.fromState = headHash AuditEvent.stateAfter none events

theorem concat {taskId : String} {events : List AuditEvent} {e : AuditEvent}
    (h : TaskChain taskId events) (he : Extends taskId events e) :
    TaskChain taskId (events ++ [e]) where
  valid := by
    simp only [List.mem_append, List.mem_singleton]
    rintro x (hx | rfl)
    · exact h.valid x hx
    · exact he.valid
  fits := by
    simp only [List.mem_append, List.mem_singleton]
    rintro x (hx | rfl)
    · exact h.fits x hx
    · exact he.fits
  task := by
    simp only [List.mem_append, List.mem_singleton]
    rintro x (hx | rfl)
    · exact h.task x hx
    · exact he.task
  generation := by
    simp only [List.mem_append, List.mem_singleton]
    rintro x (hx | rfl)
    · exact h.generation x hx
    · exact he.generation
  contiguous := by
    simp only [List.map_append, h.contiguous, List.map_cons, List.map_nil, he.sequence,
      List.length_append, List.length_cons, List.length_nil, Nat.zero_add, List.range'_concat]
    simp [Nat.add_comm]
  bounded := by
    rw [List.length_append, List.length_singleton, ← he.sequence]
    exact he.bounded
  created := by
    simp only [List.mem_append, List.mem_singleton]
    rintro x (hx | rfl) hone
    · exact h.created x hx hone
    · have hnil : events = [] := by
        have := he.sequence
        exact List.length_eq_zero_iff.mp (by omega)
      simpa [hnil] using he.eventType
  accepted := by
    simp only [List.mem_append, List.mem_singleton]
    rintro x (hx | rfl) hone
    · exact h.accepted x hx hone
    · have hne : events ≠ [] := by
        rintro rfl
        exact hone he.sequence
      simpa [hne] using he.eventType
  hashLinked := (linkedFrom_concat _ _ _ _ _).mpr ⟨h.hashLinked, he.previousHash⟩
  stateLinked := (linkedFrom_concat _ _ _ _ _).mpr ⟨h.stateLinked, he.fromState⟩

/-- The sequence number of an event is its position. -/
theorem sequence_getElem {taskId : String} {events : List AuditEvent} (h : TaskChain taskId events)
    {i : Nat} (hi : i < events.length) : events[i].sequence.val = i + 1 := by
  have hget : (events.map (fun e => e.sequence.val))[i]? = (List.range' 1 events.length)[i]? := by
    rw [h.contiguous]
  simpa [hi, List.getElem?_range', Nat.add_comm] using hget

theorem sequence_getLast {taskId : String} {events : List AuditEvent} (h : TaskChain taskId events)
    {last : AuditEvent} (hlast : events.getLast? = some last) :
    last.sequence.val = events.length := by
  have hne : events ≠ [] := by
    rintro rfl
    simp at hlast
  have hpos : 0 < events.length := List.length_pos_iff.mpr hne
  have heq : last = events[events.length - 1] := by
    rw [List.getLast?_eq_getElem?, List.getElem?_eq_getElem (by omega)] at hlast
    exact (Option.some.inj hlast).symm
  rw [heq, h.sequence_getElem (by omega)]
  omega

/-- Two events of a chain with one sequence number are one event. -/
theorem eq_of_sequence_eq {taskId : String} {events : List AuditEvent}
    (h : TaskChain taskId events) {a b : AuditEvent} (ha : a ∈ events) (hb : b ∈ events)
    (hseq : a.sequence.val = b.sequence.val) : a = b := by
  have hnodup : (events.map (fun e => e.sequence.val)).Nodup := by
    rw [h.contiguous]
    exact List.nodup_range'
  exact List.inj_on_of_nodup_map hnodup ha hb hseq

/-- The rows of a chain are already in the order of their sequence numbers. -/
theorem rows_sorted {taskId : String} {events : List AuditEvent} (h : TaskChain taskId events) :
    (events.map AuditEvent.row).Pairwise (fun a b => a.sequence ≤ b.sequence) := by
  have hlt : (events.map (fun e => e.sequence.val)).Pairwise (· < ·) := by
    rw [h.contiguous]
    exact List.pairwise_lt_range'
  rw [List.pairwise_map] at hlt ⊢
  exact hlt.imp (fun hab => by
    simp only [AuditEvent.row]
    omega)

end TaskChain

/-- The rows of one task: none at all, or the rows of a chain and the row of a state that binds the
last event of the chain. -/
def TaskBound (store : ControlStore) (taskId : String) : Prop :=
  (store.auditRows taskId = [] ∧ store.taskRows taskId = []) ∨
  ∃ events last state, TaskChain taskId events ∧ events.getLast? = some last ∧
    CommitPair last state ∧ store.auditRows taskId = events.map AuditEvent.row ∧
    store.taskRows taskId = [state.row]

/-! ## Section 2: One call -/

theorem TaskBound.taskRows_length {store : ControlStore} {taskId : String}
    (h : TaskBound store taskId) : (store.taskRows taskId).length ≤ 1 := by
  rcases h with ⟨_, hrows⟩ | ⟨_, _, _, _, _, _, _, hrows⟩ <;> simp [hrows]

/-- The generation query on the rows of a chain: the rows themselves. -/
theorem TaskChain.selectGeneration {store : ControlStore} {taskId : String}
    {events : List AuditEvent} (h : TaskChain taskId events)
    (hrows : store.auditRows taskId = events.map AuditEvent.row) :
    store.selectGeneration taskId 1 = events.map AuditEvent.row := by
  have hall : (events.map AuditEvent.row).filter (fun row => row.generation = 1)
      = events.map AuditEvent.row := by
    refine List.filter_eq_self.mpr (fun row hrow => ?_)
    obtain ⟨e, he, rfl⟩ := List.mem_map.mp hrow
    simp [AuditEvent.row, h.generation e he]
  rw [ControlStore.selectGeneration, hrows, hall]
  exact h.rows_sorted.insertionSort_eq

/-- Rows that are the same leave a task bound. -/
theorem TaskBound.of_rows_eq {store store' : ControlStore} {taskId : String}
    (h : TaskBound store taskId) (haudit : store'.auditRows taskId = store.auditRows taskId)
    (htask : store'.taskRows taskId = store.taskRows taskId) : TaskBound store' taskId := by
  unfold TaskBound
  rw [haudit, htask]
  exact h

/-- A write touches the rows of its own task only. -/
theorem TaskBound.write_ne {store : ControlStore} {taskId : String} {e : AuditEvent}
    {s : WorkflowTaskState} (h : TaskBound store taskId) (hpair : CommitPair e s)
    (hne : e.taskId.val ≠ taskId) : TaskBound (store.write e s) taskId := by
  have hne' : s.taskId.val ≠ taskId := by
    rw [← hpair.binds.taskId]
    exact hne
  refine h.of_rows_eq ?_ ?_
  · simp [ControlStore.write, AuditEvent.row, hne]
  · exact ControlStore.taskRows_upsertTaskState_ne _ _ hne'

/-- A write adds the event to the rows of its task and replaces the row of the state. -/
theorem ControlStore.write_self (store : ControlStore) {e : AuditEvent} {s : WorkflowTaskState}
    (hpair : CommitPair e s) (hone : (store.taskRows e.taskId.val).length ≤ 1) :
    (store.write e s).auditRows e.taskId.val = store.auditRows e.taskId.val ++ [e.row] ∧
      (store.write e s).taskRows e.taskId.val = [s.row] := by
  refine ⟨by simp [ControlStore.write, AuditEvent.row], ?_⟩
  have hrow : e.taskId.val = s.row.taskId := by
    rw [hpair.binds.taskId]
    rfl
  rw [hrow] at hone ⊢
  exact ControlStore.taskRows_upsertTaskState_self _ _ (by simpa using hone)

theorem decideCommit_eq_false {store : ControlStore} {e : AuditEvent} {s : WorkflowTaskState} :
    decideCommit store e s = .ok false ↔
      e.generation.val < 2 ^ 63 ∧ e.sequence.val < 2 ^ 63 ∧
      store.selectEvent e.taskId.val e.generation.val e.sequence.val = some (.canonical e.toJson) ∧
      store.selectTaskState s.taskId.val = some (.canonical s.toJson) := by
  unfold decideCommit
  cases hevent : store.selectEvent e.taskId.val e.generation.val e.sequence.val with
  | none => simp [bindInteger]
  | some text =>
      simp only [bindInteger, bind_eq_ok, require_eq_ok, pure_eq_ok, exists_const, and_true,
        SqliteText.isTextOf_eq_true, Option.any_eq_true, Option.some.injEq, exists_eq_right]

theorem decideCommit_eq_true {store : ControlStore} {e : AuditEvent} {s : WorkflowTaskState} :
    decideCommit store e s = .ok true ↔
      e.generation.val < 2 ^ 63 ∧ e.sequence.val < 2 ^ 63 ∧
      store.selectEvent e.taskId.val e.generation.val e.sequence.val = none ∧
      validateAuthoritativePredecessor store e s (store.selectTaskState s.taskId.val) = .ok () := by
  unfold decideCommit
  cases hevent : store.selectEvent e.taskId.val e.generation.val e.sequence.val with
  | none =>
      simp only [bindInteger, bind_eq_ok, require_eq_ok, pure_eq_ok, exists_const, and_true,
        true_and]
      constructor
      · intro h
        obtain ⟨hg, hs, _, hauthority⟩ := h
        exact ⟨hg, hs, hauthority⟩
      · intro h
        obtain ⟨hg, hs, hauthority⟩ := h
        exact ⟨hg, hs, (), hauthority⟩
  | some text => simp [bindInteger]

/-- An event that creates its task names no predecessor. -/
theorem AuditEvent.Valid.creation_fields {e : AuditEvent} (h : e.Valid)
    (htype : e.eventType = .taskCreated) :
    e.previousEventHash = none ∧ e.fromState = none ∧ e.stateAfter = .draft := by
  have hbody := h.body
  simp only [AuditEvent.Body, htype] at hbody
  obtain ⟨g, hg⟩ := hbody
  refine ⟨h.previousHash.mp hg.sequence, hg.noTransition.fromState, ?_⟩
  simp [AuditEvent.stateAfter, hg.noTransition.toState]

/-- A state that binds a valid event is in the state the event leads to. -/
theorem CommitPair.currentState {e : AuditEvent} {s : WorkflowTaskState} (h : CommitPair e s) :
    s.currentState = e.stateAfter := by
  have hfields := h.binds.fields
  cases htype : e.eventType with
  | taskCreated =>
      simp only [StateFieldsMatch, htype] at hfields
      rw [hfields.1, (h.event.creation_fields htype).2.2]
  | transitionAccepted =>
      simp only [StateFieldsMatch, htype] at hfields
      simp [AuditEvent.stateAfter, ← hfields.1]
  | recoveryRecorded => simp [StateFieldsMatch, htype] at hfields
  | rollbackRecorded => simp [StateFieldsMatch, htype] at hfields

/-- A creation that the transaction lets through starts the chain of its task. -/
theorem extends_of_validateNewTask {store : ControlStore} {e : AuditEvent} {s : WorkflowTaskState}
    (hpair : CommitPair e s) (hnew : validateNewTask store e = .ok ()) :
    store.auditRows e.taskId.val = [] ∧ TaskChain.Extends e.taskId.val [] e := by
  simp only [validateNewTask, require_eq_ok] at hnew
  obtain ⟨hrows, htype, hgeneration, hsequence⟩ := hnew
  obtain ⟨hprevious, hfrom, _⟩ := hpair.event.creation_fields htype
  exact ⟨hrows, hpair.event, hpair.eventFits, rfl, hgeneration, hsequence,
    by rw [hsequence]; decide, by simpa using htype, hprevious, hfrom⟩

/-- What the stored state and the last stored event say about a successor that the transaction lets
through. -/
theorem validateSuccessor_eq_ok {store : ControlStore} {e last : AuditEvent}
    {s current : WorkflowTaskState} {events : List AuditEvent}
    (hchain : TaskChain e.taskId.val events) (hlast : events.getLast? = some last)
    (hbound : CommitPair last current)
    (hrows : store.auditRows e.taskId.val = events.map AuditEvent.row) :
    validateSuccessor store e s (.canonical current.toJson) = .ok () ↔
      e.eventType = .transitionAccepted ∧ e.generation.val = 1 ∧
      e.sequence.val = events.length + 1 ∧ e.previousEventHash = some last.eventHash ∧
      e.fromState = some last.stateAfter ∧ s.previousState = some last.stateAfter := by
  have hmem : last ∈ events := List.mem_of_getLast? hlast
  have hone : current.auditGeneration.val = 1 := by
    rw [hbound.binds.generation, hchain.generation last hmem]
  have hrow : (store.selectGeneration e.taskId.val ((1 : Nat) : Int)).getLast? = some last.row := by
    have hselect := hchain.selectGeneration hrows
    rw [show ((1 : Nat) : Int) = 1 from rfl, hselect, List.getLast?_map, hlast]
    rfl
  have hload : loadsJsonMapping (.canonical current.toJson) "WORKFLOW_STATE_CORRUPT" "task_state"
      = .ok current.toJson := loadsJsonMapping_of_fits hbound.stateFits
  have hstate : validateTaskState current.toJson = .ok current :=
    validateTaskState_eq_ok_iff.mpr ⟨rfl, hbound.state⟩
  have hloadEvent : loadsJsonMapping last.row.eventJson "WORKFLOW_AUDIT_CORRUPT" "audit_event"
      = .ok last.toJson := loadsJsonMapping_of_fits hbound.eventFits
  have hevent : validateAuditEvent last.toJson = .ok last :=
    validateAuditEvent_eq_ok_iff.mpr ⟨rfl, hbound.event⟩
  have hgeneration : e.generation = current.auditGeneration ↔ e.generation.val = 1 :=
    ⟨fun h => by rw [h, hone], fun h => Subtype.ext (h.trans hone.symm)⟩
  have hsequence : (e.sequence.val : Int) = last.row.sequence + 1 ↔
      e.sequence.val = events.length + 1 := by
    rw [← hchain.sequence_getLast hlast]
    simp only [AuditEvent.row]
    omega
  simp only [validateSuccessor, hload, hstate, bind_eq_ok, raiseOutcome_eq_ok, expect_eq_ok,
    require_eq_ok, Except.ok.injEq, exists_eq_left', bindInteger, hone, hrow, Option.some.injEq,
    hloadEvent, hevent, exists_const, hgeneration, hsequence, hbound.binds.headEventId,
    hbound.binds.headHash, hbound.currentState, true_and]
  exact ⟨fun h => h.2, fun h => ⟨by decide, h⟩⟩

/-- **A written pair extends the chain of its task.** -/
theorem TaskBound.extends_of_decideCommit {store : ControlStore} {e : AuditEvent}
    {s : WorkflowTaskState} (h : TaskBound store e.taskId.val) (hpair : CommitPair e s)
    (hdecide : decideCommit store e s = .ok true) :
    ∃ events, TaskChain e.taskId.val events ∧
      store.auditRows e.taskId.val = events.map AuditEvent.row ∧
      TaskChain.Extends e.taskId.val events e := by
  obtain ⟨-, hbounded, -, hpredecessor⟩ := decideCommit_eq_true.mp hdecide
  rw [← hpair.binds.taskId] at hpredecessor
  rcases h with ⟨haudit, htask⟩ | ⟨events, last, current, hchain, hlast, hbound, haudit, htask⟩
  · have hnone : store.selectTaskState e.taskId.val = none := by
      simp [ControlStore.selectTaskState, htask]
    rw [hnone] at hpredecessor
    exact ⟨[], .nil _, haudit, (extends_of_validateNewTask hpair hpredecessor).2⟩
  · have hsome : store.selectTaskState e.taskId.val = some (.canonical current.toJson) := by
      simp [ControlStore.selectTaskState, htask, WorkflowTaskState.row]
    rw [hsome] at hpredecessor
    obtain ⟨htype, hgeneration, hsequence, hprevious, hfrom, _⟩ :=
      (validateSuccessor_eq_ok hchain hlast hbound haudit).mp hpredecessor
    have hne : events ≠ [] := by
      rintro rfl
      simp at hlast
    exact ⟨events, hchain, haudit, hpair.event, hpair.eventFits, rfl, hgeneration, hsequence,
      hbounded, by simpa [hne] using htype, by simpa [headHash, hlast] using hprevious,
      by simpa [headHash, hlast] using hfrom⟩

theorem TaskBound.write {store : ControlStore} {e : AuditEvent} {s : WorkflowTaskState}
    (h : TaskBound store e.taskId.val) (hpair : CommitPair e s)
    (hdecide : decideCommit store e s = .ok true) :
    TaskBound (store.write e s) e.taskId.val := by
  obtain ⟨events, hchain, haudit, hextends⟩ := h.extends_of_decideCommit hpair hdecide
  obtain ⟨haudit', htask'⟩ := store.write_self hpair h.taskRows_length
  refine .inr ⟨events ++ [e], e, s, hchain.concat hextends, by simp, hpair, ?_, htask'⟩
  rw [haudit', haudit]
  simp

/-- **One call keeps every task bound.** -/
theorem commitRows_taskBound {store : ControlStore} (h : ∀ taskId, TaskBound store taskId)
    (event state : Json) (taskId : String) :
    TaskBound (commitRows store event state).2 taskId := by
  rcases commitRows_cases store event state with
    ⟨failure, hrun⟩ | ⟨e, s, -, -, hpair, ⟨-, hrun⟩ | ⟨hdecide, hrun⟩⟩
  · rw [hrun]
    exact h taskId
  · rw [hrun]
    exact h taskId
  · rw [hrun]
    by_cases htask : e.taskId.val = taskId
    · subst htask
      exact (h _).write hpair hdecide
    · exact (h taskId).write_ne hpair htask

/-- One call only adds rows to the audit log. -/
theorem commitRows_auditRows (store : ControlStore) (event state : Json) (taskId : String) :
    ∃ more, (commitRows store event state).2.auditRows taskId = store.auditRows taskId ++ more := by
  rcases commitRows_cases store event state with
    ⟨failure, hrun⟩ | ⟨e, s, -, -, -, ⟨-, hrun⟩ | ⟨-, hrun⟩⟩
  · exact ⟨[], by rw [hrun, List.append_nil]⟩
  · exact ⟨[], by rw [hrun, List.append_nil]⟩
  · rw [hrun, ControlStore.write, ControlStore.auditRows_upsertTaskState,
      ControlStore.auditRows_insertEvent]
    exact ⟨_, rfl⟩

/-- The event of an accepted call is in the log after the call. -/
theorem row_mem_of_accepted {store : ControlStore} {event state : Json} {e : AuditEvent}
    {s : WorkflowTaskState} {committed : Bool} (hprepare : prepareCommit event state = .ok (e, s))
    (hrun : (commitRows store event state).1 = .ok committed) :
    e.row ∈ (commitRows store event state).2.auditRows e.taskId.val := by
  simp only [commitRows, hprepare, commitTransaction] at hrun ⊢
  cases hdecide : decideCommit store e s with
  | error failure => simp [hdecide] at hrun
  | ok written =>
      cases written with
      | false =>
          obtain ⟨-, -, hselect, -⟩ := decideCommit_eq_false.mp hdecide
          simp only [ControlStore.selectEvent, Option.map_eq_some_iff] at hselect
          obtain ⟨row, hfind, htext⟩ := hselect
          have hmem := List.mem_of_find?_eq_some hfind
          have hcoordinates := List.find?_some hfind
          have hrow : row = e.row := by
            obtain ⟨taskId, generation, sequence, text⟩ := row
            have htask : taskId = e.taskId.val := by
              simpa [ControlStore.auditRows] using (List.mem_filter.mp hmem).2
            simp only [decide_eq_true_eq] at hcoordinates
            simp only at htext
            rw [AuditEvent.row, htask, hcoordinates.1, hcoordinates.2, htext]
          rw [← hrow]
          exact hmem
      | true => simp [ControlStore.write, AuditEvent.row]

/-- The exact pair at the tail of a chain is found and nothing is written. -/
theorem TaskBound.replay {store : ControlStore} {taskId : String} {events : List AuditEvent}
    {last : AuditEvent} {current : WorkflowTaskState} (hchain : TaskChain taskId events)
    (hlast : events.getLast? = some last) (hpair : CommitPair last current)
    (haudit : store.auditRows taskId = events.map AuditEvent.row)
    (htask : store.taskRows taskId = [current.row]) :
    commitRows store last.toJson current.toJson = (.ok false, store) := by
  have hmem : last ∈ events := List.mem_of_getLast? hlast
  have hid : last.taskId.val = taskId := hchain.task last hmem
  have hselect : store.selectEvent last.taskId.val last.generation.val last.sequence.val
      = some (.canonical last.toJson) := by
    obtain ⟨row, hfind⟩ : ∃ row, (events.map AuditEvent.row).find? (fun row =>
        decide (row.generation = (last.generation.val : Int) ∧
          row.sequence = (last.sequence.val : Int))) = some row :=
      Option.isSome_iff_exists.mp <| List.find?_isSome.mpr
        ⟨last.row, List.mem_map_of_mem hmem, by simp [AuditEvent.row]⟩
    obtain ⟨e, he, rfl⟩ := List.mem_map.mp (List.mem_of_find?_eq_some hfind)
    have hcoordinates := List.find?_some hfind
    have hsequence : (e.sequence.val : Int) = last.sequence.val :=
      (of_decide_eq_true hcoordinates).2
    have heq : e = last := hchain.eq_of_sequence_eq he hmem (by omega)
    rw [ControlStore.selectEvent, hid, haudit, hfind, heq]
    rfl
  have hstate : store.selectTaskState current.taskId.val = some (.canonical current.toJson) := by
    rw [← hpair.binds.taskId, hid, ControlStore.selectTaskState, htask]
    rfl
  have hbounded : last.sequence.val < 2 ^ 63 := by
    rw [hchain.sequence_getLast hlast]
    exact hchain.bounded
  have hdecide : decideCommit store last current = .ok false :=
    decideCommit_eq_false.mpr
      ⟨by rw [hchain.generation last hmem]; decide, hbounded, hselect, hstate⟩
  rw [commitRows, prepareCommit_eq_ok.mpr ⟨rfl, rfl, hpair⟩]
  simp only [commitTransaction, hdecide]

/-! ## Section 3: Runs of calls -/

/-- A call of `commit_task_state_and_audit`: its two records, and what the exports after its COMMIT
raise, if they do. -/
structure CommitCall where
  event : Json
  state : Json
  exportFault : Option Failure

/-- The outcome of a call and the store after it. -/
def CommitCall.run (call : CommitCall) (store : ControlStore) : Outcome Bool × ControlStore :=
  commitTaskStateAndAudit store call.event call.state call.exportFault

/-- The store after calls whose transactions ran in this order. -/
def runCommits (store : ControlStore) (calls : List CommitCall) : ControlStore :=
  calls.foldl (fun store call => (call.run store).2) store

/-- The transaction of a call lets its records through as this event. -/
def CommitCall.Accepts (call : CommitCall) (store : ControlStore) (e : AuditEvent) : Prop :=
  ∃ s committed, prepareCommit call.event call.state = .ok (e, s) ∧
    (commitRows store call.event call.state).1 = .ok committed

/-- One of the calls was accepted with this event. -/
def AcceptedIn (calls : List CommitCall) (e : AuditEvent) : Prop :=
  ∃ before call after, calls = before ++ call :: after ∧
    call.Accepts (runCommits .empty before) e

/-- The exports leave the tables alone. -/
theorem CommitCall.run_store (call : CommitCall) (store : ControlStore) :
    (call.run store).2 = (commitRows store call.event call.state).2 := by
  unfold CommitCall.run commitTaskStateAndAudit
  rcases commitRows store call.event call.state with ⟨_ | _, _⟩ <;>
    cases call.exportFault <;> rfl

theorem runCommits_append (store : ControlStore) (a b : List CommitCall) :
    runCommits store (a ++ b) = runCommits (runCommits store a) b := by
  simp [runCommits]

theorem runCommits_nil (store : ControlStore) : runCommits store [] = store := rfl

theorem runCommits_cons (store : ControlStore) (call : CommitCall) (rest : List CommitCall) :
    runCommits store (call :: rest) = runCommits (call.run store).2 rest := rfl

theorem taskBound_empty (taskId : String) : TaskBound .empty taskId := .inl ⟨rfl, rfl⟩

/-- **Every run keeps every task bound.** -/
theorem runCommits_taskBound {store : ControlStore} (h : ∀ taskId, TaskBound store taskId)
    (calls : List CommitCall) (taskId : String) : TaskBound (runCommits store calls) taskId := by
  induction calls generalizing store with
  | nil => exact h taskId
  | cons call rest ih =>
      rw [runCommits_cons, call.run_store]
      exact ih (commitRows_taskBound h call.event call.state)

/-- A run only adds rows to the audit log. -/
theorem runCommits_auditRows (store : ControlStore) (calls : List CommitCall) (taskId : String) :
    ∃ more, (runCommits store calls).auditRows taskId = store.auditRows taskId ++ more := by
  induction calls generalizing store with
  | nil => exact ⟨[], (List.append_nil _).symm⟩
  | cons call rest ih =>
      obtain ⟨first, hfirst⟩ := commitRows_auditRows store call.event call.state taskId
      obtain ⟨later, hlater⟩ := ih (call.run store).2
      rw [call.run_store] at hlater
      refine ⟨first ++ later, ?_⟩
      rw [runCommits_cons, call.run_store, hlater, hfirst, List.append_assoc]

/-- An event accepted in a run is in the chain of its task after the run. -/
theorem AcceptedIn.mem_chain {calls : List CommitCall} {e : AuditEvent} (h : AcceptedIn calls e)
    {events : List AuditEvent} (hchain : TaskChain e.taskId.val events)
    (hrows : (runCommits .empty calls).auditRows e.taskId.val = events.map AuditEvent.row) :
    e ∈ events := by
  obtain ⟨before, call, after, rfl, s, committed, hprepare, hrun⟩ := h
  obtain ⟨more, hmore⟩ := runCommits_auditRows
    (call.run (runCommits .empty before)).2 after e.taskId.val
  have hmem := row_mem_of_accepted hprepare hrun
  rw [runCommits_append, runCommits_cons, hmore, call.run_store] at hrows
  have hrow : e.row ∈ events.map AuditEvent.row := by
    rw [← hrows]
    exact List.mem_append_left _ hmem
  obtain ⟨e', he', heq⟩ := List.mem_map.mp hrow
  have hjson : e'.toJson = e.toJson := by
    simpa [AuditEvent.row] using congrArg AuditEventRow.eventJson heq
  have hvalid : e.Valid := (prepareCommit_eq_ok.mp hprepare).2.2.event
  rw [← AuditEvent.eq_of_toJson_eq (hchain.valid e' he') hvalid hjson]
  exact he'

/-- Under an injective digest the hashes along a chain are different. -/
theorem TaskChain.hashes_nodup (hinj : Function.Injective canonicalSha) {taskId : String}
    {events : List AuditEvent} (h : TaskChain taskId events) :
    (events.map AuditEvent.eventHash).Nodup := by
  have hnodup : (events.map (fun e => e.sequence.val)).Nodup := by
    rw [h.contiguous]
    exact List.nodup_range'
  exact hnodup.of_map.map_on (fun a ha b hb heq =>
    AuditEvent.eq_of_hash_eq hinj (h.valid a ha) (h.valid b hb) heq)

/-! ## Section 4: Creations -/

/-- A creation event whose hash is the first digest of a table. -/
def creationEvent (projectId taskId eventId : SafeId) (actor : Actor) (createdAtUtc : Utc) :
    AuditEvent where
  eventId := eventId
  generation := ⟨1, le_rfl⟩
  sequence := ⟨1, le_rfl⟩
  projectId := projectId
  taskId := taskId
  eventType := .taskCreated
  actor := actor
  fromState := none
  toState := none
  transitionId := none
  policyEvaluationBinding := none
  evidenceBindings := []
  decisionResolutionBinding := none
  previousEventHash := none
  eventHash := ⟨unarySha 0, isSha256_unarySha (Nat.zero_le _)⟩
  createdAtUtc := createdAtUtc
  details := creationDetails ⟨taskId, ⟨1, le_rfl⟩, none, none, none, eventId, .taskCreated,
    createdAtUtc⟩

/-- The state of a task after its creation event. -/
def stateOfCreation (e : AuditEvent) : WorkflowTaskState where
  taskId := e.taskId
  projectId := e.projectId
  currentState := .draft
  previousState := none
  lastTransitionId := none
  auditGeneration := e.generation
  auditHeadEventId := e.eventId
  auditHeadHash := e.eventHash
  policyEvaluationId := none
  pendingDecisionId := none
  updatedAtUtc := e.createdAtUtc

/-- A creation event and its state are a pair that a call takes. -/
theorem commitPair_creation {projectId taskId eventId : SafeId} {actor : Actor} {t : Utc}
    (hhash : canonicalSha (creationEvent projectId taskId eventId actor t).preimage = unarySha 0) :
    CommitPair (creationEvent projectId taskId eventId actor t)
      (stateOfCreation (creationEvent projectId taskId eventId actor t)) := by
  have hcreation : (creationEvent projectId taskId eventId actor t).IsCreation
      ⟨taskId, ⟨1, le_rfl⟩, none, none, none, eventId, .taskCreated, t⟩ :=
    { sequence := rfl
      generation := rfl
      noTransition := ⟨rfl, rfl, rfl, rfl, rfl, rfl⟩
      details := rfl
      startedBy := ⟨⟨fun _ => ⟨rfl, rfl, rfl, rfl⟩, fun h => absurd rfl h⟩, rfl, rfl, rfl, rfl⟩ }
  refine ⟨⟨⟨fun _ => rfl, fun _ => rfl⟩, ⟨by simp [creationEvent], by simp [creationEvent]⟩,
    by simp [creationEvent], by simp [creationEvent], ⟨_, hcreation⟩, hhash⟩, ?_,
    ⟨rfl, rfl, rfl, rfl, rfl, ⟨rfl, rfl, rfl, rfl⟩⟩, hcreation.fits rfl, WorkflowTaskState.fits rfl⟩
  simp [WorkflowTaskState.Valid, stateOfCreation]

/-- A valid creation is committed to the empty store. -/
theorem commitRows_creation {e : AuditEvent} {s : WorkflowTaskState} (hpair : CommitPair e s)
    (htype : e.eventType = .taskCreated) :
    commitRows .empty e.toJson s.toJson = (.ok true, ControlStore.empty.write e s) := by
  have hbody := hpair.event.body
  simp only [AuditEvent.Body, htype] at hbody
  obtain ⟨g, hg⟩ := hbody
  have hdecide : decideCommit .empty e s = .ok true := by
    refine decideCommit_eq_true.mpr ⟨?_, ?_, rfl, ?_⟩
    · rw [hg.generation]
      decide
    · rw [hg.sequence]
      decide
    · exact require_of ⟨rfl, htype, hg.generation, hg.sequence⟩
  rw [commitRows, prepareCommit_eq_ok.mpr ⟨rfl, rfl, hpair⟩]
  simp only [commitTransaction, hdecide]

omit [Digest] in
theorem firstPosition : 1 ≤ 1 := le_rfl

omit [Digest] in
theorem secondPosition : 1 ≤ 2 := Nat.le_succ 1

omit [Digest] in
theorem isSafeId_task : isSafeId "task-1" = true := by decide

omit [Digest] in
theorem isSafeId_secondEvent : isSafeId "evt-2" = true := by decide

omit [Digest] in
theorem isUtc_secondEvent : isUtc "2026-01-01T00:00:01Z" = true := by decide

omit [Digest] in
theorem isSha256_unaryZero : isSha256 (unarySha 0) = true := isSha256_unarySha (Nat.zero_le _)

omit [Digest] in
theorem isSha256_unaryOne : isSha256 (unarySha 1) = true := isSha256_unarySha (by decide)

/-- A task of a project. -/
def firstCreation : AuditEvent :=
  creationEvent ⟨"project-a", by decide⟩ ⟨"task-1", by decide⟩ ⟨"evt-1", by decide⟩ .controller
    ⟨"2026-01-01T00:00:00Z", by decide⟩

/-- An injective digest under which the creation is valid. -/
@[reducible] def firstDigest : Digest :=
  ⟨tableSha [@AuditEvent.preimage ⟨fun _ => ""⟩ firstCreation]⟩

omit [Digest] in
/-- What a creation is hashed from does not depend on the digest: it embeds no record. -/
theorem preimage_creationEvent (D D' : Digest) (projectId taskId eventId : SafeId) (actor : Actor)
    (t : Utc) : @AuditEvent.preimage D (creationEvent projectId taskId eventId actor t)
      = @AuditEvent.preimage D' (creationEvent projectId taskId eventId actor t) := rfl

omit [Digest] in
theorem commitPair_firstCreation :
    letI := firstDigest
    CommitPair firstCreation (stateOfCreation firstCreation) := by
  let _ := firstDigest
  refine commitPair_creation ?_
  rw [preimage_creationEvent _ ⟨fun _ => ""⟩]
  exact tableSha_self _ []

/-- The call that creates the task. -/
def firstCall : CommitCall :=
  letI := firstDigest
  ⟨firstCreation.toJson, (stateOfCreation firstCreation).toJson, none⟩

/-! ## Section 5: Every run -/

/-- **One chain, one head, one successor.** After any calls from the empty store the rows of each
task are one contiguous chain whose last event the state row binds; two accepted events of a task
that name the same predecessor are one event; the exact pair at the tail is a replay that changes
nothing; and a call that its transaction rejects leaves both tables unchanged. -/
theorem commits_keep_one_chain (hinj : Function.Injective canonicalSha)
    (calls : List CommitCall) :
    (∀ taskId, TaskBound (runCommits .empty calls) taskId) ∧
    (∀ e e', AcceptedIn calls e → AcceptedIn calls e' → e.taskId = e'.taskId →
      e.previousEventHash = e'.previousEventHash → e = e') ∧
    (∀ taskId events last state, TaskChain taskId events → events.getLast? = some last →
      CommitPair last state →
      (runCommits .empty calls).auditRows taskId = events.map AuditEvent.row →
      (runCommits .empty calls).taskRows taskId = [state.row] →
      commitRows (runCommits .empty calls) last.toJson state.toJson
        = (.ok false, runCommits .empty calls)) ∧
    (∀ (call : CommitCall) failure,
      (commitRows (runCommits .empty calls) call.event call.state).1 = .error failure →
      (call.run (runCommits .empty calls)).2 = runCommits .empty calls) := by
  have hbound := runCommits_taskBound taskBound_empty calls
  refine ⟨hbound, ?_, ?_, ?_⟩
  · intro e e' he he' htask hprevious
    rcases hbound e.taskId.val with ⟨hnone, -⟩ | ⟨events, last, state, hchain, -, -, hrows, -⟩
    · have hmem := he.mem_chain (.nil _) hnone
      simp at hmem
    · have hmem := he.mem_chain hchain hrows
      have hmem' : e' ∈ events := by
        rw [htask] at hchain hrows
        exact he'.mem_chain hchain hrows
      exact successor_unique hchain.hashLinked (hchain.hashes_nodup hinj) hmem hmem' hprevious
  · intro taskId events last state hchain hlast hpair haudit htask
    exact TaskBound.replay hchain hlast hpair haudit htask
  · intro call failure hrun
    rw [call.run_store]
    rcases commitRows_cases (runCommits .empty calls) call.event call.state with
      ⟨_, hcase⟩ | ⟨_, _, _, _, _, ⟨_, hcase⟩ | ⟨_, hcase⟩⟩
    · rw [hcase]
    · simp [hcase] at hrun
    · simp [hcase] at hrun

omit [Digest] in
theorem commits_keep_one_chain_creation :
    letI := firstDigest
    (runCommits .empty [firstCall]).auditRows firstCreation.taskId.val = [firstCreation.row] ∧
    (∀ taskId, TaskBound (runCommits .empty [firstCall]) taskId) ∧
    (∀ e, AcceptedIn [firstCall] e → e.taskId = firstCreation.taskId →
      e.previousEventHash = none → e = firstCreation) := by
  let _ := firstDigest
  have hpair := commitPair_firstCreation
  have hcommit : commitRows .empty firstCall.event firstCall.state
      = (.ok true, ControlStore.empty.write firstCreation (stateOfCreation firstCreation)) :=
    commitRows_creation hpair rfl
  have hstore : runCommits .empty [firstCall]
      = ControlStore.empty.write firstCreation (stateOfCreation firstCreation) := by
    rw [runCommits_cons, runCommits_nil, CommitCall.run_store, hcommit]
  obtain ⟨hbound, hone, -⟩ := commits_keep_one_chain (tableSha_injective _) [firstCall]
  have hrows := (ControlStore.empty.write_self hpair (Nat.zero_le 1)).1
  refine ⟨by rw [hstore, hrows]; rfl, hbound, fun e he htask hprevious => ?_⟩
  refine hone e firstCreation he
    ⟨[], firstCall, [], rfl, stateOfCreation firstCreation, true, ?_, ?_⟩ htask hprevious
  · exact prepareCommit_eq_ok.mpr ⟨rfl, rfl, hpair⟩
  · rw [runCommits_nil, hcommit]

end Acgps
