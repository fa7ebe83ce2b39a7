import Acgps.Engine.FirstMoves
import Acgps.Engine.Recoveries

/-!
# Fresh identities

The identities of a transition have the token of the task and the sequence number of the event, and
a recovery starts the sequence again. So an identity comes back when a generation gets as long as
an older one that the task trusts.

## Main Definitions

* `nextIds` - the identities of the next transition of a task
* `AuditEvent.Produced` - an event that a call or an accepted recovery has made
* `RoomFor` - the place behind a lineage is not the place of an older event

## Key Theorems

* `Preparation.takes_nextIds` - a transition takes these identities
* `AuditEvent.Produced.cases` - the identities of an event that was made
* `next_ids_fresh_iff` - **the next identities are new exactly when there is room for them**
-/

namespace Acgps

open Checked Interleaving

variable [Platform]

/-! ## Section 1: The next identities -/

/-- The identities that a transition gives to its records. -/
structure NextIds where
  eventId : String
  transitionId : String
  evaluationId : String
  decisionId : String

/-- The identities of the event with a number. -/
def NextIds.numbered (token : String) (sequence : Nat) : NextIds where
  eventId := recordId "evt" token sequence
  transitionId := recordId "tr" token sequence
  evaluationId := recordId "eval" token sequence
  decisionId := recordId "decision" token sequence

/-- The identities of the next transition of a task. -/
def nextIds (store : ControlStore) (current : WorkflowTaskState) : Outcome NextIds := do
  let events ← wrapStoreError
    (readAuditEvents store current.taskId.val (current.auditGeneration.val : Int))
  return NextIds.numbered (taskToken current.taskId.val) (events.length + 1)

/-- A prepared transition gives certain identities to its records. -/
structure PreparedTransition.Takes (p : PreparedTransition) (args : TransitionArgs)
    (ids : NextIds) : Prop where
  event : ∀ decision, (transitionEvent args p decision).get "event_id" = .str ids.eventId
  transition : ∀ decision,
    (transitionRequest args p decision).get "transition_id" = .str ids.transitionId
  evaluation : p.policy.evaluationId = ids.evaluationId
  pending : p.target = .waitingHuman → pendingDecisionId p = .str ids.decisionId

omit [Platform] in
/-- The number in an identity is the number it was made from. -/
theorem recordId_injective (kind token : String) : Function.Injective (recordId kind token) := by
  intro a b h
  exact fourDigits_injective (String.append_right_inj _ |>.mp h)

/-- The evaluation of a preparation has the identity that the preparation has asked for. -/
theorem Preparation.evaluationId {S : World → Prop} {engine : Engine} {args : TransitionArgs}
    {p : PreparedTransition} (h : Preparation S engine args p) :
    p.policy.evaluationId = recordId "eval" (taskToken args.taskId) p.sequence := by
  have htarget := h.target
  simp only [authorizedTarget, bind_eq_ok, require_eq_ok] at htarget
  obtain ⟨_, hopen, -⟩ := htarget
  rw [h.policy] at hopen ⊢
  obtain ⟨-, -, -, -, hid, -⟩ := evaluatePolicy_open hopen
  rw [hid]
  rfl

/-- **A transition takes the next identities** of the state that it was prepared for. -/
theorem Preparation.takes_nextIds {engine : Engine} {args : TransitionArgs} {w : World}
    {p : PreparedTransition} (h : Preparation (· = w) engine args p) :
    ∃ ids, nextIds w.store p.current = .ok ids ∧ p.Takes args ids := by
  obtain ⟨_, rfl, hread⟩ := h.status
  have htask := readTaskState_taskId hread
  obtain ⟨events, haudit, hsequence⟩ := h.sequence
  simp only [may_audit, exists_eq_left] at haudit
  obtain ⟨state, hstate, hevents⟩ := haudit
  obtain rfl : p.current = state := Except.ok.inj (hread.symm.trans hstate)
  refine ⟨NextIds.numbered (taskToken args.taskId) p.sequence, ?_, ?_⟩
  · rw [nextIds, htask, hevents, hsequence]
    rfl
  · have htoken := h.token
    exact
      { event := fun decision => by rw [← htoken]; rfl
        transition := fun decision => by rw [← htoken]; rfl
        evaluation := h.evaluationId
        pending := fun htarget => by rw [pendingDecisionId, if_pos htarget, htoken]; rfl }

/-! ## Section 2: Events that were made -/

/-- An event that a call has written, or that an accepted recovery plans. -/
inductive AuditEvent.Produced : AuditEvent → Prop
  | call {S : World → Prop} {c : Call} {x : World → World} {w : World} {e : AuditEvent}
      {s : WorkflowTaskState} :
      c.program.Writes S x → CommitPair e s → (x w).store = w.store.write e s → Produced e
  | recovery {record : Json} {t : RecoveryTransaction} {e : AuditEvent} :
      validateRecoveryTransaction record = .ok t → t.plannedGenerationEvent = some e → Produced e

/-- The records of an event have given identities. -/
structure AuditEvent.Numbered (e : AuditEvent) (ids : NextIds) : Prop where
  event : e.eventId.val = ids.eventId
  transition : ∃ t, e.transitionId = some t ∧ t.val = ids.transitionId
  evaluation : ∃ b, e.policyEvaluationBinding = some b ∧ b.evaluationId.val = ids.evaluationId

/-- A commit writes the event that it was given. -/
theorem event_of_commitWrite {event state : Mapping} {w : World} {e : AuditEvent}
    {s : WorkflowTaskState} (hpair : CommitPair e s)
    (h : (commitWrite event state w).store = w.store.write e s) : event.toJson = e.toJson := by
  have hstore : (commitWrite event state w).store
      = (commitRows w.store event.toJson state.toJson).2 :=
    CommitCall.run_store ⟨event.toJson, state.toJson, w.exportFault⟩ w.store
  rw [hstore] at h
  rcases commitRows_cases w.store event.toJson state.toJson with
    ⟨_, hrun⟩ | ⟨e', s', hevent, -, hpair', ⟨-, hrun⟩ | ⟨-, hrun⟩⟩
  · rw [hrun] at h
    exact absurd h.symm (ControlStore.write_ne _ _ _)
  · rw [hrun] at h
    exact absurd h.symm (ControlStore.write_ne _ _ _)
  · rw [hrun] at h
    rw [hevent, ControlStore.write_event_eq hpair'.event hpair.event h]

/-- The event of an intake has the first identity. -/
theorem creationEventRecord_ids {intake : Mapping} {actor : String} {e : AuditEvent}
    (h : (creationEventRecord intake actor
      ("evt-" ++ taskToken (intake.word "task_id") ++ "-0001")).toJson = e.toJson) :
    e.eventType = .taskCreated ∧ e.eventId.val = recordId "evt" (taskToken e.taskId.val) 1 := by
  have hentries := congrArg Mapping.entries (Mapping.toJson_injective h)
  simp only [creationEventRecord, creationEventWithHash, AuditEvent.toMapping, AuditEvent.withHash,
    List.cons.injEq, Prod.mk.injEq, true_and, and_true] at hentries
  obtain ⟨-, -, -, -, -, hid, htype, -, -, -, -, -, -, -, htask, -, -⟩ := hentries
  have hname : EventType.taskCreated.name = e.eventType.name := Json.str.inj htype
  have hword : intake.word "task_id" = e.taskId.val := by
    rw [Mapping.word, htask]
    rfl
  refine ⟨(EventType.name_injective hname).symm, ?_⟩
  have hkind : "evt" ++ "-" = "evt-" := by decide
  have hnumber : "-" ++ fourDigits 1 = "-0001" := by decide +kernel
  rw [← Json.str.inj hid, hword, recordId, hkind, ← hnumber]
  simp only [String.append_assoc]

/-- The event of a transition has the identities of its number. -/
theorem TransitionChecks.numbered {S : World → Prop} {engine : Engine} {args : TransitionArgs}
    {p : PreparedTransition} {decision : Option Mapping} {e : AuditEvent}
    (h : TransitionChecks S engine args p decision)
    (hevent : (transitionEvent args p decision).toJson = e.toJson) :
    e.Numbered (.numbered (taskToken e.taskId.val) e.sequence.val) := by
  have hmade := eventOf hevent
  have hpreparation := prepareTransitionValidation_may.mp h.prepared
  have hevaluation := hpreparation.evaluationId
  have hentries := congrArg Mapping.entries (Mapping.toJson_injective hevent)
  simp only [transitionEvent, transitionEventWithHash, AuditEvent.toMapping, AuditEvent.withHash,
    List.cons.injEq, Prod.mk.injEq, true_and, and_true] at hentries
  obtain ⟨-, -, -, -, -, hid, -, -, -, -, hpolicy, -, -, -, -, -, htransition⟩ := hentries
  rw [hpreparation.token, ← hmade.taskId, ← hmade.sequence] at hid htransition
  rw [← hmade.taskId, ← hmade.sequence] at hevaluation
  refine ⟨(Json.str.inj hid).symm, ?_, ?_⟩
  · cases ht : e.transitionId with
    | none =>
        rw [ht] at htransition
        cases htransition
    | some t =>
        rw [ht] at htransition
        exact ⟨t, rfl, (Json.str.inj htransition).symm⟩
  · cases hb : e.policyEvaluationBinding with
    | none =>
        rw [hb] at hpolicy
        exact absurd hpolicy (Mapping.toJson_ne_null _)
    | some b =>
        rw [hb] at hpolicy
        have hbound := congrArg (fun m : Mapping => m.get "evaluation_id")
          (Mapping.toJson_injective hpolicy)
        exact ⟨b, rfl, (Json.str.inj hbound).symm.trans hevaluation⟩

/-- **The identities of an event that was made.** -/
theorem AuditEvent.Produced.cases {e : AuditEvent} (h : e.Produced) :
    (e.eventType = .taskCreated ∧ e.eventId.val = recordId "evt" (taskToken e.taskId.val) 1) ∨
    (e.eventType = .transitionAccepted ∧
      e.Numbered (.numbered (taskToken e.taskId.val) e.sequence.val)) ∨
    e.eventType ∈ recoveryEventTypes := by
  cases h with
  | @call S c x w _ s hwrites hpair hstore =>
      rcases Call.writes_cases hwrites with hkeeps | ⟨record, actor, rfl⟩ |
        ⟨args, p, decision, hchecks, rfl⟩
      · rw [(hkeeps w).1] at hstore
        exact absurd hstore.symm (ControlStore.write_ne _ _ _)
      · exact .inl (creationEventRecord_ids (event_of_commitWrite hpair hstore))
      · have hevent := event_of_commitWrite hpair hstore
        exact .inr (.inl ⟨(eventOf hevent).eventType, hchecks.numbered hevent⟩)
  | recovery haccepted hevent =>
      obtain ⟨_, d, -, hstarts, -⟩ := starts_of_accepted haccepted hevent
      have htype := hstarts.recovery.eventType
      refine .inr (.inr ?_)
      rw [htype, recoveryEventTypes]
      split
      · simp
      · simp

/-! ## Section 3: Numbers of a lineage -/

omit [Platform] in
/-- A generation has every number up to each of its numbers. -/
theorem Segment.exists_sequence [Digest] {taskId projectId : String} {generation : Int}
    {events : List AuditEvent} (h : Segment taskId projectId generation events) {e : AuditEvent}
    (he : e ∈ events) {n : Nat} (hpos : 1 ≤ n) (hle : n ≤ e.sequence.val) :
    ∃ a ∈ events, a.sequence.val = n := by
  have hmem : e.sequence.val ∈ events.map (fun a => a.sequence.val) := List.mem_map_of_mem he
  have hnumber : n ∈ events.map (fun a => a.sequence.val) := by
    rw [h.contiguous, List.mem_range'_1] at hmem ⊢
    omega
  exact List.mem_map.mp hnumber

omit [Platform] in
/-- A trusted history has every number up to each of its numbers. -/
theorem TrustedLineage.exists_sequence [Digest] {taskId projectId : String} {generation : Int}
    {events : List AuditEvent} (h : TrustedLineage taskId projectId generation events)
    {e : AuditEvent} (he : e ∈ events) {n : Nat} (hpos : 1 ≤ n) (hle : n ≤ e.sequence.val) :
    ∃ a ∈ events, a.sequence.val = n := by
  induction h with
  | first hsegment _ => exact hsegment.exists_sequence he hpos hle
  | hop _ _ _ _ _ hsegment ih =>
      rcases List.mem_append.mp he with holder | hnew
      · obtain ⟨a, ha, hsequence⟩ := ih holder
        exact ⟨a, List.mem_append_left _ ha, hsequence⟩
      · obtain ⟨a, ha, hsequence⟩ := hsegment.exists_sequence hnew hpos hle
        exact ⟨a, List.mem_append_right _ ha, hsequence⟩

omit [Platform] in
/-- The events of a history are of its task. -/
theorem TrustedLineage.task [Digest] {taskId projectId : String} {generation : Int}
    {events : List AuditEvent} (h : TrustedLineage taskId projectId generation events) :
    ∀ e ∈ events, e.taskId.val = taskId := by
  induction h with
  | first hsegment _ => exact hsegment.task
  | hop _ _ _ _ _ hsegment ih =>
      intro e he
      rcases List.mem_append.mp he with holder | hnew
      · exact ih e holder
      · exact hsegment.task e hnew

omit [Platform] in
/-- The events of the current generation are read from its rows, and there is at least one. -/
theorem trustedAuditLineage_reads [Digest] {store : ControlStore} {current : WorkflowTaskState}
    {lineage : List AuditEvent} (h : trustedAuditLineage store current = .ok lineage) :
    ∃ events, readAuditEvents store current.taskId.val (current.auditGeneration.val : Int)
        = .ok events ∧ 1 ≤ events.length ∧ events.length
          = (store.selectGeneration current.taskId.val current.auditGeneration.val).length := by
  simp only [trustedAuditLineage, bind_eq_ok, pure_eq_ok] at h
  obtain ⟨generations, hwalk, -⟩ := h
  obtain ⟨-, events, hread, -⟩ := walkGenerations_eq_ok hwalk
  simp only [readLineagePrefix, bind_eq_ok, wrapStoreError_eq_ok, expect_eq_ok] at hread
  obtain ⟨rows, hrows, _, hfound, _, rfl, -⟩ := hread
  refine ⟨rows, hrows, ?_, ?_⟩
  · -- a generation without rows has no trusted head
    cases rows with
    | nil => simp [takeThroughHead] at hfound
    | cons row rest => simp
  · simp only [readAuditEvents, bind_eq_ok] at hrows
    obtain ⟨_, _, _, _, _, _, hread⟩ := hrows
    have hlength := (mapM_eq_ok_iff.mp hread).length_eq
    simpa [WorkflowTaskState.walkHead] using hlength.symm

omit [Platform] in
/-- An event that is no transition starts a generation, without the records of a transition. -/
theorem AuditEvent.Valid.starts [Digest] {e : AuditEvent} (h : e.Valid)
    (htype : e.eventType ≠ .transitionAccepted) : e.sequence.val = 1 ∧ e.NoTransition := by
  have hbody := h.body
  unfold AuditEvent.Body at hbody
  split at hbody
  next hcreated =>
    obtain ⟨g, hg⟩ := hbody
    exact ⟨hg.sequence, hg.noTransition⟩
  next haccepted => exact absurd haccepted htype
  next hrecovery =>
    obtain ⟨r, hr⟩ := hbody
    exact ⟨hr.sequence, hr.noTransition⟩
  next hrollback =>
    obtain ⟨r, hr⟩ := hbody
    exact ⟨hr.sequence, hr.noTransition⟩

/-! ## Section 4: Room for the next identities -/

/-- An event has none of the given identities, neither in its own records nor in the decision that
it waits for or was resumed with. -/
structure AuditEvent.Apart (e : AuditEvent) (ids : NextIds) : Prop where
  event : e.eventId.val ≠ ids.eventId
  transition : ∀ t ∈ e.transitionId, t.val ≠ ids.transitionId
  evaluation : ∀ b ∈ e.policyEvaluationBinding, b.evaluationId.val ≠ ids.evaluationId
  pending : expectedPendingDecision e ≠ .str ids.decisionId
  resumed : ∀ d ∈ e.decisionResolutionBinding, d.decisionId.val ≠ ids.decisionId

/-- The place behind a lineage is not the place of an older event: no trusted generation is longer
than the current one, and neither a recovery nor a decision was given an identity of that place. -/
structure RoomFor (lineage : List AuditEvent) (token : String) (taken : Nat) : Prop where
  longest : ∀ e ∈ lineage, e.sequence.val ≤ taken
  recoveries : ∀ e ∈ lineage, e.eventType ∈ recoveryEventTypes →
    e.eventId.val ≠ recordId "evt" token (taken + 1)
  decisions : ∀ e ∈ lineage, ∀ d ∈ e.decisionResolutionBinding,
    d.decisionId.val ≠ recordId "decision" token (taken + 1)

/-- An event with a smaller number is apart from the identities of the next place. -/
theorem AuditEvent.Produced.apart {e : AuditEvent} {taken : Nat} (h : e.Produced) (hvalid : e.Valid)
    (hpos : 1 ≤ taken) (hle : e.sequence.val ≤ taken)
    (hrecovery : e.eventType ∈ recoveryEventTypes →
      e.eventId.val ≠ recordId "evt" (taskToken e.taskId.val) (taken + 1))
    (hdecision : ∀ d ∈ e.decisionResolutionBinding,
      d.decisionId.val ≠ recordId "decision" (taskToken e.taskId.val) (taken + 1)) :
    e.Apart (.numbered (taskToken e.taskId.val) (taken + 1)) := by
  have hother : ∀ {kind : String} {n : Nat}, n ≤ taken →
      recordId kind (taskToken e.taskId.val) n ≠ recordId kind (taskToken e.taskId.val) (taken + 1) := by
    intro kind n hn heq
    have hsame := recordId_injective kind _ heq
    omega
  by_cases htype : e.eventType = .transitionAccepted
  · rcases h.cases with ⟨hcreated, -⟩ | ⟨-, hnumbered⟩ | hstarts
    · rw [htype] at hcreated
      cases hcreated
    · obtain ⟨t, ht, htransition⟩ := hnumbered.transition
      obtain ⟨b, hb, hevaluation⟩ := hnumbered.evaluation
      refine ⟨?_, ?_, ?_, ?_, hdecision⟩
      · rw [hnumbered.event]
        exact hother hle
      · intro t' ht'
        obtain rfl := Option.some.inj (ht.symm.trans ht')
        rw [htransition]
        exact hother hle
      · intro b' hb'
        obtain rfl := Option.some.inj (hb.symm.trans hb')
        rw [hevaluation]
        exact hother hle
      · unfold expectedPendingDecision
        split
        · exact fun heq => hother hle (Json.str.inj heq)
        · simp
    · simp [htype, recoveryEventTypes] at hstarts
  · -- the start of a generation has only its own identity
    obtain ⟨hsequence, hnone⟩ := hvalid.starts htype
    have hpending : expectedPendingDecision e = .null := by
      simp [expectedPendingDecision, AuditEvent.isEntry, AuditEvent.isTransition, htype]
    refine ⟨?_, by simp [hnone.transitionId], by simp [hnone.policy], by simp [hpending], hdecision⟩
    rcases h.cases with ⟨-, hid⟩ | ⟨haccepted, -⟩ | hstarts
    · rw [hid]
      exact hother hpos
    · exact absurd haccepted htype
    · exact hrecovery hstarts

/-- **The event that an uninterrupted call adds to the tables was made.** -/
theorem Call.produced_of_run {c : Call} {w : World} {e : AuditEvent} {s : WorkflowTaskState}
    (hpair : CommitPair e s) (hrun : (c.program.run w).2.store = w.store.write e s) :
    e.Produced := by
  obtain ⟨x, v, hwrites, hbefore, hafter⟩ := Prog.exists_writes_of_run
    (P := fun v : World => v.store = w.store.write e s)
    (fun h => ControlStore.write_ne _ _ _ h.symm) hrun
  have hcommit : ∀ {event state : Mapping}, x = commitWrite event state → e.Produced := by
    rintro event state rfl
    have hstore : (commitWrite event state v).store
        = (commitRows v.store event.toJson state.toJson).2 :=
      CommitCall.run_store ⟨event.toJson, state.toJson, v.exportFault⟩ v.store
    rcases commitRows_cases v.store event.toJson state.toJson with
      ⟨_, hrows⟩ | ⟨e', s', -, -, hpair', ⟨-, hrows⟩ | ⟨-, hrows⟩⟩
    · rw [hrows] at hstore
      exact absurd (hstore.symm.trans hafter) hbefore
    · rw [hrows] at hstore
      exact absurd (hstore.symm.trans hafter) hbefore
    · rw [hrows] at hstore
      obtain rfl : e' = e :=
        ControlStore.write_event_eq hpair'.event hpair.event (hstore.symm.trans hafter)
      exact .call hwrites hpair' hstore
  rcases Call.writes_cases hwrites with hkeeps | ⟨_, _, hx⟩ | ⟨_, _, _, -, hx⟩
  · exact absurd ((hkeeps v).1.symm.trans hafter) hbefore
  · exact hcommit hx
  · exact hcommit hx

/-- **Behind the event that starts a generation the numbers start again.** -/
theorem nextIds_of_new {store : ControlStore} {e : AuditEvent} {s : WorkflowTaskState}
    {older : List AuditEvent} (hread : trustedAuditLineage (store.write e s) s = .ok (older ++ [e]))
    (hnew : store.selectGeneration e.taskId.val e.generation.val = []) :
    nextIds (store.write e s) s = .ok (.numbered (taskToken s.taskId.val) 2) := by
  have htrusted := (trustedAuditLineage_sound hread).1
  have htask : e.taskId.val = s.taskId.val := htrusted.task e (by simp)
  have hgeneration : (e.generation.val : Int) = s.auditGeneration.val :=
    htrusted.generation_getLast (by simp)
  have hrow := ControlStore.selectGeneration_write_new s hnew
  rw [htask, hgeneration] at hrow
  obtain ⟨events, hevents, -, hlength⟩ := trustedAuditLineage_reads hread
  rw [hrow] at hlength
  rw [nextIds, hevents]
  show Except.ok (NextIds.numbered _ (events.length + 1)) = _
  rw [hlength]
  rfl

/-- **The next identities are new exactly when there is room for them.** -/
theorem next_ids_fresh_iff {store : ControlStore} {current : WorkflowTaskState}
    {lineage : List AuditEvent} (hlineage : trustedAuditLineage store current = .ok lineage)
    (hproduced : ∀ e ∈ lineage, e.Produced) :
    ∃ events ids, readAuditEvents store current.taskId.val (current.auditGeneration.val : Int)
        = .ok events ∧ nextIds store current = .ok ids ∧
      (∀ w engine args p, w.store = store → Preparation (· = w) engine args p →
        p.current = current → p.Takes args ids) ∧
      ((∀ e ∈ lineage, e.Apart ids) ↔
        RoomFor lineage (taskToken current.taskId.val) events.length) := by
  obtain ⟨events, hevents, hpos, -⟩ := trustedAuditLineage_reads hlineage
  have htrusted := (trustedAuditLineage_sound hlineage).1
  have hids : nextIds store current
      = .ok (.numbered (taskToken current.taskId.val) (events.length + 1)) := by
    rw [nextIds, hevents]
    rfl
  refine ⟨events, _, hevents, hids, ?_, ?_, ?_⟩
  · rintro w engine args p rfl hp rfl
    obtain ⟨ids, hids', htakes⟩ := hp.takes_nextIds
    rwa [Except.ok.inj (hids.symm.trans hids')]
  · intro hapart
    refine ⟨?_, fun e he _ => (hapart e he).event, fun e he => (hapart e he).resumed⟩
    intro e he
    by_contra hlong
    -- an older generation as long as this one has a transition with the next number
    obtain ⟨a, ha, hsequence⟩ := htrusted.exists_sequence he (n := events.length + 1) (by omega)
      (by omega)
    have htype : a.eventType = .transitionAccepted := by
      by_contra hne
      have hone := ((htrusted.valid a ha).starts hne).1
      omega
    rcases (hproduced a ha).cases with ⟨hcreated, -⟩ | ⟨-, hnumbered⟩ | hstarts
    · rw [htype] at hcreated
      cases hcreated
    · apply (hapart a ha).event
      rw [hnumbered.event, hsequence, htrusted.task a ha]
    · simp [htype, recoveryEventTypes] at hstarts
  · intro hroom e he
    have htask := htrusted.task e he
    rw [← htask]
    apply (hproduced e he).apart (htrusted.valid e he) hpos (hroom.longest e he)
    · rw [htask]
      exact hroom.recoveries e he
    · rw [htask]
      exact hroom.decisions e he

/-! ## Section 5: A new task, and a recovery -/

omit [Platform] in
theorem demoCreation_produced :
    letI := demoPlatform
    demoCreation.Produced := by
  let _ := demoPlatform
  have hstore : demoWorld.store
      = noteWorld.store.write demoCreation (stateOfCreation demoCreation) := rfl
  have hrun : ((Call.intake demoEngine demoIntake "CONTROLLER").program.run noteWorld).2.store
      = demoWorld.store := congrArg World.store demoWorld_eq
  exact Call.produced_of_run commitPair_demoCreation (hrun.trans hstore)

omit [Platform] in
/-- The first transition of a new task has new identities. -/
theorem next_ids_fresh_iff_creation :
    letI := demoPlatform
    ∃ ids, nextIds demoWorld.store (stateOfCreation demoCreation) = .ok ids ∧
      demoCreation.Apart ids := by
  let _ := demoPlatform
  have hlineage := storedChain_demoWorld.trustedAuditLineage_eq (by simp [stateOfCreation]) (by simp)
  obtain ⟨events, ids, hevents, hids, -, hfresh⟩ := next_ids_fresh_iff hlineage
    (fun e he => by rw [List.mem_singleton.mp he]; exact demoCreation_produced)
  have hread := storedChain_demoWorld.chain.readAuditEvents storedChain_demoWorld.auditRows
  obtain rfl : [demoCreation] = events := Except.ok.inj (hread.symm.trans hevents)
  refine ⟨ids, hids, hfresh.mpr ⟨?_, ?_, ?_⟩ demoCreation (List.mem_singleton.mpr rfl)⟩
  · simp only [List.mem_singleton, forall_eq]
    exact le_rfl
  · simp [demoCreation, creationEvent, recoveryEventTypes]
  · simp [demoCreation, creationEvent]

omit [Platform] in
theorem isSafeId_demoMove : isSafeId "evt-0000000000000000-0002" = true := by decide +kernel

/-- What a recovery says that trusts the transition behind the creation. -/
def laterRecovery : RecoveryDetails :=
  { sampleRecovery .recovery with
    previousTrustedPrefix := ⟨⟨1, firstPosition⟩, ⟨2, secondPosition⟩,
      ⟨"evt-0000000000000000-0002", isSafeId_demoMove⟩, ⟨unarySha 1, isSha256_unaryOne⟩⟩
    auditGeneration := { (sampleRecovery .recovery).auditGeneration with
      predecessorValidHeadHash := some ⟨unarySha 1, isSha256_unaryOne⟩ } }

/-- The event of that recovery. -/
def laterRecoveryEvent : AuditEvent :=
  { sampleRecoveryEvent .recovery with details := laterRecovery.toMapping }

/-- Its result. -/
def laterRecoveryResult : RecoveryResult :=
  { sampleRecoveryResult .recovery with
    previousValidHeadHash := some ⟨unarySha 1, isSha256_unaryOne⟩ }

/-- Its record. -/
def laterRecoveryRecord : RecoveryRecord :=
  { sampleRecoveryRecord .recovery with
    diagnostic := { (sampleRecoveryRecord .recovery).diagnostic with
      previousTrustedPrefix := laterRecovery.previousTrustedPrefix } }

/-- Its transaction. -/
def laterTransaction : Mapping :=
  (((((sampleTransaction .recovery).set "canonical_recovery_result" laterRecoveryResult.toJson).set
    "planned_generation_event" laterRecoveryEvent.toJson).set
    "planned_idempotency_record"
      { sampleAnswer .recovery with canonicalResult := laterRecoveryResult.toJson }.toJson).set
    "planned_recovery_record" laterRecoveryRecord.toJson)

/-- What the validator makes of it. -/
def laterRecovered : RecoveryTransaction :=
  { sampleRecovered .recovery with
    canonicalRecoveryResult := laterRecoveryResult
    plannedRecoveryRecord := laterRecoveryRecord
    plannedGenerationEvent := some laterRecoveryEvent
    plannedIdempotencyRecord := some
      { sampleAnswer .recovery with canonicalResult := laterRecoveryResult.toJson } }

omit [Platform] in
theorem isRecovery_laterRecoveryEvent : laterRecoveryEvent.IsRecovery laterRecovery where
  sequence := rfl
  generation := le_rfl
  noTransition := ⟨rfl, rfl, rfl, rfl, rfl, rfl⟩
  details := rfl
  action := (sampleAction .recovery).property
  eventType := by decide
  startedBy := ⟨⟨nofun, fun _ => ⟨nofun, nofun, by decide⟩⟩, rfl, rfl, rfl, rfl⟩
  predecessor := rfl
  predecessorHash := rfl
  quarantine := rfl

omit [Platform] in
/-- The checks on the transaction as a whole. -/
theorem laterRecovered_checked :
    letI := demoPlatform
    laterRecovered.Checked laterTransaction := by
  let _ := demoPlatform
  apply RecoveryTransaction.Checked.of_checks
  · exact (validateExactMapping_eq_ok_iff recoveryTransactionFields_sorted).mpr rfl
  · simp only [validateRecoveryHeader, bind_eq_ok, requireSafeId_eq_ok, requireMember_recoveryKind,
      requireNonEmptyString_eq_ok, validateUtc_eq_ok, validateSchemaVersion_eq_ok, pure_eq_ok]
    exact ⟨(), rfl, _, rfl, .recovery, rfl, _, rfl, _, rfl, _, rfl, _, rfl, rfl⟩
  · decide +kernel

omit [Platform] in
theorem laterTransaction_accepted :
    letI := demoPlatform
    ∃ t, validateRecoveryTransaction laterTransaction.toJson = .ok t := by
  let _ := demoPlatform
  refine ⟨laterRecovered, validateRecoveryTransaction_eq_ok ?_ laterRecovered_checked ?_ ?_ ?_ ?_ ?_
    ?_ ?_⟩
  · exact ⟨rfl, rfl, rfl, rfl, rfl, rfl, rfl, rfl, rfl, rfl, rfl, rfl, rfl⟩
  · exact ⟨by decide, rfl, rfl, rfl, rfl, rfl, rfl⟩
  · exact ⟨trivial, fun _ => ⟨nofun, nofun, fun _ => ⟨nofun, nofun⟩⟩, nofun⟩
  · rintro _ ⟨⟩
    rfl
  · rintro _ ⟨⟩
    refine ⟨isRecovery_laterRecoveryEvent.valid .recovery rfl rfl ?_,
      eq_ok_of_toOption (by decide +kernel)⟩
    decide +kernel
  · rintro _ ⟨⟩
    exact ⟨⟨nofun, nofun⟩, eq_ok_of_toOption (by decide +kernel)⟩
  · rintro _ ⟨⟩
    refine ⟨rfl, rfl, rfl, rfl, ?_, ?_, Json.pyEq_self (by decide +kernel), by decide +kernel⟩
    · decide +kernel
    · decide +kernel
  · refine ⟨rfl, rfl, rfl, rfl, ?_, ?_, ?_, ?_, ?_, ?_⟩
    all_goals decide +kernel

omit [Platform] in
theorem fits_laterRecoveryEvent :
    letI := demoPlatform
    FitsSqlite laterRecoveryEvent.toJson := by
  apply FitsSqlite.of_quickWidth
  · decide +kernel
  · decide +kernel

omit [Platform] in
/-- What the validator reads of the transaction. -/
theorem laterTransaction_plans :
    letI := demoPlatform
    ∃ t e, validateRecoveryTransaction laterTransaction.toJson = .ok t ∧
      t.plannedGenerationEvent = some e ∧ FitsSqlite e.toJson ∧ e.taskId = demoCreation.taskId ∧
      (e.generation.val : Int) = 2 ∧ t.header.taskId = demoCreation.taskId ∧
      t.canonicalRecoveryRequest.projectId = demoCreation.projectId ∧
      t.plannedRecoveryRecord.diagnostic.previousTrustedPrefix
        = laterRecovery.previousTrustedPrefix := by
  let _ := demoPlatform
  obtain ⟨t, ht⟩ := laterTransaction_accepted
  have htaskId : laterTransaction.get "task_id" = .str demoCreation.taskId.val := rfl
  have hevent : laterTransaction.get "planned_generation_event" = laterRecoveryEvent.toJson := rfl
  obtain ⟨e, he, hjson, htask, hproject, htrusted⟩ := plans_of_accepted ht hevent htaskId
    (q := sampleRecoveryRequest .recovery) rfl (k := laterRecoveryRecord) rfl
  have hfields := Mapping.toJson_injective hjson
  refine ⟨t, e, ht, he, hjson ▸ fits_laterRecoveryEvent, ?_, ?_, htask, hproject, htrusted⟩
  · exact Subtype.ext (Json.str.inj (congrArg (fun k : Mapping => k.get "task_id") hfields))
  · exact Json.int.inj (congrArg (fun k : Mapping => k.get "generation") hfields)

omit [Platform] in
/-- The tables behind the first transition of the new task. -/
theorem demoMove :
    letI := demoPlatform
    ∃ e s, ((advance demoEngine demoArgs₁).run demoWorld).2.store = demoWorld.store.write e s ∧
      StoredChain (demoWorld.store.write e s) [demoCreation, e] e s ∧
      s.taskId = demoCreation.taskId ∧ e.projectId = demoCreation.projectId ∧ e.Produced ∧
      e.eventId.val = "evt-0000000000000000-0002" ∧ e.eventHash.val = unarySha 1 := by
  let _ := demoPlatform
  obtain ⟨events, last, e, s, hstored, hevent, -, hworld, hnew, htask⟩ :=
    demoTransition_passes.exists_moved referenceBundle_loaded (demoWorld_reachable.taskBound _)
      demoTransition_formed demoTransition_committable
  have hread : demoTransition.current = stateOfCreation demoCreation := rfl
  rw [hread] at hstored htask
  obtain rfl : events = [demoCreation] := hstored.logs.unique storedChain_demoWorld.logs
  have hentries := congrArg Mapping.entries (Mapping.toJson_injective hevent)
  simp only [transitionEvent, transitionEventWithHash, AuditEvent.toMapping, AuditEvent.withHash,
    List.cons.injEq, Prod.mk.injEq, true_and, and_true] at hentries
  obtain ⟨-, -, -, -, hhash, hid, -⟩ := hentries
  refine ⟨e, s, ?_, hnew, htask, (eventOf hevent).projectId, ?_, ?_, ?_⟩
  · rw [hworld]
  · have hrun : ((Call.advance demoEngine demoArgs₁).program.run demoWorld).2.store
        = demoWorld.store.write e s := by rw [Call.program, hworld]
    exact Call.produced_of_run hnew.pair hrun
  · have hnumber : fourDigits demoTransition.sequence = "0002" := by decide +kernel
    rw [← Json.str.inj hid, recordId, hnumber]
    rfl
  · rw [← Json.str.inj hhash]
    decide +kernel

omit [Platform] in
/-- **An identity comes back**: behind an accepted recovery on the first transition of a task, the
next transition gets the identity of that transition again. -/
theorem transition_id_comes_back :
    letI := demoPlatform
    ∃ t e s lineage ids, validateRecoveryTransaction laterTransaction.toJson = .ok t ∧
      t.plannedGenerationEvent = some e ∧ t.plannedState = some s ∧
      trustedAuditLineage (((advance demoEngine demoArgs₁).run demoWorld).2.store.write e s) s
        = .ok lineage ∧ (∀ a ∈ lineage, a.Produced) ∧
      nextIds (((advance demoEngine demoArgs₁).run demoWorld).2.store.write e s) s = .ok ids ∧
      ¬ ∀ a ∈ lineage, a.Apart ids := by
  let _ := demoPlatform
  obtain ⟨t, e, ht, he, hfits, heventTask, hsecond, htask, hproject, htrusted⟩ :=
    laterTransaction_plans
  obtain ⟨m, current, hstore, hchain, hcurrent, hmove, hmade, hid, hhash⟩ := demoMove
  have hprojects : ∀ a ∈ [demoCreation, m], a.projectId = current.projectId := by
    rw [← hchain.pair.binds.projectId, hmove]
    simp [hmove]
  have hcreationHash : demoCreation.eventHash.val = unarySha 0 := rfl
  have hne : demoCreation.eventHash ≠ m.eventHash := by
    intro heq
    have hzero : unarySha 0 = unarySha 1 := by rw [← hcreationHash, ← hhash, heq]
    cases unarySha_injective hzero
  have hlineage := hchain.trustedAuditLineage_eq hprojects (by simpa using hne)
  -- the recovery names the transition
  have hgeneration : m.generation.val = 1 := hchain.chain.generation m (by simp)
  have hsequence : m.sequence.val = 2 := by
    have hnumbers := hchain.chain.contiguous
    simp only [List.map_cons, List.map_nil] at hnumbers
    exact (List.cons.inj (List.cons.inj hnumbers).2).1
  obtain ⟨s, d, hs, hstarts, hrecovers, hnamed, -⟩ := starts_of_accepted ht he
  have hnames : d.previousTrustedPrefix.Names m := by
    rw [hnamed, htrusted]
    exact ⟨Subtype.ext hgeneration.symm, Subtype.ext hsequence.symm, Subtype.ext hid.symm,
      Subtype.ext hhash.symm⟩
  have hnew : (demoWorld.store.write m current).selectGeneration t.header.taskId.val e.generation.val
      = [] := by
    -- both events of the task are of the first generation
    have hfirst : demoCreation.generation.val = 1 := rfl
    have hrows := hchain.auditRows
    rw [hcurrent] at hrows
    rw [htask, hsecond, ControlStore.selectGeneration, hrows]
    simp [AuditEvent.row, hgeneration, hfirst]
  have hsame : ∀ a ∈ [demoCreation, m], canonicalSha a.preimage = canonicalSha m.preimage →
      a.preimage = m.preimage := by
    intro a ha heq
    rcases List.mem_pair.mp ha with rfl | rfl
    · rw [(hchain.chain.valid _ (by simp)).hash, (hchain.chain.valid m (by simp)).hash] at heq
      exact absurd (Subtype.ext heq) hne
    · rfl
  have hcurrentProject : current.projectId = t.canonicalRecoveryRequest.projectId := by
    rw [← hchain.pair.binds.projectId, hmove, hproject]
  obtain ⟨before, after, hsplit, hread⟩ := trustedAuditLineage_starts hstarts hrecovers hlineage
    (hcurrent.trans htask.symm) hcurrentProject (by simp) hnames (by omega) hnew hfits (by omega)
    hsame
  rw [htask, ← heventTask] at hnew
  refine ⟨t, e, s, before ++ [m] ++ [e], .numbered "0000000000000000" 2, ht, he, hs, ?_, ?_, ?_, ?_⟩
  · rw [hstore]
    exact hread
  · intro a ha
    rcases List.mem_append.mp ha with holder | hnewest
    · have hmem : a ∈ [demoCreation, m] := by
        rw [hsplit, List.append_cons]
        exact List.mem_append_left _ holder
      rcases List.mem_pair.mp hmem with rfl | rfl
      · exact demoCreation_produced
      · exact hmade
    · rw [List.mem_singleton.mp hnewest]
      exact .recovery ht he
  · rw [hstore]
    exact nextIds_of_new hread hnew
  · intro hapart
    apply (hapart m (by simp)).event
    rw [hid, NextIds.numbered]
    decide +kernel

end Acgps
