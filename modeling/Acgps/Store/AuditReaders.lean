import Acgps.Lib.HashChain
import Acgps.Store.ControlStore

/-!
# Readers of the audit log

The readers of task states and events, and the walk back through the generations of a log, which
the engine and the store both make, each with its own checks and errors.

## Main Definitions

* `readTaskState`, `readAuditEvents`
* `takeThroughHead` - the events of a generation up to a trusted head
* `walkGenerations` - from the current generation back to the first one
* `hasCommittedDecisionResolution` - the walk of the store

## Key Theorems

* `readAuditEvents_eq_ok` - what a list of events that were read says about the rows
* `walkGenerations_eq_ok` - the loop, one turn at a time; it is defined by recursion on the
  generation, which every turn lowers
-/

namespace Acgps

open Checked HashChain

variable [Digest]

/-! ## Section 1: States and events -/

/-- `read_task_state`. -/
def readTaskState (store : ControlStore) (taskId : String) : Outcome WorkflowTaskState := do
  require (isSafeId taskId = true)
    (storeError "WORKFLOW_INVALID_INPUT" "task_id" "value must be a safe id")
  let text ← expect (store.selectTaskState taskId)
    (storeError "WORKFLOW_STATE_CORRUPT" "task_state" "authoritative task-state row is missing")
  let payload ← loadsJsonMapping text "WORKFLOW_STATE_CORRUPT" "task_state"
  let state ← raiseOutcome (validateTaskState payload)
  require (state.taskId.val = taskId)
    (storeError "WORKFLOW_STATE_CORRUPT" "task_state.task_id"
      "task-state payload must match requested task_id")
  return state

omit [Digest] in
/-- The state that is read for a task is a state of the task. -/
theorem readTaskState_taskId {store : ControlStore} {taskId : String} {state : WorkflowTaskState}
    (h : readTaskState store taskId = .ok state) : state.taskId.val = taskId := by
  simp only [readTaskState, bind_eq_ok, require_eq_ok, pure_eq_ok] at h
  obtain ⟨_, _, _, _, _, _, _, _, _, htask, rfl⟩ := h
  exact htask

omit [Digest] in
/-- The state that is read for a task is valid. -/
theorem readTaskState_valid {store : ControlStore} {taskId : String} {state : WorkflowTaskState}
    (h : readTaskState store taskId = .ok state) : state.Valid := by
  simp only [readTaskState, bind_eq_ok, require_eq_ok, pure_eq_ok, raiseOutcome_eq_ok,
    validateTaskState_eq_ok_iff] at h
  obtain ⟨_, _, _, _, _, _, _, ⟨-, hvalid⟩, _, -, rfl⟩ := h
  exact hvalid

/-- The event in a row, as `read_audit_events` reads the row at a position. -/
def readAuditRow (taskId : String) (generation : Int) (row : AuditEventRow) (position : Nat) :
    Outcome AuditEvent := do
  require (row.sequence = position)
    (auditCorruptError "sequence" "authoritative audit sequence is not contiguous")
  let payload ← loadsJsonMapping row.eventJson "WORKFLOW_AUDIT_CORRUPT" "audit_event"
  let event ← raiseOutcome (validateAuditEvent payload)
  require (event.taskId.val = taskId ∧ (event.generation.val : Int) = generation ∧
      (event.sequence.val : Int) = row.sequence)
    (auditCorruptError "audit_event" "audit row key does not match event payload")
  return event

/-- `read_audit_events`. -/
def readAuditEvents (store : ControlStore) (taskId : String) (generation : Int) :
    Outcome (List AuditEvent) := do
  require (isSafeId taskId = true)
    (storeError "WORKFLOW_INVALID_INPUT" "task_id" "value must be a safe id")
  require (1 ≤ generation)
    (storeError "WORKFLOW_INVALID_INPUT" "generation" "generation must be a positive integer")
  bindInteger generation.toNat
  ((store.selectGeneration taskId generation).zipIdx 1).mapM
    (fun (row, position) => readAuditRow taskId generation row position)

/-! ## Section 2: One generation -/

/-- Where a walk is: a generation, and what its trusted head has to be. The head of the current
generation has no expected sequence number. -/
structure WalkHead where
  generation : Int
  eventId : Json
  sequence : Json
  hash : Json

/-- The walk starts at the head that a task state binds. -/
def WorkflowTaskState.walkHead (s : WorkflowTaskState) : WalkHead :=
  ⟨s.auditGeneration.val, .str s.auditHeadEventId.val, .null, .str s.auditHeadHash.val⟩

/-- The prefix loop: read rows until an event has the trusted hash. A row is read at a position and
after the hash of the row before it. -/
def takeThroughHead {ρ : Type} (read : Nat → Option Sha256Hex → ρ → Outcome AuditEvent)
    (headHash : Json) : Nat → Option Sha256Hex → List ρ → Outcome (Option (List AuditEvent))
  | _, _, [] => .ok none
  | position, previous, row :: rest => do
      let event ← read position previous row
      if .str event.eventHash.val = headHash then return some [event]
      else do
        let more ← takeThroughHead read headHash (position + 1) (some event.eventHash) rest
        return more.map (event :: ·)

/-- What a walk raises. -/
structure WalkErrors where
  cyclic : Failure
  headMissing : Failure
  headIdentity : Failure
  headSequence : Failure
  headNotTail : Failure
  startMissing : Failure
  endedEarly : Failure
  predecessorInvalid : Failure
  bindingMismatch : Failure

/-- The checks on the last event of a prefix. The store compares its id only when one is
expected. -/
def checkHead (errors : WalkErrors) (idOptional : Bool) (currentGeneration : Int) (head : WalkHead)
    (last : AuditEvent) (isTail : Bool) : Outcome Unit := do
  require ((idOptional = true ∧ head.eventId = .null) ∨ .str last.eventId.val = head.eventId)
    errors.headIdentity
  require (head.sequence ≠ .null → .int last.sequence.val = head.sequence) errors.headSequence
  require (head.generation = currentGeneration → isTail = true) errors.headNotTail

/-- Where a walk goes on: the head that the first event of a generation trusts. -/
structure Hop (generation : Int) where
  next : WalkHead
  lt : next.generation < generation

/-- The generation record in the first event of a generation, and the prefix it trusts. -/
def generationHop (errors : WalkErrors) (generation : Int) (first : AuditEvent) :
    Outcome (Option (Hop generation)) := do
  let record ← expect (first.details.get "audit_generation").asMapping errors.startMissing
  require (record.get "generation" = .int generation) errors.startMissing
  let predecessorHash := record.get "predecessor_valid_head_hash"
  if record.get "predecessor_generation" = .null then do
    require (generation = 1 ∧ predecessorHash = .null) errors.endedEarly
    return none
  else
    match (record.get "predecessor_generation").asInt with
    | none => .error errors.predecessorInvalid
    | some predecessor =>
        if hlt : predecessor < generation then do
          let trusted ← expect (first.details.get "previous_trusted_prefix").asMapping
            errors.bindingMismatch
          require (trusted.get "generation" = .int predecessor ∧
            trusted.get "event_hash" = predecessorHash) errors.bindingMismatch
          return some ⟨⟨predecessor, trusted.get "event_id", trusted.get "sequence",
            predecessorHash⟩, hlt⟩
        else .error errors.predecessorInvalid

/-- Where a walk goes on after the events of a generation. -/
def nextHead (errors : WalkErrors) (generation : Int) (events : List AuditEvent) :
    Outcome (Option (Hop generation)) := do
  let first ← expect events.head? errors.headMissing
  generationHop errors generation first

/-! ## Section 3: The loop -/

/-- The loop over the generations: the events of the generations it came through, the current one
first. -/
def walkGenerations (errors : WalkErrors) (readPrefix : WalkHead → Outcome (List AuditEvent))
    (currentGeneration : Int) (visited : List Int) (head : WalkHead) :
    Outcome (List (List AuditEvent)) :=
  if _ : head.generation ∈ visited ∨ head.generation < 1 ∨ currentGeneration < head.generation then
    .error errors.cyclic
  else
    match readPrefix head with
    | .error failure => .error failure
    | .ok events =>
        match nextHead errors head.generation events with
        | .error failure => .error failure
        | .ok none => .ok [events]
        | .ok (some hop) =>
            match walkGenerations errors readPrefix currentGeneration (head.generation :: visited)
                hop.next with
            | .error failure => .error failure
            | .ok older => .ok (events :: older)
termination_by head.generation.toNat
decreasing_by
  have := hop.lt
  omega

/-! ## Section 4: The walk of the store -/

/-- What `has_committed_decision_resolution` raises. -/
def storeWalkErrors : WalkErrors where
  cyclic := auditCorruptError "audit_generation" "audit generation lineage is cyclic or invalid"
  headMissing := auditCorruptError "audit_head_hash" "trusted audit head is missing"
  headIdentity :=
    auditCorruptError "audit_head_event_id" "trusted audit head event identity mismatch"
  headSequence := auditCorruptError "audit_head_sequence" "trusted audit head sequence mismatch"
  headNotTail :=
    auditCorruptError "audit_head_hash" "current audit head is not the authoritative tail"
  startMissing := auditCorruptError "audit_generation" "audit generation start record is missing"
  endedEarly :=
    auditCorruptError "audit_generation" "audit lineage ended before generation one"
  predecessorInvalid :=
    auditCorruptError "audit_generation.predecessor_generation" "audit predecessor is invalid"
  bindingMismatch :=
    auditCorruptError "previous_trusted_prefix" "audit predecessor binding mismatch"

/-- A row as the walk of the store reads it. -/
def readWalkRow (state : WorkflowTaskState) (generation : Int) (position : Nat)
    (previous : Option Sha256Hex) (row : AuditEventRow) : Outcome AuditEvent := do
  require (row.sequence = position)
    (auditCorruptError "sequence" "authoritative audit sequence is not contiguous")
  let payload ← loadsJsonMapping row.eventJson "WORKFLOW_AUDIT_CORRUPT" "audit_event"
  let event ← raiseOutcome (validateAuditEvent payload)
  require (event.taskId = state.taskId ∧ event.projectId = state.projectId ∧
      (event.generation.val : Int) = generation ∧ event.sequence.val = position ∧
      event.previousEventHash = previous)
    (auditCorruptError "audit_event" "audit prefix identity or hash chain mismatch")
  return event

/-- One generation of the walk of the store. -/
def readStorePrefix (store : ControlStore) (state : WorkflowTaskState) (head : WalkHead) :
    Outcome (List AuditEvent) := do
  bindInteger head.generation.toNat
  let rows := store.selectGeneration state.taskId.val head.generation
  let found ← takeThroughHead (readWalkRow state head.generation) head.hash 1 none rows
  let events ← expect found storeWalkErrors.headMissing
  let last ← expect events.getLast? storeWalkErrors.headMissing
  checkHead storeWalkErrors true state.auditGeneration.val head last (events.length = rows.length)
  return events

/-- An event that carries a resolution. -/
def AuditEvent.embedsResolution (e : AuditEvent) (resolution : Mapping) : Bool :=
  e.decisionResolutionBinding.any
    (fun binding => binding.toMapping.get "embedded_record" = resolution.toJson)

/-- `has_committed_decision_resolution`. -/
def hasCommittedDecisionResolution (store : ControlStore) (resolution : Mapping) :
    Outcome Bool := do
  let value ← expect (Mapping.lookup "task_id" resolution.entries)
    (.interpreter "KeyError" "'task_id'")
  let taskId ← expect (value.asTested isSafeId)
    (storeError "WORKFLOW_INVALID_INPUT" "task_id" "value must be a safe id")
  let state ← readTaskState store taskId.val
  let generations ← walkGenerations storeWalkErrors (readStorePrefix store state)
    state.auditGeneration.val [] state.walkHead
  return generations.any (fun events => events.any (fun e => e.embedsResolution resolution))

/-! ## Section 5: What a walk finds -/

/-- The events of one generation of a task, from its first one on. -/
structure Segment (taskId projectId : String) (generation : Int) (events : List AuditEvent) :
    Prop where
  nonempty : events ≠ []
  valid : ∀ e ∈ events, e.Valid
  task : ∀ e ∈ events, e.taskId.val = taskId
  project : ∀ e ∈ events, e.projectId.val = projectId
  generation : ∀ e ∈ events, (e.generation.val : Int) = generation
  contiguous : events.map (fun e => e.sequence.val) = List.range' 1 events.length
  hashLinked : LinkedFrom AuditEvent.eventHash AuditEvent.previousEventHash none events

omit [Digest] in
/-- What the prefix loop found: linked events at consecutive positions that end in the trusted
hash. -/
theorem takeThroughHead_sound {ρ : Type} {read : Nat → Option Sha256Hex → ρ → Outcome AuditEvent}
    {headHash : Json} {P : AuditEvent → Prop} {rows : List ρ}
    (hread : ∀ row ∈ rows, ∀ position previous e, read position previous row = .ok e →
      P e ∧ e.sequence.val = position ∧ e.previousEventHash = previous)
    {position : Nat} {previous : Option Sha256Hex} {events : List AuditEvent}
    (h : takeThroughHead read headHash position previous rows = .ok (some events)) :
    (∀ e ∈ events, P e) ∧
      events.map (fun e => e.sequence.val) = List.range' position events.length ∧
      LinkedFrom AuditEvent.eventHash AuditEvent.previousEventHash previous events ∧
      ∃ last, events.getLast? = some last ∧ .str last.eventHash.val = headHash := by
  induction rows generalizing position previous events with
  | nil => simp [takeThroughHead] at h
  | cons row rest ih =>
      simp only [takeThroughHead, bind_eq_ok] at h
      obtain ⟨e, he, h⟩ := h
      obtain ⟨hp, hsequence, hprevious⟩ := hread row (by simp) _ _ _ he
      by_cases hhead : Json.str e.eventHash.val = headHash
      · simp only [hhead, if_true, pure_eq_ok, Option.some.injEq] at h
        subst h
        exact ⟨by simpa using hp, by simp [hsequence], ⟨hprevious, trivial⟩, e, rfl, hhead⟩
      · simp only [hhead, if_false, bind_eq_ok, pure_eq_ok] at h
        obtain ⟨more, hmore, h⟩ := h
        obtain ⟨older, rfl, rfl⟩ := Option.map_eq_some_iff.mp h
        obtain ⟨hall, hcontiguous, hlinked, last, hlast, hhash⟩  :=
          ih (fun row hrow => hread row (by simp [hrow])) hmore
        refine ⟨?_, ?_, ⟨hprevious, hlinked⟩, last, ?_, hhash⟩
        · simpa [hp] using hall
        · simp [hcontiguous, hsequence, List.range'_succ]
        · rw [List.getLast?_cons, hlast]
          rfl

omit [Digest] in
/-- Rows of linked events at consecutive positions are read up to the event with the trusted hash,
when no earlier one has it. -/
theorem takeThroughHead_complete {ρ : Type}
    {read : Nat → Option Sha256Hex → ρ → Outcome AuditEvent} (rowOf : AuditEvent → ρ)
    {events : List AuditEvent} {last : AuditEvent} {position : Nat} {previous : Option Sha256Hex}
    (hread : ∀ e ∈ events, read e.sequence.val e.previousEventHash (rowOf e) = .ok e)
    (hcontiguous : events.map (fun e => e.sequence.val) = List.range' position events.length)
    (hlinked : LinkedFrom AuditEvent.eventHash AuditEvent.previousEventHash previous events)
    (hnodup : (events.map AuditEvent.eventHash).Nodup) (hlast : events.getLast? = some last) :
    takeThroughHead read (.str last.eventHash.val) position previous (events.map rowOf)
      = .ok (some events) := by
  induction events generalizing position previous with
  | nil => simp at hlast
  | cons e rest ih =>
      simp only [List.map_cons, List.length_cons, List.range'_succ, List.cons.injEq] at hcontiguous
      have hrow : read position previous (rowOf e) = .ok e := by
        rw [← hcontiguous.1, ← hlinked.1]
        exact hread e (by simp)
      cases rest with
      | nil =>
          obtain rfl : e = last := by simpa using hlast
          simp [takeThroughHead, hrow]
      | cons next rest =>
          have hlast' : (next :: rest).getLast? = some last := by simpa using hlast
          have hmem : last ∈ next :: rest := List.mem_of_getLast? hlast'
          rw [List.map_cons, List.nodup_cons] at hnodup
          have hne : Json.str e.eventHash.val ≠ .str last.eventHash.val := by
            intro heq
            have : e.eventHash = last.eventHash := Subtype.ext (Json.str.inj heq)
            exact hnodup.1 (this ▸ List.mem_map_of_mem hmem)
          have hrest := ih (fun e he => hread e (by simp [he])) hcontiguous.2 hlinked.2 hnodup.2
            hlast'
          rw [List.map_cons, takeThroughHead, hrow]
          simp only [hne, if_false, hrest, bind_eq_ok, pure_eq_ok, Except.ok.injEq,
            exists_eq_left']
          rfl

omit [Digest] in
/-- A generation that starts with a creation is the last one of a walk. -/
theorem nextHead_creation {errors : WalkErrors} {generation : Int} {e : AuditEvent}
    {rest : List AuditEvent} {g : AuditGeneration} (h : e.IsCreation g)
    (hgeneration : generation = e.generation.val) :
    nextHead errors generation (e :: rest) = .ok none := by
  subst hgeneration
  have hone : g.generation.val = 1 := by
    rw [h.startedBy.generation]
    exact h.generation
  obtain ⟨_, hpredecessor, hhash, _⟩ := h.startedBy.valid.first hone
  have hrecord : e.details.get "audit_generation" = g.toJson := by
    rw [h.details]
    rfl
  have hself : g.toMapping.get "generation" = .int e.generation.val := by
    rw [← h.startedBy.generation]
    rfl
  have hnone : g.toMapping.get "predecessor_generation" = .null := by
    change Json.ofOption PosNat.toJson g.predecessorGeneration = .null
    rw [hpredecessor]
    rfl
  have hnone' : g.toMapping.get "predecessor_valid_head_hash" = .null := by
    change Json.ofOption testedJson g.predecessorValidHeadHash = .null
    rw [hhash]
    rfl
  simp only [nextHead, generationHop, List.head?_cons, hrecord, AuditGeneration.toJson,
    Mapping.asMapping_toJson, bind_eq_ok, expect_eq_ok, Option.some.injEq, exists_eq_left',
    require_eq_ok, exists_const, hself, hnone, hnone', true_and, if_true, pure_eq_ok, and_true,
    h.generation]
  rfl

omit [Digest] in
/-- A walk that finds a creation at the start of its first generation is over. -/
theorem walkGenerations_creation (errors : WalkErrors)
    {readPrefix : WalkHead → Outcome (List AuditEvent)} {head : WalkHead} {e : AuditEvent}
    {rest : List AuditEvent} {g : AuditGeneration} (hread : readPrefix head = .ok (e :: rest))
    (hcreation : e.IsCreation g) (hgeneration : head.generation = e.generation.val) :
    walkGenerations errors readPrefix head.generation [] head = .ok [e :: rest] := by
  have hpos : 1 ≤ head.generation := by
    rw [hgeneration, hcreation.generation]
    decide
  have hguard : ¬ (head.generation ∈ ([] : List Int) ∨ head.generation < 1 ∨
      head.generation < head.generation) := by
    simp only [List.not_mem_nil, false_or, not_or]
    omega
  rw [walkGenerations, dif_neg hguard]
  simp only [hread, nextHead_creation hcreation hgeneration]

omit [Digest] in
/-- **The loop, one turn at a time.** -/
theorem walkGenerations_eq_ok {errors : WalkErrors}
    {readPrefix : WalkHead → Outcome (List AuditEvent)} {currentGeneration : Int}
    {visited : List Int} {head : WalkHead} {generations : List (List AuditEvent)}
    (h : walkGenerations errors readPrefix currentGeneration visited head = .ok generations) :
    1 ≤ head.generation ∧ ∃ events, readPrefix head = .ok events ∧
      ((nextHead errors head.generation events = .ok none ∧ generations = [events]) ∨
        ∃ hop older, nextHead errors head.generation events = .ok (some hop) ∧
          walkGenerations errors readPrefix currentGeneration (head.generation :: visited) hop.next
            = .ok older ∧ generations = events :: older) := by
  rw [walkGenerations] at h
  split at h
  · simp at h
  next hguard =>
    simp only [not_or] at hguard
    refine ⟨by omega, ?_⟩
    cases hread : readPrefix head with
    | error failure => simp [hread] at h
    | ok events =>
        simp only [hread] at h
        refine ⟨events, rfl, ?_⟩
        cases hnext : nextHead errors head.generation events with
        | error failure => simp [hnext] at h
        | ok next =>
            simp only [hnext] at h
            cases next with
            | none => exact .inl ⟨rfl, (Except.ok.inj h).symm⟩
            | some hop =>
                simp only at h
                cases hwalk : walkGenerations errors readPrefix currentGeneration
                    (head.generation :: visited) hop.next with
                | error failure => simp [hwalk] at h
                | ok older =>
                    simp only [hwalk, Except.ok.injEq] at h
                    exact .inr ⟨hop, older, rfl, hwalk, h.symm⟩

/-- The head that a trusted prefix names. -/
def TrustedPrefix.walkHead (t : TrustedPrefix) : WalkHead :=
  ⟨t.generation.val, .str t.eventId.val, .int t.sequence.val, .str t.eventHash.val⟩

omit [Digest] in
/-- A generation that starts with a recovery goes on at the prefix that the recovery trusts, when
that is in an earlier generation. -/
theorem nextHead_recovery {errors : WalkErrors} {e : AuditEvent} {rest : List AuditEvent}
    {r : RecoveryDetails} (hr : e.IsRecovery r) :
    nextHead errors e.generation.val (e :: rest)
      = if hlt : (r.previousTrustedPrefix.generation.val : Int) < e.generation.val then
          .ok (some ⟨r.previousTrustedPrefix.walkHead, hlt⟩)
        else .error errors.predecessorInvalid := by
  have hrecord : e.details.get "audit_generation" = r.auditGeneration.toJson := by
    rw [hr.details]
    rfl
  have htrusted : e.details.get "previous_trusted_prefix" = r.previousTrustedPrefix.toJson := by
    rw [hr.details]
    rfl
  have hself : r.auditGeneration.toMapping.get "generation" = .int e.generation.val := by
    rw [← hr.startedBy.generation]
    rfl
  have hpredecessor : r.auditGeneration.toMapping.get "predecessor_generation"
      = .int r.previousTrustedPrefix.generation.val := by
    change Json.ofOption PosNat.toJson r.auditGeneration.predecessorGeneration = _
    rw [hr.predecessor]
    rfl
  have hhash : r.auditGeneration.toMapping.get "predecessor_valid_head_hash"
      = .str r.previousTrustedPrefix.eventHash.val := by
    change Json.ofOption testedJson r.auditGeneration.predecessorValidHeadHash = _
    rw [hr.predecessorHash]
    rfl
  have hnames : r.previousTrustedPrefix.toMapping.get "generation"
        = .int r.previousTrustedPrefix.generation.val ∧
      r.previousTrustedPrefix.toMapping.get "event_hash"
        = .str r.previousTrustedPrefix.eventHash.val := ⟨rfl, rfl⟩
  simp only [nextHead, generationHop, List.head?_cons, expect, hrecord, htrusted, bind, Except.bind,
    AuditGeneration.toJson, TrustedPrefix.toJson, Mapping.asMapping_toJson, require_of hself,
    hpredecessor, hhash, reduceCtorEq, if_false, Json.asInt, require_of hnames]
  split <;> rfl

/-- **Where a walk goes on** after a generation that starts with a valid event: nowhere after a
creation, to the prefix that a recovery trusts after a recovery. -/
theorem nextHead_eq_ok {errors : WalkErrors} {e : AuditEvent} {rest : List AuditEvent}
    {generation : Int} {next : Option (Hop generation)} (hvalid : e.Valid)
    (hsequence : e.sequence.val = 1) (hgeneration : (e.generation.val : Int) = generation)
    (h : nextHead errors generation (e :: rest) = .ok next) :
    (next = none ∧ e.eventType = .taskCreated ∧ generation = 1) ∨
    ∃ hop r, next = some hop ∧ e.IsRecovery r ∧ hop.next = r.previousTrustedPrefix.walkHead := by
  subst hgeneration
  have hrecovery : (∃ r, e.IsRecovery r) →
      ∃ hop r, next = some hop ∧ e.IsRecovery r ∧ hop.next = r.previousTrustedPrefix.walkHead := by
    rintro ⟨r, hr⟩
    rw [nextHead_recovery hr] at h
    split at h
    · exact ⟨_, r, (Except.ok.inj h).symm, hr, rfl⟩
    · simp at h
  have hbody := hvalid.body
  cases htype : e.eventType with
  | taskCreated =>
      simp only [AuditEvent.Body, htype] at hbody
      obtain ⟨g, hg⟩ := hbody
      rw [nextHead_creation hg rfl] at h
      exact .inl ⟨(Except.ok.inj h).symm, rfl, by rw [hg.generation]; rfl⟩
  | transitionAccepted =>
      simp only [AuditEvent.Body, htype] at hbody
      obtain ⟨_, _, _, _, _, ht⟩ := hbody
      exact absurd hsequence ht.sequence
  | recoveryRecorded =>
      simp only [AuditEvent.Body, htype] at hbody
      exact .inr (hrecovery hbody)
  | rollbackRecorded =>
      simp only [AuditEvent.Body, htype] at hbody
      exact .inr (hrecovery hbody)

end Acgps
