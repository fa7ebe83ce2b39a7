import Acgps.Store.AuditReaders
import Acgps.Store.CommitHistory

/-!
# The trusted lineage

The engine reads the history of a task backwards from the head its state binds: the current
generation, the generation whose prefix the recovery at its start trusts, and so on to the creation
of the task.

## Main Definitions

* `trustedAuditLineage` - `_trusted_audit_lineage`
* `TrustedLineage` - what a trusted history is
* `AuditEvent.predecessorHash` - the hash of the event before, in its generation or across a hop

## Key Theorems

* `trustedAuditLineage_sound` - a walk that succeeds returns a trusted history of its head
* `TrustedLineage.linked` - across its hops too a trusted history is one hash chain
* `trusted_lineage_is_tamper_evident` - **the head hash determines the history**
-/

namespace Acgps

open Checked HashChain

variable [Digest]

/-! ## Section 1: The walk of the engine -/

/-- `except WorkflowStoreError as exc: raise WorkflowEngineError(str(exc))`. -/
def wrapStoreError {α : Type} (x : Outcome α) : Outcome α :=
  mapError (fun failure => match failure with
    | .workflowStore issue => .workflowEngine (Failure.workflowStore issue).str
    | other => other) x

omit [Digest] in
@[simp] theorem wrapStoreError_eq_ok {α : Type} {x : Outcome α} {a : α} :
    wrapStoreError x = .ok a ↔ x = .ok a := by
  simp [wrapStoreError]

/-- What `_trusted_audit_lineage` raises. -/
def engineWalkErrors : WalkErrors where
  cyclic := .workflowEngine "audit generation lineage is cyclic or invalid"
  headMissing := .workflowEngine "trusted audit head is missing"
  headIdentity := .workflowEngine "trusted audit head event identity mismatch"
  headSequence := .workflowEngine "trusted audit head sequence mismatch"
  headNotTail := .workflowEngine "current audit head is not the authoritative tail"
  startMissing := .workflowEngine "audit generation start record is missing"
  endedEarly := .workflowEngine "audit generation lineage ended before generation one"
  predecessorInvalid := .workflowEngine "audit predecessor is invalid"
  bindingMismatch := .workflowEngine "audit predecessor binding mismatch"

/-- An event of the rows, as the prefix loop of the engine takes it. -/
def checkLineageEvent (current : WorkflowTaskState) (generation : Int) (position : Nat)
    (previous : Option Sha256Hex) (event : AuditEvent) : Outcome AuditEvent := do
  require (event.projectId = current.projectId ∧ event.taskId = current.taskId ∧
      (event.generation.val : Int) = generation ∧ event.sequence.val = position ∧
      event.previousEventHash = previous ∧ event.eventHash.val = canonicalSha event.preimage)
    (.workflowEngine "audit prefix identity or hash chain mismatch")
  return event

/-- One generation of the walk of the engine. -/
def readLineagePrefix (store : ControlStore) (current : WorkflowTaskState) (head : WalkHead) :
    Outcome (List AuditEvent) := do
  let rows ← wrapStoreError (readAuditEvents store current.taskId.val head.generation)
  let found ← takeThroughHead (checkLineageEvent current head.generation) head.hash 1 none rows
  let events ← expect found engineWalkErrors.headMissing
  let last ← expect events.getLast? engineWalkErrors.headMissing
  checkHead engineWalkErrors false current.auditGeneration.val head last
    (events.length = rows.length)
  return events

/-- `_trusted_audit_lineage`. -/
def trustedAuditLineage (store : ControlStore) (current : WorkflowTaskState) :
    Outcome (List AuditEvent) := do
  let generations ← walkGenerations engineWalkErrors (readLineagePrefix store current)
    current.auditGeneration.val [] current.walkHead
  return generations.reverse.flatten

/-! ## Section 2: Trusted histories -/

/-- A reference names an event. -/
structure TrustedPrefix.Names (t : TrustedPrefix) (e : AuditEvent) : Prop where
  generation : t.generation = e.generation
  sequence : t.sequence = e.sequence
  eventId : t.eventId = e.eventId
  eventHash : t.eventHash = e.eventHash

/-- The histories of a task that lead to a generation: the first generation from the creation of
the task, or a later one, from the recovery that starts it on an event of a smaller generation. -/
inductive TrustedLineage (taskId projectId : String) : Int → List AuditEvent → Prop
  | first {start : AuditEvent} {rest : List AuditEvent} :
      Segment taskId projectId 1 (start :: rest) → start.eventType = .taskCreated →
      TrustedLineage taskId projectId 1 (start :: rest)
  | hop {older rest : List AuditEvent} {anchor start : AuditEvent} {r : RecoveryDetails}
      {generation : Int} :
      TrustedLineage taskId projectId r.previousTrustedPrefix.generation.val older →
      older.getLast? = some anchor → r.previousTrustedPrefix.Names anchor →
      (r.previousTrustedPrefix.generation.val : Int) < generation → start.IsRecovery r →
      Segment taskId projectId generation (start :: rest) →
      TrustedLineage taskId projectId generation (older ++ start :: rest)

/-- The trusted prefix that the details of an event name. -/
def AuditEvent.trustedHash (e : AuditEvent) : Option Sha256Hex :=
  ((e.details.get "previous_trusted_prefix").field "event_hash").asTested isSha256

/-- The hash of the event before: in the same generation, or the one a recovery trusts. -/
def AuditEvent.predecessorHash (e : AuditEvent) : Option Sha256Hex :=
  e.previousEventHash <|> e.trustedHash

/-! ## Section 3: Soundness -/

/-- An event is the one a walk expects at a head. -/
structure WalkHead.Matches (head : WalkHead) (last : AuditEvent) : Prop where
  eventId : .str last.eventId.val = head.eventId
  sequence : head.sequence ≠ .null → .int last.sequence.val = head.sequence
  hash : .str last.eventHash.val = head.hash

/-- The events of a generation that the engine reads. -/
theorem readLineagePrefix_eq_ok {store : ControlStore} {current : WorkflowTaskState}
    {head : WalkHead} {events : List AuditEvent}
    (h : readLineagePrefix store current head = .ok events) :
    Segment current.taskId.val current.projectId.val head.generation events ∧
      ∃ last, events.getLast? = some last ∧ head.Matches last := by
  simp only [readLineagePrefix, bind_eq_ok, wrapStoreError_eq_ok, expect_eq_ok, checkHead,
    require_eq_ok, pure_eq_ok, exists_const] at h
  obtain ⟨rows, hrows, _, hfound, found, rfl, last, hlast, ⟨hid, hsequence, _⟩, hevents⟩ := h
  subst hevents
  have hvalid : ∀ e ∈ rows, e.Valid := by
    intro e he
    simp only [readAuditEvents, bind_eq_ok] at hrows
    obtain ⟨_, _, _, _, _, _, hrows⟩ := hrows
    obtain ⟨_, _, hread⟩ := exists_of_mem_mapM hrows he
    simp only [readAuditRow, bind_eq_ok, raiseOutcome_eq_ok, validateAuditEvent_eq_ok_iff,
      pure_eq_ok] at hread
    obtain ⟨_, _, _, _, _, ⟨_, hvalid⟩, _, _, rfl⟩ := hread
    exact hvalid
  have hread : ∀ row ∈ rows, ∀ position previous e,
      checkLineageEvent current head.generation position previous row = .ok e →
      (e.Valid ∧ e.taskId.val = current.taskId.val ∧ e.projectId.val = current.projectId.val ∧
        (e.generation.val : Int) = head.generation) ∧
      e.sequence.val = position ∧ e.previousEventHash = previous := by
    intro row hrow position previous e he
    simp only [checkLineageEvent, bind_eq_ok, require_eq_ok, pure_eq_ok] at he
    obtain ⟨_, ⟨hproject, htask, hgeneration, hsequence, hprevious, _⟩, rfl⟩ := he
    exact ⟨⟨hvalid row hrow, by rw [htask], by rw [hproject], hgeneration⟩, hsequence, hprevious⟩
  obtain ⟨hall, hcontiguous, hlinked, last', hlast', hhash⟩ := takeThroughHead_sound hread hfound
  obtain rfl : last' = last := Option.some.inj (hlast'.symm.trans hlast)
  refine ⟨⟨?_, fun e he => (hall e he).1, fun e he => (hall e he).2.1,
    fun e he => (hall e he).2.2.1, fun e he => (hall e he).2.2.2, hcontiguous, hlinked⟩,
    last', hlast, by simpa using hid, hsequence, hhash⟩
  rintro rfl
  simp at hlast

/-- The event that a segment starts with. -/
theorem Segment.start {taskId projectId : String} {generation : Int} {start : AuditEvent}
    {rest : List AuditEvent} (h : Segment taskId projectId generation (start :: rest)) :
    start.Valid ∧ start.sequence.val = 1 ∧ (start.generation.val : Int) = generation := by
  have hcontiguous := h.contiguous
  simp only [List.map_cons, List.length_cons, List.range'_succ, List.cons.injEq] at hcontiguous
  exact ⟨h.valid start (by simp), hcontiguous.1, h.generation start (by simp)⟩

/-- The last event of a history is in the generation that the history leads to. -/
theorem TrustedLineage.generation_getLast {taskId projectId : String} {generation : Int}
    {events : List AuditEvent} (h : TrustedLineage taskId projectId generation events)
    {last : AuditEvent} (hlast : events.getLast? = some last) :
    (last.generation.val : Int) = generation := by
  cases h with
  | first hsegment _ => exact hsegment.generation last (List.mem_of_getLast? hlast)
  | hop _ _ _ _ _ hsegment =>
      rw [List.getLast?_append_of_ne_nil _ (by simp)] at hlast
      exact hsegment.generation last (List.mem_of_getLast? hlast)

/-- **A walk that succeeds returns a trusted history that ends in its head.** -/
theorem walk_sound {store : ControlStore} {current : WorkflowTaskState} {head : WalkHead}
    {visited : List Int} {generations : List (List AuditEvent)}
    (h : walkGenerations engineWalkErrors (readLineagePrefix store current)
      current.auditGeneration.val visited head = .ok generations) :
    TrustedLineage current.taskId.val current.projectId.val head.generation
        generations.reverse.flatten ∧
      ∃ last, generations.reverse.flatten.getLast? = some last ∧ head.Matches last := by
  -- the generation of the head goes down with every turn
  induction hn : head.generation.toNat using Nat.strong_induction_on
    generalizing head visited generations with
  | _ n ih =>
      obtain ⟨hpos, events, hread, hnext⟩ := walkGenerations_eq_ok h
      obtain ⟨hsegment, last, hlast, hmatches⟩ := readLineagePrefix_eq_ok hread
      obtain ⟨start, rest, rfl⟩ := List.exists_cons_of_ne_nil hsegment.nonempty
      obtain ⟨hvalid, hsequence, hgeneration⟩ := hsegment.start
      rcases hnext with ⟨hnext, rfl⟩ | ⟨hop, older, hnext, hwalk, rfl⟩
      · obtain ⟨-, htype, hone⟩ | ⟨_, _, hsome, -⟩ :=
          nextHead_eq_ok hvalid hsequence hgeneration hnext
        · rw [hone] at hsegment ⊢
          simpa using ⟨.first hsegment htype, last, hlast, hmatches⟩
        · simp at hsome
      · obtain ⟨hnone, -, -⟩ | ⟨hop', r, hsome, hrecovery, htarget⟩ :=
          nextHead_eq_ok hvalid hsequence hgeneration hnext
        · simp at hnone
        · obtain rfl := Option.some.inj hsome
          have hlt := hop.lt
          obtain ⟨holder, anchor, hanchor, hnames⟩ := ih hop.next.generation.toNat (by omega) hwalk
            rfl
          rw [htarget] at holder hnames hlt
          have hflatten : ((start :: rest) :: older).reverse.flatten
              = older.reverse.flatten ++ start :: rest := by simp
          rw [hflatten]
          refine ⟨.hop holder hanchor ⟨?_, ?_, ?_, ?_⟩ hlt hrecovery hsegment, last, ?_, hmatches⟩
          · have := holder.generation_getLast hanchor
            exact Subtype.ext (by simp only [TrustedPrefix.walkHead] at this; omega)
          · have := hnames.sequence (by simp [TrustedPrefix.walkHead])
            simp only [TrustedPrefix.walkHead, Json.int.injEq] at this
            exact Subtype.ext (by omega)
          · exact Subtype.ext (Json.str.inj hnames.eventId).symm
          · exact Subtype.ext (Json.str.inj hnames.hash).symm
          · rw [List.getLast?_append_of_ne_nil _ (by simp), hlast]

/-! ## Section 4: Completeness -/

/-- The rows of a chain, with the positions at which a reader finds them. -/
theorem TaskChain.rows_zipIdx {taskId : String} {events : List AuditEvent}
    (h : TaskChain taskId events) :
    (events.map AuditEvent.row).zipIdx 1
      = events.map (fun e => (AuditEvent.row e, e.sequence.val)) := by
  have hpositions : ∀ {l : List AuditEvent} {first : Nat},
      l.map (fun e => e.sequence.val) = List.range' first l.length →
      (l.map AuditEvent.row).zipIdx first = l.map (fun e => (AuditEvent.row e, e.sequence.val)) := by
    intro l
    induction l with
    | nil => simp
    | cons e rest ih =>
        intro first hl
        simp only [List.map_cons, List.length_cons, List.range'_succ, List.cons.injEq] at hl
        rw [List.map_cons, List.zipIdx_cons, ih hl.2, List.map_cons, hl.1]
  exact hpositions h.contiguous

/-- A stored chain is read back. -/
theorem TaskChain.readAuditEvents {store : ControlStore} {taskId : SafeId}
    {events : List AuditEvent} (h : TaskChain taskId.val events)
    (hrows : store.auditRows taskId.val = events.map AuditEvent.row) :
    readAuditEvents store taskId.val 1 = .ok events := by
  have hrow : ∀ e ∈ events, readAuditRow taskId.val 1 e.row e.sequence.val = .ok e := by
    intro e he
    simp only [readAuditRow, bind_eq_ok, require_eq_ok, raiseOutcome_eq_ok,
      validateAuditEvent_eq_ok_iff, pure_eq_ok]
    refine ⟨(), rfl, e.toJson, loadsJsonMapping_of_fits (h.fits e he), e, ⟨rfl, h.valid e he⟩, (),
      ⟨h.task e he, ?_, rfl⟩, rfl⟩
    rw [h.generation e he]
    rfl
  simp only [Acgps.readAuditEvents, bind_eq_ok, require_eq_ok, exists_const, bindInteger]
  refine ⟨taskId.property, by decide, by decide, ?_⟩
  rw [h.selectGeneration hrows, h.rows_zipIdx]
  exact mapM_map_eq_ok hrow

/-- A chain starts with the creation of its task. -/
theorem TaskChain.start {taskId : String} {events : List AuditEvent} (h : TaskChain taskId events)
    (hne : events ≠ []) : ∃ start rest g, events = start :: rest ∧ start.IsCreation g := by
  obtain ⟨start, rest, rfl⟩ := List.exists_cons_of_ne_nil hne
  have hsequence := h.contiguous
  simp only [List.map_cons, List.length_cons, List.range'_succ, List.cons.injEq] at hsequence
  have htype := h.created start (by simp) hsequence.1
  have hbody := (h.valid start (by simp)).body
  simp only [AuditEvent.Body, htype] at hbody
  obtain ⟨g, hg⟩ := hbody
  exact ⟨start, rest, g, rfl, hg⟩

/-- A chain in the store, with the state that binds its last event. -/
structure StoredChain (store : ControlStore) (events : List AuditEvent) (last : AuditEvent)
    (current : WorkflowTaskState) : Prop where
  chain : TaskChain current.taskId.val events
  getLast : events.getLast? = some last
  pair : CommitPair last current
  auditRows : store.auditRows current.taskId.val = events.map AuditEvent.row
  taskRows : store.taskRows current.taskId.val = [current.row]

namespace StoredChain

variable {store : ControlStore} {events : List AuditEvent} {last : AuditEvent}
  {current : WorkflowTaskState}

theorem generation_eq (h : StoredChain store events last current) :
    current.auditGeneration.val = 1 := by
  rw [h.pair.binds.generation, h.chain.generation last (List.mem_of_getLast? h.getLast)]

theorem ne_nil (h : StoredChain store events last current) : events ≠ [] := by
  rintro rfl
  simpa using h.getLast

/-- The head that the state of a chain binds is the last event of the chain. -/
theorem walkHead_eq (h : StoredChain store events last current) :
    current.walkHead = ⟨1, .str last.eventId.val, .null, .str last.eventHash.val⟩ := by
  rw [WorkflowTaskState.walkHead, h.generation_eq, h.pair.binds.headEventId,
    h.pair.binds.headHash]
  rfl

theorem readLineagePrefix_eq (h : StoredChain store events last current)
    (hproject : ∀ e ∈ events, e.projectId = current.projectId)
    (hnodup : (events.map AuditEvent.eventHash).Nodup) :
    readLineagePrefix store current current.walkHead = .ok events := by
  have hread : ∀ e ∈ events,
      checkLineageEvent current 1 e.sequence.val e.previousEventHash e = .ok e := by
    intro e he
    simp only [checkLineageEvent, bind_eq_ok, require_eq_ok, pure_eq_ok, exists_const, and_true]
    refine ⟨hproject e he, Subtype.ext (h.chain.task e he), ?_, trivial, trivial, ?_⟩
    · rw [h.chain.generation e he]
      rfl
    · exact (h.chain.valid e he).hash.symm
  have hfound := takeThroughHead_complete id hread h.chain.contiguous
    h.chain.hashLinked hnodup h.getLast
  rw [List.map_id] at hfound
  simp only [readLineagePrefix, h.walkHead_eq, bind_eq_ok, wrapStoreError_eq_ok, expect_eq_ok,
    checkHead, require_eq_ok, pure_eq_ok, exists_const]
  exact ⟨events, h.chain.readAuditEvents h.auditRows, _, hfound, events, rfl, last, h.getLast,
    ⟨.inr rfl, fun hne => absurd rfl hne, fun _ => by simp⟩, rfl⟩

/-- **The engine reads a stored chain back**, when all its events are of one project. -/
theorem trustedAuditLineage_eq (h : StoredChain store events last current)
    (hproject : ∀ e ∈ events, e.projectId = current.projectId)
    (hnodup : (events.map AuditEvent.eventHash).Nodup) :
    trustedAuditLineage store current = .ok events := by
  obtain ⟨start, rest, g, rfl, hg⟩ := h.chain.start h.ne_nil
  have hgeneration : current.walkHead.generation = start.generation.val := by
    rw [h.walkHead_eq, hg.generation]
    rfl
  have hwalk := walkGenerations_creation engineWalkErrors
    (h.readLineagePrefix_eq hproject hnodup) hg hgeneration
  rw [trustedAuditLineage]
  change (walkGenerations engineWalkErrors (readLineagePrefix store current)
    current.walkHead.generation [] current.walkHead >>= _) = _
  rw [hwalk, bind_eq_ok]
  exact ⟨_, rfl, by simp⟩

/-- The state that a stored chain binds is the state its row holds. -/
theorem selectTaskState_eq (h : StoredChain store events last current) :
    store.selectTaskState current.taskId.val = some (.canonical current.toJson) := by
  rw [ControlStore.selectTaskState, h.taskRows]
  rfl

/-- What a pair has to satisfy to be committed after a stored chain. -/
structure Follows (events : List AuditEvent) (last : AuditEvent) (current : WorkflowTaskState)
    (e : AuditEvent) (s : WorkflowTaskState) : Prop where
  pair : CommitPair e s
  taskId : e.taskId = current.taskId
  eventType : e.eventType = .transitionAccepted
  generation : e.generation.val = 1
  sequence : e.sequence.val = events.length + 1
  bounded : e.sequence.val < 2 ^ 63
  previousHash : e.previousEventHash = some last.eventHash
  fromState : e.fromState = some last.stateAfter
  previousState : s.previousState = some last.stateAfter

/-- **A pair that follows a stored chain is committed**, and the chain is one event longer. -/
theorem commit (h : StoredChain store events last current) {e : AuditEvent}
    {s : WorkflowTaskState} (hf : Follows events last current e s) :
    commitRows store e.toJson s.toJson = (.ok true, store.write e s) ∧
      StoredChain (store.write e s) (events ++ [e]) e s := by
  have hid : s.taskId = current.taskId := by rw [← hf.pair.binds.taskId, hf.taskId]
  have hchain := h.chain
  have haudit := h.auditRows
  have hselect := h.selectTaskState_eq
  rw [← hf.taskId] at hchain haudit
  rw [← hid] at hselect
  have hnew : store.selectEvent e.taskId.val e.generation.val e.sequence.val = none := by
    rw [ControlStore.selectEvent, haudit, Option.map_eq_none_iff, List.find?_eq_none]
    intro row hrow
    obtain ⟨e', he', rfl⟩ := List.mem_map.mp hrow
    obtain ⟨i, hi, rfl⟩ := List.mem_iff_getElem.mp he'
    have hsequence := hchain.sequence_getElem hi
    have hnext := hf.sequence
    intro hcoordinates
    have hsame : ((events[i].sequence.val : Nat) : Int) = e.sequence.val :=
      (of_decide_eq_true hcoordinates).2
    omega
  have hpredecessor : validateAuthoritativePredecessor store e s
      (store.selectTaskState s.taskId.val) = .ok () := by
    rw [hselect]
    exact (validateSuccessor_eq_ok hchain h.getLast h.pair haudit).mpr
      ⟨hf.eventType, hf.generation, hf.sequence, hf.previousHash, hf.fromState, hf.previousState⟩
  have hdecide : decideCommit store e s = .ok true := by
    refine decideCommit_eq_true.mpr ⟨?_, hf.bounded, hnew, hpredecessor⟩
    rw [hf.generation]
    decide
  have hrow : (store.taskRows e.taskId.val).length ≤ 1 := by
    rw [hf.taskId, h.taskRows]
    simp
  obtain ⟨hrows, hstate⟩ := store.write_self hf.pair hrow
  refine ⟨?_, ?_, by simp, hf.pair, ?_, ?_⟩
  · rw [commitRows, prepareCommit_eq_ok.mpr ⟨rfl, rfl, hf.pair⟩]
    simp only [commitTransaction, hdecide]
  · rw [← hf.pair.binds.taskId]
    refine hchain.concat ⟨hf.pair.event, hf.pair.eventFits, rfl, hf.generation, hf.sequence,
      hf.bounded, by simpa [h.ne_nil] using hf.eventType, ?_, ?_⟩
    · simpa [headHash, h.getLast] using hf.previousHash
    · simpa [headHash, h.getLast] using hf.fromState
  · rw [← hf.pair.binds.taskId, hrows, haudit, List.map_append]
    rfl
  · rw [← hf.pair.binds.taskId, hstate]

/-- The chain of a task that was created in the empty store. -/
theorem creation {e : AuditEvent} {s : WorkflowTaskState} (hpair : CommitPair e s)
    (htype : e.eventType = .taskCreated) :
    StoredChain (ControlStore.empty.write e s) [e] e s := by
  have hbody := hpair.event.body
  simp only [AuditEvent.Body, htype] at hbody
  obtain ⟨g, hg⟩ := hbody
  have hnew : validateNewTask .empty e = .ok () :=
    require_of ⟨rfl, htype, hg.generation, hg.sequence⟩
  obtain ⟨haudit, htask⟩ := ControlStore.empty.write_self hpair (Nat.zero_le 1)
  rw [hpair.binds.taskId] at haudit htask
  have hextends := (extends_of_validateNewTask hpair hnew).2
  rw [hpair.binds.taskId] at hextends
  exact ⟨(TaskChain.nil _).concat hextends, rfl, hpair, haudit, htask⟩

end StoredChain

/-! ## Section 5: Tamper evidence -/

omit [Digest] in
/-- A creation trusts no earlier event. -/
theorem AuditEvent.IsCreation.trustedHash {e : AuditEvent} {g : AuditGeneration}
    (h : e.IsCreation g) : e.trustedHash = none := by
  have hnone : e.details.get "previous_trusted_prefix" = .null := by
    rw [h.details]
    rfl
  rw [AuditEvent.trustedHash, hnone]
  rfl

omit [Digest] in
/-- A recovery trusts the event that its prefix names. -/
theorem AuditEvent.IsRecovery.trustedHash {e : AuditEvent} {r : RecoveryDetails}
    (h : e.IsRecovery r) : e.trustedHash = some r.previousTrustedPrefix.eventHash := by
  have htrusted : e.details.get "previous_trusted_prefix" = r.previousTrustedPrefix.toJson := by
    rw [h.details]
    rfl
  rw [AuditEvent.trustedHash, htrusted, TrustedPrefix.toJson, Json.field_toJson,
    Json.asTested_eq_some]
  rfl

/-- The events of a generation are linked to what its first event trusts. -/
theorem Segment.linked {taskId projectId : String} {generation : Int} {start : AuditEvent}
    {rest : List AuditEvent} (h : Segment taskId projectId generation (start :: rest)) :
    LinkedFrom AuditEvent.eventHash AuditEvent.predecessorHash start.trustedHash
      (start :: rest) := by
  have hlinked := h.hashLinked
  refine ⟨?_, linkedFrom_of_extends _ _ (fun e named hnamed => ?_) hlinked.2⟩
  · simp [AuditEvent.predecessorHash, hlinked.1]
  · simp [AuditEvent.predecessorHash, hnamed]

/-- **Across its hops too a trusted history is one hash chain.** -/
theorem TrustedLineage.linked {taskId projectId : String} {generation : Int}
    {events : List AuditEvent} (h : TrustedLineage taskId projectId generation events) :
    LinkedFrom AuditEvent.eventHash AuditEvent.predecessorHash none events := by
  induction h with
  | @first start rest hsegment htype =>
      have hbody := (hsegment.valid start (by simp)).body
      simp only [AuditEvent.Body, htype] at hbody
      obtain ⟨g, hg⟩ := hbody
      rw [← hg.trustedHash]
      exact hsegment.linked
  | @hop older rest anchor start r generation _ hanchor hnames _ hrecovery hsegment ih =>
      rw [linkedFrom_append]
      refine ⟨ih, ?_⟩
      have hhead : headHash AuditEvent.eventHash none older = start.trustedHash := by
        rw [headHash, hanchor, hrecovery.trustedHash, hnames.eventHash]
      rw [hhead]
      exact hsegment.linked

theorem TrustedLineage.valid {taskId projectId : String} {generation : Int}
    {events : List AuditEvent} (h : TrustedLineage taskId projectId generation events) :
    ∀ e ∈ events, e.Valid := by
  induction h with
  | first hsegment _ => exact hsegment.valid
  | hop _ _ _ _ _ hsegment ih =>
      intro e he
      rcases List.mem_append.mp he with he | he
      · exact ih e he
      · exact hsegment.valid e he

/-- The loop goes on from one head to another. -/
def WalkContinues (store : ControlStore) (current : WorkflowTaskState)
    (next head : WalkHead) : Prop :=
  1 ≤ head.generation ∧ ∃ events hop, readLineagePrefix store current head = .ok events ∧
    nextHead engineWalkErrors head.generation events = .ok (some hop) ∧ hop.next = next

/-- The loop goes on to a smaller generation, so it ends on every input. -/
theorem walkContinues_wellFounded (store : ControlStore) (current : WorkflowTaskState) :
    WellFounded (WalkContinues store current) := by
  refine Subrelation.wf (fun {next head} h => ?_)
    (measure (fun head : WalkHead => head.generation.toNat)).wf
  obtain ⟨hpos, _, hop, _, _, rfl⟩ := h
  have := hop.lt
  change hop.next.generation.toNat < head.generation.toNat
  omega

/-- **A walk of the engine that succeeds returns a trusted history of its head.** -/
theorem trustedAuditLineage_sound {store : ControlStore} {current : WorkflowTaskState}
    {lineage : List AuditEvent} (h : trustedAuditLineage store current = .ok lineage) :
    TrustedLineage current.taskId.val current.projectId.val current.auditGeneration.val lineage ∧
      ∃ last, lineage.getLast? = some last ∧ last.eventId = current.auditHeadEventId ∧
        last.eventHash = current.auditHeadHash := by
  simp only [trustedAuditLineage, bind_eq_ok, pure_eq_ok] at h
  obtain ⟨generations, hwalk, rfl⟩ := h
  obtain ⟨hlineage, last, hlast, hmatches⟩ := walk_sound hwalk
  exact ⟨hlineage, last, hlast, Subtype.ext (Json.str.inj hmatches.eventId),
    Subtype.ext (Json.str.inj hmatches.hash)⟩

/-- **The head hash determines the history**, whatever store it is read from. -/
theorem trustedAuditLineage_unique (hinj : Function.Injective canonicalSha)
    {store store' : ControlStore} {current current' : WorkflowTaskState}
    {lineage lineage' : List AuditEvent} (hhash : current.auditHeadHash = current'.auditHeadHash)
    (h : trustedAuditLineage store current = .ok lineage)
    (h' : trustedAuditLineage store' current' = .ok lineage') : lineage = lineage' := by
  obtain ⟨hlineage, last, hlast, -, hlasthash⟩ := trustedAuditLineage_sound h
  obtain ⟨hlineage', last', hlast', -, hlasthash'⟩ := trustedAuditLineage_sound h'
  refine linked_unique hlineage.linked hlineage'.linked (fun a ha b hb heq => ?_) ?_
  · exact AuditEvent.eq_of_hash_eq hinj (hlineage.valid a ha) (hlineage'.valid b hb) heq
  · simp only [headHash, hlast, hlast', hlasthash, hlasthash', hhash]

/-- **The trusted lineage is tamper evident.** On any two stores, two states that bind the same head
hash (whatever else they say) read the same history; a history that is read leads from the creation
of the task to the head over hops to smaller generations, each at the event that the recovery
trusts; and the loop ends on every input. -/
theorem trusted_lineage_is_tamper_evident (hinj : Function.Injective canonicalSha)
    (store store' : ControlStore) (current current' : WorkflowTaskState)
    (hhash : current.auditHeadHash = current'.auditHeadHash) :
    (∀ lineage lineage', trustedAuditLineage store current = .ok lineage →
      trustedAuditLineage store' current' = .ok lineage' → lineage = lineage') ∧
    (∀ lineage, trustedAuditLineage store current = .ok lineage →
      TrustedLineage current.taskId.val current.projectId.val current.auditGeneration.val lineage ∧
      ∃ last, lineage.getLast? = some last ∧ last.eventId = current.auditHeadEventId ∧
        last.eventHash = current.auditHeadHash) ∧
    WellFounded (WalkContinues store current) := by
  refine ⟨fun lineage lineage' h h' => ?_, fun lineage h => ?_,
    walkContinues_wellFounded store current⟩
  · exact trustedAuditLineage_unique hinj hhash h h'
  · exact trustedAuditLineage_sound h

omit [Digest] in
theorem trusted_lineage_is_tamper_evident_creation :
    letI := firstDigest
    trustedAuditLineage (ControlStore.empty.write firstCreation (stateOfCreation firstCreation))
        (stateOfCreation firstCreation) = .ok [firstCreation] ∧
      ∀ store lineage,
        trustedAuditLineage store (stateOfCreation firstCreation) = .ok lineage →
        [firstCreation] = lineage := by
  let _ := firstDigest
  have hstored := StoredChain.creation commitPair_firstCreation rfl
  have hread := hstored.trustedAuditLineage_eq (by simp [stateOfCreation]) (by simp)
  refine ⟨hread, fun store lineage h => ?_⟩
  exact (trusted_lineage_is_tamper_evident (tableSha_injective _) _ store _ _ rfl).1 _ _ hread h

end Acgps
