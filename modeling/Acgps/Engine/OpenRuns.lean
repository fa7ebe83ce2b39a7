import Acgps.Engine.Prepared

/-!
# Open runs

Runs in which the other processes may do to the files, to the decision queue and to the proofs
whatever they like, between any two steps of a call. Only the tables are written by the calls of
engines alone.

## Main Definitions

* `ControlStore.EveryCommit` - a property of every transition of every log
* `CheckedCommit` - a pair of records that a transition has made, behind the log of its task
* `World.OpenReachable` - the worlds that an open run can reach

## Key Theorems

* `ControlStore.EveryCommit.write` - one commit adds one transition to one log
* `World.OpenReachable.induct` - **an induction over open runs**
* `World.OpenReachable.commits` - **every transition of every log was checked against it**
-/

namespace Acgps

open Checked HashChain History Interleaving

variable [Platform]

/-! ## Section 1: The transitions of the logs -/

section EveryCommit

variable {Q : String → List AuditEvent → AuditEvent → Prop} {store : ControlStore}

/-- A property of every event of every log but the first, with the log in front of it. -/
def ControlStore.EveryCommit (Q : String → List AuditEvent → AuditEvent → Prop)
    (store : ControlStore) : Prop :=
  ∀ taskId before e after, store.Logs taskId (before ++ e :: after) → before ≠ [] →
    Q taskId before e

theorem ControlStore.everyCommit_empty : ControlStore.empty.EveryCommit Q := by
  intro taskId before e after hlogs
  have hnil := hlogs.unique ⟨TaskChain.nil taskId, rfl⟩
  simp at hnil

/-- **One commit** adds one transition to one log. -/
theorem ControlStore.EveryCommit.write {before : List AuditEvent} {e : AuditEvent}
    {s : WorkflowTaskState} (h : store.EveryCommit Q) (hlogs : store.Logs e.taskId.val before)
    (hnew : (store.write e s).Logs e.taskId.val (before ++ [e]))
    (hQ : before ≠ [] → Q e.taskId.val before e) : (store.write e s).EveryCommit Q := by
  intro taskId front x after hlogs' hne
  by_cases htask : e.taskId.val = taskId
  · subst htask
    have hsplit := hlogs'.unique hnew
    rcases List.eq_nil_or_concat after with rfl | ⟨rest, y, rfl⟩
    · obtain ⟨rfl, hx⟩ := List.append_inj' hsplit rfl
      obtain rfl : x = e := by simpa using hx
      exact hQ hne
    · -- the older transitions of the log stay where they are
      rw [List.concat_eq_append, ← List.cons_append, ← List.append_assoc] at hsplit
      obtain ⟨rfl, -⟩ := List.append_inj' hsplit rfl
      exact h _ _ _ _ hlogs hne
  · exact h _ _ _ _ (hlogs'.of_write_ne htask) hne

theorem ControlStore.EveryCommit.mono {R : String → List AuditEvent → AuditEvent → Prop}
    (h : store.EveryCommit Q) (hR : ∀ taskId before e, Q taskId before e → R taskId before e) :
    store.EveryCommit R :=
  fun taskId before e after hlogs hne => hR _ _ _ (h taskId before e after hlogs hne)

end EveryCommit

/-! ## Section 2: Commits -/

/-- What a commit makes of the tables, with the state that it writes. -/
theorem commitWrite_pairs {event state : Mapping} {w : World}
    (hbound : ∀ taskId, TaskBound w.store taskId) :
    (commitWrite event state w).store = w.store ∨
      ∃ before e s, event.toJson = e.toJson ∧ state.toJson = s.toJson ∧ CommitPair e s ∧
        w.store.Logs e.taskId.val before ∧ TaskChain.Extends e.taskId.val before e ∧
        (commitWrite event state w).store = w.store.write e s := by
  have hstore : (commitWrite event state w).store
      = (commitRows w.store event.toJson state.toJson).2 :=
    CommitCall.run_store ⟨event.toJson, state.toJson, w.exportFault⟩ w.store
  rw [hstore]
  rcases commitRows_cases w.store event.toJson state.toJson with
    ⟨_, hrun⟩ | ⟨e, s, hevent, hstate, hpair, ⟨-, hrun⟩ | ⟨hdecide, hrun⟩⟩
  · exact .inl (by rw [hrun])
  · exact .inl (by rw [hrun])
  · obtain ⟨before, hchain, hrows, hextends⟩ :=
      (hbound e.taskId.val).extends_of_decideCommit hpair hdecide
    exact .inr ⟨before, e, s, hevent, hstate, hpair, ⟨hchain, hrows⟩, hextends, by rw [hrun]⟩

/-- A pair of records that a transition has made, behind the log of its task. -/
structure CheckedCommit (S : World → Prop) (engine : Engine) (before : List AuditEvent)
    (e : AuditEvent) (s : WorkflowTaskState) (args : TransitionArgs) (p : PreparedTransition)
    (decision : Option Mapping) : Prop where
  checks : TransitionChecks S engine args p decision
  event : EventOf args p decision e
  state : (transitionState args p decision).toJson = s.toJson
  previous : some p.current.auditHeadHash = headHash AuditEvent.eventHash none before

/-- The event of an intake creates its task, so there is no log in front of it. -/
theorem before_eq_nil_of_creation {record : Mapping} {actor eventId : String}
    {before : List AuditEvent} {e : AuditEvent}
    (hevent : (creationEventRecord record actor eventId).toJson = e.toJson)
    (hextends : TaskChain.Extends e.taskId.val before e) : before = [] := by
  by_contra hne
  have htype := hextends.eventType
  rw [if_neg hne] at htype
  have hentries := congrArg Mapping.entries (Mapping.toJson_injective hevent)
  simp only [creationEventRecord, creationEventWithHash, AuditEvent.toMapping,
    AuditEvent.withHash, List.cons.injEq, Prod.mk.injEq, true_and, htype] at hentries
  simp [EventType.toJson, EventType.name] at hentries

/-! ## Section 3: Open runs -/

/-- The worlds that any run of calls of admitted engines can reach while everything but the tables
changes at will. -/
def World.OpenReachable (P : Engine → Prop) (w : World) : Prop :=
  ∃ running, Reaches (fun c : { c : Call // P c.engine } => c.val.program)
    (fun w w' => w'.store = w.store) (fun _ _ _ => True) World.empty ⟨w, running⟩

/-- Every task of a world is bound, and the world has a property. -/
structure World.BoundWith (Inv : World → Prop) (w : World) : Prop where
  bound : ∀ taskId, TaskBound w.store taskId
  inv : Inv w

/-- **An induction over open runs.** A property of the tables holds in every world that an open run
reaches, if it holds at first and every commit keeps it; the call that commits has read worlds that
had the property. -/
theorem World.OpenReachable.induct {P : Engine → Prop} {Inv : World → Prop}
    (hinit : Inv World.empty) (henv : ∀ w w' : World, Inv w → w'.store = w.store → Inv w')
    (hwrite : ∀ (w w' : World) (before : List AuditEvent) (e : AuditEvent)
      (s : WorkflowTaskState), w.BoundWith Inv → CommitPair e s →
      w.store.Logs e.taskId.val before → w'.store = w.store.write e s →
      w'.store.Logs e.taskId.val (before ++ [e]) →
      (before ≠ [] → ∃ engine, P engine ∧ ∃ args p decision,
        CheckedCommit (World.BoundWith Inv) engine before e s args p decision) → Inv w')
    {w : World} (h : w.OpenReachable P) : w.BoundWith Inv := by
  obtain ⟨running, hreach⟩ := h
  refine (@Reaches.sound _ _ _ _ _ _ _ (World.BoundWith Inv) (fun _ _ => True)
    (fun _ => trivial) (fun _ _ _ _ _ => trivial) ?_ ?_ _ ⟨taskBound_empty, hinit⟩ _ hreach).1
  · intro w w' hw hstore
    exact ⟨⟨by rw [hstore]; exact hw.bound, henv w w' hw.inv hstore⟩, trivial⟩
  · intro c w x hw hx _
    refine ⟨?_, trivial⟩
    have hsame : (x w).store = w.store → (x w).BoundWith Inv :=
      fun hstore => ⟨by rw [hstore]; exact hw.bound, henv w _ hw.inv hstore⟩
    have hcommitted : ∀ event state, x = commitWrite event state →
        (∀ taskId, TaskBound (x w).store taskId) := by
      rintro event state rfl taskId
      have hstore : (commitWrite event state w).store
          = (commitRows w.store event.toJson state.toJson).2 :=
        CommitCall.run_store ⟨event.toJson, state.toJson, w.exportFault⟩ w.store
      rw [hstore]
      exact commitRows_taskBound hw.bound _ _ taskId
    have hlater : ∀ {e : AuditEvent} {s : WorkflowTaskState} {before : List AuditEvent},
        w.store.Logs e.taskId.val before → TaskChain.Extends e.taskId.val before e →
        (x w).store = w.store.write e s → (x w).store.Logs e.taskId.val (before ++ [e]) := by
      intro e s before hlogs hextends hstore
      rw [hstore]
      exact hlogs.write hextends
    rcases Call.writes_cases hx with h | ⟨record, actor, rfl⟩ | ⟨args, p, decision, hchecks, rfl⟩
    · exact hsame (h w).1
    · rcases commitWrite_pairs hw.bound with
        hstore | ⟨before, e, s, hevent, -, hpair, hlogs, hextends, hstore⟩
      · exact hsame hstore
      · obtain rfl := before_eq_nil_of_creation hevent hextends
        exact ⟨hcommitted _ _ rfl, hwrite w _ [] e s hw hpair hlogs hstore
          (hlater hlogs hextends hstore) (fun hne => absurd rfl hne)⟩
    · rcases commitWrite_pairs hw.bound with
        hstore | ⟨before, e, s, hevent, hstate, hpair, hlogs, hextends, hstore⟩
      · exact hsame hstore
      · refine ⟨hcommitted _ _ rfl, hwrite w _ before e s hw hpair hlogs hstore
          (hlater hlogs hextends hstore) (fun _ => ⟨_, c.property, args, p, decision,
            hchecks.mono (fun v hv => hv.1), eventOf hevent, hstate, ?_⟩)⟩
        rw [← (eventOf hevent).previousEventHash, hextends.previousHash]

/-! ## Section 4: What an open run has checked -/

/-- The state that a checked commit has read is that of the log that it extends. -/
theorem CheckedCommit.read (hinj : Function.Injective canonicalSha) {Inv : World → Prop}
    {engine : Engine} {before : List AuditEvent} {e : AuditEvent} {s : WorkflowTaskState}
    {args : TransitionArgs} {p : PreparedTransition} {decision : Option Mapping}
    (h : CheckedCommit (World.BoundWith Inv) engine before e s args p decision)
    (hchain : TaskChain e.taskId.val before) :
    ∃ v events last, World.BoundWith Inv v ∧
      readTaskState v.store e.taskId.val = .ok p.current ∧
      v.store.Logs e.taskId.val events ∧ events.getLast? = some last ∧
      before.getLast? = some last ∧ CommitPair last p.current := by
  obtain ⟨v, hv, hread⟩ := (prepareTransitionValidation_may.mp h.checks.prepared).status
  rw [← h.event.taskId] at hread
  obtain ⟨hid, events, head, hstored⟩ :=
    (hv.bound e.taskId.val).storedChain_of_readTaskState hread
  refine ⟨v, events, head, hv, hread, ?_, hstored.getLast, ?_, hstored.pair⟩
  · rw [← hid]
    exact hstored.logs
  · have hprevious := h.previous
    cases hlast : before.getLast? with
    | none => simp [headHash, hlast] at hprevious
    | some last =>
        -- the event that the state binds is the one that the new event is linked to
        have hhash : head.eventHash = last.eventHash := by
          rw [← hstored.pair.binds.headHash]
          simpa [headHash, hlast] using hprevious
        rw [AuditEvent.eq_of_hash_eq hinj hstored.pair.event
          (hchain.valid last (List.mem_of_getLast? hlast)) hhash]

/-- A transition of a call of an engine that a run admits, checked in whatever worlds there were. -/
def OpenCommit (P : Engine → Prop) (before : List AuditEvent) (e : AuditEvent) : Prop :=
  ∃ engine, P engine ∧ ∃ args p decision,
    TransitionCommit (fun _ => True) engine args p decision before e

/-- Every log is of one project, and every transition in it was checked against the log. -/
structure World.OpenSound (P : Engine → Prop) (w : World) : Prop where
  project : w.store.EveryCommit (fun _ before e => ∀ a ∈ before, a.projectId = e.projectId)
  commits : w.store.EveryCommit (fun _ => OpenCommit P)

/-- The state of the log of a sound world has this log for its lineage. -/
theorem World.OpenSound.trustedAuditLineage_eq (hinj : Function.Injective canonicalSha)
    {P : Engine → Prop} {w : World} (h : w.OpenSound P) {events : List AuditEvent}
    {last : AuditEvent} {current : WorkflowTaskState}
    (hstored : StoredChain w.store events last current) :
    trustedAuditLineage w.store current = .ok events := by
  refine hstored.trustedAuditLineage_eq (fun e he => ?_) (hstored.chain.hashes_nodup hinj)
  obtain ⟨front, rfl⟩ : ∃ front, events = front ++ [last] := by
    obtain ⟨front, hfront⟩ := List.getLast?_eq_some_iff.mp hstored.getLast
    exact ⟨front, hfront⟩
  rw [← hstored.pair.binds.projectId]
  rcases List.mem_append.mp he with hmem | hmem
  · exact h.project _ _ _ _ hstored.logs (List.ne_nil_of_mem hmem) e hmem
  · rw [List.mem_singleton.mp hmem]

/-- One commit of an open run is checked against the log that it extends. -/
theorem CheckedCommit.transitionCommit (hinj : Function.Injective canonicalSha)
    {P : Engine → Prop} {w : World} (hw : w.BoundWith (World.OpenSound P)) {engine : Engine}
    {before : List AuditEvent} {e : AuditEvent} {s : WorkflowTaskState} {args : TransitionArgs}
    {p : PreparedTransition} {decision : Option Mapping}
    (h : CheckedCommit (World.BoundWith (World.OpenSound P)) engine before e s args p decision)
    (hlogs : w.store.Logs e.taskId.val before) :
    TransitionCommit (fun _ => True) engine args p decision before e := by
  obtain ⟨v, events, last, hv, hread, hevents, hhead, hlast, hpair⟩ := h.read hinj hlogs.chain
  refine ⟨h.checks.mono (fun _ _ => trivial), h.event, fun {store lineage} hlineage => ?_, last,
    hlast, hpair⟩
  have hne : before ≠ [] := by
    rintro rfl
    cases hlast
  obtain ⟨last', stored, hstored, -⟩ := (hw.bound e.taskId.val).storedChain_of_logs hlogs hne
  obtain rfl : last' = last := Option.some.inj (hstored.getLast.symm.trans hlast)
  refine trustedAuditLineage_unique hinj ?_ hlineage (hw.inv.trustedAuditLineage_eq hinj hstored)
  rw [hpair.binds.headHash, hstored.pair.binds.headHash]

/-- **Every transition of every log was checked against it**, in every open run. -/
theorem World.OpenReachable.sound (hinj : Function.Injective canonicalSha) {P : Engine → Prop}
    {w : World} (h : w.OpenReachable P) : w.BoundWith (World.OpenSound P) := by
  refine World.OpenReachable.induct ⟨ControlStore.everyCommit_empty, ControlStore.everyCommit_empty⟩
    ?_ ?_ h
  · intro w w' hw hstore
    exact ⟨by rw [hstore]; exact hw.project, by rw [hstore]; exact hw.commits⟩
  · intro w w' before e s hw hpair hlogs hstore hnew hcommit
    rw [hstore] at hnew
    refine ⟨?_, ?_⟩
    · rw [hstore]
      refine hw.inv.project.write hlogs hnew (fun hne a ha => ?_)
      -- the new event is of the project of the state that its call has read
      obtain ⟨engine, -, args, p, decision, hchecked⟩ := hcommit hne
      obtain ⟨_, _, last, -, -, -, -, hlast, hlastPair⟩ := hchecked.read hinj hlogs.chain
      obtain ⟨front, rfl⟩ := List.getLast?_eq_some_iff.mp hlast
      have hproject : e.projectId = last.projectId := by
        rw [hchecked.event.projectId, hlastPair.binds.projectId]
      rw [hproject]
      rcases List.mem_append.mp ha with hmem | hmem
      · exact hw.inv.project _ _ _ _ hlogs (List.ne_nil_of_mem hmem) a hmem
      · rw [List.mem_singleton.mp hmem]
    · rw [hstore]
      refine hw.inv.commits.write hlogs hnew (fun hne => ?_)
      obtain ⟨engine, hP, args, p, decision, hchecked⟩ := hcommit hne
      exact ⟨engine, hP, args, p, decision, hchecked.transitionCommit hinj hw hlogs⟩

theorem World.OpenReachable.commits (hinj : Function.Injective canonicalSha) {P : Engine → Prop}
    {w : World} (h : w.OpenReachable P) : w.store.EveryCommit (fun _ => OpenCommit P) :=
  (h.sound hinj).inv.commits

end Acgps
