import Acgps.Engine.Commits

/-!
# Runs

Any number of calls run at once over one world; between two steps of a call the others take steps,
and files may appear. Files that exist stay as they are.

## Main Definitions

* `ControlStore.Logs` - the audit log of a task in a store
* `World.Precedes` - a later world still has the files of an earlier one
* `TransitionCommit` - an event of a log, with everything that its call has established
* `World.Sound` - every event of every log was committed like this
* `World.RunsTo` - the worlds that a run can reach

## Key Theorems

* `Call.step` - what one write of a call does to a sound world
* `World.RunsTo.sound` - **every run keeps the world sound**
-/

namespace Acgps

open Checked HashChain Interleaving

/-! ## Section 1: Logs -/

section Logs

variable [Digest]

/-- The audit log of a task: the chain in its rows, empty for a task that was not created. -/
structure ControlStore.Logs (store : ControlStore) (taskId : String) (events : List AuditEvent) :
    Prop where
  chain : TaskChain taskId events
  rows : store.auditRows taskId = events.map AuditEvent.row

namespace ControlStore.Logs

variable {store store' : ControlStore} {taskId : String} {events events' : List AuditEvent}

/-- A task has one log. -/
theorem unique (h : store.Logs taskId events) (h' : store.Logs taskId events') :
    events = events' := by
  have hrows : events.map AuditEvent.row = events'.map AuditEvent.row := by rw [← h.rows, h'.rows]
  have hvalid := h.chain.valid
  have hvalid' := h'.chain.valid
  clear h h'
  induction events generalizing events' with
  | nil => exact (List.map_eq_nil_iff.mp hrows.symm).symm
  | cons e events ih =>
      cases events' with
      | nil => simp at hrows
      | cons e' events' =>
          simp only [List.map_cons, List.cons.injEq] at hrows
          have hhead := AuditEvent.eq_of_row_eq (hvalid e (by simp)) (hvalid' e' (by simp)) hrows.1
          have htail := ih hrows.2 (fun a ha => hvalid a (by simp [ha]))
            (fun a ha => hvalid' a (by simp [ha]))
          rw [hhead, htail]

/-- The rows of a task are all that its log depends on. -/
theorem of_rows_eq (h : store.Logs taskId events)
    (hrows : store'.auditRows taskId = store.auditRows taskId) : store'.Logs taskId events :=
  ⟨h.chain, by rw [hrows, h.rows]⟩

/-- A commit makes the log of its task one event longer. -/
theorem write {e : AuditEvent} {s : WorkflowTaskState} (h : store.Logs e.taskId.val events)
    (hextends : TaskChain.Extends e.taskId.val events e) :
    (store.write e s).Logs e.taskId.val (events ++ [e]) := by
  refine ⟨h.chain.concat hextends, ?_⟩
  rw [List.map_append, ← h.rows]
  simp [ControlStore.write, AuditEvent.row]

/-- A commit leaves the logs of the other tasks alone. -/
theorem of_write_ne {e : AuditEvent} {s : WorkflowTaskState} (hne : e.taskId.val ≠ taskId)
    (h : (store.write e s).Logs taskId events) : store.Logs taskId events := by
  refine h.of_rows_eq ?_
  simp [ControlStore.write, AuditEvent.row, hne]

/-- A log starts with the creation of its task. -/
theorem created {e : AuditEvent} {after : List AuditEvent} (h : store.Logs taskId (e :: after)) :
    e.eventType = .taskCreated ∧ e.stateAfter = .draft := by
  have hsequence := h.chain.sequence_getElem (i := 0) (by simp)
  have htype := h.chain.created e (by simp) (by simpa using hsequence)
  exact ⟨htype, ((h.chain.valid e (by simp)).creation_fields htype).2.2⟩

end ControlStore.Logs

/-- A task whose rows are bound has a log. -/
theorem TaskBound.logs {store : ControlStore} {taskId : String} (h : TaskBound store taskId) :
    ∃ events, store.Logs taskId events := by
  rcases h with ⟨hrows, _⟩ | ⟨events, _, _, hchain, _, _, hrows, _⟩
  · exact ⟨[], TaskChain.nil taskId, hrows⟩
  · exact ⟨events, hchain, hrows⟩

/-- The state of a task that has a log. -/
theorem TaskBound.storedChain_of_logs {store : ControlStore} {taskId : String}
    {events : List AuditEvent} (h : TaskBound store taskId) (hlogs : store.Logs taskId events)
    (hne : events ≠ []) :
    ∃ last current, StoredChain store events last current ∧ current.taskId.val = taskId := by
  have hrows : store.auditRows taskId ≠ [] := by
    rw [hlogs.rows]
    simpa using hne
  obtain ⟨stored, last, current, hstored, rfl⟩ := h.storedChain (.inl hrows)
  obtain rfl := hlogs.unique ⟨hstored.chain, hstored.auditRows⟩
  exact ⟨last, current, hstored, rfl⟩

theorem StoredChain.logs {store : ControlStore} {events : List AuditEvent} {last : AuditEvent}
    {current : WorkflowTaskState} (h : StoredChain store events last current) :
    store.Logs current.taskId.val events := ⟨h.chain, h.auditRows⟩

end Logs

/-! ## Section 2: Files that stay -/

/-- Every file is still there. -/
def Files.Keeps (a b : Files) : Prop :=
  ∀ {path resolved location content}, (a.entry path).target = .file resolved location content →
    b.entry path = a.entry path

/-- A later world still has the files of an earlier one. -/
def World.Precedes (v w : World) : Prop := ∀ root, (v.files root).Keeps (w.files root)

theorem World.Precedes.refl (w : World) : w.Precedes w := fun _ _ _ _ _ _ => rfl

theorem World.Precedes.trans {u v w : World} (huv : u.Precedes v) (hvw : v.Precedes w) :
    u.Precedes w := by
  intro root path resolved location content hfile
  have hsame := huv root hfile
  rw [← hsame]
  exact hvw root (by rw [hsame]; exact hfile)

/-- A file that a path led to is still there. -/
theorem World.Precedes.leads {v w : World} {engine : Engine} {path : EvidencePath}
    {file : EvidenceFile} (h : v.Precedes w) (hleads : v.Leads engine path file) :
    w.Leads engine path file := by
  unfold World.Leads
  rw [h engine.projectRoot hleads.target]
  exact hleads

/-- The environment may add files. -/
structure World.AddsFiles (w w' : World) : Prop where
  store : w'.store = w.store
  decisions : w'.decisions = w.decisions
  initializations : w'.initializations = w.initializations
  precedes : w.Precedes w'

/-! ## Section 3: Sound worlds -/

variable [Platform]

/-- An event behind the log of its task, with everything that its call has established; the lineage
of the state that the call has read is the log. -/
structure TransitionCommit (S : World → Prop) (engine : Engine) (args : TransitionArgs)
    (p : PreparedTransition) (decision : Option Mapping) (before : List AuditEvent)
    (e : AuditEvent) : Prop where
  checks : TransitionChecks S engine args p decision
  event : EventOf args p decision e
  lineage : ∀ {store lineage}, trustedAuditLineage store p.current = .ok lineage →
    lineage = before
  head : ∃ last, before.getLast? = some last ∧ CommitPair last p.current

/-- An event was committed by a call of an engine that the run admits. -/
def CommittedBy (P : Engine → Prop) (w : World) (before : List AuditEvent) (e : AuditEvent) :
    Prop :=
  ∃ engine, P engine ∧ ∃ args p decision,
    TransitionCommit (fun v => v.Precedes w) engine args p decision before e

theorem CommittedBy.later {P : Engine → Prop} {w w' : World} {before : List AuditEvent}
    {e : AuditEvent} (h : CommittedBy P w before e) (hlater : w.Precedes w') :
    CommittedBy P w' before e := by
  obtain ⟨engine, hP, args, p, decision, hcommit⟩ := h
  exact ⟨engine, hP, args, p, decision, hcommit.checks.mono (fun v hv => hv.trans hlater),
    hcommit.event, hcommit.lineage, hcommit.head⟩

/-- Every task is bound and of one project, and every transition in its log was committed by a
call. -/
structure World.Sound (P : Engine → Prop) (w : World) : Prop where
  bound : ∀ taskId, TaskBound w.store taskId
  project : ∀ {taskId events}, w.store.Logs taskId events → ∀ a ∈ events, ∀ b ∈ events,
    a.projectId = b.projectId
  commits : ∀ {taskId before e after}, w.store.Logs taskId (before ++ e :: after) → before ≠ [] →
    CommittedBy P w before e

theorem World.sound_empty (P : Engine → Prop) : World.empty.Sound P where
  bound := taskBound_empty
  project := by
    intro taskId events hlogs a ha
    have hnil : events = [] := hlogs.unique ⟨TaskChain.nil taskId, rfl⟩
    simp [hnil] at ha
  commits := by
    intro taskId before e after hlogs
    have hnil : before ++ e :: after = [] := hlogs.unique ⟨TaskChain.nil taskId, rfl⟩
    simp at hnil

/-- What a world with the same tables and at least the same files inherits. -/
theorem World.Sound.of_store_eq {P : Engine → Prop} {w w' : World} (h : w.Sound P)
    (hstore : w'.store = w.store) (hlater : w.Precedes w') : w'.Sound P where
  bound := by
    rw [hstore]
    exact h.bound
  project := by
    rw [hstore]
    exact h.project
  commits := by
    intro taskId before e after hlogs hne
    rw [hstore] at hlogs
    exact (h.commits hlogs hne).later hlater

/-- The engine reads the log of a sound world back. -/
theorem World.Sound.trustedAuditLineage_eq (hinj : Function.Injective canonicalSha)
    {P : Engine → Prop} {w : World} (h : w.Sound P) {events : List AuditEvent} {last : AuditEvent}
    {current : WorkflowTaskState} (hstored : StoredChain w.store events last current) :
    trustedAuditLineage w.store current = .ok events := by
  refine hstored.trustedAuditLineage_eq (fun e he => ?_) (hstored.chain.hashes_nodup hinj)
  rw [h.project hstored.logs e he last (List.mem_of_getLast? hstored.getLast),
    hstored.pair.binds.projectId]

/-! ## Section 4: One write -/

/-- What a commit makes of the tables. -/
theorem commitWrite_cases {event state : Mapping} {w : World}
    (hbound : ∀ taskId, TaskBound w.store taskId) :
    (commitWrite event state w).store = w.store ∨
      ∃ before e s, event.toJson = e.toJson ∧ CommitPair e s ∧
        w.store.Logs e.taskId.val before ∧ TaskChain.Extends e.taskId.val before e ∧
        (commitWrite event state w).store = w.store.write e s := by
  have hstore : (commitWrite event state w).store
      = (commitRows w.store event.toJson state.toJson).2 :=
    CommitCall.run_store ⟨event.toJson, state.toJson, w.exportFault⟩ w.store
  rw [hstore]
  rcases commitRows_cases w.store event.toJson state.toJson with
    ⟨_, hrun⟩ | ⟨e, s, hevent, -, hpair, ⟨-, hrun⟩ | ⟨hdecide, hrun⟩⟩
  · exact .inl (by rw [hrun])
  · exact .inl (by rw [hrun])
  · obtain ⟨before, hchain, hrows, hextends⟩ :=
      (hbound e.taskId.val).extends_of_decideCommit hpair hdecide
    exact .inr ⟨before, e, s, hevent, hpair, ⟨hchain, hrows⟩, hextends, by rw [hrun]⟩

/-- The state that a call has read in the past is bound by the last event of the log, if the event
that the call commits is linked to it. -/
theorem head_of_read (hinj : Function.Injective canonicalSha) {P : Engine → Prop} {v : World}
    (hv : v.Sound P) {taskId : String} {current : WorkflowTaskState}
    (hread : readTaskState v.store taskId = .ok current) {before : List AuditEvent}
    (hchain : TaskChain taskId before)
    (hprevious : some current.auditHeadHash = headHash AuditEvent.eventHash none before) :
    ∃ last, before.getLast? = some last ∧ CommitPair last current := by
  obtain ⟨-, events, head, hstored⟩ := (hv.bound taskId).storedChain_of_readTaskState hread
  cases hlast : before.getLast? with
  | none => simp [headHash, hlast] at hprevious
  | some last =>
      have hhash : head.eventHash = last.eventHash := by
        rw [← hstored.pair.binds.headHash]
        simpa [headHash, hlast] using hprevious
      have hsame := AuditEvent.eq_of_hash_eq hinj hstored.pair.event
        (hchain.valid last (List.mem_of_getLast? hlast)) hhash
      exact ⟨last, rfl, hsame ▸ hstored.pair⟩

/-- A transition that is committed behind a log has been checked against that log. -/
theorem TransitionChecks.commit (hinj : Function.Injective canonicalSha) {P : Engine → Prop}
    {w : World} (hw : w.Sound P) {engine : Engine} {args : TransitionArgs}
    {p : PreparedTransition} {decision : Option Mapping} {before : List AuditEvent}
    {e : AuditEvent}
    (h : TransitionChecks (Past (World.Sound P) World.Precedes w) engine args p decision)
    (hevent : EventOf args p decision e) (hlogs : w.store.Logs e.taskId.val before)
    (hextends : TaskChain.Extends e.taskId.val before e) :
    TransitionCommit (fun v => v.Precedes w) engine args p decision before e := by
  have hprevious : some p.current.auditHeadHash = headHash AuditEvent.eventHash none before := by
    rw [← hevent.previousEventHash, hextends.previousHash]
  have hstatus : ∃ v, Past (World.Sound P) World.Precedes w v ∧
      readTaskState v.store args.taskId = .ok p.current := by
    have hprepared := h.prepared
    simp only [prepareTransitionValidation, Query.may_bind, may_status, Query.may_pure]
      at hprepared
    obtain ⟨current, hread, _, _, _, _, _, _, _, _, _, _, _, _, _, _, _, _, _, _, rfl⟩ := hprepared
    exact hread
  obtain ⟨v, ⟨hv, -⟩, hread⟩ := hstatus
  rw [← hevent.taskId] at hread
  obtain ⟨last, hlast, hpair⟩ := head_of_read hinj hv hread hlogs.chain hprevious
  refine ⟨h.mono (fun v hv => hv.2), hevent, fun {store lineage} hlineage => ?_, last, hlast, hpair⟩
  have hne : before ≠ [] := by
    rintro rfl
    simp at hlast
  obtain ⟨last', stored, hstored, -⟩ :=
    (hw.bound e.taskId.val).storedChain_of_logs hlogs hne
  obtain rfl : last' = last := Option.some.inj (hstored.getLast.symm.trans hlast)
  refine trustedAuditLineage_unique hinj ?_ hlineage (hw.trustedAuditLineage_eq hinj hstored)
  rw [hpair.binds.headHash, hstored.pair.binds.headHash]

/-- **One write of a call**: the files stay, and the tables stay or the log of one task gets one more
event, which the call has checked against the log. -/
theorem Call.step (hinj : Function.Injective canonicalSha) {P : Engine → Prop} {c : Call}
    {w : World} (hw : w.Sound P) {x : World → World}
    (hx : c.program.Writes (Past (World.Sound P) World.Precedes w) x) :
    (x w).files = w.files ∧ ((x w).store = w.store ∨
      ∃ before e s, CommitPair e s ∧ w.store.Logs e.taskId.val before ∧
        TaskChain.Extends e.taskId.val before e ∧ (x w).store = w.store.write e s ∧
        (before ≠ [] → ∃ args p decision,
          TransitionCommit (fun v => v.Precedes w) c.engine args p decision before e)) := by
  rcases Call.writes_cases hx with h | ⟨record, actor, rfl⟩ | ⟨args, p, decision, hchecks, rfl⟩
  · exact ⟨(h w).2, .inl (h w).1⟩
  · refine ⟨rfl, ?_⟩
    rcases commitWrite_cases hw.bound with h | ⟨before, e, s, hevent, hpair, hlogs, hextends, hstore⟩
    · exact .inl h
    · refine .inr ⟨before, e, s, hpair, hlogs, hextends, hstore, fun hne => ?_⟩
      -- the event of an intake creates the task, so there is no log before it
      have htype := hextends.eventType
      rw [if_neg hne] at htype
      have hentries := congrArg Mapping.entries (Mapping.toJson_injective hevent)
      simp only [creationEventRecord, creationEventWithHash, AuditEvent.toMapping,
        AuditEvent.withHash, List.cons.injEq, Prod.mk.injEq, true_and, htype] at hentries
      simp [EventType.toJson, EventType.name] at hentries
  · refine ⟨rfl, ?_⟩
    rcases commitWrite_cases hw.bound with h | ⟨before, e, s, hevent, hpair, hlogs, hextends, hstore⟩
    · exact .inl h
    · exact .inr ⟨before, e, s, hpair, hlogs, hextends, hstore, fun _ =>
        ⟨args, p, decision, hchecks.commit hinj hw (eventOf hevent) hlogs hextends⟩⟩

/-! ## Section 5: Every run -/

/-- A commit of a call keeps the world sound. -/
theorem World.Sound.write {P : Engine → Prop} {w w' : World} (h : w.Sound P)
    (hfiles : w'.files = w.files) {before : List AuditEvent} {e : AuditEvent}
    {s : WorkflowTaskState} (hpair : CommitPair e s) (hlogs : w.store.Logs e.taskId.val before)
    (hextends : TaskChain.Extends e.taskId.val before e) (hstore : w'.store = w.store.write e s)
    (hcommit : before ≠ [] → CommittedBy P w before e) : w'.Sound P := by
  have hlater : w.Precedes w' := by
    intro root path resolved location content _
    rw [hfiles]
  have hnew : w'.store.Logs e.taskId.val (before ++ [e]) := by
    rw [hstore]
    exact hlogs.write hextends
  have hold : ∀ {taskId events}, e.taskId.val ≠ taskId → w'.store.Logs taskId events →
      w.store.Logs taskId events := by
    intro taskId events hne h
    rw [hstore] at h
    exact h.of_write_ne hne
  refine ⟨fun taskId => ?_, fun {taskId events} hlogs' => ?_, fun {taskId a x b} hlogs' hne => ?_⟩
  · rw [hstore]
    by_cases htask : e.taskId.val = taskId
    · subst htask
      obtain ⟨haudit, htaskRows⟩ := w.store.write_self hpair (h.bound _).taskRows_length
      refine .inr ⟨before ++ [e], e, s, hlogs.chain.concat hextends, by simp, hpair, ?_, htaskRows⟩
      rw [haudit, hlogs.rows]
      simp
    · exact (h.bound taskId).write_ne hpair htask
  · by_cases htask : e.taskId.val = taskId
    · subst htask
      obtain rfl := hlogs'.unique hnew
      -- the new event is of the project of the state that its call has read
      have hsame : ∀ a ∈ before, a.projectId = e.projectId := by
        intro a ha
        obtain ⟨engine, -, args, p, decision, hp⟩ := hcommit (List.ne_nil_of_mem ha)
        obtain ⟨last, hlast, hlastPair⟩ := hp.head
        rw [h.project hlogs a ha last (List.mem_of_getLast? hlast), hlastPair.binds.projectId,
          hp.event.projectId]
      intro a ha b hb
      simp only [List.mem_append, List.mem_singleton] at ha hb
      rcases ha with ha | rfl <;> rcases hb with hb | rfl
      · exact h.project hlogs a ha b hb
      · exact hsame a ha
      · exact (hsame b hb).symm
      · rfl
    · exact h.project (hold htask hlogs')
  · by_cases htask : e.taskId.val = taskId
    · subst htask
      have hsplit := hlogs'.unique hnew
      rcases List.eq_nil_or_concat b with rfl | ⟨rest, y, rfl⟩
      · obtain ⟨rfl, hlast⟩ := List.append_inj' hsplit rfl
        obtain rfl : x = e := by simpa using hlast
        exact (hcommit hne).later hlater
      · rw [List.concat_eq_append, ← List.cons_append, ← List.append_assoc] at hsplit
        obtain ⟨rfl, -⟩ := List.append_inj' hsplit rfl
        exact (h.commits hlogs hne).later hlater
    · exact (h.commits (hold htask hlogs') hne).later hlater

/-- The worlds that a run of calls of admitted engines can reach; every write has to meet a
condition. -/
def World.RunsTo (P : Engine → Prop) (meets : Call → World → World → Prop) (w : World) : Prop :=
  ∃ running, Reaches (fun c : { c : Call // P c.engine } => c.val.program) World.AddsFiles
    (fun c => meets c.val) World.empty ⟨w, running⟩

/-- The worlds that any run of calls of admitted engines can reach. -/
def World.Reachable (P : Engine → Prop) (w : World) : Prop := w.RunsTo P (fun _ _ _ => True)

/-- An invariant that holds in the empty world, and that one step keeps, holds in every world that a
run reaches. -/
theorem World.RunsTo.induct (hinj : Function.Injective canonicalSha) {P : Engine → Prop}
    {meets : Call → World → World → Prop} {Inv : World → Prop} (hinit : Inv World.empty)
    (henv : ∀ w w', w.Sound P → Inv w → w'.store = w.store → w.Precedes w' → Inv w')
    (hwrite : ∀ c w w' before e s, P c.engine → w.Sound P → Inv w → meets c w w' →
      w'.files = w.files → w.store.Logs e.taskId.val before →
      w'.store = w.store.write e s → w'.store.Logs e.taskId.val (before ++ [e]) →
      (before ≠ [] → ∃ args p decision,
        TransitionCommit (fun v => v.Precedes w) c.engine args p decision before e) → Inv w')
    {w : World} (h : w.RunsTo P meets) : w.Sound P ∧ Inv w := by
  obtain ⟨running, hreach⟩ := h
  have hkeeps : ∀ {w w' : World}, w'.files = w.files → w.Precedes w' := by
    intro w w' hfiles root path resolved location content _
    rw [hfiles]
  refine (@Reaches.sound _ _ _ _ _ _ _ (fun w => w.Sound P ∧ Inv w) World.Precedes
    World.Precedes.refl (fun _ _ _ => World.Precedes.trans) ?_ ?_ _
    ⟨World.sound_empty P, hinit⟩ _ hreach).1
  · intro w w' hw henv'
    exact ⟨⟨hw.1.of_store_eq henv'.store henv'.precedes,
      henv w w' hw.1 hw.2 henv'.store henv'.precedes⟩, henv'.precedes⟩
  · intro c w x hw hx hmeets
    have hpast : ∀ v, Past (fun w => w.Sound P ∧ Inv w) World.Precedes w v →
        Past (World.Sound P) World.Precedes w v := fun v hv => ⟨hv.1.1, hv.2⟩
    obtain ⟨hfiles, hstore | ⟨before, e, s, hpair, hlogs, hextends, hstore, hcommit⟩⟩ :=
      Call.step hinj hw.1 (hx.mono hpast)
    · exact ⟨⟨hw.1.of_store_eq hstore (hkeeps hfiles),
        henv w _ hw.1 hw.2 hstore (hkeeps hfiles)⟩, hkeeps hfiles⟩
    · have hsound : (x w).Sound P := hw.1.write hfiles hpair hlogs hextends hstore
        (fun hne => ⟨c.val.engine, c.property, hcommit hne⟩)
      have hnew : (x w).store.Logs e.taskId.val (before ++ [e]) := by
        rw [hstore]
        exact hlogs.write hextends
      exact ⟨⟨hsound, hwrite c.val w (x w) before e s c.property hw.1 hw.2 hmeets hfiles hlogs
        hstore hnew hcommit⟩, hkeeps hfiles⟩

/-- **Every run keeps the world sound.** -/
theorem World.RunsTo.sound (hinj : Function.Injective canonicalSha) {P : Engine → Prop}
    {meets : Call → World → World → Prop} {w : World} (h : w.RunsTo P meets) : w.Sound P :=
  (@World.RunsTo.induct _ hinj _ _ (fun _ => True) trivial (fun _ _ _ _ _ _ => trivial)
    (fun _ _ _ _ _ _ _ _ _ _ _ _ _ _ _ => trivial) _ h).1

/-- **Every run keeps the rows of every task bound**, whatever the digests are. -/
theorem World.RunsTo.taskBound {P : Engine → Prop} {meets : Call → World → World → Prop}
    {w : World} (h : w.RunsTo P meets) (taskId : String) : TaskBound w.store taskId := by
  obtain ⟨running, hreach⟩ := h
  have hkeeps : ∀ {w w' : World}, (∀ taskId, TaskBound w.store taskId) → w'.store = w.store →
      (∀ taskId, TaskBound w'.store taskId) ∧ True := by
    intro w w' hw hstore
    rw [hstore]
    exact ⟨hw, trivial⟩
  refine (@Reaches.sound _ _ _ _ _ _ _ (fun w => ∀ taskId, TaskBound w.store taskId)
    (fun _ _ => True) (fun _ => trivial) (fun _ _ _ _ _ => trivial) ?_ ?_ _ taskBound_empty _
    hreach).1 taskId
  · intro w w' hw henv
    exact hkeeps hw henv.store
  · intro c w x hw hx _
    have hcommit : ∀ event state, (∀ taskId, TaskBound (commitWrite event state w).store taskId) ∧
        True := by
      intro event state
      rcases commitWrite_cases hw with h | ⟨before, e, s, -, hpair, hlogs, hextends, h⟩
      · exact hkeeps hw h
      · refine ⟨fun taskId => ?_, trivial⟩
        have hstore := CommitCall.run_store ⟨event.toJson, state.toJson, w.exportFault⟩ w.store
        show TaskBound (CommitCall.run ⟨event.toJson, state.toJson, w.exportFault⟩ w.store).2 taskId
        rw [hstore]
        exact commitRows_taskBound hw _ _ taskId
    rcases Call.writes_cases hx with h | ⟨record, actor, rfl⟩ | ⟨args, p, decision, -, rfl⟩
    · exact hkeeps hw (h w).1
    · exact hcommit _ _
    · exact hcommit _ _

end Acgps
