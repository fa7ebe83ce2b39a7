import Acgps.Engine.Walkers
import Acgps.Store.RecoveryIdempotency

/-!
# Recoveries

An accepted recovery starts a generation on an event of the trusted lineage of its task. Once its
event and its state are stored, the engine reads the lineage up to that event, and the recovery
behind it. Nothing behind the trusted event is read again.

## Main Definitions

* `KeepsOlder` - a store and a state under which the older generations are the same

## Key Theorems

* `StoredPrefix.keeps` - a part of a generation that another head trusts
* `StoredLineage.upTo` - **a stored lineage can be cut behind each of its events**
* `recovery_extends_lineage` - what the engine reads after a recovery
-/

namespace Acgps

open Checked HashChain

section Generations

variable [Digest]

/-! ## Section 1: Older generations -/

/-- Another store holds the same rows of a task up to a generation, which lies behind the state
there. -/
structure KeepsOlder (store store' : ControlStore) (state state' : WorkflowTaskState)
    (bound : Int) : Prop where
  taskId : state'.taskId = state.taskId
  projectId : state'.projectId = state.projectId
  rows : ∀ generation ≤ bound, store'.selectGeneration state.taskId.val generation
    = store.selectGeneration state.taskId.val generation
  behind : bound < state'.auditGeneration.val

section

variable {store store' : ControlStore} {state state' : WorkflowTaskState}

omit [Digest] in
theorem KeepsOlder.mono {bound bound' : Int} (h : KeepsOlder store store' state state' bound)
    (hle : bound' ≤ bound) : KeepsOlder store store' state state' bound' where
  taskId := h.taskId
  projectId := h.projectId
  rows := fun generation hgeneration => h.rows generation (hgeneration.trans hle)
  behind := lt_of_le_of_lt hle h.behind

/-- The first events of a segment are a segment. -/
theorem Segment.of_append {taskId projectId : String} {generation : Int}
    {events after : List AuditEvent} (h : Segment taskId projectId generation (events ++ after))
    (hne : events ≠ []) : Segment taskId projectId generation events where
  nonempty := hne
  valid := fun e he => h.valid e (List.mem_append_left _ he)
  task := fun e he => h.task e (List.mem_append_left _ he)
  project := fun e he => h.project e (List.mem_append_left _ he)
  generation := fun e he => h.generation e (List.mem_append_left _ he)
  contiguous := by
    have hcontiguous := congrArg (List.take events.length) h.contiguous
    rw [List.map_append, List.length_append, List.take_left' (by simp),
      ← List.range'_append_1, List.take_left' (by simp)] at hcontiguous
    exact hcontiguous
  hashLinked := ((linkedFrom_append ..).mp h.hashLinked).1

/-- **A part of a generation that another head trusts**: the first events of a stored prefix, which
end in that head. -/
theorem StoredPrefix.keeps {head head' : WalkHead} {events after : List AuditEvent}
    {last : AuditEvent} (h : StoredPrefix store state head (events ++ after))
    (hkeeps : KeepsOlder store store' state state' head.generation)
    (hgeneration : head'.generation = head.generation) (hlast : events.getLast? = some last)
    (hmatches : head'.Matches last)
    (hfirst : ∀ e ∈ events.dropLast, .str e.eventHash.val ≠ head'.hash) :
    StoredPrefix store' state' head' events where
  bounded := by
    rw [hgeneration]
    exact h.bounded
  segment := by
    rw [hgeneration, hkeeps.taskId, hkeeps.projectId]
    refine h.segment.of_append ?_
    rintro rfl
    simp at hlast
  rows := by
    rw [hgeneration, hkeeps.taskId, hkeeps.rows _ le_rfl]
    have hrows := List.forall₂_take events.length h.rows
    rwa [List.take_take, List.length_append, Nat.min_eq_left (Nat.le_add_right _ _),
      List.take_left' rfl] at hrows
  last := ⟨last, hlast, hmatches⟩
  firstHead := hfirst
  tail := by
    intro htail
    have hbehind := hkeeps.behind
    omega

/-- The rows behind the first events of a stored prefix are readable, if the rows behind all of them
are. -/
theorem TailReadable.keeps {head : WalkHead} {events after : List AuditEvent}
    (h : TailReadable store state.taskId.val head.generation (events ++ after).length)
    (hstored : StoredPrefix store state head (events ++ after))
    (hkeeps : KeepsOlder store store' state state' head.generation) :
    TailReadable store' state'.taskId.val head.generation events.length := by
  intro entry hentry
  rw [hkeeps.taskId, hkeeps.rows _ le_rfl] at hentry
  rw [hkeeps.taskId]
  have hmem := List.mem_of_mem_drop hentry
  rw [← List.take_append_drop (events ++ after).length (List.zipIdx _ 1)] at hmem
  rcases List.mem_append.mp hmem with htaken | htail
  · -- the row holds one of the events that the older head trusts
    exact readAuditRow_of_holds hstored.rows hstored.segment.contiguous
      (fun e he => ⟨hstored.segment.valid e he, hstored.segment.task e he,
        hstored.segment.generation e he⟩) entry htaken
  · exact h entry htail

/-- A stored lineage of older generations is stored there too. -/
theorem StoredLineage.keeps {head : WalkHead} {lineage : List (WalkHead × List AuditEvent)}
    (h : StoredLineage store state head lineage)
    (hkeeps : KeepsOlder store store' state state' head.generation) :
    StoredLineage store' state' head lineage := by
  have hpart : ∀ {head : WalkHead} {events : List AuditEvent}, StoredPrefix store state head events →
      KeepsOlder store store' state state' head.generation →
      StoredPrefix store' state' head events := by
    intro head events hstored hkeeps
    obtain ⟨last, hlast, hmatches⟩ := hstored.last
    rw [← List.append_nil events] at hstored
    exact hstored.keeps hkeeps rfl hlast hmatches
      (by simpa using hstored.firstHead)
  induction h with
  | first hstored htype => exact .first (hpart hstored hkeeps) htype
  | hop hstored hrecovery hlt _ ih =>
      exact .hop (hpart hstored hkeeps) hrecovery hlt (ih (hkeeps.mono hlt.le))

/-- The rows behind the parts of a stored lineage of older generations are readable there too. -/
theorem StoredLineage.eachPart_keeps {head : WalkHead} {lineage : List (WalkHead × List AuditEvent)}
    (h : StoredLineage store state head lineage)
    (hparts : EachPart (TailReadable store state.taskId.val) lineage)
    (hkeeps : KeepsOlder store store' state state' head.generation) :
    EachPart (TailReadable store' state'.taskId.val) lineage := by
  have hpart : ∀ {head : WalkHead} {events : List AuditEvent}, StoredPrefix store state head events →
      TailReadable store state.taskId.val head.generation events.length →
      KeepsOlder store store' state state' head.generation →
      TailReadable store' state'.taskId.val head.generation events.length := by
    intro head events hstored htail hkeeps
    rw [← List.append_nil events] at hstored htail
    exact htail.keeps hstored hkeeps
  induction h with
  | first hstored htype =>
      rw [eachPart_cons] at hparts ⊢
      exact ⟨hpart hstored hparts.1 hkeeps, by simp [EachPart]⟩
  | hop hstored _ hlt _ ih =>
      rw [eachPart_cons] at hparts ⊢
      exact ⟨hpart hstored hparts.1 hkeeps, ih hparts.2 (hkeeps.mono hlt.le)⟩

/-! ## Section 2: The lineage up to an event -/

/-- The part of a generation up to one of its events. -/
theorem StoredPrefix.upTo {head : WalkHead} {events : List AuditEvent} {t : TrustedPrefix}
    {p : AuditEvent} (h : StoredPrefix store state head events)
    (htail : TailReadable store state.taskId.val head.generation events.length) (hnames : t.Names p)
    (hp : p ∈ events) (hsame : ∀ e ∈ events, e.eventHash = p.eventHash → e = p)
    (hkeeps : KeepsOlder store store' state state' p.generation.val) :
    ∃ before after, events = before ++ p :: after ∧
      StoredPrefix store' state' t.walkHead (before ++ [p]) ∧
      TailReadable store' state'.taskId.val t.walkHead.generation (before ++ [p]).length := by
  have hgeneration : (p.generation.val : Int) = head.generation := h.segment.generation p hp
  have hhead : t.walkHead.generation = head.generation := by
    rw [← hgeneration, ← hnames.generation]
    rfl
  rw [hgeneration] at hkeeps
  have hnodup : events.Nodup := by
    apply List.Nodup.of_map (fun e => e.sequence.val)
    rw [h.segment.contiguous]
    exact List.nodup_range'
  obtain ⟨before, after, rfl⟩ := List.append_of_mem hp
  refine ⟨before, after, rfl, ?_, ?_⟩
  · rw [List.append_cons] at h
    apply h.keeps hkeeps hhead (List.getLast?_concat ..)
    · exact ⟨by rw [← hnames.eventId]; rfl, fun _ => by rw [← hnames.sequence]; rfl,
        by rw [← hnames.eventHash]; rfl⟩
    · -- an event before it with its hash would be the event itself
      intro e he heq
      rw [List.dropLast_concat] at he
      have hhash : e.eventHash = p.eventHash := by
        rw [← hnames.eventHash]
        exact Subtype.ext (Json.str.inj heq)
      have hep := hsame e (List.mem_append_left _ he) hhash
      rw [hep] at he
      exact (List.disjoint_of_nodup_append hnodup) he List.mem_cons_self
  · rw [List.append_cons] at h htail
    rw [hhead]
    exact htail.keeps h hkeeps

/-- **A stored lineage can be cut behind each of its events.** By induction on the lineage: the
event is in its first part, or in the older ones. -/
theorem StoredLineage.upTo {head : WalkHead} {lineage : List (WalkHead × List AuditEvent)}
    {t : TrustedPrefix} {p : AuditEvent} (h : StoredLineage store state head lineage)
    (hparts : EachPart (TailReadable store state.taskId.val) lineage) (hnames : t.Names p)
    (hp : p ∈ (lineage.map Prod.snd).reverse.flatten)
    (hsame : ∀ e ∈ (lineage.map Prod.snd).reverse.flatten, e.eventHash = p.eventHash → e = p)
    (hkeeps : KeepsOlder store store' state state' p.generation.val) :
    ∃ before after lineage', (lineage.map Prod.snd).reverse.flatten = before ++ p :: after ∧
      (lineage'.map Prod.snd).reverse.flatten = before ++ [p] ∧
      StoredLineage store' state' t.walkHead lineage' ∧
      EachPart (TailReadable store' state'.taskId.val) lineage' := by
  have hstart : ∀ {start : AuditEvent} {rest before after : List AuditEvent},
      start :: rest = before ++ p :: after → ∃ rest', before ++ [p] = start :: rest' := by
    intro start rest before after heq
    cases before with
    | nil =>
        obtain ⟨rfl, -⟩ := List.cons.inj heq
        exact ⟨[], rfl⟩
    | cons first later =>
        obtain ⟨rfl, -⟩ := List.cons.inj heq
        exact ⟨later ++ [p], rfl⟩
  induction h with
  | @first head start rest hstored htype =>
      simp only [List.map_cons, List.map_nil, List.reverse_singleton, List.flatten_singleton]
        at hp hsame ⊢
      rw [eachPart_cons] at hparts
      obtain ⟨before, after, hsplit, hcut, htail⟩ :=
        hstored.upTo hparts.1 hnames hp hsame hkeeps
      obtain ⟨rest', hrest⟩ := hstart hsplit
      rw [hrest] at hcut htail
      exact ⟨before, after, [(t.walkHead, start :: rest')], hsplit, by simp [hrest],
        .first hcut htype, by simpa [EachPart] using htail⟩
  | @hop head start rest r older hstored hrecovery hlt holder ih =>
      simp only [List.map_cons, List.reverse_cons, List.flatten_append, List.flatten_singleton]
        at hp hsame ⊢
      rw [eachPart_cons] at hparts
      rcases List.mem_append.mp hp with hp | hp
      · obtain ⟨before, after, lineage', hsplit, hcut, hlineage, hreadable⟩ :=
          ih hparts.2 hp (fun e he => hsame e (List.mem_append_left _ he))
        exact ⟨before, after ++ start :: rest, lineage', by simp [hsplit], hcut, hlineage,
          hreadable⟩
      · obtain ⟨before, after, hsplit, hcut, htail⟩ := hstored.upTo hparts.1 hnames hp
          (fun e he => hsame e (List.mem_append_right _ he)) hkeeps
        obtain ⟨rest', hrest⟩ := hstart hsplit
        rw [hrest] at hcut htail
        have hgeneration := hstored.segment.generation p hp
        have hkeeps' := hkeeps.mono (hlt.le.trans_eq hgeneration.symm)
        have hlt' : (r.previousTrustedPrefix.generation.val : Int) < t.walkHead.generation := by
          rw [TrustedPrefix.walkHead, hnames.generation, hgeneration]
          exact hlt
        refine ⟨(older.map Prod.snd).reverse.flatten ++ before, after,
          (t.walkHead, start :: rest') :: older, by simp [hsplit], by simp [← hrest], ?_, ?_⟩
        · exact .hop hcut hrecovery hlt' (holder.keeps hkeeps')
        · exact eachPart_cons.mpr ⟨htail, holder.eachPart_keeps hparts.2 hkeeps'⟩

end

/-! ## Section 3: After a recovery -/

/-- A write leaves the other generations of its task alone. -/
theorem ControlStore.selectGeneration_write_of_ne (store : ControlStore) (e : AuditEvent)
    (s : WorkflowTaskState) {generation : Int} (hne : (e.generation.val : Int) ≠ generation) :
    (store.write e s).selectGeneration e.taskId.val generation
      = store.selectGeneration e.taskId.val generation := by
  simp [ControlStore.selectGeneration, ControlStore.write, AuditEvent.row, hne]

/-- The first write of a generation is its only row. -/
theorem ControlStore.selectGeneration_write_new {store : ControlStore} {e : AuditEvent}
    (s : WorkflowTaskState)
    (hnew : store.selectGeneration e.taskId.val e.generation.val = []) :
    (store.write e s).selectGeneration e.taskId.val e.generation.val = [e.row] := by
  have hnone : (store.auditRows e.taskId.val).filter
      (fun row => row.generation = (e.generation.val : Int)) = [] := by
    apply List.length_eq_zero_iff.mp
    rw [← List.length_insertionSort (fun a b : AuditEventRow => a.sequence ≤ b.sequence)]
    exact List.length_eq_zero_iff.mpr hnew
  simp [ControlStore.selectGeneration, ControlStore.write, AuditEvent.row, hnone]

/-- The generation that a recovery starts, as the engine reads it. -/
theorem storedPrefix_recovery {store : ControlStore} {e : AuditEvent} {s : WorkflowTaskState}
    {d : RecoveryDetails} (hvalid : e.Valid) (hrecovery : e.IsRecovery d) (hfits : FitsSqlite e.toJson)
    (hbounded : e.generation.val < 2 ^ 63) (htask : s.taskId = e.taskId)
    (hproject : s.projectId = e.projectId) (hid : s.auditHeadEventId = e.eventId)
    (hhash : s.auditHeadHash = e.eventHash) (hgeneration : s.auditGeneration = e.generation)
    (hrows : store.selectGeneration e.taskId.val e.generation.val = [e.row]) :
    StoredPrefix store s s.walkHead [e] := by
  have hhead : s.walkHead
      = ⟨e.generation.val, .str e.eventId.val, .null, .str e.eventHash.val⟩ := by
    rw [WorkflowTaskState.walkHead, hgeneration, hid, hhash]
  rw [← htask] at hrows
  rw [hhead]
  refine ⟨?_, ⟨by simp, ?_, ?_, ?_, ?_, ?_, ?_, trivial⟩, ?_, ⟨e, rfl, rfl, ?_, rfl⟩, by simp, ?_⟩
  · simpa using hbounded
  · simpa using hvalid
  · simp [htask]
  · simp [hproject]
  · simp
  · simp [hrecovery.sequence]
  · exact hvalid.previousHash.mp hrecovery.sequence
  · rw [hrows]
    exact .cons (AuditEvent.row_holds hfits) .nil
  · exact fun hne => absurd rfl hne
  · intro _
    rw [hrows]
    rfl

end Generations

section Commits

variable [Platform]

/-- **The engine reads a generation behind the event that it trusts.** -/
theorem trustedAuditLineage_starts {h : RecoveryHeader} {q : RecoveryRequest} {r : RecoveryResult}
    {d : RecoveryDetails} {e p : AuditEvent} {store : ControlStore}
    {current s : WorkflowTaskState} {lineage : List AuditEvent}
    (hstarts : StartsGeneration h q r e d) (hrecovers : RecoversState h q (some e) s)
    (hlineage : trustedAuditLineage store current = .ok lineage)
    (htask : current.taskId = h.taskId) (hproject : current.projectId = q.projectId)
    (hp : p ∈ lineage) (hnames : d.previousTrustedPrefix.Names p)
    (hgeneration : p.generation.val < e.generation.val)
    (hnew : store.selectGeneration h.taskId.val e.generation.val = [])
    (hfits : FitsSqlite e.toJson) (hbounded : e.generation.val < 2 ^ 63)
    (hsha : ∀ a ∈ lineage, canonicalSha a.preimage = canonicalSha p.preimage →
      a.preimage = p.preimage) :
    ∃ before after, lineage = before ++ p :: after ∧
      trustedAuditLineage (store.write e s) s = .ok (before ++ [p] ++ [e]) := by
  have hheadGeneration := hrecovers.generation e rfl
  -- the rows of the older generations stay, and the new one has one row
  have hkeeps : KeepsOlder store (store.write e s) current s p.generation.val := by
    refine ⟨hrecovers.taskId.trans htask.symm, hrecovers.projectId.trans hproject.symm, ?_, ?_⟩
    · intro generation hle
      rw [htask, ← hstarts.taskId]
      exact store.selectGeneration_write_of_ne e s (by omega)
    · rw [hheadGeneration]
      omega
  rw [← hstarts.taskId] at hnew
  have hpart := storedPrefix_recovery hstarts.valid hstarts.recovery hfits hbounded
    (hrecovers.taskId.trans hstarts.taskId.symm) (hrecovers.projectId.trans hstarts.projectId.symm)
    (hrecovers.headEventId e rfl) (hrecovers.headHash e rfl) hheadGeneration
    (ControlStore.selectGeneration_write_new s hnew)
  have hvalidLineage := (trustedAuditLineage_sound hlineage).1.valid
  obtain ⟨parts, hstored, hreadable, rfl⟩ := trustedAuditLineage_eq_ok_iff.mp hlineage
  have hsame : ∀ a ∈ (parts.map Prod.snd).reverse.flatten, a.eventHash = p.eventHash → a = p := by
    intro a ha hhash
    have ha' := hvalidLineage a ha
    have hp' := hvalidLineage p hp
    exact AuditEvent.eq_of_preimage_eq ha' hp' (hsha a ha (by rw [ha'.hash, hp'.hash, hhash]))
  obtain ⟨before, after, parts', hsplit, hcut, hstored', hreadable'⟩ :=
    hstored.upTo hreadable hnames hp hsame hkeeps
  refine ⟨before, after, hsplit, trustedAuditLineage_eq_ok_iff.mpr
    ⟨(s.walkHead, [e]) :: parts', .hop hpart hstarts.recovery ?_ hstored', ?_, by simp [hcut]⟩⟩
  · rw [WorkflowTaskState.walkHead, hheadGeneration, hnames.generation]
    dsimp only
    omega
  · refine eachPart_cons.mpr ⟨fun entry hentry => ?_, hreadable'⟩
    have hall := hpart.tail (by rw [WorkflowTaskState.walkHead])
    rw [List.drop_eq_nil_of_le (by rw [List.length_zipIdx, ← hall])] at hentry
    cases hentry

/-! ## Section 4: Accepted recoveries -/

/-- What an accepted transaction establishes about the generation that it starts. -/
theorem starts_of_accepted {record : Json} {t : RecoveryTransaction} {e : AuditEvent}
    (haccepted : validateRecoveryTransaction record = .ok t)
    (hevent : t.plannedGenerationEvent = some e) :
    ∃ s d, t.plannedState = some s ∧
      StartsGeneration t.header t.canonicalRecoveryRequest t.canonicalRecoveryResult e d ∧
      RecoversState t.header t.canonicalRecoveryRequest (some e) s ∧
      d.previousTrustedPrefix = t.plannedRecoveryRecord.diagnostic.previousTrustedPrefix ∧
      e.generation.val = d.previousTrustedPrefix.generation.val + 1 := by
  obtain ⟨-, -, -, hvalid⟩ := validateRecoveryTransaction_sound haccepted
  obtain ⟨s, hs⟩ := Option.ne_none_iff_exists'.mp (hvalid.wholeGeneration (by simp [hevent])).2.1
  obtain ⟨d, hstarts, htrusted, hnext⟩ := hvalid.generationEvent e hevent
  have hrecovers := hvalid.state s hs
  rw [hevent] at hrecovers
  exact ⟨s, d, hs, hstarts, hrecovers, htrusted, hnext⟩

/-- **An accepted recovery extends the trusted lineage.** -/
theorem recovery_extends_lineage {record : Json} {t : RecoveryTransaction} {e p : AuditEvent}
    {store : ControlStore} {current : WorkflowTaskState} {lineage : List AuditEvent}
    (haccepted : validateRecoveryTransaction record = .ok t)
    (hevent : t.plannedGenerationEvent = some e)
    (hlineage : trustedAuditLineage store current = .ok lineage)
    (htask : current.taskId = t.header.taskId)
    (hproject : current.projectId = t.canonicalRecoveryRequest.projectId) (hp : p ∈ lineage)
    (hnames : t.plannedRecoveryRecord.diagnostic.previousTrustedPrefix.Names p)
    (hnew : store.selectGeneration t.header.taskId.val e.generation.val = [])
    (hfits : FitsSqlite e.toJson) (hbounded : e.generation.val < 2 ^ 63)
    (hsha : ∀ a ∈ lineage, canonicalSha a.preimage = canonicalSha p.preimage →
      a.preimage = p.preimage) :
    ∃ s before after, t.plannedState = some s ∧ lineage = before ++ p :: after ∧
      trustedAuditLineage (store.write e s) s = .ok (before ++ [p] ++ [e]) := by
  obtain ⟨s, d, hs, hstarts, hrecovers, htrusted, hnext⟩ := starts_of_accepted haccepted hevent
  rw [← htrusted] at hnames
  have hgeneration : p.generation.val < e.generation.val := by
    rw [hnext, hnames.generation]
    exact Nat.lt_succ_self _
  obtain ⟨before, after, hsplit, hread⟩ := trustedAuditLineage_starts hstarts hrecovers hlineage
    htask hproject hp hnames hgeneration hnew hfits hbounded hsha
  exact ⟨s, before, after, hs, hsplit, hread⟩

/-- What an accepted transaction plans is what its record has. -/
theorem plans_of_accepted {data : Mapping} {t : RecoveryTransaction} {event : AuditEvent}
    {taskId : SafeId} {q : RecoveryRequest} {k : RecoveryRecord}
    (haccepted : validateRecoveryTransaction data.toJson = .ok t)
    (hevent : data.get "planned_generation_event" = event.toJson)
    (htask : data.get "task_id" = .str taskId.val)
    (hrequest : data.get "canonical_recovery_request" = q.toJson)
    (hrecord : data.get "planned_recovery_record" = k.toJson) :
    ∃ e, t.plannedGenerationEvent = some e ∧ e.toJson = event.toJson ∧
      t.header.taskId = taskId ∧ t.canonicalRecoveryRequest.projectId = q.projectId ∧
      t.plannedRecoveryRecord.diagnostic.previousTrustedPrefix
        = k.diagnostic.previousTrustedPrefix := by
  obtain ⟨_, hdata, hreads, -⟩ := validateRecoveryTransaction_sound haccepted
  obtain rfl := Mapping.toJson_injective hdata
  obtain ⟨e, he⟩ : ∃ e, t.plannedGenerationEvent = some e := by
    apply Option.ne_none_iff_exists'.mp
    intro hnone
    have hnull := hreads.generationEvent
    rw [hnone, hevent] at hnull
    exact Mapping.toJson_ne_null _ hnull
  refine ⟨e, he, ?_, ?_, ?_, ?_⟩
  · have hread := hreads.generationEvent
    rw [he, hevent] at hread
    exact hread.symm
  · exact Subtype.ext (Json.str.inj (hreads.taskId.symm.trans htask))
  · have hread := congrArg (fun m : Mapping => m.get "project_id")
      (Mapping.toJson_injective (hreads.request.symm.trans hrequest))
    exact Subtype.ext (Json.str.inj hread)
  · have hread := congrArg (fun m : Mapping => m.get "diagnostic")
      (Mapping.toJson_injective (hreads.recoveryRecord.symm.trans hrecord))
    have htrusted := congrArg (fun m : Mapping => m.get "previous_trusted_prefix")
      (Mapping.toJson_injective hread)
    exact TrustedPrefix.toJson_injective htrusted

end Commits

/-- What the validator reads of the sample recovery besides the answer. -/
theorem sampleTransaction_plans (kind : RecoveryOperationKind) :
    letI := smallestInterpreter
    ∃ t e, validateRecoveryTransaction (sampleTransaction kind).toJson = .ok t ∧
      t.plannedGenerationEvent = some e ∧ e.toJson = (sampleRecoveryEvent kind).toJson ∧
      t.header.taskId = firstCreation.taskId ∧
      t.canonicalRecoveryRequest.projectId = firstCreation.projectId ∧
      t.plannedRecoveryRecord.diagnostic.previousTrustedPrefix
        = (sampleRecovery kind).previousTrustedPrefix := by
  let _ := smallestInterpreter
  obtain ⟨t, ht⟩ := sampleTransaction_accepted kind
  have htask : (sampleTransaction kind).get "task_id" = .str firstCreation.taskId.val := rfl
  obtain ⟨e, he, hevent, hread⟩ := plans_of_accepted ht rfl htask
    (q := sampleRecoveryRequest kind) rfl (k := sampleRecoveryRecord kind) rfl
  exact ⟨t, e, ht, he, hevent, hread⟩

theorem fits_sampleRecoveryEvent (kind : RecoveryOperationKind) :
    letI := smallestInterpreter
    FitsSqlite (sampleRecoveryEvent kind).toJson := by
  apply FitsSqlite.of_quickWidth
  · cases kind <;> decide +kernel
  · cases kind <;> decide +kernel

/-- A recovery behind the creation of a task. -/
theorem recovery_extends_lineage_creation :
    letI := smallestInterpreter
    ∃ t e s, validateRecoveryTransaction (sampleTransaction .recovery).toJson = .ok t ∧
      t.plannedGenerationEvent = some e ∧ t.plannedState = some s ∧
      trustedAuditLineage ((ControlStore.empty.write firstCreation
        (stateOfCreation firstCreation)).write e s) s = .ok [firstCreation, e] := by
  let _ := smallestInterpreter
  obtain ⟨t, e, ht, he, hjson, htask, hproject, htrusted⟩ := sampleTransaction_plans .recovery
  have hpair : CommitPair firstCreation (stateOfCreation firstCreation) := commitPair_creation rfl
  have hlineage := (StoredChain.creation hpair rfl).trustedAuditLineage_eq
    (by simp [stateOfCreation]) (by simp)
  have hgeneration : (e.generation.val : Int) = 2 :=
    Json.int.inj (congrArg (fun m : Mapping => m.get "generation") (Mapping.toJson_injective hjson))
  have hnames : t.plannedRecoveryRecord.diagnostic.previousTrustedPrefix.Names firstCreation := by
    rw [htrusted]
    exact ⟨rfl, rfl, rfl, rfl⟩
  obtain ⟨s, before, after, hs, hsplit, hread⟩ := recovery_extends_lineage ht he hlineage
    htask.symm hproject.symm (List.mem_singleton.mpr rfl) hnames (by rw [htask, hgeneration]; rfl)
    (hjson ▸ fits_sampleRecoveryEvent .recovery) (by omega)
    (fun a ha _ => by rw [List.mem_singleton.mp ha])
  obtain ⟨rfl, -⟩ := List.append_eq_singleton_iff.mp hsplit.symm |>.resolve_right (by simp)
  exact ⟨t, e, s, ht, he, hs, hread⟩

end Acgps
