import Acgps.Engine.ReadBack

/-!
# The two lineage walkers

The store and the engine each walk back through the generations of an audit log. Both look for the
same thing: in every generation a prefix of the rows that ends in the trusted head, down to the
creation of the task. The walk of the store stops reading a generation at its head. The engine first
reads the whole generation, and a row behind the head that is no event ends its walk.

## Main Definitions

* `StoredPrefix`, `StoredLineage` - what both walks look for in the rows
* `TailReadable` - the rows behind a head are events too
* `WalkersAgree` - both walks give the same answer about every resolution

## Key Theorems

* `walkGenerations_eq_ok_iff` - a walk finds exactly the stored lineages that its reader takes
* `walkers_agree_iff` - **the walks agree iff no stored lineage has an unreadable tail**
-/

namespace Acgps

open Checked HashChain

variable [Digest]

/-! ## Section 1: What the rows hold -/

/-- A row holds an event. -/
structure AuditEventRow.Holds (row : AuditEventRow) (e : AuditEvent) : Prop where
  sequence : row.sequence = e.sequence.val
  record : loadsJsonMapping row.eventJson "WORKFLOW_AUDIT_CORRUPT" "audit_event" = .ok e.toJson

/-- A row that was written for a small event holds it. -/
theorem AuditEvent.row_holds {e : AuditEvent} (hfits : FitsSqlite e.toJson) : e.row.Holds e :=
  ⟨rfl, loadsJsonMapping_of_fits hfits⟩

/-- The first rows of a generation hold events that are linked to each other and end in a head; no
earlier one has its hash. In the current generation they are all rows. -/
structure StoredPrefix (store : ControlStore) (state : WorkflowTaskState) (head : WalkHead)
    (events : List AuditEvent) : Prop where
  bounded : head.generation.toNat < 2 ^ 63
  segment : Segment state.taskId.val state.projectId.val head.generation events
  rows : List.Forall₂ AuditEventRow.Holds
    ((store.selectGeneration state.taskId.val head.generation).take events.length) events
  last : ∃ last, events.getLast? = some last ∧ head.Matches last
  firstHead : ∀ e ∈ events.dropLast, .str e.eventHash.val ≠ head.hash
  tail : head.generation = state.auditGeneration.val →
    events.length = (store.selectGeneration state.taskId.val head.generation).length

/-- The rows hold a lineage of the task that ends in a head: a prefix of its generation from the
creation of the task, or from a recovery on the prefix of an earlier generation. -/
inductive StoredLineage (store : ControlStore) (state : WorkflowTaskState) :
    WalkHead → List (WalkHead × List AuditEvent) → Prop
  | first {head : WalkHead} {start : AuditEvent} {rest : List AuditEvent} :
      StoredPrefix store state head (start :: rest) → start.eventType = .taskCreated →
      StoredLineage store state head [(head, start :: rest)]
  | hop {head : WalkHead} {start : AuditEvent} {rest : List AuditEvent} {r : RecoveryDetails}
      {older : List (WalkHead × List AuditEvent)} :
      StoredPrefix store state head (start :: rest) → start.IsRecovery r →
      (r.previousTrustedPrefix.generation.val : Int) < head.generation →
      StoredLineage store state r.previousTrustedPrefix.walkHead older →
      StoredLineage store state head ((head, start :: rest) :: older)

/-- Every row behind the first ones of a generation is an event of the task in its place. -/
def TailReadable (store : ControlStore) (taskId : String) (generation : Int) (taken : Nat) : Prop :=
  ∀ entry ∈ ((store.selectGeneration taskId generation).zipIdx 1).drop taken,
    ∃ e, readAuditRow taskId generation entry.1 entry.2 = .ok e

/-! ## Section 2: One generation -/

/-- An event that the prefix loop of the store takes from a row. -/
theorem readWalkRow_eq_ok {state : WorkflowTaskState} {generation : Int} {position : Nat}
    {previous : Option Sha256Hex} {row : AuditEventRow} {e : AuditEvent} :
    readWalkRow state generation position previous row = .ok e ↔
      row.Holds e ∧ e.Valid ∧ e.taskId = state.taskId ∧ e.projectId = state.projectId ∧
        (e.generation.val : Int) = generation ∧ e.sequence.val = position ∧
        e.previousEventHash = previous := by
  simp only [readWalkRow, bind_eq_ok, require_eq_ok, raiseOutcome_eq_ok,
    validateAuditEvent_eq_ok_iff, pure_eq_ok, exists_const]
  constructor
  · rintro ⟨hsequence, _, hload, _, ⟨rfl, hvalid⟩, ⟨htask, hproject, hgeneration, hposition,
      hprevious⟩, rfl⟩
    exact ⟨⟨by rw [hsequence, hposition], hload⟩, hvalid, htask, hproject, hgeneration, hposition,
      hprevious⟩
  · rintro ⟨hrow, hvalid, htask, hproject, hgeneration, hposition, hprevious⟩
    exact ⟨by rw [hrow.sequence, hposition], _, hrow.record, e, ⟨rfl, hvalid⟩,
      ⟨htask, hproject, hgeneration, hposition, hprevious⟩, rfl⟩

/-- **The prefix loop of the store** takes the rows up to the first event with the trusted hash. -/
theorem takeThroughHead_readWalkRow {state : WorkflowTaskState} {generation : Int} {hash : Json}
    {position : Nat} {previous : Option Sha256Hex} {rows : List AuditEventRow}
    {events : List AuditEvent} :
    takeThroughHead (readWalkRow state generation) hash position previous rows = .ok (some events) ↔
      List.Forall₂ AuditEventRow.Holds (rows.take events.length) events ∧
      (∀ e ∈ events, e.Valid ∧ e.taskId = state.taskId ∧ e.projectId = state.projectId ∧
        (e.generation.val : Int) = generation) ∧
      events.map (fun e => e.sequence.val) = List.range' position events.length ∧
      LinkedFrom AuditEvent.eventHash AuditEvent.previousEventHash previous events ∧
      (∃ last, events.getLast? = some last ∧ .str last.eventHash.val = hash) ∧
      ∀ e ∈ events.dropLast, .str e.eventHash.val ≠ hash := by
  induction rows generalizing position previous events with
  | nil =>
      -- a list of events that ends in a head is not empty, and needs a row
      simp only [takeThroughHead, Except.ok.injEq, reduceCtorEq, List.take_nil, false_iff,
        List.forall₂_nil_left_iff]
      rintro ⟨rfl, -, -, -, ⟨last, hlast, -⟩, -⟩
      simp at hlast
  | cons row rest ih =>
      simp only [takeThroughHead, bind_eq_ok, readWalkRow_eq_ok]
      constructor
      · rintro ⟨e, ⟨hrow, hvalid, htask, hproject, hgeneration, hposition, hprevious⟩, h⟩
        by_cases hhead : Json.str e.eventHash.val = hash
        · simp only [hhead, if_true, pure_eq_ok, Option.some.injEq] at h
          subst h
          exact ⟨by simpa using hrow, by simpa using ⟨hvalid, htask, hproject, hgeneration⟩,
            by simp [hposition], ⟨hprevious, trivial⟩, ⟨e, rfl, hhead⟩, by simp⟩
        · simp only [hhead, if_false, bind_eq_ok, pure_eq_ok] at h
          obtain ⟨more, hmore, h⟩ := h
          obtain ⟨later, rfl, rfl⟩ := Option.map_eq_some_iff.mp h
          obtain ⟨hrows, hall, hsequence, hlinked, ⟨last, hlast, hhash⟩, hfirst⟩ := ih.mp hmore
          have hne : later ≠ [] := by
            rintro rfl
            simp at hlast
          refine ⟨by simpa using ⟨hrow, hrows⟩, ?_, ?_, ⟨hprevious, hlinked⟩, ⟨last, ?_, hhash⟩, ?_⟩
          · simpa using ⟨⟨hvalid, htask, hproject, hgeneration⟩, hall⟩
          · simp [hsequence, hposition, List.range'_succ]
          · rw [List.getLast?_cons, hlast]
            rfl
          · rw [List.dropLast_cons_of_ne_nil hne]
            simpa [hhead] using hfirst
      · rintro ⟨hrows, hall, hsequence, hlinked, ⟨last, hlast, hhash⟩, hfirst⟩
        cases events with
        | nil => simp at hlast
        | cons e later =>
            simp only [List.length_cons, List.take_succ_cons, List.forall₂_cons] at hrows
            simp only [List.map_cons, List.length_cons, List.range'_succ, List.cons.injEq]
              at hsequence
            obtain ⟨⟨hvalid, htask, hproject, hgeneration⟩, hall⟩ := List.forall_mem_cons.mp hall
            refine ⟨e, ⟨hrows.1, hvalid, htask, hproject, hgeneration, hsequence.1, hlinked.1⟩, ?_⟩
            cases later with
            | nil =>
                obtain rfl : e = last := by simpa using hlast
                simp [hhash]
            | cons next later =>
                have hhead : Json.str e.eventHash.val ≠ hash := hfirst e (by simp)
                have hmore : takeThroughHead (readWalkRow state generation) hash (position + 1)
                    (some e.eventHash) rest = .ok (some (next :: later)) :=
                  ih.mpr ⟨hrows.2, hall, hsequence.2, hlinked.2,
                    ⟨last, by simpa using hlast, hhash⟩, fun x hx => hfirst x (by simp [hx])⟩
                simp [hhead, hmore]

/-- **What the store reads of a generation** is the prefix that the rows hold. -/
theorem readStorePrefix_eq_ok_iff {store : ControlStore} {state : WorkflowTaskState}
    {head : WalkHead} {events : List AuditEvent} (hid : head.eventId ≠ .null) :
    readStorePrefix store state head = .ok events ↔ StoredPrefix store state head events := by
  simp only [readStorePrefix, bindInteger, bind_eq_ok, require_eq_ok, expect_eq_ok, checkHead, hid,
    pure_eq_ok, exists_const, and_false, false_or]
  constructor
  · rintro ⟨hbounded, found, hfound, events', rfl, last, hlast, ⟨hmatches, hsequence, htail⟩, rfl⟩
    obtain ⟨hrows, hall, hcontiguous, hlinked, ⟨last', hlast', hhash⟩, hfirst⟩ :=
      takeThroughHead_readWalkRow.mp hfound
    obtain rfl : last' = last := Option.some.inj (hlast'.symm.trans hlast)
    refine ⟨hbounded, ⟨?_, fun e he => (hall e he).1, fun e he => by rw [(hall e he).2.1],
      fun e he => by rw [(hall e he).2.2.1], fun e he => (hall e he).2.2.2, hcontiguous, hlinked⟩,
      hrows, ⟨last', hlast, hmatches, hsequence, hhash⟩, hfirst, fun h => by simpa using htail h⟩
    rintro rfl
    simp at hlast
  · rintro ⟨hbounded, hsegment, hrows, ⟨last, hlast, hmatches⟩, hfirst, htail⟩
    refine ⟨hbounded, some events, takeThroughHead_readWalkRow.mpr ⟨hrows,
      fun e he => ⟨hsegment.valid e he, ?_, ?_, hsegment.generation e he⟩, hsegment.contiguous,
      hsegment.hashLinked, ⟨last, hlast, hmatches.hash⟩, hfirst⟩, events, rfl, last, hlast,
      ⟨hmatches.eventId, hmatches.sequence, fun h => by simpa using htail h⟩, rfl⟩
    · exact Subtype.ext (hsegment.task e he)
    · exact Subtype.ext (hsegment.project e he)

/-- An event that the reader of a whole generation takes from a row. -/
theorem readAuditRow_eq_ok {taskId : String} {generation : Int} {row : AuditEventRow}
    {position : Nat} {e : AuditEvent} :
    readAuditRow taskId generation row position = .ok e ↔
      row.Holds e ∧ e.Valid ∧ e.taskId.val = taskId ∧ (e.generation.val : Int) = generation ∧
        e.sequence.val = position := by
  simp only [readAuditRow, bind_eq_ok, require_eq_ok, raiseOutcome_eq_ok,
    validateAuditEvent_eq_ok_iff, pure_eq_ok, exists_const]
  constructor
  · rintro ⟨hposition, _, hload, _, ⟨rfl, hvalid⟩, ⟨htask, hgeneration, hsequence⟩, rfl⟩
    exact ⟨⟨hsequence.symm, hload⟩, hvalid, htask, hgeneration, by omega⟩
  · rintro ⟨hrow, hvalid, htask, hgeneration, hposition⟩
    exact ⟨by rw [hrow.sequence, hposition], _, hrow.record, e, ⟨rfl, hvalid⟩,
      ⟨htask, hgeneration, hrow.sequence.symm⟩, rfl⟩

/-- On an event that the reader of a whole generation took, both prefix loops check the same. -/
theorem checkLineageEvent_eq_ok_iff {state : WorkflowTaskState} {generation : Int}
    {position place : Nat} {previous : Option Sha256Hex} {row : AuditEventRow} {e x : AuditEvent}
    (hrow : readAuditRow state.taskId.val generation row place = .ok e) :
    checkLineageEvent state generation position previous e = .ok x ↔
      readWalkRow state generation position previous row = .ok x := by
  obtain ⟨hholds, hvalid, -⟩ := readAuditRow_eq_ok.mp hrow
  simp only [checkLineageEvent, bind_eq_ok, require_eq_ok, pure_eq_ok, exists_const,
    readWalkRow_eq_ok]
  constructor
  · rintro ⟨⟨hproject, htask, hgeneration, hsequence, hprevious, _⟩, rfl⟩
    exact ⟨hholds, hvalid, htask, hproject, hgeneration, hsequence, hprevious⟩
  · rintro ⟨hholds', hvalid', htask, hproject, hgeneration, hsequence, hprevious⟩
    have hload := hholds.record.symm.trans hholds'.record
    obtain rfl : e = x := AuditEvent.eq_of_toJson_eq hvalid hvalid' (Except.ok.inj hload)
    exact ⟨⟨hproject, htask, hgeneration, hsequence, hprevious, hvalid.hash.symm⟩, rfl⟩

/-- On rows that the reader of a whole generation takes, the two prefix loops take the same. -/
theorem takeThroughHead_checkLineageEvent {state : WorkflowTaskState} {generation : Int}
    {hash : Json} {position : Nat} {previous : Option Sha256Hex} {rows : List AuditEventRow}
    {all events : List AuditEvent}
    (hread : (rows.zipIdx position).mapM
      (fun (row, position) => readAuditRow state.taskId.val generation row position) = .ok all) :
    takeThroughHead (checkLineageEvent state generation) hash position previous all
        = .ok (some events) ↔
      takeThroughHead (readWalkRow state generation) hash position previous rows
        = .ok (some events) := by
  induction rows generalizing position previous all events with
  | nil =>
      obtain rfl : [] = all := by simpa using hread
      simp [takeThroughHead]
  | cons row rest ih =>
      rw [List.zipIdx_cons, mapM_eq_ok_iff, List.forall₂_cons_left_iff] at hread
      obtain ⟨e, later, hrow, hrest, rfl⟩ := hread
      have hlater := fun previous events => @ih (position + 1) previous later events
        (mapM_eq_ok_iff.mpr hrest)
      simp only [takeThroughHead, bind_eq_ok, checkLineageEvent_eq_ok_iff hrow]
      refine exists_congr (fun x => ?_)
      refine and_congr_right (fun _ => ?_)
      by_cases hhead : Json.str x.eventHash.val = hash
      · simp [hhead]
      · simp only [hhead, if_false, bind_eq_ok, pure_eq_ok, Option.map_eq_some_iff]
        constructor
        · rintro ⟨_, hmore, more, rfl, rfl⟩
          exact ⟨_, (hlater _ _).mp hmore, more, rfl, rfl⟩
        · rintro ⟨_, hmore, more, rfl, rfl⟩
          exact ⟨_, (hlater _ _).mpr hmore, more, rfl, rfl⟩

/-- Rows that hold a segment are events of the task in their places. -/
theorem readAuditRow_of_holds {taskId : String} {generation : Int} {events : List AuditEvent}
    {rows : List AuditEventRow} {position : Nat}
    (hrows : List.Forall₂ AuditEventRow.Holds (rows.take events.length) events)
    (hsequence : events.map (fun e => e.sequence.val) = List.range' position events.length)
    (hall : ∀ e ∈ events, e.Valid ∧ e.taskId.val = taskId ∧
      (e.generation.val : Int) = generation) :
    ∀ entry ∈ (rows.zipIdx position).take events.length,
      ∃ e, readAuditRow taskId generation entry.1 entry.2 = .ok e := by
  induction events generalizing rows position with
  | nil => simp
  | cons e later ih =>
      intro entry hentry
      cases rows with
      | nil => simp at hentry
      | cons row rest =>
          simp only [List.length_cons, List.take_succ_cons, List.forall₂_cons] at hrows
          simp only [List.map_cons, List.length_cons, List.range'_succ, List.cons.injEq] at hsequence
          simp only [List.zipIdx_cons, List.length_cons, List.take_succ_cons, List.mem_cons]
            at hentry
          obtain ⟨⟨hvalid, htask, hgeneration⟩, hlater⟩ := List.forall_mem_cons.mp hall
          rcases hentry with rfl | hentry
          · exact ⟨e, readAuditRow_eq_ok.mpr ⟨hrows.1, hvalid, htask, hgeneration, hsequence.1⟩⟩
          · exact ih hrows.2 hsequence.2 hlater entry hentry

/-- **What the engine reads of a generation** is the prefix that the rows hold, when the rows behind
it are events too. -/
theorem readLineagePrefix_eq_ok_iff {store : ControlStore} {state : WorkflowTaskState}
    {head : WalkHead} {events : List AuditEvent} (hid : head.eventId ≠ .null)
    (hpositive : 1 ≤ head.generation) :
    readLineagePrefix store state head = .ok events ↔
      StoredPrefix store state head events ∧
        TailReadable store state.taskId.val head.generation events.length := by
  rw [← readStorePrefix_eq_ok_iff hid]
  have hlength : ∀ {all : List AuditEvent},
      ((store.selectGeneration state.taskId.val head.generation).zipIdx 1).mapM (fun (row, position)
        => readAuditRow state.taskId.val head.generation row position) = .ok all →
      all.length = (store.selectGeneration state.taskId.val head.generation).length := by
    intro all hall
    simpa using (mapM_eq_ok_iff.mp hall).length_eq.symm
  simp only [readLineagePrefix, readStorePrefix, readAuditEvents, bindInteger, bind_eq_ok,
    wrapStoreError_eq_ok, require_eq_ok, expect_eq_ok, checkHead, pure_eq_ok, exists_const, hid,
    and_false, false_or, Bool.false_eq_true, decide_eq_true_eq]
  constructor
  · rintro ⟨all, ⟨_, _, hbounded, hall⟩, _, hfound, events', rfl, last, hlast, ⟨hmatches, hsequence,
      htail⟩, rfl⟩
    refine ⟨⟨hbounded, _, (takeThroughHead_checkLineageEvent hall).mp hfound, _, rfl, last, hlast,
      ⟨hmatches, hsequence, fun h => ?_⟩, rfl⟩, fun entry hentry => ?_⟩
    · rw [← hlength hall]
      exact htail h
    · exact exists_mapM_eq_ok_iff.mp ⟨all, hall⟩ entry (List.mem_of_mem_drop hentry)
  · rintro ⟨⟨hbounded, _, hfound, taken, rfl, last, hlast, ⟨hmatches, hsequence, htail⟩, rfl⟩,
      hreadable⟩
    obtain ⟨hrows, hvalid, hcontiguous, -⟩ := takeThroughHead_readWalkRow.mp hfound
    have htaken := readAuditRow_of_holds hrows hcontiguous
      (fun e he => ⟨(hvalid e he).1, by rw [(hvalid e he).2.1], (hvalid e he).2.2.2⟩)
    have hall : ∀ entry ∈ (store.selectGeneration state.taskId.val head.generation).zipIdx 1,
        ∃ e, readAuditRow state.taskId.val head.generation entry.1 entry.2 = .ok e := by
      intro entry hentry
      rw [← List.take_append_drop taken.length (List.zipIdx _ 1)] at hentry
      rcases List.mem_append.mp hentry with htake | hdrop
      · exact htaken entry htake
      · exact hreadable entry hdrop
    obtain ⟨all, hall⟩ := exists_mapM_eq_ok_iff.mpr hall
    refine ⟨all, ⟨state.taskId.property, hpositive, hbounded, hall⟩, _,
      (takeThroughHead_checkLineageEvent hall).mpr hfound, taken, rfl, last, hlast,
      ⟨hmatches, hsequence, fun h => ?_⟩, rfl⟩
    rw [hlength hall]
    exact htail h

/-! ## Section 3: The walk -/

/-- The parts of a lineage meet a condition on the generation and the length of its prefix. -/
def EachPart (P : Int → Nat → Prop) (lineage : List (WalkHead × List AuditEvent)) : Prop :=
  ∀ part ∈ lineage, P part.1.generation part.2.length

omit [Digest] in
@[simp] theorem eachPart_cons {P : Int → Nat → Prop} {part : WalkHead × List AuditEvent}
    {lineage : List (WalkHead × List AuditEvent)} :
    EachPart P (part :: lineage) ↔
      P part.1.generation part.2.length ∧ EachPart P lineage := by
  simp [EachPart]

/-- **A walk finds exactly the stored lineages that its reader takes.** -/
theorem walkGenerations_eq_ok_iff {store : ControlStore} {state : WorkflowTaskState}
    {errors : WalkErrors} {readPrefix : WalkHead → Outcome (List AuditEvent)}
    {P : Int → Nat → Prop}
    (hread : ∀ head events, head.eventId ≠ .null → 1 ≤ head.generation →
      (readPrefix head = .ok events ↔
        StoredPrefix store state head events ∧ P head.generation events.length))
    {visited : List Int} {head : WalkHead} (hid : head.eventId ≠ .null)
    (hvisited : ∀ g ∈ visited, head.generation < g)
    (hcurrent : head.generation ≤ state.auditGeneration.val) (hpositive : 1 ≤ head.generation)
    {generations : List (List AuditEvent)} :
    walkGenerations errors readPrefix state.auditGeneration.val visited head = .ok generations ↔
      ∃ lineage, StoredLineage store state head lineage ∧ EachPart P lineage ∧
        generations = lineage.map Prod.snd := by
  -- the generation of the head goes down with every turn
  induction hn : head.generation.toNat using Nat.strong_induction_on
    generalizing head visited generations with
  | _ n ih =>
      have htarget : ∀ t : TrustedPrefix, t.walkHead.eventId ≠ .null := by
        simp [TrustedPrefix.walkHead]
      constructor
      · intro h
        obtain ⟨-, events, hevents, hnext⟩ := walkGenerations_eq_ok h
        obtain ⟨hstored, hpart⟩ := (hread head events hid hpositive).mp hevents
        obtain ⟨start, rest, rfl⟩ := List.exists_cons_of_ne_nil hstored.segment.nonempty
        obtain ⟨hvalid, hsequence, hgeneration⟩ := hstored.segment.start
        rcases hnext with ⟨hnext, rfl⟩ | ⟨hop, older, hnext, hwalk, rfl⟩
        · obtain ⟨-, htype, -⟩ | ⟨_, _, hsome, -⟩ :=
            nextHead_eq_ok hvalid hsequence hgeneration hnext
          · exact ⟨_, .first hstored htype, by simpa [EachPart] using hpart, rfl⟩
          · simp at hsome
        · obtain ⟨hnone, -, -⟩ | ⟨hop', r, hsome, hrecovery, heq⟩ :=
            nextHead_eq_ok hvalid hsequence hgeneration hnext
          · simp at hnone
          · obtain rfl := Option.some.inj hsome
            have hlt := hop.lt
            rw [heq] at hwalk hlt
            have hpos := r.previousTrustedPrefix.generation.property
            have hlt' : (r.previousTrustedPrefix.generation.val : Int) < head.generation := hlt
            obtain ⟨lineage, hlineage, hparts, rfl⟩ := (ih _ (by omega) (htarget _)
              (List.forall_mem_cons.mpr ⟨hlt, fun g hg => hlt.trans (hvisited g hg)⟩)
              (hlt.le.trans hcurrent) (by simp only [TrustedPrefix.walkHead]; omega) rfl).mp hwalk
            exact ⟨_, .hop hstored hrecovery hlt' hlineage, eachPart_cons.mpr ⟨hpart, hparts⟩, rfl⟩
      · rintro ⟨lineage, hlineage, hparts, rfl⟩
        have hguard : ¬ (head.generation ∈ visited ∨ head.generation < 1 ∨
            (state.auditGeneration.val : Int) < head.generation) := by
          rintro (hmem | hlow | hhigh)
          · exact absurd (hvisited _ hmem) (lt_irrefl _)
          · omega
          · omega
        rw [walkGenerations, dif_neg hguard]
        cases hlineage with
        | @first _ start rest hstored htype =>
            have hevents := (hread head _ hid hpositive).mpr
              ⟨hstored, (eachPart_cons.mp hparts).1⟩
            obtain ⟨hvalid, -, hgeneration⟩ := hstored.segment.start
            have hbody := hvalid.body
            simp only [AuditEvent.Body, htype] at hbody
            obtain ⟨g, hg⟩ := hbody
            simp only [hevents, nextHead_creation hg hgeneration.symm, List.map_cons, List.map_nil]
        | @hop _ start rest r older hstored hrecovery hlt holder =>
            obtain ⟨hpart, holderParts⟩ := eachPart_cons.mp hparts
            have hevents := (hread head _ hid hpositive).mpr ⟨hstored, hpart⟩
            obtain ⟨-, -, hgeneration⟩ := hstored.segment.start
            have hnext := @nextHead_recovery errors _ rest _ hrecovery
            rw [hgeneration, dif_pos hlt] at hnext
            have hpos := r.previousTrustedPrefix.generation.property
            have hwalk := (ih r.previousTrustedPrefix.walkHead.generation.toNat
              (by simp only [TrustedPrefix.walkHead]; omega) (htarget _)
              (List.forall_mem_cons.mpr ⟨hlt, fun g hg => hlt.trans (hvisited g hg)⟩)
              (hlt.le.trans hcurrent) (by simp only [TrustedPrefix.walkHead]; omega) rfl).mpr
              ⟨older, holder, holderParts, rfl⟩
            simp only [hevents, hnext, hwalk, List.map_cons]

omit [Digest] in
private theorem walkHead_start (state : WorkflowTaskState) :
    state.walkHead.eventId ≠ .null ∧ 1 ≤ state.walkHead.generation := by
  have := state.auditGeneration.property
  exact ⟨by simp [WorkflowTaskState.walkHead], by simp only [WorkflowTaskState.walkHead]; omega⟩

/-- The walk of the store finds the lineage that its rows hold. -/
theorem storeWalk_eq_ok_iff {store : ControlStore} {state : WorkflowTaskState}
    {generations : List (List AuditEvent)} :
    walkGenerations storeWalkErrors (readStorePrefix store state) state.auditGeneration.val []
        state.walkHead = .ok generations ↔
      ∃ lineage, StoredLineage store state state.walkHead lineage ∧
        generations = lineage.map Prod.snd := by
  obtain ⟨hid, hpositive⟩ := walkHead_start state
  have hread : ∀ (head : WalkHead) (events : List AuditEvent), head.eventId ≠ .null →
      1 ≤ head.generation → (readStorePrefix store state head = .ok events ↔
        StoredPrefix store state head events ∧ True) := by
    intro head events hid _
    rw [readStorePrefix_eq_ok_iff hid, and_true]
  rw [walkGenerations_eq_ok_iff (P := fun _ _ => True) hread hid (by simp) le_rfl hpositive]
  simp [EachPart]

/-- The lineage that ends in the head of a state is unique. -/
theorem StoredLineage.map_snd_eq {store : ControlStore} {state : WorkflowTaskState}
    {lineage lineage' : List (WalkHead × List AuditEvent)}
    (h : StoredLineage store state state.walkHead lineage)
    (h' : StoredLineage store state state.walkHead lineage') :
    lineage.map Prod.snd = lineage'.map Prod.snd := by
  have hwalk := storeWalk_eq_ok_iff.mpr ⟨lineage, h, rfl⟩
  rw [storeWalk_eq_ok_iff.mpr ⟨lineage', h', rfl⟩] at hwalk
  exact (Except.ok.inj hwalk).symm

/-- The parts of a lineage are prefixes of their generations. -/
theorem StoredLineage.storedPrefix {store : ControlStore} {state : WorkflowTaskState}
    {head : WalkHead} {lineage : List (WalkHead × List AuditEvent)}
    (h : StoredLineage store state head lineage) :
    ∀ part ∈ lineage, StoredPrefix store state part.1 part.2 := by
  induction h with
  | first hstored _ => simpa using hstored
  | hop hstored _ _ _ ih => exact List.forall_mem_cons.mpr ⟨hstored, ih⟩

/-- **The store answers** from the lineage that its rows hold. -/
theorem hasCommittedDecisionResolution_eq_ok_iff {store : ControlStore} {state : WorkflowTaskState}
    (hstate : readTaskState store state.taskId.val = .ok state) {resolution : Mapping}
    (hresolution : Mapping.lookup "task_id" resolution.entries = some (.str state.taskId.val))
    {found : Bool} :
    hasCommittedDecisionResolution store resolution = .ok found ↔
      ∃ lineage, StoredLineage store state state.walkHead lineage ∧
        found = lineage.any (fun part => part.2.any (fun e => e.embedsResolution resolution)) := by
  have htested : (Json.str state.taskId.val).asTested isSafeId = some state.taskId := by simp
  simp only [hasCommittedDecisionResolution, bind_eq_ok, expect_eq_ok, hresolution,
    Option.some.injEq, exists_eq_left', htested, hstate, Except.ok.injEq, pure_eq_ok,
    storeWalk_eq_ok_iff]
  constructor
  · rintro ⟨_, ⟨lineage, hlineage, rfl⟩, rfl⟩
    exact ⟨lineage, hlineage, by simp [List.any_map, Function.comp_def]⟩
  · rintro ⟨lineage, hlineage, rfl⟩
    exact ⟨_, ⟨lineage, hlineage, rfl⟩, by simp [List.any_map, Function.comp_def]⟩

/-- **The engine returns** the lineage that the rows hold, when no row behind one of its heads is
unreadable. -/
theorem trustedAuditLineage_eq_ok_iff {store : ControlStore} {state : WorkflowTaskState}
    {events : List AuditEvent} :
    trustedAuditLineage store state = .ok events ↔
      ∃ lineage, StoredLineage store state state.walkHead lineage ∧
        EachPart (TailReadable store state.taskId.val) lineage ∧
        events = (lineage.map Prod.snd).reverse.flatten := by
  obtain ⟨hid, hpositive⟩ := walkHead_start state
  have hwalk : ∀ generations,
      walkGenerations engineWalkErrors (readLineagePrefix store state) state.auditGeneration.val []
          state.walkHead = .ok generations ↔
        ∃ lineage, StoredLineage store state state.walkHead lineage ∧
          EachPart (TailReadable store state.taskId.val) lineage ∧
          generations = lineage.map Prod.snd :=
    fun _ => walkGenerations_eq_ok_iff (fun _ _ => readLineagePrefix_eq_ok_iff) hid (by simp) le_rfl
      hpositive
  simp only [trustedAuditLineage, bind_eq_ok, pure_eq_ok, hwalk]
  constructor
  · rintro ⟨_, ⟨lineage, hlineage, hparts, rfl⟩, rfl⟩
    exact ⟨lineage, hlineage, hparts, rfl⟩
  · rintro ⟨lineage, hlineage, hparts, rfl⟩
    exact ⟨_, ⟨lineage, hlineage, hparts, rfl⟩, rfl⟩

/-! ## Section 4: Agreement -/

/-- Both walks succeed or neither does; when they do, the store says of every resolution of the task
whether an event of the lineage that the engine returns carries it. -/
def WalkersAgree (store : ControlStore) (state : WorkflowTaskState) : Prop :=
  ∀ resolution : Mapping,
    Mapping.lookup "task_id" resolution.entries = some (.str state.taskId.val) →
    ((∃ found, hasCommittedDecisionResolution store resolution = .ok found) ↔
      ∃ events, trustedAuditLineage store state = .ok events) ∧
    ∀ found events, hasCommittedDecisionResolution store resolution = .ok found →
      trustedAuditLineage store state = .ok events →
      (found = true ↔ ∃ e ∈ events, e.embedsResolution resolution = true)

/-- **The two walks agree on a task exactly when no lineage of the task has an unreadable row behind
one of its trusted heads.** -/
theorem walkers_agree_iff {store : ControlStore} {taskId : String} {state : WorkflowTaskState}
    (hstate : readTaskState store taskId = .ok state) :
    WalkersAgree store state ↔
      ∀ lineage, StoredLineage store state state.walkHead lineage →
        ∀ part ∈ lineage,
          TailReadable store state.taskId.val part.1.generation part.2.length := by
  obtain rfl : state.taskId.val = taskId := by
    simp only [readTaskState, bind_eq_ok, require_eq_ok, pure_eq_ok, exists_const] at hstate
    obtain ⟨_, _, _, _, _, _, _, hid, rfl⟩ := hstate
    exact hid
  constructor
  · intro hagree lineage hlineage
    obtain ⟨resolution, hresolution⟩ : ∃ resolution : Mapping,
        Mapping.lookup "task_id" resolution.entries = some (.str state.taskId.val) :=
      ⟨⟨[("task_id", .str state.taskId.val)], List.pairwise_singleton _ _⟩, rfl⟩
    obtain ⟨hboth, -⟩ := hagree resolution hresolution
    have hfound := (hasCommittedDecisionResolution_eq_ok_iff hstate hresolution).mpr
      ⟨lineage, hlineage, rfl⟩
    obtain ⟨events, hevents⟩ := hboth.mp ⟨_, hfound⟩
    obtain ⟨lineage', hlineage', hparts, -⟩ := trustedAuditLineage_eq_ok_iff.mp hevents
    intro part hpart
    -- the lineages have the same events, and these name the generation
    have hmem : part.2 ∈ lineage'.map Prod.snd := by
      rw [← hlineage.map_snd_eq hlineage']
      exact List.mem_map_of_mem hpart
    obtain ⟨part', hpart', hevents'⟩ := List.mem_map.mp hmem
    have hsegment := (hlineage.storedPrefix part hpart).segment
    have hsegment' := (hlineage'.storedPrefix part' hpart').segment
    rw [hevents'] at hsegment'
    obtain ⟨e, he⟩ := List.exists_mem_of_ne_nil _ hsegment.nonempty
    have htail := hparts part' hpart'
    rwa [← hsegment'.generation e he, hsegment.generation e he, hevents'] at htail
  · intro hreadable resolution hresolution
    have hstored : ∀ found, hasCommittedDecisionResolution store resolution = .ok found ↔ _ :=
      fun _ => hasCommittedDecisionResolution_eq_ok_iff hstate hresolution
    refine ⟨⟨?_, ?_⟩, ?_⟩
    · rintro ⟨found, hfound⟩
      obtain ⟨lineage, hlineage, -⟩ := (hstored found).mp hfound
      exact ⟨_, trustedAuditLineage_eq_ok_iff.mpr
        ⟨lineage, hlineage, hreadable lineage hlineage, rfl⟩⟩
    · rintro ⟨events, hevents⟩
      obtain ⟨lineage, hlineage, -, -⟩ := trustedAuditLineage_eq_ok_iff.mp hevents
      exact ⟨_, (hstored _).mpr ⟨lineage, hlineage, rfl⟩⟩
    · intro found events hfound hevents
      obtain ⟨lineage, hlineage, rfl⟩ := (hstored found).mp hfound
      obtain ⟨lineage', hlineage', -, rfl⟩ := trustedAuditLineage_eq_ok_iff.mp hevents
      rw [← hlineage.map_snd_eq hlineage']
      simp only [List.any_eq_true, List.mem_flatten, List.mem_reverse, List.mem_map]
      constructor
      · rintro ⟨part, hpart, e, he, hembeds⟩
        exact ⟨e, ⟨part.2, ⟨part, hpart, rfl⟩, he⟩, hembeds⟩
      · rintro ⟨e, ⟨_, ⟨part, hpart, rfl⟩, he⟩, hembeds⟩
        exact ⟨part, hpart, e, he, hembeds⟩

omit [Digest] in
theorem walkers_agree_iff_creation :
    letI := firstDigest
    WalkersAgree (ControlStore.empty.write firstCreation (stateOfCreation firstCreation))
      (stateOfCreation firstCreation) := by
  let _ := firstDigest
  have hstored := StoredChain.creation commitPair_firstCreation rfl
  refine (walkers_agree_iff hstored.readTaskState_eq).mpr ?_
  intro lineage hlineage part hpart entry hentry
  have htail := (hlineage.storedPrefix part hpart).tail
  have hgeneration : part.1.generation = 1 := by
    cases hlineage with
    | first _ _ =>
        obtain rfl := List.mem_singleton.mp hpart
        rfl
    | @hop _ _ _ r _ _ _ hlt _ =>
        have hpos := r.previousTrustedPrefix.generation.property
        have hone : (stateOfCreation firstCreation).walkHead.generation = 1 := rfl
        omega
  rw [htail hgeneration, List.drop_eq_nil_of_le (by simp)] at hentry
  simp at hentry

/-! ## Section 5: A torn tail -/

/-- The recovery that trusts the creation of the task and leaves the rest of the first generation. -/
def tornRecovery : RecoveryDetails where
  recoveryId := ⟨"recovery-1", by decide⟩
  recoveryAction := "quarantine_and_start_generation"
  recoveryTransactionId := ⟨"recovery-tx-1", by decide⟩
  previousTrustedPrefix := ⟨⟨1, firstPosition⟩, ⟨1, firstPosition⟩, firstCreation.eventId, firstCreation.eventHash⟩
  quarantinePath := ⟨"state/quarantine/task-1/audit-tail.bin", by decide⟩
  auditGeneration := ⟨⟨"task-1", isSafeId_task⟩, ⟨2, secondPosition⟩, some ⟨1, firstPosition⟩,
    some firstCreation.eventHash, some ⟨"state/quarantine/task-1/audit-tail.bin", by decide⟩,
    ⟨"evt-2", isSafeId_secondEvent⟩, .recoveryRecorded, ⟨"2026-01-01T00:00:01Z", isUtc_secondEvent⟩⟩

/-- The event that starts the second generation. -/
def tornEvent : AuditEvent where
  eventId := ⟨"evt-2", isSafeId_secondEvent⟩
  generation := ⟨2, secondPosition⟩
  sequence := ⟨1, firstPosition⟩
  projectId := firstCreation.projectId
  taskId := firstCreation.taskId
  eventType := .recoveryRecorded
  actor := .verifier
  fromState := none
  toState := none
  transitionId := none
  policyEvaluationBinding := none
  evidenceBindings := []
  decisionResolutionBinding := none
  previousEventHash := none
  eventHash := ⟨unarySha 1, isSha256_unaryOne⟩
  createdAtUtc := ⟨"2026-01-01T00:00:01Z", isUtc_secondEvent⟩
  details := tornRecovery.toMapping

/-- The state that binds the recovery. -/
def tornState : WorkflowTaskState := stateOfCreation tornEvent

/-- A row behind the creation whose text is cut off. -/
def tornRow : AuditEventRow where
  taskId := "task-1"
  generation := 1
  sequence := 2
  eventJson := .other "\x7b" (.error "Expecting property name enclosed in double quotes")

/-- The creation, the cut-off row, and the generation that starts after them. -/
def tornStore : ControlStore :=
  ⟨[tornState.row], [firstCreation.row, tornRow, tornEvent.row]⟩

/-- An injective digest under which both events are valid. -/
@[reducible] def tornDigest : Digest :=
  ⟨tableSha [@AuditEvent.preimage ⟨fun _ => ""⟩ firstCreation,
    @AuditEvent.preimage ⟨fun _ => ""⟩ tornEvent]⟩

omit [Digest] in
private theorem preimage_tornEvent (D D' : Digest) :
    @AuditEvent.preimage D tornEvent = @AuditEvent.preimage D' tornEvent := rfl

omit [Digest] in
private theorem tornDigest_values :
    letI := tornDigest
    canonicalSha firstCreation.preimage = unarySha 0 ∧
      canonicalSha tornEvent.preimage = unarySha 1 := by
  let _ := tornDigest
  have hnodup : [@AuditEvent.preimage ⟨fun _ => ""⟩ firstCreation,
      @AuditEvent.preimage ⟨fun _ => ""⟩ tornEvent].Nodup := by
    decide +kernel
  rw [firstCreation, preimage_creationEvent _ ⟨fun _ => ""⟩, preimage_tornEvent _ ⟨fun _ => ""⟩]
  exact ⟨tableSha_getElem hnodup (i := 0) (by decide), tableSha_getElem hnodup (i := 1) (by decide)⟩

omit [Digest] in
private theorem isRecovery_tornEvent : tornEvent.IsRecovery tornRecovery where
  sequence := rfl
  generation := by decide
  noTransition := ⟨rfl, rfl, rfl, rfl, rfl, rfl⟩
  details := rfl
  action := by decide
  eventType := by decide
  startedBy := ⟨⟨by decide, fun _ => ⟨by decide, by decide, by decide⟩⟩, rfl, rfl, rfl, rfl⟩
  predecessor := rfl
  predecessorHash := rfl
  quarantine := rfl

omit [Digest] in
private theorem tornEvent_valid :
    letI := tornDigest
    tornEvent.Valid := by
  let _ := tornDigest
  exact ⟨⟨fun _ => rfl, fun _ => rfl⟩, ⟨by simp [tornEvent], by simp [tornEvent]⟩,
    by simp [tornEvent], by simp [tornEvent], ⟨_, isRecovery_tornEvent⟩, tornDigest_values.2⟩

private theorem tornStore_rows :
    tornStore.selectGeneration "task-1" 2 = [tornEvent.row] ∧
      tornStore.selectGeneration "task-1" 1 = [firstCreation.row, tornRow] := by
  refine ⟨?_, ?_⟩ <;> rfl

omit [Digest] in
private theorem storedLineage_torn :
    letI := tornDigest
    StoredLineage tornStore tornState tornState.walkHead
      [(tornState.walkHead, [tornEvent]),
        (tornRecovery.previousTrustedPrefix.walkHead, [firstCreation])] := by
  let _ := tornDigest
  obtain ⟨hrecovered, hcreated⟩ := tornStore_rows
  have hcreation : CommitPair firstCreation _ := commitPair_creation tornDigest_values.1
  have hsecond : StoredPrefix tornStore tornState tornState.walkHead [tornEvent] := by
    refine ⟨by decide, ⟨by simp, ?_, ?_, ?_, ?_, rfl, ⟨rfl, trivial⟩⟩, ?_, ⟨tornEvent, rfl, ?_⟩,
      by simp, ?_⟩
    · simpa using tornEvent_valid
    · simp [tornState, stateOfCreation]
    · simp [tornState, stateOfCreation]
    · simp [tornState, stateOfCreation, WorkflowTaskState.walkHead]
    · change List.Forall₂ _ (List.take 1 (tornStore.selectGeneration "task-1" 2)) _
      rw [hrecovered]
      exact .cons (AuditEvent.row_holds (.of_quickWidth (by decide +kernel) (by decide +kernel))) .nil
    · exact ⟨rfl, fun h => absurd rfl h, rfl⟩
    · intro _
      change _ = (tornStore.selectGeneration "task-1" 2).length
      rw [hrecovered]
      rfl
  have hfirst : StoredPrefix tornStore tornState tornRecovery.previousTrustedPrefix.walkHead
      [firstCreation] := by
    refine ⟨by decide, ⟨by simp, ?_, ?_, ?_, ?_, rfl, ⟨rfl, trivial⟩⟩, ?_, ⟨firstCreation, rfl, ?_⟩,
      by simp, ?_⟩
    · simpa using hcreation.event
    · simp [tornState, stateOfCreation, tornEvent]
    · simp [tornState, stateOfCreation, tornEvent]
    · simp [firstCreation, creationEvent, tornRecovery, TrustedPrefix.walkHead]
    · change List.Forall₂ _ (List.take 1 (tornStore.selectGeneration "task-1" 1)) _
      rw [hcreated]
      exact .cons (AuditEvent.row_holds hcreation.eventFits) .nil
    · exact ⟨rfl, fun _ => rfl, rfl⟩
    · intro h
      exact absurd h (by decide)
  exact .hop hsecond isRecovery_tornEvent (by decide) (.first hfirst rfl)

omit [Digest] in
/-- The store answers about the task, and the engine raises on the row that no trusted head is
behind. -/
theorem walkers_disagree_on_torn_tail :
    letI := tornDigest
    readTaskState tornStore "task-1" = .ok tornState ∧
      (∀ resolution : Mapping,
        Mapping.lookup "task_id" resolution.entries = some (.str "task-1") →
        ∃ found, hasCommittedDecisionResolution tornStore resolution = .ok found) ∧
      (¬ ∃ events, trustedAuditLineage tornStore tornState = .ok events) ∧
      ¬ WalkersAgree tornStore tornState := by
  let _ := tornDigest
  have hstate : readTaskState tornStore "task-1" = .ok tornState :=
    readTaskState_of_rows (s := tornState) (by simp [WorkflowTaskState.Valid, tornState,
      stateOfCreation]) (.of_quickWidth (by decide +kernel) (by decide +kernel)) rfl
  have hanswers : ∀ resolution : Mapping,
      Mapping.lookup "task_id" resolution.entries = some (.str "task-1") →
      ∃ found, hasCommittedDecisionResolution tornStore resolution = .ok found :=
    fun resolution hresolution => ⟨_, (@hasCommittedDecisionResolution_eq_ok_iff _ tornStore
      tornState hstate resolution hresolution _).mpr ⟨_, storedLineage_torn, rfl⟩⟩
  have hraises : ¬ ∃ events, trustedAuditLineage tornStore tornState = .ok events := by
    rintro ⟨events, hevents⟩
    obtain ⟨lineage, hlineage, hparts, -⟩ := trustedAuditLineage_eq_ok_iff.mp hevents
    -- the second part of the lineage is the creation, and the row behind it is no event
    have hmem : [firstCreation] ∈ lineage.map Prod.snd := by
      rw [hlineage.map_snd_eq storedLineage_torn]
      simp
    obtain ⟨part, hpart, hevents⟩ := List.mem_map.mp hmem
    have hgeneration : part.1.generation = 1 := by
      have hsegment := (hlineage.storedPrefix part hpart).segment
      exact (hsegment.generation firstCreation (by rw [hevents]; simp)).symm
    have htail := hparts part hpart
    rw [hgeneration, hevents] at htail
    obtain ⟨e, he⟩ := htail (tornRow, 2) (by
      change _ ∈ ((tornStore.selectGeneration "task-1" 1).zipIdx 1).drop 1
      rw [tornStore_rows.2]
      simp)
    have hrecord := (readAuditRow_eq_ok.mp he).1.record
    simp [tornRow, loadsJsonMapping, readSqliteText, Checked.mapError] at hrecord
  refine ⟨hstate, hanswers, hraises, fun hagree => ?_⟩
  obtain ⟨resolution, hresolution⟩ : ∃ resolution : Mapping,
      Mapping.lookup "task_id" resolution.entries = some (.str "task-1") :=
    ⟨⟨[("task_id", .str "task-1")], List.pairwise_singleton _ _⟩, rfl⟩
  exact hraises ((hagree resolution hresolution).1.mp (hanswers resolution hresolution))

end Acgps
