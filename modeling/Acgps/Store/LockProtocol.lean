import Acgps.Data.JsonCode
import Acgps.Store.LockPrograms

/-!
# The lock protocol

What holds of the lock store in every interleaving of acquisitions, releases and reads, with
crashes at any point.

## Main Definitions

* `afterCommitWindow`, `tornReadWindow` - where a commit of another call does harm
* `FailureAtomic`, `ReadersSucceed` - what the calls promise to each other

## Key Theorems

* `authority_marker_recoverable` - the marker never gets ahead of the store
* `task_locks_exclusive` - a lock that was returned and not released is the only one of its task
* `lock_calls_failure_atomic` - a call that raises has changed nothing, unless another call
  commits right after it
* `readers_report_no_corruption` - a read succeeds, unless another call commits in the middle
-/

namespace Acgps

open Checked RelyGuarantee

variable [Digest]

/-! ## Section 1: Who called what -/

section Callers

variable {identity : AuthorityIdentity} {admits : LockPool → Nat → LockStatement → Prop}
  {pool : LockPool}

/-- An instance id belongs to one acquisition. -/
theorem acquisition_unique (h : LockRuns identity admits pool) {i j : Nat} {e e' : LockEntry}
    {a b : AcquireTaskLock} (hi : pool.entries[i]? = some e) (hj : pool.entries[j]? = some e')
    (ha : e.call = .acquire a) (hb : e'.call = .acquire b)
    (hid : a.lockInstanceId = b.lockInstanceId) : i = j := by
  have hcalls : ∀ {i j : Nat} {a b : AcquireTaskLock},
      (pool.entries.map Entry.call)[i]? = some (.acquire a) →
      (pool.entries.map Entry.call)[j]? = some (.acquire b) →
      a.lockInstanceId = b.lockInstanceId → i = j := by
    clear hi hj ha hb hid
    induction h with
    | init => simp
    | @start pool c _ hstart ih =>
        intro i j a b hi hj hid
        rw [List.map_append] at hi hj
        have hmem : ∀ {k : Nat} {d : AcquireTaskLock},
            (pool.entries.map Entry.call)[k]? = some (.acquire d) → c = .acquire b ∨ c = .acquire a →
            ∀ d', c = .acquire d' → d.lockInstanceId ≠ d'.lockInstanceId := by
          rintro k d hk - d' rfl
          obtain ⟨e, he, hcall⟩ := List.mem_map.mp (List.mem_of_getElem? hk)
          exact hstart e he d hcall
        rcases getElem?_concat_cases hi with ⟨rfl, hlast⟩ | hi <;>
          rcases getElem?_concat_cases hj with ⟨rfl, hlast'⟩ | hj
        · rfl
        · exact absurd hid.symm (hmem hj (.inr hlast.symm) a hlast.symm)
        · exact absurd hid (hmem hi (.inl hlast'.symm) b hlast'.symm)
        · exact ih hi hj hid
    | step _ hentry _ ih =>
        intro i j a b
        rw [map_call_set hentry]
        exact ih
    | crash _ hentry ih =>
        intro i j a b
        rw [map_call_set hentry]
        exact ih
  apply hcalls (a := a) (b := b)
  · rw [List.getElem?_map, hi, ← ha]
    rfl
  · rw [List.getElem?_map, hj, ← hb]
    rfl
  · exact hid

/-- A lock that is released was returned by an acquisition. -/
theorem released_was_returned (h : LockRuns identity admits pool) {i : Nat} {e : LockEntry}
    {lock : WorkflowTaskLock} (hi : pool.entries[i]? = some e) (he : e.call = .release lock) :
    ∃ (j : Nat) (e' : LockEntry), pool.entries[j]? = some e' ∧ LockEntry.Returned e' lock := by
  have hcalls : LockCall.release lock ∈ pool.entries.map Entry.call →
      ∃ (j : Nat) (e' : LockEntry), pool.entries[j]? = some e' ∧
        LockEntry.Returned e' lock := by
    clear hi he
    induction h with
    | init => simp
    | @start pool c _ hstart ih =>
        intro hmem
        have hbefore : ∃ (j : Nat) (e' : LockEntry), pool.entries[j]? = some e' ∧
            LockEntry.Returned e' lock := by
          rw [List.map_append] at hmem
          rcases List.mem_append.mp hmem with hmem | hmem
          · exact ih hmem
          · obtain rfl : LockCall.release lock = c := List.mem_singleton.mp hmem
            obtain ⟨e', hmem, hreturned⟩ := hstart
            obtain ⟨j, hj⟩ := List.getElem?_of_mem hmem
            exact ⟨j, e', hj, hreturned⟩
        obtain ⟨j, e', hj, hreturned⟩ := hbefore
        refine ⟨j, e', ?_, hreturned⟩
        rw [List.getElem?_append_left (List.getElem?_eq_some_iff.mp hj).1]
        exact hj
    | step _ hentry _ ih =>
        rw [map_call_set hentry]
        intro hmem
        obtain ⟨j, e', hj, a, hcall, hlock, hrest⟩ := ih hmem
        exact ⟨j, e', getElem?_set_of_done hentry hj hrest, a, hcall, hlock, hrest⟩
    | crash _ hentry ih =>
        rw [map_call_set hentry]
        intro hmem
        obtain ⟨j, e', hj, a, hcall, hlock, hrest⟩ := ih hmem
        exact ⟨j, e', getElem?_set_of_done hentry hj hrest, a, hcall, hlock, hrest⟩
  apply hcalls
  rw [← he]
  exact List.mem_map_of_mem (List.mem_of_getElem? hi)

/-- Nobody releases the instance of an acquisition that is still running. -/
theorem not_released_yet (h : LockRuns identity admits pool) {i j : Nat} {e e' : LockEntry}
    {a : AcquireTaskLock} {lock : WorkflowTaskLock} {l : LockStatement}
    {write : LockStore → LockStore} {next : LockStore → LockCode (Option WorkflowTaskLock)}
    (hi : pool.entries[i]? = some e) (he : e.call = .release lock)
    (hj : pool.entries[j]? = some e') (ha : e'.call = .acquire a)
    (hrunning : e'.rest = some (.step l write next)) :
    lock.lockInstanceId ≠ a.lockInstanceId := by
  intro hid
  obtain ⟨k, e'', hk, b, hb, rfl, hrest⟩ := released_was_returned h hi he
  obtain rfl := acquisition_unique h hk hj hb ha hid
  rw [hj] at hk
  obtain rfl := Option.some.inj hk
  rw [hrunning] at hrest
  cases hrest

end Callers

/-! ## Section 2: All calls together -/

/-- **The calls of the store satisfy their specifications together**, with a window in which no
other call commits. -/
theorem lockCalls (window : LockWindow) (identity : AuthorityIdentity) :
    Calls (lockCode identity) LockStore.dropTransaction LockStarts (NoCommitDuring window)
      (LockStore.initial identity) (LockInvariant identity) (fun i => Session i none)
      (fun i c event => LockStep i c event.label event.before event.after) (Relies window)
      (fun _ c past r => CallPost window c past r) where
  init := .initial identity
  keeps hinv hstep := hstep.keeps hinv
  aborts {i w} hinv := (LockStep.dropTransaction i .read .close w).keeps hinv
  freshInit i copy := by simp [LockStore.initial]
  freshKeeps hij hs hstep := hs.stable hij hstep
  freshAborts {i j w} hij hs := hs.stable hij (.dropTransaction j .read .close w)
  secure i c w _ hs := lockCode_secure hs
  rely {pool i j c c' past past' l l' write next rest} hruns hij hi hadmit hstep hj hrunning := by
    refine ⟨i, c, l, hij, hstep, ?_, ?_⟩
    · rintro a lock rfl rfl
      cases rest with
      | done r => cases hrunning
      | step l' write' next' => exact not_released_yet hruns hi rfl hj rfl rfl
    · intro hl
      have hquiet := hadmit hl j _ rest (fun hji => hij hji.symm) hj rfl
      rwa [hrunning] at hquiet
  relyAbort {i j c past l w} hij := by
    refine ⟨i, .read, .close, hij, .dropTransaction i .read .close w, ?_, ?_⟩
    · intro a lock _ hc
      cases hc
    · intro hl
      cases hl

/-- The window in which every commit is allowed. -/
def noWindow : LockWindow := fun _ _ _ => False

section Runs

variable {identity : AuthorityIdentity} {pool : LockPool}

/-- A run in any order has no window. -/
theorem LockRuns.noWindow (h : LockRuns identity AnyOrder pool) :
    LockRuns identity (NoCommitDuring noWindow) pool :=
  h.mono (fun _ _ _ _ _ _ _ _ _ _ _ hwindow => hwindow)

variable {window : LockWindow}

/-- Every statement that was executed is a step. -/
theorem LockRuns.stepOf (h : LockRuns identity (NoCommitDuring window) pool) {i : Nat}
    {e : LockEntry} {event : LockEvent} (hi : pool.entries[i]? = some e) (hevent : event ∈ e.past) :
    LockStep i e.call event.label event.before event.after :=
  ((h.secure (lockCalls window identity)).2.2 i e hi).1 event hevent

/-- **A row that was seen is there, or a release of its lock has committed.** -/
theorem LockRuns.row_or_released (h : LockRuns identity (NoCommitDuring window) pool)
    {i : Nat} {e : LockEntry} {event : LockEvent} {row : LockRow}
    (hi : pool.entries[i]? = some e) (hevent : event ∈ e.past)
    (hrow : row ∈ event.after.tables.locks) :
    row ∈ pool.world.tables.locks ∨ ∃ (j : Nat) (e' : LockEntry) (lock : WorkflowTaskLock),
      pool.entries[j]? = some e' ∧ e'.call = .release lock ∧ lock.Owns row ∧
      commits e'.past ≠ [] := by
  have hblame := h.blame (P := fun w => row ∈ w.tables.locks)
    (fun k w hw => (LockStep.dropTransaction k .read .close w).keeps_row hw
      (fun _ hc => by cases hc)) (.inr ⟨i, e, hi, event, hevent, hrow⟩)
  rcases hblame with hthere | ⟨j, e', hj, event', hevent', hbefore, hafter⟩
  · exact .inl hthere
  · right
    by_contra hnone
    apply hafter
    apply (h.stepOf hj hevent').keeps_row hbefore
    intro lock hcall hcommit howns
    refine hnone ⟨j, e', lock, hj, hcall, howns, List.ne_nil_of_mem (a := event') ?_⟩
    exact List.mem_filter.mpr ⟨hevent', by simpa using hcommit⟩

/-- **A row that is there was committed by its acquisition.** -/
theorem LockRuns.row_committed (h : LockRuns identity (NoCommitDuring window) pool)
    {row : LockRow} (hrow : row ∈ pool.world.tables.locks) :
    ∃ (j : Nat) (e : LockEntry) (a : AcquireTaskLock), pool.entries[j]? = some e ∧
      e.call = .acquire a ∧ row = a.row ∧ commits e.past ≠ [] := by
  have hblame := h.blame (P := fun w => row ∉ w.tables.locks)
    (fun k w hw hnew => hw (by
      have hstep := LockStep.dropTransaction k .read .close w
      rwa [hstep.tables_eq (by decide)] at hnew)) (.inl (by simp [LockStore.initial]))
  rcases hblame with hmissing | ⟨j, e, hj, event, hevent, hbefore, hafter⟩
  · exact absurd hrow hmissing
  · obtain ⟨hcommit, a, hcall, hrow'⟩ := (h.stepOf hj hevent).new_row (not_not.mp hafter) hbefore
    refine ⟨j, e, a, hj, hcall, hrow', List.ne_nil_of_mem (a := event) ?_⟩
    exact List.mem_filter.mpr ⟨hevent, by simpa using hcommit⟩

end Runs

/-! ## Section 3: Two acquisitions and a read -/

section Sample

/-- A digest that numbers the records by the last cell of `control_authority`, the generation. -/
def generationSha : Json → String
  | .obj [_, (_, .arr (.obj [_, (_, .arr [.arr [_, _, _, _, _, .obj [_, (_, .int n)]]]), _] :: _))] =>
      unarySha n.toNat
  | _ => ""

@[reducible] def generationDigest : Digest := ⟨generationSha⟩

/-- The identity of a store. -/
def sampleIdentity : AuthorityIdentity := ⟨"authority", "root"⟩

/-- An acquisition of a task, by a process of its own. -/
def sampleAcquisition (taskId : SafeId) (lockInstanceId : String) (processId : Nat) :
    AcquireTaskLock where
  taskId := taskId
  ownerId := ⟨"owner", by decide⟩
  nowMonotonic := ⟨"0.0", by decide⟩
  lockInstanceId := lockInstanceId
  processId := processId
  bootSessionId := "boot"

/-- Two acquisitions of different tasks. -/
def acquireFirst : AcquireTaskLock := sampleAcquisition ⟨"t1", by decide⟩ "i1" 1

def acquireSecond : AcquireTaskLock := sampleAcquisition ⟨"t2", by decide⟩ "i2" 2

/-- The three calls have started, and no statement was executed. -/
def contenders : LockPool where
  world := LockStore.initial sampleIdentity
  entries :=
    [⟨.acquire acquireFirst, [], some (lockCode sampleIdentity 0 (.acquire acquireFirst))⟩,
      ⟨.acquire acquireSecond, [], some (lockCode sampleIdentity 1 (.acquire acquireSecond))⟩,
      ⟨.read, [], some (lockCode sampleIdentity 2 .read)⟩]

theorem contenders_runs {admits : LockPool → Nat → LockStatement → Prop} :
    LockRuns sampleIdentity admits contenders := by
  have hempty : LockRuns sampleIdentity admits ⟨LockStore.initial sampleIdentity, []⟩ := .init
  have hfirst := hempty.start (LockCall.acquire acquireFirst) (by intro e he; cases he)
  have hsecond := hfirst.start (LockCall.acquire acquireSecond) (by
    intro e he b hb
    obtain rfl := List.mem_singleton.mp he
    obtain rfl := LockCall.acquire.inj hb
    decide)
  exact hsecond.start LockCall.read trivial

/-- A commit while no other call is before a statement that both windows are made of. -/
def commitsApart (pool : LockPool) (i : Nat) (statement : LockStatement) : Bool :=
  statement ≠ .commit || pool.entries.zipIdx.all (fun entry => entry.2 = i ||
    (entry.1.rest.bind Code.label?).all (fun next => next ∉ [LockStatement.validateCommitted,
      .selectCommittedGeneration, .selectCommittedAuthority, .selectCommittedLocks,
      .selectAuthority, .selectLocks]))

/-- An interleaving in which the three calls succeed: the read has seen the marker, and the second
acquisition has begun, when the first one commits. -/
def calmOrder : List Nat :=
  [2, 1, 1] ++ List.replicate 30 0 ++ List.replicate 7 2 ++ List.replicate 32 1 ++ [0, 0, 0]

/-- The first acquisition has committed when the second one commits too. -/
def raceOrder : List Nat := List.replicate 18 0 ++ List.replicate 19 1 ++ List.replicate 7 0

/-- The read has seen the generation when the first acquisition commits. -/
def tornOrder : List Nat := List.replicate 3 2 ++ List.replicate 18 0 ++ List.replicate 5 2

/-- The pool after the statements of an order. -/
def contendersAfter (order : List Nat) : LockPool := order.foldl Pool.advance contenders

theorem contendersAfter_runs {order : List Nat}
    (hallows : contenders.allows (fun _ _ _ => true) order = true) :
    LockRuns sampleIdentity AnyOrder (contendersAfter order) :=
  Runs.schedule _ (fun _ _ _ _ => trivial) contenders_runs hallows

/-- A call whose result is known, after the statements of an order. -/
theorem contendersAfter_entry {order : List Nat} {i : Nat} {c : LockCall}
    {r : Except Failure (Option WorkflowTaskLock)}
    (hc : (contenders.entries.map Entry.call)[i]? = some c)
    (hr : (contendersAfter order).result i = some r) :
    ∃ e ∈ (contendersAfter order).entries, e.call = c ∧ e.rest = some (.done r) := by
  obtain ⟨e, he, hrest⟩ := Pool.exists_of_result hr
  refine ⟨e, List.mem_of_getElem? he, ?_, hrest⟩
  rw [← Pool.map_call_foldl_advance contenders order] at hc
  rw [List.getElem?_map] at hc
  have hmap : ((contendersAfter order).entries[i]?).map Entry.call = some c := hc
  rw [he] at hmap
  exact Option.some.inj hmap

omit [Digest] in
/-- A commit that the check allows is in no window made of its statements. -/
theorem noCommitDuring_of_commitsApart {window : LockWindow}
    (hwindow : ∀ c committed next, window c committed next →
      next ∈ [some LockStatement.validateCommitted, some .selectCommittedGeneration,
        some .selectCommittedAuthority, some .selectCommittedLocks, some .selectAuthority,
        some .selectLocks]) {pool : LockPool} {i : Nat} {statement : LockStatement}
    (hcheck : commitsApart pool i statement = true) : NoCommitDuring window pool i statement := by
  rintro rfl j e rest hji hj hrest hin
  have hall : pool.entries.zipIdx.all (fun entry => entry.2 = i ||
      (entry.1.rest.bind Code.label?).all (fun next => next ∉ [LockStatement.validateCommitted,
        .selectCommittedGeneration, .selectCommittedAuthority, .selectCommittedLocks,
        .selectAuthority, .selectLocks])) = true := by simpa [commitsApart] using hcheck
  have hmem : (e, j) ∈ pool.entries.zipIdx := List.mem_zipIdx_iff_getElem?.mpr hj
  have hentry := List.all_eq_true.mp hall _ hmem
  simp only [hji, decide_false, Bool.false_or, hrest, Option.bind_some] at hentry
  have hnext := hwindow _ _ _ hin
  cases hl : rest.label? with
  | none => simp [hl] at hnext
  | some next =>
      rw [hl] at hentry hnext
      simp only [Option.all_some, decide_eq_true_eq] at hentry
      apply hentry
      simpa using hnext

omit [Digest] in
/-- The calm order is a run with either window. -/
theorem contendersAfter_calmOrder {window : LockWindow}
    (hwindow : ∀ c committed next, window c committed next →
      next ∈ [some LockStatement.validateCommitted, some .selectCommittedGeneration,
        some .selectCommittedAuthority, some .selectCommittedLocks, some .selectAuthority,
        some .selectLocks]) :
    letI := generationDigest
    LockRuns sampleIdentity (NoCommitDuring window) (contendersAfter calmOrder) := by
  let _ := generationDigest
  exact Runs.schedule commitsApart
    (fun _ _ _ => noCommitDuring_of_commitsApart hwindow) contenders_runs (by decide +kernel)

end Sample

/-! ## Section 4: The marker -/

/-- A reconciliation that nobody interrupts succeeds and leaves a marker that matches. -/
theorem run_reconcileAuthorityMarker {identity : AuthorityIdentity} {i : Nat} {w : LockStore}
    (hinv : LockInvariant identity w) (hs : Session i none w) :
    (reconcileAuthorityMarker (LockStore.view i) w.marker).run w =
      (.ok (w.tables.generation, w.tables.digest),
        { w with marker := ⟨identity, w.tables.generation, w.tables.digest⟩ }) := by
  obtain ⟨hle, hequal⟩ := hinv.recorded
  have hvalidate : (validateControlStoreConnection (LockStore.view i) .validateStore
      w.marker.identity).run w = (.ok (), w) := by
    unfold validateControlStoreConnection
    rw [Code.run_bind_of_ok (Code.run_read _ _ w), hs.view, hinv.tables, hinv.marker]
    simp only [ne_eq, not_true_eq_false, if_false]
    rfl
  have hdigest : (readAuthorityDigest (LockStore.view i) .selectAuthority .selectLocks).run w =
      (.ok w.tables.digest, w) := by
    unfold readAuthorityDigest
    rw [Code.run_bind_of_ok (Code.run_read _ _ w), Code.run_bind_of_ok (Code.run_read _ _ w),
      hs.view]
    rfl
  unfold reconcileAuthorityMarker controlStoreAuthorityGeneration
  rw [Code.run_bind_of_ok hvalidate, Code.run_bind_of_ok (Code.run_read _ _ w),
    Code.run_bind_of_ok hdigest, hs.view]
  split_ifs with hmatch hgreater
  · rw [hmatch.1, hmatch.2, ← hinv.marker]
    rfl
  · rw [Code.run_bind_of_ok (Code.run_write _ _ w), ← hinv.marker]
    rfl
  · have heq : w.marker.generation = w.tables.generation := by omega
    exact absurd ⟨heq.symm, (hequal heq).symm⟩ hmatch

/-- A connection that nobody interrupts opens. -/
theorem run_openControlConnection {identity : AuthorityIdentity} {i : Nat} {w : LockStore}
    (hinv : LockInvariant identity w) (hs : Session i none w) :
    (openControlConnection i identity).run w =
      (.ok (), { w with marker := ⟨identity, w.tables.generation, w.tables.digest⟩ }) := by
  have hidentity : (requireMarkerIdentity w.marker identity).run w = (.ok (), w) := by
    rw [requireMarkerIdentity_eq hinv.marker]
    rfl
  unfold openControlConnection
  rw [Code.run_bind_of_ok (Code.run_read _ _ w), Code.run_bind_of_ok hidentity,
    Code.run_bind_of_ok (run_reconcileAuthorityMarker hinv hs)]
  rfl

/-- **The marker is recoverable.** In every state that acquisitions, releases and reads lead to, in
any order and with crashes at any point, the generation of the marker is at most the generation of
the store, and on equal generations the digests are equal; a reconciliation that runs alone from
there, over a new connection, succeeds. -/
theorem authority_marker_recoverable {identity : AuthorityIdentity} {pool : LockPool}
    (h : LockRuns identity AnyOrder pool) :
    pool.world.marker.generation ≤ pool.world.tables.generation ∧
    (pool.world.marker.generation = pool.world.tables.generation →
      pool.world.marker.digest = pool.world.tables.digest) ∧
    ∀ i, pool.entries.length ≤ i →
      (openControlConnection i identity).run pool.world =
        (.ok (), { pool.world with
          marker := ⟨identity, pool.world.tables.generation, pool.world.tables.digest⟩ }) := by
  obtain ⟨hinv, hfresh, -⟩ := h.noWindow.secure (lockCalls noWindow identity)
  refine ⟨hinv.recorded.1, hinv.recorded.2, fun i hi => ?_⟩
  exact run_openControlConnection hinv (hfresh i hi)

omit [Digest] in
theorem authority_marker_recoverable_calmOrder :
    letI := generationDigest
    (contendersAfter calmOrder).world.tables.generation = 2 ∧
    (openControlConnection 3 sampleIdentity).run (contendersAfter calmOrder).world =
      (.ok (), { (contendersAfter calmOrder).world with
        marker := ⟨sampleIdentity, (contendersAfter calmOrder).world.tables.generation,
          (contendersAfter calmOrder).world.tables.digest⟩ }) := by
  have hruns := @contendersAfter_runs generationDigest calmOrder (by decide +kernel)
  obtain ⟨-, -, hrun⟩ := @authority_marker_recoverable generationDigest _ _ hruns
  exact ⟨by decide +kernel, hrun 3 (by decide +kernel)⟩

/-! ## Section 5: Exclusion -/

/-- The row of a lock is in the store. -/
def WorkflowTaskLock.InPlace (lock : WorkflowTaskLock) (w : LockStore) : Prop :=
  ∃ row ∈ w.tables.locks, row.taskId = lock.taskId ∧ row.ownerId = lock.ownerId ∧
    row.lockInstanceId = lock.lockInstanceId

/-- No release of a lock was called. -/
def NotReleased (pool : LockPool) (lock : WorkflowTaskLock) : Prop :=
  ∀ e ∈ pool.entries, e.call ≠ .release lock

/-- A lock that was returned is in place until a release of it commits. -/
theorem LockRuns.inPlace {window : LockWindow} {identity : AuthorityIdentity} {pool : LockPool}
    (h : LockRuns identity (NoCommitDuring window) pool) {e : LockEntry} {lock : WorkflowTaskLock}
    (he : e ∈ pool.entries) (hreturned : LockEntry.Returned e lock)
    (hreleases : ∀ e' ∈ pool.entries, e'.call = .release lock → commits e'.past = []) :
    lock.InPlace pool.world := by
  obtain ⟨i, hi⟩ := List.getElem?_of_mem he
  obtain ⟨a, hcall, rfl, hrest⟩ := hreturned
  have hpost := h.result (lockCalls window identity) hi hrest
  obtain ⟨-, event, hevent, hrow⟩ := hpost.acquired a _ hcall rfl
  rcases h.row_or_released hi hevent hrow with hthere | ⟨j, e', lock, hj, hrelease, howns, hcommit⟩
  · exact ⟨a.row, hthere, rfl, rfl, rfl⟩
  · obtain ⟨k, e'', hk, b, hb, rfl, hrest'⟩ := released_was_returned h hj hrelease
    have hik : k = i := acquisition_unique h hk hi hb hcall howns.2.symm
    subst hik
    rw [hi] at hk
    obtain rfl := Option.some.inj hk
    rw [hcall] at hb
    obtain rfl := LockCall.acquire.inj hb
    exact absurd (hreleases e' (List.mem_of_getElem? hj) hrelease) hcommit

/-- **Mutual exclusion.** In every interleaving of acquisitions and releases, a lock that was
returned and on which no release was called owns the row of its task; two such locks of one task
are the same; and a release never deletes a row of another instance. -/
theorem task_locks_exclusive {identity : AuthorityIdentity} {pool : LockPool}
    (h : LockRuns identity AnyOrder pool) :
    (∀ e ∈ pool.entries, ∀ lock, LockEntry.Returned e lock → NotReleased pool lock →
      lock.InPlace pool.world) ∧
    (∀ e ∈ pool.entries, ∀ e' ∈ pool.entries, ∀ lock lock', LockEntry.Returned e lock →
      LockEntry.Returned e' lock' → NotReleased pool lock → NotReleased pool lock' →
      lock.taskId = lock'.taskId → lock = lock') ∧
    (∀ e ∈ pool.entries, ∀ lock, e.call = .release lock → ∀ event ∈ e.past,
      ∀ row ∈ event.before.tables.locks, row ∉ event.after.tables.locks →
      row.taskId = lock.taskId ∧ row.lockInstanceId = lock.lockInstanceId) := by
  have hplace : ∀ e ∈ pool.entries, ∀ lock, LockEntry.Returned e lock → NotReleased pool lock →
      lock.InPlace pool.world := fun e he lock hreturned hnot =>
    h.noWindow.inPlace he hreturned (fun e' he' hcall => absurd hcall (hnot e' he'))
  refine ⟨hplace, ?_, ?_⟩
  · intro e he e' he' lock lock' hreturned hreturned' hnot hnot' htask
    obtain ⟨row, hrow, hrowTask, -, hinstance⟩ := hplace e he lock hreturned hnot
    obtain ⟨row', hrow', hrowTask', -, hinstance'⟩ := hplace e' he' lock' hreturned' hnot'
    obtain ⟨a, hcall, rfl, hrest⟩ := hreturned
    obtain ⟨b, hcall', rfl, hrest'⟩ := hreturned'
    -- the tasks of the rows are distinct, so both locks own one row
    have hnodup := (h.noWindow.secure (lockCalls noWindow identity)).1.tasks
    have hsame : row = row' := by
      have hfind := find?_task hnodup hrow
      rw [hrowTask, htask, ← hrowTask', find?_task hnodup hrow'] at hfind
      exact (Option.some.inj hfind).symm
    obtain ⟨i, hi⟩ := List.getElem?_of_mem he
    obtain ⟨j, hj⟩ := List.getElem?_of_mem he'
    have hid : a.lock.lockInstanceId = b.lock.lockInstanceId := by
      rw [← hinstance, ← hinstance', hsame]
    obtain rfl := acquisition_unique h hi hj hcall hcall' hid
    rw [hi] at hj
    obtain rfl := Option.some.inj hj
    rw [hcall] at hcall'
    rw [LockCall.acquire.inj hcall']
  · intro e he lock hcall event hevent row hrow hgone
    obtain ⟨i, hi⟩ := List.getElem?_of_mem he
    by_contra hnot
    apply hgone
    apply (h.noWindow.stepOf hi hevent).keeps_row hrow
    intro lock' hcall' _ howns
    rw [hcall] at hcall'
    obtain rfl := LockCall.release.inj hcall'
    exact hnot howns

omit [Digest] in
theorem task_locks_exclusive_calmOrder :
    letI := generationDigest
    acquireFirst.lock.InPlace (contendersAfter calmOrder).world ∧
      acquireSecond.lock.InPlace (contendersAfter calmOrder).world := by
  let _ := generationDigest
  obtain ⟨hplace, -, -⟩ := task_locks_exclusive
    (@contendersAfter_runs _ calmOrder (by decide +kernel))
  have hreturned : ∀ (i : Nat) (a : AcquireTaskLock), NotReleased (contendersAfter calmOrder) a.lock →
      (contenders.entries.map Entry.call)[i]? = some (.acquire a) →
      (contendersAfter calmOrder).result i = some (.ok (some a.lock)) →
      a.lock.InPlace (contendersAfter calmOrder).world := by
    intro i a hnot hcall hresult
    obtain ⟨e, he, hcall, hrest⟩ := contendersAfter_entry hcall hresult
    exact hplace e he a.lock ⟨a, hcall, rfl, hrest⟩ hnot
  have hnot : ∀ lock, NotReleased (contendersAfter calmOrder) lock := by
    intro lock e he hcall
    have hmem : LockCall.release lock ∈ contenders.entries.map Entry.call := by
      rw [← Pool.map_call_foldl_advance contenders calmOrder, ← hcall]
      exact List.mem_map_of_mem he
    simp [contenders] at hmem
  exact ⟨hreturned 0 acquireFirst (hnot _) rfl (by decide +kernel),
    hreturned 1 acquireSecond (hnot _) rfl (by decide +kernel)⟩

/-! ## Section 6: Failure atomicity -/

/-- An acquisition that raised left no row of its instance; a release that raised deleted nothing,
and a lock whose releases have all raised is still in place. -/
structure FailureAtomic (pool : LockPool) : Prop where
  acquire : ∀ e ∈ pool.entries, ∀ a, e.call = .acquire a → LockEntry.Raised e →
    ∀ row ∈ pool.world.tables.locks, row.lockInstanceId ≠ a.lockInstanceId
  release : ∀ e ∈ pool.entries, ∀ lock, e.call = .release lock → LockEntry.Raised e →
    ∀ event ∈ e.past, ∀ row ∈ event.before.tables.locks, row ∈ event.after.tables.locks
  inPlace : ∀ e ∈ pool.entries, ∀ lock, LockEntry.Returned e lock →
    (∀ e' ∈ pool.entries, e'.call = .release lock → LockEntry.Raised e') →
    lock.InPlace pool.world

/-- After a commit: before the statements of its re-read, and before those of the digest when the
connection is opened again. -/
def afterCommitWindow : LockWindow := fun _ committed next =>
  committed ∧ next ∈ [some LockStatement.validateCommitted, some .selectCommittedGeneration,
    some .selectCommittedAuthority, some .selectCommittedLocks, some .selectAuthority,
    some .selectLocks]

omit [Digest] in
theorem quietAfterCommit_afterCommitWindow (c : LockCall) :
    QuietAfterCommit afterCommitWindow c := by
  refine ⟨fun l hl => ⟨trivial, ?_⟩, ⟨trivial, by simp⟩, trivial, by simp⟩
  simp only [List.mem_cons, List.not_mem_nil, or_false] at hl
  rcases hl with rfl | rfl | rfl | rfl <;> simp

/-- **Failure atomicity.** In every run in which no call commits while another one, after its own
commit, reads what it compares, a call that raises has changed nothing. -/
theorem lock_calls_failure_atomic {identity : AuthorityIdentity} {pool : LockPool}
    (h : LockRuns identity (NoCommitDuring afterCommitWindow) pool) : FailureAtomic pool := by
  -- a call that raised has committed nothing
  have hraised : ∀ {i : Nat} {e : LockEntry}, pool.entries[i]? = some e → LockEntry.Raised e →
      commits e.past = [] := by
    rintro i e hi ⟨failure, hrest⟩
    have hpost := h.result (lockCalls afterCommitWindow identity) hi hrest
    exact (hpost.failed failure rfl).resolve_right
      (not_not.mpr (quietAfterCommit_afterCommitWindow e.call))
  refine ⟨?_, ?_, ?_⟩
  · intro e he a hcall hr row hrow hid
    obtain ⟨i, hi⟩ := List.getElem?_of_mem he
    obtain ⟨j, e', b, hj, hcall', rfl, hcommit⟩ := h.row_committed hrow
    obtain rfl := acquisition_unique h hj hi hcall' hcall hid
    rw [hi] at hj
    obtain rfl := Option.some.inj hj
    exact hcommit (hraised hi hr)
  · intro e he lock hcall hr event hevent row hrow
    obtain ⟨i, hi⟩ := List.getElem?_of_mem he
    apply (h.stepOf hi hevent).keeps_row hrow
    intro _ _ hcommit _
    have hmem : event ∈ commits e.past := List.mem_filter.mpr ⟨hevent, by simpa using hcommit⟩
    rw [hraised hi hr] at hmem
    cases hmem
  · intro e he lock hreturned hall
    apply h.inPlace he hreturned
    intro e' he' hcall
    obtain ⟨j, hj⟩ := List.getElem?_of_mem he'
    exact hraised hj (hall e' he' hcall)

omit [Digest] in
theorem lock_calls_failure_atomic_calmOrder :
    letI := generationDigest
    FailureAtomic (contendersAfter calmOrder) ∧
    (contendersAfter calmOrder).result 0 = some (.ok (some acquireFirst.lock)) ∧
    (contendersAfter calmOrder).result 1 = some (.ok (some acquireSecond.lock)) := by
  let _ := generationDigest
  exact ⟨lock_calls_failure_atomic (contendersAfter_calmOrder (fun _ _ _ h => h.2)),
    by decide +kernel, by decide +kernel⟩

omit [Digest] in
/-- The second acquisition commits between the commit of the first one and its re-read: the first
one raises, and its row is there. -/
theorem lock_calls_not_failure_atomic :
    letI := generationDigest
    LockRuns sampleIdentity AnyOrder (contendersAfter raceOrder) ∧
    ¬ FailureAtomic (contendersAfter raceOrder) := by
  let _ := generationDigest
  refine ⟨contendersAfter_runs (by decide +kernel),
    fun (hatomic : FailureAtomic (contendersAfter raceOrder)) => ?_⟩
  have hresult : (contendersAfter raceOrder).result 0 = some (.error commitDidNotLand) := by
    decide +kernel
  obtain ⟨e, he, hcall, hrest⟩ := contendersAfter_entry (c := .acquire acquireFirst) rfl hresult
  have hrow : acquireFirst.lockInstanceId ∈
      (contendersAfter raceOrder).world.tables.locks.map LockRow.lockInstanceId := by
    decide +kernel
  obtain ⟨row, hrow, hid⟩ := List.mem_map.mp hrow
  exact hatomic.acquire e he acquireFirst hcall ⟨_, hrest⟩ row hrow hid

/-! ## Section 7: Readers -/

/-- No read reported that the marker is not recoverable, or anything else. -/
def ReadersSucceed (pool : LockPool) : Prop :=
  ∀ e ∈ pool.entries, e.call = .read → ¬ LockEntry.Raised e

/-- Between the generation that a read has seen and the tables that it digests. -/
def tornReadWindow : LockWindow := fun c _ next =>
  c = .read ∧ next ∈ [some LockStatement.selectAuthority, some .selectLocks]

/-- **Readers report no corruption** in every run in which no call commits between the generation
that a read has seen and the tables that it digests. -/
theorem readers_report_no_corruption {identity : AuthorityIdentity} {pool : LockPool}
    (h : LockRuns identity (NoCommitDuring tornReadWindow) pool) : ReadersSucceed pool := by
  rintro e he hcall ⟨failure, hrest⟩
  obtain ⟨i, hi⟩ := List.getElem?_of_mem he
  have hpost := h.result (lockCalls tornReadWindow identity) hi hrest
  apply hpost.readable failure hcall rfl
  exact ⟨⟨hcall, by simp⟩, hcall, by simp⟩

omit [Digest] in
theorem readers_report_no_corruption_calmOrder :
    letI := generationDigest
    ReadersSucceed (contendersAfter calmOrder) ∧
    (contendersAfter calmOrder).result 2 = some (.ok none) := by
  let _ := generationDigest
  refine ⟨readers_report_no_corruption (contendersAfter_calmOrder ?_), by decide +kernel⟩
  rintro _ _ _ ⟨-, hnext⟩
  rcases List.mem_pair.mp hnext with rfl | rfl <;> simp

omit [Digest] in
/-- The first acquisition commits between the generation that the read has seen and the tables
that it digests: the read reports a marker that is not recoverable. -/
theorem readers_report_false_corruption :
    letI := generationDigest
    LockRuns sampleIdentity AnyOrder (contendersAfter tornOrder) ∧
    ¬ ReadersSucceed (contendersAfter tornOrder) ∧
    (contendersAfter tornOrder).result 2 = some (.error markerNotRecoverable) := by
  let _ := generationDigest
  have hresult : (contendersAfter tornOrder).result 2 = some (.error markerNotRecoverable) := by
    decide +kernel
  refine ⟨contendersAfter_runs (by decide +kernel), fun hsucceed => ?_, hresult⟩
  obtain ⟨e, he, hcall, hrest⟩ := contendersAfter_entry (c := .read) rfl hresult
  exact hsucceed e he hcall ⟨_, hrest⟩

end Acgps
