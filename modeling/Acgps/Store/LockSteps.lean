import Acgps.Store.TaskLocks

/-!
# What one statement does to the lock store

Every statement of every call is one of a few kinds of steps, and a call relies on nothing but the
fact that the others make such steps too. The specifications of the programs are proved against
these steps.

## Main Definitions

* `Recorded` - a generation and a digest that the tables explain
* `LockStep` - what a statement of a call can do
* `LockInvariant` - **marker and tables fit**, in every state reached
* `Relies` - the steps of other calls
* `Session` - what a connection knows about its transaction

## Key Theorems

* `LockStep.keeps` - every step keeps the invariant
* `Recorded.of_reads` - a generation and a digest read while others commit are recorded
* `secure_read`, `secure_write` - the rules for one statement
-/

namespace Acgps

open Checked RelyGuarantee Relation

variable [Digest]

/-! ## Section 1: Generations and digests -/

/-- Tables that are the same or of a later generation. -/
def Since (tables tables' : LockTables) : Prop :=
  tables' = tables ∨ tables.generation < tables'.generation

omit [Digest] in
theorem Since.refl (tables : LockTables) : Since tables tables := .inl rfl

omit [Digest] in
theorem Since.trans {t t' t'' : LockTables} (h : Since t t') (h' : Since t' t'') : Since t t'' := by
  rcases h with rfl | h
  · exact h'
  · rcases h' with rfl | h'
    · exact .inr h
    · exact .inr (h.trans h')

omit [Digest] in
theorem Since.generation_le {t t' : LockTables} (h : Since t t') : t.generation ≤ t'.generation := by
  rcases h with rfl | h
  · exact le_rfl
  · exact h.le

omit [Digest] in
/-- Tables of the same generation are the same. -/
theorem Since.eq {t t' : LockTables} (h : Since t t') (hle : t'.generation ≤ t.generation) :
    t' = t := by
  rcases h with h | h
  · exact h
  · exact absurd h (by omega)

/-- A generation that the tables have reached, with their digest if it is the current one. -/
def Recorded (generation : Nat) (digest : String) (tables : LockTables) : Prop :=
  generation ≤ tables.generation ∧ (generation = tables.generation → digest = tables.digest)

theorem Recorded.self (tables : LockTables) : Recorded tables.generation tables.digest tables :=
  ⟨le_rfl, fun _ => rfl⟩

theorem Recorded.since {generation : Nat} {digest : String} {t t' : LockTables}
    (h : Recorded generation digest t) (hsince : Since t t') : Recorded generation digest t' := by
  rcases hsince with rfl | hlt
  · exact h
  · exact ⟨h.1.trans hlt.le, fun heq => absurd h.1 (by omega)⟩

/-- **A digest of two statements.** Even when other calls commit between the statement that reads
the generation and those that the digest is made of, the pair is recorded. -/
theorem Recorded.of_reads {t t₁ t₂ t₃ : LockTables} (h₁ : Since t t₁) (h₂ : Since t₁ t₂)
    (h₃ : Since t₂ t₃) :
    Recorded t.generation (controlStoreAuthorityDigest t₁.identity t₁.generation t₂.locks) t₃ := by
  have hle₁ := h₁.generation_le
  have hle₂ := h₂.generation_le
  refine ⟨hle₁.trans (hle₂.trans h₃.generation_le), fun heq => ?_⟩
  obtain rfl := h₃.eq (by omega)
  obtain rfl := h₂.eq (by omega)
  rfl

/-! ## Section 2: Steps -/

/-- How a commit of a call changes the rows of `task_locks`. -/
def Changes : LockCall → List LockRow → List LockRow → Prop
  | .acquire a, rows, rows' => rows' = rows ++ [a.row] ∧ ∀ row ∈ rows, row.taskId ≠ a.taskId.val
  | .release lock, rows, rows' => rows' = rows.filter (fun row => ¬ lock.Owns row)
  | .read, _, _ => False

/-- **What a statement of a call can do**: look; open, change, commit or drop its own transaction;
publish a marker that is recorded; or change what its process remembers. -/
inductive LockStep (i : Nat) (c : LockCall) : LockStatement → LockStore → LockStore → Prop
  | look {l : LockStatement} (w : LockStore) : LockStep i c l w w
  | begin {l : LockStatement} {w : LockStore} (hfree : w.transaction = none) :
      LockStep i c l w { w with transaction := some (i, w.tables) }
  | edit {l : LockStatement} {w : LockStore} {copy copy' : LockTables}
      (hown : w.transaction = some (i, copy)) :
      LockStep i c l w { w with transaction := some (i, copy') }
  | commit {w : LockStore} {copy : LockTables} (hown : w.transaction = some (i, copy))
      (hidentity : copy.identity = w.tables.identity)
      (hgeneration : copy.generation = w.tables.generation + 1)
      (hlocks : Changes c w.tables.locks copy.locks) :
      LockStep i c .commit w { w with tables := copy, transaction := none }
  | drop {l : LockStatement} {w : LockStore} {copy : LockTables}
      (hown : w.transaction = some (i, copy)) : LockStep i c l w { w with transaction := none }
  | publish {l : LockStatement} {w : LockStore} {marker : AuthorityMarker}
      (hidentity : marker.identity = w.marker.identity)
      (hrecorded : Recorded marker.generation marker.digest w.tables) :
      LockStep i c l w { w with marker := marker }
  | remember {l : LockStatement} {w : LockStore} {held : List (Nat × String)}
      {released : List String} : LockStep i c l w { w with held := held, released := released }

/-- **The invariant**: marker and tables have one identity, the marker is recorded, and no task is
locked twice. -/
structure LockInvariant (identity : AuthorityIdentity) (w : LockStore) : Prop where
  tables : w.tables.identity = identity
  marker : w.marker.identity = identity
  recorded : Recorded w.marker.generation w.marker.digest w.tables
  tasks : (w.tables.locks.map LockRow.taskId).Nodup

theorem LockInvariant.initial (identity : AuthorityIdentity) :
    LockInvariant identity (LockStore.initial identity) where
  tables := rfl
  marker := rfl
  recorded := Recorded.self ⟨identity, 0, []⟩
  tasks := List.nodup_nil

omit [Digest] in
/-- The rows after a commit still have distinct tasks. -/
theorem Changes.nodup {c : LockCall} {rows rows' : List LockRow} (h : Changes c rows rows')
    (hnodup : (rows.map LockRow.taskId).Nodup) : (rows'.map LockRow.taskId).Nodup := by
  cases c with
  | acquire a =>
      obtain ⟨rfl, hfresh⟩ := h
      rw [List.map_append, List.nodup_append]
      refine ⟨hnodup, List.nodup_singleton _, fun task htask task' htask' => ?_⟩
      obtain ⟨row, hrow, rfl⟩ := List.mem_map.mp htask
      rw [List.mem_singleton.mp htask']
      exact hfresh row hrow
  | release lock =>
      obtain rfl : rows' = _ := h
      exact hnodup.sublist (List.filter_sublist.map _)
  | read => exact h.elim

omit [Digest] in
/-- Tasks are a key of `task_locks`. -/
theorem find?_task {rows : List LockRow} {row : LockRow}
    (hnodup : (rows.map LockRow.taskId).Nodup) (hrow : row ∈ rows) :
    rows.find? (·.taskId = row.taskId) = some row := by
  induction rows with
  | nil => cases hrow
  | cons first rows ih =>
      obtain ⟨hfirst, hnodup⟩ := List.nodup_cons.mp hnodup
      rcases List.mem_cons.mp hrow with rfl | hrow
      · simp
      · have hne : first.taskId ≠ row.taskId := fun heq =>
          hfirst (heq ▸ List.mem_map_of_mem hrow)
        rw [List.find?_cons_of_neg (by simpa using hne)]
        exact ih hnodup hrow

namespace LockStep

variable {i j : Nat} {c c' : LockCall} {l : LockStatement} {w w' : LockStore}

/-- A step either leaves the committed tables alone, or commits the next generation. -/
theorem since (h : LockStep i c l w w') : Since w.tables w'.tables := by
  cases h with
  | commit _ _ hgeneration _ => exact .inr (hgeneration ▸ Nat.lt_succ_self _)
  | _ => exact .refl _

theorem tables_eq (h : LockStep i c l w w') (hl : l ≠ .commit) : w'.tables = w.tables := by
  cases h with
  | commit => exact absurd rfl hl
  | _ => rfl

/-- **Every step keeps the invariant.** -/
theorem keeps {identity : AuthorityIdentity} (hinv : LockInvariant identity w)
    (h : LockStep i c l w w') : LockInvariant identity w' := by
  have hrecorded := hinv.recorded.since h.since
  cases h with
  | commit hown hidentity hgeneration hlocks =>
      exact ⟨hidentity.trans hinv.tables, hinv.marker, hrecorded, hlocks.nodup hinv.tasks⟩
  | publish hidentity hmarker =>
      exact ⟨hinv.tables, hidentity.trans hinv.marker, hmarker, hinv.tasks⟩
  | look => exact hinv
  | begin => exact ⟨hinv.tables, hinv.marker, hrecorded, hinv.tasks⟩
  | edit => exact ⟨hinv.tables, hinv.marker, hrecorded, hinv.tasks⟩
  | drop => exact ⟨hinv.tables, hinv.marker, hrecorded, hinv.tasks⟩
  | remember => exact ⟨hinv.tables, hinv.marker, hrecorded, hinv.tasks⟩

/-- A row stays, unless it belongs to the lock that a commit releases. -/
theorem keeps_row {row : LockRow} (h : LockStep i c l w w') (hrow : row ∈ w.tables.locks)
    (hother : ∀ lock, c = .release lock → l = .commit → ¬ lock.Owns row) :
    row ∈ w'.tables.locks := by
  cases h with
  | commit _ _ _ hlocks =>
      cases c with
      | acquire a =>
          obtain ⟨hrows, -⟩ := hlocks
          rw [hrows]
          exact List.mem_append_left _ hrow
      | release lock =>
          rw [show _ = _ from hlocks]
          exact List.mem_filter.mpr ⟨hrow, by simpa using hother lock rfl rfl⟩
      | read => exact hlocks.elim
  | _ => exact hrow

/-- A row that is new is the row of the acquisition that commits. -/
theorem new_row {row : LockRow} (h : LockStep i c l w w') (hrow : row ∈ w'.tables.locks)
    (hnew : row ∉ w.tables.locks) : l = .commit ∧ ∃ a, c = .acquire a ∧ row = a.row := by
  cases h with
  | commit _ _ _ hlocks =>
      cases c with
      | acquire a =>
          obtain ⟨hrows, -⟩ := hlocks
          rcases List.mem_append.mp (hrows ▸ hrow) with hold | hlast
          · exact absurd hold hnew
          · exact ⟨rfl, a, rfl, List.mem_singleton.mp hlast⟩
      | release lock =>
          rw [show _ = _ from hlocks] at hrow
          exact absurd (List.mem_filter.mp hrow).1 hnew
      | read => exact hlocks.elim
  | _ => exact absurd hrow hnew

/-- What the end of a connection does. -/
theorem dropTransaction (i : Nat) (c : LockCall) (l : LockStatement) (w : LockStore) :
    LockStep i c l w (w.dropTransaction i) := by
  unfold LockStore.dropTransaction
  split
  · next j copy hown =>
      split
      · next hij => exact .drop (hij ▸ hown)
      · exact .look w
  · exact .look w

end LockStep

/-! ## Section 3: Connections -/

/-- What a connection knows of its transaction: it has none, or one in which nothing was changed
yet. -/
def Session (i : Nat) : Option LockTables → LockStore → Prop
  | none, w => ∀ copy, w.transaction ≠ some (i, copy)
  | some tables, w => w.transaction = some (i, tables) ∧ w.tables = tables

/-- A connection with changes of its own: what it began with, and its copy. -/
def Inside (i : Nat) (tables copy : LockTables) (w : LockStore) : Prop :=
  w.transaction = some (i, copy) ∧ w.tables = tables

section Sessions

variable {i j : Nat} {c : LockCall} {l : LockStatement} {w w' : LockStore}

omit [Digest] in
/-- Outside a transaction, or before any change in one, a connection sees the committed tables. -/
theorem Session.view {s : Option LockTables} (h : Session i s w) : w.view i = w.tables := by
  unfold LockStore.view
  cases s with
  | none =>
      split
      · next j copy hown =>
          rw [if_neg]
          exact fun hij => h copy (hij ▸ hown)
      · rfl
  | some tables =>
      rw [h.1]
      simp [h.2]

omit [Digest] in
theorem Inside.view {tables copy : LockTables} (h : Inside i tables copy w) : w.view i = copy := by
  simp [LockStore.view, h.1]

/-- The steps of another connection leave a transaction and the tables under it alone. -/
theorem Inside.stable {tables copy : LockTables} (h : Inside i tables copy w) (hij : j ≠ i)
    (hstep : LockStep j c l w w') : Inside i tables copy w' := by
  obtain ⟨hown, htables⟩ := h
  have hne : ∀ {copy'}, w.transaction ≠ some (j, copy') := by
    intro copy' heq
    rw [hown] at heq
    exact hij (congrArg Prod.fst (Option.some.inj heq)).symm
  cases hstep with
  | begin hfree =>
      rw [hown] at hfree
      cases hfree
  | edit hother => exact absurd hother hne
  | commit hother => exact absurd hother hne
  | drop hother => exact absurd hother hne
  | look => exact ⟨hown, htables⟩
  | publish => exact ⟨hown, htables⟩
  | remember => exact ⟨hown, htables⟩

theorem Session.stable {s : Option LockTables} (h : Session i s w) (hij : j ≠ i)
    (hstep : LockStep j c l w w') : Session i s w' := by
  cases s with
  | some tables => exact Inside.stable h hij hstep
  | none =>
      intro copy
      cases hstep with
      | begin =>
          intro heq
          exact hij (congrArg Prod.fst (Option.some.inj heq))
      | edit =>
          intro heq
          exact hij (congrArg Prod.fst (Option.some.inj heq))
      | commit => simp
      | drop => simp
      | look => exact h copy
      | publish => exact h copy
      | remember => exact h copy

omit [Digest] in
theorem Session.publish {s : Option LockTables} {marker : AuthorityMarker} (h : Session i s w) :
    Session i s { w with marker := marker } := by
  cases s <;> exact h

omit [Digest] in
theorem session_dropTransaction (i : Nat) (w : LockStore) :
    Session i none (w.dropTransaction i) := by
  intro copy heq
  unfold LockStore.dropTransaction at heq
  split at heq
  · next j copy' hown =>
      split at heq
      · cases heq
      · next hij =>
          rw [hown] at heq
          exact hij (congrArg Prod.fst (Option.some.inj heq))
  · next hnone =>
      rw [hnone] at heq
      cases heq

end Sessions

/-! ## Section 4: What a call relies on -/

/-- The steps of other calls. Nobody releases the instance of an acquisition that has not returned
yet, and nobody commits while the call is in the window. -/
def Relies (window : LockWindow) (i : Nat) (c : LockCall) (past : List LockEvent)
    (next : Option LockStatement) (w w' : LockStore) : Prop :=
  ∃ j c' l, j ≠ i ∧ LockStep j c' l w w' ∧
    (∀ a lock, c = .acquire a → c' = .release lock → lock.lockInstanceId ≠ a.lockInstanceId) ∧
    (l = .commit → ¬ window c (commits past ≠ []) next)

/-- A program of connection `i` is secure among the steps of other calls. -/
abbrev LockSecure {α : Type} (window : LockWindow) (identity : AuthorityIdentity) (i : Nat)
    (c : LockCall) (Q : List LockEvent → Except Failure α → LockStore → Prop) :
    List LockEvent → LockCode α → LockStore → Prop :=
  Secure (Relies window i c) (LockInvariant identity)
    (fun event => LockStep i c event.label event.before event.after) Q

section Rely

variable {window : LockWindow} {identity : AuthorityIdentity} {i : Nat} {c : LockCall}
  {past : List LockEvent} {next : Option LockStatement} {w w' : LockStore}

namespace Relies

theorem since (h : Relies window i c past next w w') : Since w.tables w'.tables := by
  obtain ⟨_, _, _, -, hstep, -, -⟩ := h
  exact hstep.since

theorem session {s : Option LockTables} (h : Relies window i c past next w w')
    (hs : Session i s w) : Session i s w' := by
  obtain ⟨_, _, _, hij, hstep, -, -⟩ := h
  exact hs.stable hij hstep

theorem inside {tables copy : LockTables} (h : Relies window i c past next w w')
    (hs : Inside i tables copy w) : Inside i tables copy w' := by
  obtain ⟨_, _, _, hij, hstep, -, -⟩ := h
  exact hs.stable hij hstep

/-- In the window the tables do not change. -/
theorem tables_eq (h : Relies window i c past next w w')
    (hwindow : window c (commits past ≠ []) next) : w'.tables = w.tables := by
  obtain ⟨_, _, l, -, hstep, -, hquiet⟩ := h
  exact hstep.tables_eq (fun hl => hquiet hl hwindow)

/-- The row of an acquisition that has not returned yet stays. -/
theorem row {a : AcquireTaskLock} (h : Relies window i (.acquire a) past next w w')
    (hrow : a.row ∈ w.tables.locks) : a.row ∈ w'.tables.locks := by
  obtain ⟨_, _, _, -, hstep, hrelease, -⟩ := h
  exact hstep.keeps_row hrow (fun lock hc _ hown => hrelease a lock rfl hc hown.2.symm)

end Relies

omit [Digest] in
@[simp] theorem commits_append (past past' : List LockEvent) :
    commits (past ++ past') = commits past ++ commits past' := List.filter_append ..

omit [Digest] in
@[simp] theorem commits_nil : commits [] = [] := rfl

omit [Digest] in
@[simp] theorem commits_cons_of_ne {l : LockStatement} (hl : l ≠ .commit) (w w' : LockStore) :
    commits (⟨l, w, w'⟩ :: past) = commits past := by
  simp [commits, hl]

omit [Digest] in
@[simp] theorem commits_cons_commit (w w' : LockStore) :
    commits (⟨.commit, w, w'⟩ :: past) = ⟨.commit, w, w'⟩ :: commits past := rfl

section Rules

variable {α β : Type} {Q : List LockEvent → Except Failure α → LockStore → Prop}
  {P : LockStore → Prop} {l : LockStatement}

/-- A read: what is known of the world has to be stable. -/
theorem secure_read {f : LockStore → β} {k : β → LockCode α}
    (hstable : ∀ v v', Relies window i c past (some l) v v' → P v → P v') (hw : P w)
    (hrest : ∀ v, P v → LockInvariant identity v →
      LockSecure window identity i c Q (past ++ [⟨l, v, v⟩]) (k (f v)) v) :
    LockSecure window identity i c Q past (Code.read l f >>= k) w := by
  intro v hrely hinv
  have hv := star_keeps hstable hrely hw
  exact ⟨.look v, hrest v hv hinv⟩

/-- A read at the end. -/
theorem secure_last_read {f : LockStore → α}
    (hstable : ∀ v v', Relies window i c past (some l) v v' → P v → P v') (hw : P w)
    (hrest : ∀ v, P v → LockInvariant identity v → Q (past ++ [⟨l, v, v⟩]) (.ok (f v)) v) :
    LockSecure window identity i c Q past (Code.read l f) w := by
  intro v hrely hinv
  have hv := star_keeps hstable hrely hw
  exact ⟨.look v, hrest v hv hinv⟩

/-- A write: it has to be a step. -/
theorem secure_write {x : LockStore → LockStore} {k : Unit → LockCode α}
    (hstable : ∀ v v', Relies window i c past (some l) v v' → P v → P v') (hw : P w)
    (hstep : ∀ v, P v → LockInvariant identity v → LockStep i c l v (x v))
    (hrest : ∀ v, P v → LockInvariant identity v →
      LockSecure window identity i c Q (past ++ [⟨l, v, x v⟩]) (k ()) (x v)) :
    LockSecure window identity i c Q past (Code.write l x >>= k) w := by
  intro v hrely hinv
  have hv := star_keeps hstable hrely hw
  exact ⟨hstep v hv hinv, hrest v hv hinv⟩

/-- `_validate_control_store_connection` finds the identity of the store. -/
theorem validateControlStoreConnection_secure {view : LockStore → LockTables}
    (hl : l ≠ .commit)
    (hstable : ∀ v v', Relies window i c past (some l) v v' → P v → P v') (hw : P w)
    (hview : ∀ v, P v → LockInvariant identity v → (view v).identity = identity) :
    LockSecure window identity i c
      (fun past' r w' => commits past' = commits past ∧ P w' ∧ r = .ok ())
      past (validateControlStoreConnection view l identity) w := by
  unfold validateControlStoreConnection
  apply secure_read hstable hw
  intro v hv hinv
  simp only [hview v hv hinv, ne_eq, not_true_eq_false, if_false]
  exact ⟨by simp [hl], hv, rfl⟩

omit [Digest] in
/-- A marker with the identity of the store passes. -/
theorem requireMarkerIdentity_eq {marker : AuthorityMarker} (hmarker : marker.identity = identity) :
    requireMarkerIdentity marker identity = pure () := by
  simp [requireMarkerIdentity, hmarker]

end Rules

end Rely

end Acgps
