import Acgps.Lib.RelyGuarantee
import Acgps.Store.ControlStore

/-!
# Task locks

The rows of `task_locks`, the generation that every lock transaction advances, and the authority
marker next to the database. A call is a program of single statements: any number of calls of any
number of processes run at once, and a call may crash between two of its statements.

## Main Definitions

* `LockTables`, `AuthorityMarker`, `LockStore` - the database, the marker file, and what the
  processes remember
* `openControlConnection`, `beginAuthorityTransaction`, `commitAuthorityTransaction` - the steps
  that all calls share
* `acquireTaskLock`, `release`, `readControlStore` - the calls
* `LockRuns` - the pools that calls, statements and crashes in any order lead to
-/

namespace Acgps

open Checked RelyGuarantee

/-! ## Section 1: Tables and marker -/

/-- The identity columns of `control_authority`, which no call changes. -/
structure AuthorityIdentity where
  authorityId : String
  rootBinding : String
  deriving DecidableEq

/-- A row of `task_locks`. -/
structure LockRow where
  taskId : String
  ownerId : String
  lockInstanceId : String
  lockRecord : Json
  deriving DecidableEq

/-- The row of `control_authority` and the rows of `task_locks`. -/
structure LockTables where
  identity : AuthorityIdentity
  generation : Nat
  locks : List LockRow
  deriving DecidableEq

/-- The fields of the marker file that vary, with the identity it is bound to. -/
structure AuthorityMarker where
  identity : AuthorityIdentity
  generation : Nat
  digest : String
  deriving DecidableEq

/-- `CONTROL_STORE_APPLICATION_ID`. -/
def controlStoreApplicationId : Int := 0x41434750

/-- `CONTROL_STORE_USER_VERSION`. -/
def controlStoreUserVersion : Int := 1

/-- `CONTROL_STORE_AUTHORITY_DIGEST_VERSION`. -/
def controlStoreAuthorityDigestVersion : Int := 2

/-- `_authority_digest_value` of a text. -/
def digestText (value : String) : Json :=
  .obj [("storage_class", .str "text"), ("value", .str value)]

/-- `_authority_digest_value` of an integer. -/
def digestInteger (value : Int) : Json :=
  .obj [("storage_class", .str "integer"), ("value", .int value)]

/-- The cell of `lock_record_json`: the canonical text of the record and a line feed. -/
def LockRow.lockRecordJson (row : LockRow) : String :=
  String.ofList (row.lockRecord.dumps ++ ['\n'])

/-- One table of the authority digest. -/
def digestTable (table : String) (columns : List String) (rows : List (List Json)) : Json :=
  .obj [("columns", .arr (columns.map .str)), ("rows", .arr (rows.map .arr)),
    ("table", .str table)]

section Digests

variable [Digest]

/-- `_control_store_authority_digest`, of the row of one statement and the rows of the next. -/
def controlStoreAuthorityDigest (identity : AuthorityIdentity) (generation : Nat)
    (locks : List LockRow) : String :=
  canonicalSha (.obj
    [("schema_version", .int controlStoreAuthorityDigestVersion),
      ("tables", .arr
        [digestTable "control_authority"
          ["singleton", "authority_id", "root_binding", "application_id", "user_version",
            "authority_generation"]
          [[digestInteger 1, digestText identity.authorityId, digestText identity.rootBinding,
            digestInteger controlStoreApplicationId, digestInteger controlStoreUserVersion,
            digestInteger generation]],
        digestTable "task_locks" ["task_id", "owner_id", "lock_instance_id", "lock_record_json"]
          ((locks.insertionSort (fun row row' => row.taskId ≤ row'.taskId)).map (fun row =>
            [digestText row.taskId, digestText row.ownerId, digestText row.lockInstanceId,
              digestText row.lockRecordJson]))])])

/-- The digest of tables that both statements see. -/
def LockTables.digest (tables : LockTables) : String :=
  controlStoreAuthorityDigest tables.identity tables.generation tables.locks

end Digests

/-! ## Section 2: The store and its processes -/

/-- The arguments of `acquire_task_lock`, with what the call takes from its process: the id of the
new lock instance, the process and its boot session. -/
structure AcquireTaskLock where
  taskId : SafeId
  ownerId : SafeId
  nowMonotonic : FloatText
  lockInstanceId : String
  processId : Nat
  bootSessionId : String

/-- `WorkflowTaskLock`, with the process whose lock paths it is in. -/
structure WorkflowTaskLock where
  taskId : String
  ownerId : String
  lockInstanceId : String
  processId : Nat
  deriving DecidableEq

namespace AcquireTaskLock

/-- The record of the lock. -/
def payload (a : AcquireTaskLock) : Json :=
  .obj [("acquired_at_monotonic", .float a.nowMonotonic),
    ("boot_session_id", .str a.bootSessionId), ("lock_instance_id", .str a.lockInstanceId),
    ("owner_id", .str a.ownerId.val), ("process_id", .int a.processId), ("schema_version", .int 1),
    ("task_id", .str a.taskId.val)]

/-- The row that the call inserts. -/
def row (a : AcquireTaskLock) : LockRow := ⟨a.taskId.val, a.ownerId.val, a.lockInstanceId, a.payload⟩

/-- The lock that the call returns. -/
def lock (a : AcquireTaskLock) : WorkflowTaskLock :=
  ⟨a.taskId.val, a.ownerId.val, a.lockInstanceId, a.processId⟩

end AcquireTaskLock

/-- Does a row belong to the instance of a lock? -/
def WorkflowTaskLock.Owns (lock : WorkflowTaskLock) (row : LockRow) : Prop :=
  row.taskId = lock.taskId ∧ row.lockInstanceId = lock.lockInstanceId

instance (lock : WorkflowTaskLock) (row : LockRow) : Decidable (lock.Owns row) :=
  inferInstanceAs (Decidable (_ ∧ _))

/-- The committed tables, the one open write transaction with its copy of them, the marker file,
`_HELD_LOCK_PATHS` of every process, and the lock instances whose `_released` is set. -/
structure LockStore where
  tables : LockTables
  transaction : Option (Nat × LockTables)
  marker : AuthorityMarker
  held : List (Nat × String)
  released : List String

namespace LockStore

/-- What the statements of a connection see: its own transaction, or the committed tables. -/
def view (i : Nat) (w : LockStore) : LockTables :=
  match w.transaction with
  | some (j, copy) => if j = i then copy else w.tables
  | none => w.tables

/-- A change that a connection makes inside its transaction. -/
def edit (i : Nat) (f : LockTables → LockTables) (w : LockStore) : LockStore :=
  match w.transaction with
  | some (j, copy) => if j = i then { w with transaction := some (i, f copy) } else w
  | none => w

/-- `COMMIT`. -/
def commit (i : Nat) (w : LockStore) : LockStore :=
  match w.transaction with
  | some (j, copy) => if j = i then { w with tables := copy, transaction := none } else w
  | none => w

/-- `ROLLBACK`, the end of a connection, and the end of its process: an open transaction is
forgotten. -/
def dropTransaction (i : Nat) (w : LockStore) : LockStore :=
  match w.transaction with
  | some (j, _) => if j = i then { w with transaction := none } else w
  | none => w

/-- A store that was just initialised. -/
def initial [Digest] (identity : AuthorityIdentity) : LockStore where
  tables := ⟨identity, 0, []⟩
  transaction := none
  marker := ⟨identity, 0, LockTables.digest ⟨identity, 0, []⟩⟩
  held := []
  released := []

end LockStore

/-- The statements of the calls. -/
inductive LockStatement where
  | heldPaths | readMarker | validateStore | selectGeneration | selectAuthority | selectLocks
  | writeMarker | beginImmediate | insertLock | deleteLock | advanceGeneration
  | selectNewGeneration | selectNewAuthority | selectNewLocks | commit | rollback | close
  | validateCommitted | selectCommittedGeneration | selectCommittedAuthority
  | selectCommittedLocks | readPreviousMarker | publishMarker | selectLock | holdPath
  | readReleased | discardPath | setReleased | selectRows
  deriving DecidableEq

/-- A call on the store, as a program of statements. -/
abbrev LockCode (α : Type) := Code LockStatement LockStore Failure α

/-! ## Section 3: What the calls share -/

variable [Digest]

/-- `_control_store_authority_generation`. -/
def controlStoreAuthorityGeneration (view : LockStore → LockTables) (statement : LockStatement) :
    LockCode Nat :=
  Code.read statement (fun w => (view w).generation)

/-- `_control_store_authority_digest`: one statement for each table. -/
def readAuthorityDigest (view : LockStore → LockTables) (authority locks : LockStatement) :
    LockCode String := do
  let row ← Code.read authority (fun w => ((view w).identity, (view w).generation))
  let rows ← Code.read locks (fun w => (view w).locks)
  return controlStoreAuthorityDigest row.1 row.2 rows

/-- The identity checks of `_validate_control_store_connection`. -/
def validateControlStoreConnection (view : LockStore → LockTables) (statement : LockStatement)
    (expected : AuthorityIdentity) : LockCode Unit := do
  let identity ← Code.read statement (fun w => (view w).identity)
  if identity.rootBinding ≠ expected.rootBinding then
    Code.fail (storeError "WORKFLOW_STATE_CORRUPT" "control_store"
      "control-store root binding mismatch")
  else if identity.authorityId ≠ expected.authorityId then
    Code.fail (storeError "WORKFLOW_STATE_CORRUPT" "control_store"
      "control-store authority identity mismatch")
  else
    return ()

/-- The error of a marker that no reconciliation explains. -/
def markerNotRecoverable : Failure :=
  storeError "WORKFLOW_STATE_CORRUPT" "control_store_authority"
    "control-store authority marker is not recoverable"

/-- `_reconcile_authority_marker`. -/
def reconcileAuthorityMarker (view : LockStore → LockTables) (marker : AuthorityMarker) :
    LockCode (Nat × String) := do
  validateControlStoreConnection view .validateStore marker.identity
  let actualGeneration ← controlStoreAuthorityGeneration view .selectGeneration
  let actualDigest ← readAuthorityDigest view .selectAuthority .selectLocks
  if actualGeneration = marker.generation ∧ actualDigest = marker.digest then
    return (actualGeneration, actualDigest)
  else if actualGeneration > marker.generation then do
    Code.write .writeMarker (fun w =>
      { w with marker := ⟨marker.identity, actualGeneration, actualDigest⟩ })
    return (actualGeneration, actualDigest)
  else
    Code.fail markerNotRecoverable

/-- The identity checks on a marker. -/
def requireMarkerIdentity (marker : AuthorityMarker) (expected : AuthorityIdentity) :
    LockCode Unit :=
  if marker.identity.authorityId ≠ expected.authorityId then
    Code.fail (storeError "WORKFLOW_STATE_CORRUPT" "control_store_authority.authority_id"
      "authority marker identity mismatch")
  else if marker.identity.rootBinding ≠ expected.rootBinding then
    Code.fail (storeError "WORKFLOW_STATE_CORRUPT" "control_store_authority.root_binding"
      "authority marker root binding mismatch")
  else
    pure ()

/-- What `_control_connection` does before it yields its connection. -/
def openControlConnection (i : Nat) (expected : AuthorityIdentity) : LockCode Unit := do
  let marker ← Code.read .readMarker (·.marker)
  requireMarkerIdentity marker expected
  let _ ← reconcileAuthorityMarker (LockStore.view i) marker
  return ()

/-- What `_control_connection` does in the end. -/
def closing {α : Type} (i : Nat) (body : LockCode α) : LockCode α :=
  body.finally_ .close (LockStore.dropTransaction i)

/-- `BEGIN IMMEDIATE`, which fails while another connection has a transaction open. -/
def beginImmediate (i : Nat) : LockCode Unit :=
  .step .beginImmediate
    (fun w => if w.transaction.isNone then { w with transaction := some (i, w.tables) } else w)
    (fun w => .done (if w.transaction.isNone then .ok () else
      .error (storeError "WORKFLOW_STATE_CORRUPT" "control_store"
        "control store failure: database is locked")))

/-- `_begin_authority_transaction`. -/
def beginAuthorityTransaction (i : Nat) (expected : AuthorityIdentity) :
    LockCode (Nat × String) := do
  beginImmediate i
  let marker ← Code.read .readMarker (·.marker)
  requireMarkerIdentity marker expected
  reconcileAuthorityMarker (LockStore.view i) marker

/-- `_write_authority_marker` after a commit: a marker that is not the one the transaction began
with is left alone, and the error is not passed on. -/
def publishAuthorityMarker (expected : AuthorityIdentity) (generation : Nat) (digest : String)
    (previousGeneration : Nat) (previousDigest : String) : LockCode Unit := do
  let current ← Code.read .readPreviousMarker (·.marker)
  if current.digest ≠ previousDigest ∨ current.generation ≠ previousGeneration then
    return ()
  else
    Code.write .publishMarker (fun w => { w with marker := ⟨expected, generation, digest⟩ })

/-- The error of a commit that the re-read does not find. -/
def commitDidNotLand : Failure :=
  storeError "WORKFLOW_STATE_CORRUPT" "control_store"
    "authority commit did not land in the current control store"

/-- The re-read of the committed tables in `_commit_authority_transaction`, over a connection of
its own. -/
def requireCommitLanded (expected : AuthorityIdentity) (newGeneration : Nat)
    (newDigest : String) : LockCode Unit := do
  validateControlStoreConnection (·.tables) .validateCommitted expected
  let currentGeneration ← controlStoreAuthorityGeneration (·.tables) .selectCommittedGeneration
  let currentDigest ←
    readAuthorityDigest (·.tables) .selectCommittedAuthority .selectCommittedLocks
  if currentGeneration ≠ newGeneration ∨ currentDigest ≠ newDigest then
    Code.fail commitDidNotLand
  else
    return ()

/-- `_commit_authority_transaction`. -/
def commitAuthorityTransaction (i : Nat) (expected : AuthorityIdentity) (previousGeneration : Nat)
    (previousDigest : String) : LockCode String := do
  Code.write .advanceGeneration (LockStore.edit i (fun tables =>
    { tables with generation := tables.generation + 1 }))
  let newGeneration ← controlStoreAuthorityGeneration (LockStore.view i) .selectNewGeneration
  let newDigest ← readAuthorityDigest (LockStore.view i) .selectNewAuthority .selectNewLocks
  if newGeneration ≠ previousGeneration + 1 then do
    Code.write .rollback (LockStore.dropTransaction i)
    Code.fail (storeError "WORKFLOW_STATE_CORRUPT" "control_store_authority.authority_generation"
      "authority generation did not advance by one")
  else do
    Code.write .commit (LockStore.commit i)
    requireCommitLanded expected newGeneration newDigest
    publishAuthorityMarker expected newGeneration newDigest previousGeneration previousDigest
    return newDigest

/-! ## Section 4: The calls -/

/-- `INSERT INTO task_locks`: the task is the primary key. A conflict is rolled back. -/
def insertTaskLock (i : Nat) (a : AcquireTaskLock) : LockCode Unit :=
  .step .insertLock
    (fun w => if (w.view i).locks.any (·.taskId = a.taskId.val) then w else
      w.edit i (fun tables => { tables with locks := tables.locks ++ [a.row] }))
    (fun w => if (w.view i).locks.any (·.taskId = a.taskId.val) then do
        Code.write .rollback (LockStore.dropTransaction i)
        Code.fail (storeError "WORKFLOW_CONCURRENT_WRITE" "lock"
          "lock already held: UNIQUE constraint failed: task_locks.task_id")
      else
        pure ())

/-- `DELETE FROM task_locks WHERE task_id = ? AND lock_instance_id = ?`. -/
def deleteTaskLock (i : Nat) (lock : WorkflowTaskLock) : LockCode Unit :=
  Code.write .deleteLock (LockStore.edit i (fun tables =>
    { tables with locks := tables.locks.filter (fun row => ¬ lock.Owns row) }))

/-- `acquire_task_lock`. -/
def acquireTaskLock (i : Nat) (expected : AuthorityIdentity) (a : AcquireTaskLock) :
    LockCode WorkflowTaskLock := do
  let held ← Code.read .heldPaths (fun w => decide ((a.processId, a.taskId.val) ∈ w.held))
  if held = true then
    Code.fail (storeError "WORKFLOW_CONCURRENT_WRITE" "lock" "lock already held in this process")
  else do
    let _ ← closing i (do
      openControlConnection i expected
      let previous ← beginAuthorityTransaction i expected
      insertTaskLock i a
      commitAuthorityTransaction i expected previous.1 previous.2)
    let row ← closing i (do
      openControlConnection i expected
      Code.read .selectLock (fun w =>
        ((w.view i).locks.find? (·.taskId = a.taskId.val)).map (fun row =>
          (row.ownerId, row.lockInstanceId))))
    if row ≠ some (a.ownerId.val, a.lockInstanceId) then
      Code.fail (storeError "WORKFLOW_STATE_CORRUPT" "lock"
        "lock acquisition did not commit to the current authority")
    else do
      Code.write .holdPath (fun w => { w with held := (a.processId, a.taskId.val) :: w.held })
      return a.lock

/-- `WorkflowTaskLock.release`. -/
def release (i : Nat) (expected : AuthorityIdentity) (lock : WorkflowTaskLock) :
    LockCode Unit := do
  let released ← Code.read .readReleased (fun w => decide (lock.lockInstanceId ∈ w.released))
  if released = true then
    return ()
  else do
    let _ ← closing i (do
      openControlConnection i expected
      (do
        let previous ← beginAuthorityTransaction i expected
        deleteTaskLock i lock
        commitAuthorityTransaction i expected previous.1 previous.2).onError .rollback
          (LockStore.dropTransaction i))
    Code.write .discardPath (fun w =>
      { w with held := w.held.filter (· ≠ (lock.processId, lock.taskId)) })
    Code.write .setReleased (fun w => { w with released := lock.lockInstanceId :: w.released })

/-- A control connection that only reads rows of other tables. -/
def readControlStore (i : Nat) (expected : AuthorityIdentity) : LockCode Unit :=
  closing i (do
    openControlConnection i expected
    Code.read .selectRows (fun _ => ()))

/-- A call. -/
inductive LockCall where
  | acquire (a : AcquireTaskLock)
  | release (lock : WorkflowTaskLock)
  | read

/-- The program of a call, by the number of its connection; an acquisition returns a lock. -/
def lockCode (expected : AuthorityIdentity) (i : Nat) :
    LockCall → LockCode (Option WorkflowTaskLock)
  | .acquire a => do return some (← acquireTaskLock i expected a)
  | .release lock => do release i expected lock; return none
  | .read => do readControlStore i expected; return none

/-! ## Section 5: Runs -/

/-- A world and the calls made so far. -/
abbrev LockPool := Pool LockCall LockStatement LockStore Failure (Option WorkflowTaskLock)

/-- A call and the statements it executed. -/
abbrev LockEntry := Entry LockCall LockStatement LockStore Failure (Option WorkflowTaskLock)

/-- A statement that was executed. -/
abbrev LockEvent := Event LockStatement LockStore

/-- An acquisition returned its lock. -/
def LockEntry.Returned (e : LockEntry) (lock : WorkflowTaskLock) : Prop :=
  ∃ a, e.call = .acquire a ∧ lock = a.lock ∧ e.rest = some (.done (.ok (some lock)))

/-- The call raised. -/
def LockEntry.Raised (e : LockEntry) : Prop := ∃ failure, e.rest = some (.done (.error failure))

/-- Which calls can start: `secrets.token_hex` gives each acquisition an instance id that no
earlier one got, and only a lock that was returned can be released. -/
def LockStarts (pool : LockPool) : LockCall → Prop
  | .acquire a => ∀ e ∈ pool.entries, ∀ b, e.call = .acquire b →
      b.lockInstanceId ≠ a.lockInstanceId
  | .release lock => ∃ e ∈ pool.entries, LockEntry.Returned e lock
  | .read => True

/-- The pools that calls from a new store lead to, when `admits` allows each statement. -/
abbrev LockRuns (identity : AuthorityIdentity) (admits : LockPool → Nat → LockStatement → Prop)
    (pool : LockPool) : Prop :=
  Runs (lockCode identity) LockStore.dropTransaction LockStarts admits
    (LockStore.initial identity) pool

/-- Any statement may be executed at any time. -/
def AnyOrder : LockPool → Nat → LockStatement → Prop := fun _ _ _ => True

/-- The statements that committed. -/
def commits (past : List LockEvent) : List LockEvent := past.filter (·.label = .commit)

/-- A condition on a call, on whether it has committed, and on its next statement. -/
abbrev LockWindow := LockCall → Prop → Option LockStatement → Prop

/-- No call commits while another call is in the window. -/
def NoCommitDuring (window : LockWindow) (pool : LockPool) (i : Nat) (statement : LockStatement) :
    Prop :=
  statement = .commit → ∀ (j : Nat) (e : LockEntry) rest, j ≠ i → pool.entries[j]? = some e →
    e.rest = some rest → ¬ window e.call (commits e.past ≠ []) rest.label?

end Acgps
