import Acgps.Data.JsonText
import Acgps.Workflow.AuditEvent
import Mathlib.Data.List.Sort

/-!
# The control store

The two authoritative tables of the workflow store, the readers of single rows, and the
transaction that commits an audit event together with the task state it results in.

## Main Definitions

* `SqliteText` - the text in a cell of a table
* `ControlStore` - the rows of `task_states` and `audit_events`
* `commitTaskStateAndAudit` - one `BEGIN IMMEDIATE` transaction

## Key Theorems

* `prepareCommit_eq_ok` - the checks before the transaction accept the printed pairs
* `commitRows_cases` - **what a call can do**: raise, find the exact pair, or write one
-/

namespace Acgps

open Checked

/-! ## Section 1: Texts -/

/-- A cell of a text column: the canonical text of a record, a text that is not canonical with
what `json.loads` makes of it, or a value of another storage class. -/
inductive SqliteText where
  | canonical (record : Json)
  | other (text : String) (loads : Except Text Json)
  | notText

/-- `MAX_SQLITE_JSON_BYTES`. -/
def maxSqliteJsonBytes : Nat := 262144

/-- `MAX_SQLITE_JSON_DEPTH`. -/
def maxSqliteJsonDepth : Nat := 256

/-- An error of the workflow store. -/
def storeError (code path : String) (message : Text) : Failure :=
  .workflowStore ⟨code, path, message⟩

/-- `_raise_outcome`: an invalid outcome is raised, an exception goes on. -/
def raiseOutcome {α : Type} (x : Check α) : Outcome α :=
  mapError (fun rejection => match rejection with
    | .invalid issue => .workflowStore issue
    | .raised failure => failure) x

@[simp] theorem raiseOutcome_eq_ok {α : Type} {x : Check α} {a : α} :
    raiseOutcome x = .ok a ↔ x = .ok a := by
  simp [raiseOutcome]

/-- `_validate_sqlite_json_text`, on the size and the nesting depth of a text. -/
def validateSqliteJsonText (size depth : Nat) (code path : String) : Outcome Unit := do
  require (size ≤ maxSqliteJsonBytes)
    (storeError code path "record JSON exceeds maximum SQLite JSON size")
  require (depth ≤ maxSqliteJsonDepth)
    (storeError code path "record JSON exceeds maximum SQLite JSON depth")

/-- A record whose canonical text the store takes. -/
def FitsSqlite (record : Json) : Prop :=
  record.dumps.length ≤ maxSqliteJsonBytes ∧ jsonNestingDepth record.dumps ≤ maxSqliteJsonDepth

/-- A record that is small as a value has a text that fits. -/
theorem FitsSqlite.of_le {record : Json} (hwidth : record.width ≤ maxSqliteJsonBytes)
    (hnesting : record.nesting ≤ maxSqliteJsonDepth) : FitsSqlite record :=
  ⟨(Json.length_dumps_le record).trans hwidth, by rwa [Json.jsonNestingDepth_dumps]⟩

theorem FitsSqlite.of_quickWidth {record : Json}
    (hwidth : record.quickWidth ≤ maxSqliteJsonBytes)
    (hnesting : record.nesting ≤ maxSqliteJsonDepth) : FitsSqlite record :=
  .of_le (record.quickWidth_eq ▸ hwidth) hnesting

/-- `_sqlite_json_text`. -/
def sqliteJsonText (record : Json) (code path : String) : Outcome SqliteText := do
  validateSqliteJsonText record.dumps.length (jsonNestingDepth record.dumps) code path
  return .canonical record

@[simp] theorem sqliteJsonText_eq_ok {record : Json} {code path : String} {text : SqliteText} :
    sqliteJsonText record code path = .ok text ↔ FitsSqlite record ∧ text = .canonical record := by
  simp only [sqliteJsonText, validateSqliteJsonText, bind_eq_ok, require_eq_ok, pure_eq_ok,
    exists_const, FitsSqlite]
  exact and_congr_right (fun _ => eq_comm)

/-- The text of a cell as a value, with the guards on its size and its depth. -/
def readSqliteText (text : SqliteText) (code path : String) : Outcome Json :=
  match text with
  | .notText => .error (storeError code path "record must be stored as SQLite TEXT")
  | .canonical record => do
      validateSqliteJsonText record.dumps.length (jsonNestingDepth record.dumps) code path
      return record
  | .other raw loads => do
      validateSqliteJsonText raw.utf8ByteSize (jsonNestingDepth raw.toList) code path
      mapError (fun detail => storeError code path (.text "malformed JSON: " :: detail)) loads

/-- `_loads_json_mapping`. -/
def loadsJsonMapping (text : SqliteText) (code path : String) : Outcome Json := do
  let payload ← readSqliteText text code path
  require (payload.asMapping.isSome = true) (storeError code path "record must be a mapping")
  return payload

/-- What reading the canonical text of a record gives. -/
theorem loadsJsonMapping_canonical {record payload : Json} {code path : String} :
    loadsJsonMapping (.canonical record) code path = .ok payload ↔
      FitsSqlite record ∧ record.asMapping.isSome = true ∧ payload = record := by
  simp only [loadsJsonMapping, readSqliteText, validateSqliteJsonText, bind_eq_ok, require_eq_ok,
    pure_eq_ok, exists_const, FitsSqlite]
  constructor
  · rintro ⟨_, ⟨hfits, rfl⟩, hmapping, rfl⟩
    exact ⟨hfits, hmapping, rfl⟩
  · rintro ⟨hfits, hmapping, rfl⟩
    exact ⟨_, ⟨hfits, rfl⟩, hmapping, rfl⟩

/-- The canonical text of a mapping that was stored is read back as the mapping. -/
theorem loadsJsonMapping_of_fits {data : Mapping} {code path : String}
    (hfits : FitsSqlite data.toJson) :
    loadsJsonMapping (.canonical data.toJson) code path = .ok data.toJson :=
  loadsJsonMapping_canonical.mpr ⟨hfits, by simp, rfl⟩

/-! ## Section 2: Tables -/

/-- A row of `task_states`. -/
structure TaskStateRow where
  taskId : String
  stateJson : SqliteText

/-- A row of `audit_events`. -/
structure AuditEventRow where
  taskId : String
  generation : Int
  sequence : Int
  eventJson : SqliteText

/-- The authoritative tables. -/
structure ControlStore where
  taskStates : List TaskStateRow
  auditEvents : List AuditEventRow

namespace ControlStore

/-- The store before any commit. -/
def empty : ControlStore := ⟨[], []⟩

/-- The rows of a task in `task_states`. -/
def taskRows (store : ControlStore) (taskId : String) : List TaskStateRow :=
  store.taskStates.filter (fun row => row.taskId = taskId)

/-- The rows of a task in `audit_events`, in the order of their insertion. -/
def auditRows (store : ControlStore) (taskId : String) : List AuditEventRow :=
  store.auditEvents.filter (fun row => row.taskId = taskId)

/-- `SELECT state_json FROM task_states WHERE task_id = ?`. -/
def selectTaskState (store : ControlStore) (taskId : String) : Option SqliteText :=
  (store.taskRows taskId).head?.map TaskStateRow.stateJson

/-- `SELECT sequence, event_json FROM audit_events WHERE task_id = ? AND generation = ?
ORDER BY sequence`. -/
def selectGeneration (store : ControlStore) (taskId : String) (generation : Int) :
    List AuditEventRow :=
  ((store.auditRows taskId).filter (fun row => row.generation = generation)).insertionSort
    (fun a b => a.sequence ≤ b.sequence)

/-- `SELECT event_json FROM audit_events WHERE task_id = ? AND generation = ? AND sequence = ?`. -/
def selectEvent (store : ControlStore) (taskId : String) (generation sequence : Int) :
    Option SqliteText :=
  ((store.auditRows taskId).find?
    (fun row => row.generation = generation ∧ row.sequence = sequence)).map AuditEventRow.eventJson

/-- `INSERT INTO audit_events`. -/
def insertEvent (store : ControlStore) (row : AuditEventRow) : ControlStore :=
  { store with auditEvents := store.auditEvents ++ [row] }

/-- `INSERT INTO task_states ... ON CONFLICT(task_id) DO UPDATE`. -/
def upsertTaskState (store : ControlStore) (row : TaskStateRow) : ControlStore :=
  { store with
    taskStates :=
      if store.taskStates.any (fun other => other.taskId = row.taskId) then
        store.taskStates.map (fun other => if other.taskId = row.taskId then row else other)
      else store.taskStates ++ [row] }

/-! ## Section 3: What a write does to the rows of a task -/

@[simp] theorem auditRows_insertEvent (store : ControlStore) (row : AuditEventRow)
    (taskId : String) :
    (store.insertEvent row).auditRows taskId =
      store.auditRows taskId ++ if row.taskId = taskId then [row] else [] := by
  by_cases h : row.taskId = taskId <;> simp [insertEvent, auditRows, h]

@[simp] theorem taskRows_insertEvent (store : ControlStore) (row : AuditEventRow)
    (taskId : String) : (store.insertEvent row).taskRows taskId = store.taskRows taskId := rfl

@[simp] theorem auditRows_upsertTaskState (store : ControlStore) (row : TaskStateRow)
    (taskId : String) : (store.upsertTaskState row).auditRows taskId = store.auditRows taskId := rfl

theorem taskRows_upsertTaskState_ne (store : ControlStore) (row : TaskStateRow) {taskId : String}
    (hne : row.taskId ≠ taskId) :
    (store.upsertTaskState row).taskRows taskId = store.taskRows taskId := by
  have hmap : ∀ rows : List TaskStateRow,
      (rows.map (fun other => if other.taskId = row.taskId then row else other)).filter
          (fun other => decide (other.taskId = taskId))
        = rows.filter (fun other => decide (other.taskId = taskId)) := by
    intro rows
    induction rows with
    | nil => rfl
    | cons other rest ih =>
        by_cases heq : other.taskId = row.taskId
        · simp [heq, hne, ih]
        · simp [heq, List.filter_cons, ih]
  unfold upsertTaskState taskRows
  split
  · exact hmap _
  · simp [hne]

/-- A task has at most one row. -/
theorem taskRows_upsertTaskState_self (store : ControlStore) (row : TaskStateRow)
    (hone : (store.taskRows row.taskId).length ≤ 1) :
    (store.upsertTaskState row).taskRows row.taskId = [row] := by
  have hmap : ∀ rows : List TaskStateRow,
      (rows.map (fun other => if other.taskId = row.taskId then row else other)).filter
          (fun other => decide (other.taskId = row.taskId))
        = (rows.filter (fun other => decide (other.taskId = row.taskId))).map (fun _ => row) := by
    intro rows
    induction rows with
    | nil => rfl
    | cons other rest ih =>
        by_cases heq : other.taskId = row.taskId
        · simp [heq, ih]
        · simp [heq, ih]
  unfold upsertTaskState
  unfold taskRows at hone ⊢
  split
  next hany =>
    dsimp only
    rw [hmap]
    obtain ⟨other, hmem, heq⟩ := List.any_eq_true.mp hany
    have hne : store.taskStates.filter (fun other => decide (other.taskId = row.taskId)) ≠ [] :=
      List.ne_nil_of_mem (List.mem_filter.mpr ⟨hmem, heq⟩)
    obtain ⟨x, hx⟩ := List.length_eq_one_iff.mp
      (le_antisymm hone (List.length_pos_iff.mpr hne))
    simp [hx]
  next hany =>
    simp only [List.any_eq_true, not_exists, not_and] at hany
    simp [List.filter_eq_nil_iff.mpr hany]

end ControlStore

/-! ## Section 4: The commit transaction -/

variable [Digest]

/-- Binding an integer to a statement: SQLite integers have 64 bits. -/
def bindInteger (n : Nat) : Outcome Unit :=
  require (n < 2 ^ 63)
    (.interpreter "OverflowError" "Python int too large to convert to SQLite INTEGER")

/-- `_validate_state_event_pair` on the fields that depend on the type of the event. -/
def validateStateEventFields (event : AuditEvent) (state : WorkflowTaskState) : Outcome Unit := do
  let mismatch := fun field =>
    storeError "WORKFLOW_STATE_CORRUPT" field "state does not match its audit event"
  match event.eventType with
  | .taskCreated => do
      require (state.currentState = .draft) (mismatch "current_state")
      require (state.previousState = none) (mismatch "previous_state")
      require (state.lastTransitionId = none) (mismatch "last_transition_id")
      require (state.policyEvaluationId = none) (mismatch "policy_evaluation_id")
  | .transitionAccepted => do
      require (some state.currentState = event.toState) (mismatch "current_state")
      require (state.previousState = event.fromState) (mismatch "previous_state")
      require (state.lastTransitionId = event.transitionId) (mismatch "last_transition_id")
      require (state.policyEvaluationId
          = event.policyEvaluationBinding.map PolicyEvaluationBinding.evaluationId)
        (mismatch "policy_evaluation_id")
  | .recoveryRecorded | .rollbackRecorded =>
      .error (storeError "WORKFLOW_AUDIT_CORRUPT" "event_type"
        "atomic state commit accepts task and transition events only")

/-- `_validate_state_event_pair`. -/
def validateStateEventPair (event : AuditEvent) (state : WorkflowTaskState) : Outcome Unit := do
  require (event.taskId = state.taskId)
    (storeError "WORKFLOW_STATE_CORRUPT" "task_id" "state and audit event task_id must match")
  require (event.projectId = state.projectId)
    (storeError "WORKFLOW_STATE_CORRUPT" "project_id" "state and audit event project_id must match")
  require (state.auditGeneration = event.generation)
    (storeError "WORKFLOW_STATE_CORRUPT" "audit_generation"
      "state must bind the audit event generation")
  require (state.auditHeadEventId = event.eventId ∧ state.auditHeadHash = event.eventHash)
    (storeError "WORKFLOW_STATE_CORRUPT" "audit_head_hash"
      "state must bind the committed audit event head")
  validateStateEventFields event state

/-- The code of an audit log that a commit cannot extend. -/
def auditCorruptError (path : String) (message : Text) : Failure :=
  storeError "WORKFLOW_AUDIT_CORRUPT" path message

/-- `_validate_authoritative_predecessor` on a task without a state row. -/
def validateNewTask (store : ControlStore) (event : AuditEvent) : Outcome Unit :=
  require (store.auditRows event.taskId.val = [] ∧ event.eventType = .taskCreated ∧
      event.generation.val = 1 ∧ event.sequence.val = 1)
    (auditCorruptError "audit_event" "new task must start with generation 1 sequence 1")

/-- `_validate_authoritative_predecessor` on a task with a state row. -/
def validateSuccessor (store : ControlStore) (event : AuditEvent) (state : WorkflowTaskState)
    (existingState : SqliteText) : Outcome Unit := do
  let currentPayload ← loadsJsonMapping existingState "WORKFLOW_STATE_CORRUPT" "task_state"
  let current ← raiseOutcome (validateTaskState currentPayload)
  bindInteger current.auditGeneration.val
  let latest ← expect
    (store.selectGeneration event.taskId.val current.auditGeneration.val).getLast?
    (auditCorruptError "audit_event" "current state has no authoritative audit head")
  let previousPayload ← loadsJsonMapping latest.eventJson "WORKFLOW_AUDIT_CORRUPT" "audit_event"
  let previous ← raiseOutcome (validateAuditEvent previousPayload)
  require (event.eventType = .transitionAccepted ∧ event.generation = current.auditGeneration ∧
      (event.sequence.val : Int) = latest.sequence + 1 ∧
      event.previousEventHash = some current.auditHeadHash ∧
      previous.eventId = current.auditHeadEventId ∧ previous.eventHash = current.auditHeadHash ∧
      event.fromState = some current.currentState ∧
      state.previousState = some current.currentState)
    (auditCorruptError "previous_event_hash"
      "audit successor does not match the authoritative head")

/-- `_validate_authoritative_predecessor`. -/
def validateAuthoritativePredecessor (store : ControlStore) (event : AuditEvent)
    (state : WorkflowTaskState) (existingState : Option SqliteText) : Outcome Unit :=
  match existingState with
  | none => validateNewTask store event
  | some text => validateSuccessor store event state text

/-- `text == record_json`, where `record_json` is the canonical text of a record. -/
def SqliteText.isTextOf (text : SqliteText) (record : Json) : Bool :=
  match text with
  | .canonical stored => stored = record
  | .other _ _ | .notText => false

omit [Digest] in
@[simp] theorem SqliteText.isTextOf_eq_true {text : SqliteText} {record : Json} :
    text.isTextOf record = true ↔ text = .canonical record := by
  cases text <;> simp [SqliteText.isTextOf]

/-- What the transaction finds: `false` for the exact pair already committed, `true` for a pair
that it is going to write. -/
def decideCommit (store : ControlStore) (event : AuditEvent) (state : WorkflowTaskState) :
    Outcome Bool := do
  bindInteger event.generation.val
  bindInteger event.sequence.val
  let existingEvent := store.selectEvent event.taskId.val event.generation.val event.sequence.val
  let existingState := store.selectTaskState state.taskId.val
  match existingEvent with
  | some eventText => do
      require (eventText.isTextOf event.toJson = true ∧
          existingState.any (fun text => text.isTextOf state.toJson) = true)
        (auditCorruptError "audit_event"
          "audit coordinate already has a conflicting event or state")
      return false
  | none => do
      validateAuthoritativePredecessor store event state existingState
      return true

/-- The row of an event. -/
def AuditEvent.row (e : AuditEvent) : AuditEventRow :=
  ⟨e.taskId.val, e.generation.val, e.sequence.val, .canonical e.toJson⟩

/-- The row of a state. -/
def WorkflowTaskState.row (s : WorkflowTaskState) : TaskStateRow :=
  ⟨s.taskId.val, .canonical s.toJson⟩

/-- The two writes of a commit. -/
def ControlStore.write (store : ControlStore) (event : AuditEvent) (state : WorkflowTaskState) :
    ControlStore :=
  (store.insertEvent event.row).upsertTaskState state.row

/-- The transaction: an exception rolls it back. -/
def commitTransaction (store : ControlStore) (event : AuditEvent) (state : WorkflowTaskState) :
    Outcome Bool × ControlStore :=
  match decideCommit store event state with
  | .error failure => (.error failure, store)
  | .ok false => (.ok false, store)
  | .ok true => (.ok true, store.write event state)

/-- The checks before the transaction. -/
def prepareCommit (event state : Json) : Outcome (AuditEvent × WorkflowTaskState) := do
  let e ← raiseOutcome (validateAuditEvent event)
  let s ← raiseOutcome (validateTaskState state)
  validateStateEventPair e s
  let _ ← sqliteJsonText event "WORKFLOW_AUDIT_CORRUPT" "audit_event"
  let _ ← sqliteJsonText state "WORKFLOW_STATE_CORRUPT" "task_state"
  return (e, s)

/-- `commit_task_state_and_audit` up to its COMMIT. -/
def commitRows (store : ControlStore) (event state : Json) : Outcome Bool × ControlStore :=
  match prepareCommit event state with
  | .error failure => (.error failure, store)
  | .ok (e, s) => commitTransaction store e s

/-- `commit_task_state_and_audit`. After the COMMIT the audit line and the state file are exported;
`exportFault` is what these writes raise, if they do. -/
def commitTaskStateAndAudit (store : ControlStore) (event state : Json)
    (exportFault : Option Failure) : Outcome Bool × ControlStore :=
  match commitRows store event state, exportFault with
  | (.ok _, store'), some fault => (.error fault, store')
  | result, _ => result

/-! ## Section 5: What a commit can do -/

/-- The fields of a state that depend on the type of the event it results from. -/
def StateFieldsMatch (e : AuditEvent) (s : WorkflowTaskState) : Prop :=
  match e.eventType with
  | .taskCreated => s.currentState = .draft ∧ s.previousState = none ∧
      s.lastTransitionId = none ∧ s.policyEvaluationId = none
  | .transitionAccepted => some s.currentState = e.toState ∧ s.previousState = e.fromState ∧
      s.lastTransitionId = e.transitionId ∧
      s.policyEvaluationId = e.policyEvaluationBinding.map PolicyEvaluationBinding.evaluationId
  | .recoveryRecorded | .rollbackRecorded => False

/-- A state binds the event it results from. -/
structure StateBinds (e : AuditEvent) (s : WorkflowTaskState) : Prop where
  taskId : e.taskId = s.taskId
  projectId : e.projectId = s.projectId
  generation : s.auditGeneration = e.generation
  headEventId : s.auditHeadEventId = e.eventId
  headHash : s.auditHeadHash = e.eventHash
  fields : StateFieldsMatch e s

/-- A pair of records that the checks before the transaction let through. -/
structure CommitPair (e : AuditEvent) (s : WorkflowTaskState) : Prop where
  event : e.Valid
  state : s.Valid
  binds : StateBinds e s
  eventFits : FitsSqlite e.toJson
  stateFits : FitsSqlite s.toJson

omit [Digest] in
theorem validateStateEventPair_eq_ok {e : AuditEvent} {s : WorkflowTaskState} {u : Unit} :
    validateStateEventPair e s = .ok u ↔ StateBinds e s := by
  have hfields : validateStateEventFields e s = .ok u ↔ StateFieldsMatch e s := by
    unfold validateStateEventFields StateFieldsMatch
    cases e.eventType <;> simp only [bind_eq_ok, require_eq_ok, exists_const, reduceCtorEq]
  simp only [validateStateEventPair, bind_eq_ok, require_eq_ok, exists_const, hfields]
  constructor
  · rintro ⟨h1, h2, h3, ⟨h4, h5⟩, h6⟩
    exact ⟨h1, h2, h3, h4, h5, h6⟩
  · rintro ⟨h1, h2, h3, h4, h5, h6⟩
    exact ⟨h1, h2, h3, ⟨h4, h5⟩, h6⟩

/-- The checks before the transaction accept the printed pairs. -/
theorem prepareCommit_eq_ok {event state : Json} {e : AuditEvent} {s : WorkflowTaskState} :
    prepareCommit event state = .ok (e, s) ↔
      event = e.toJson ∧ state = s.toJson ∧ CommitPair e s := by
  simp only [prepareCommit, bind_eq_ok, raiseOutcome_eq_ok, validateAuditEvent_eq_ok_iff,
    validateTaskState_eq_ok_iff, validateStateEventPair_eq_ok, sqliteJsonText_eq_ok, pure_eq_ok,
    Prod.mk.injEq]
  constructor
  · rintro ⟨_, ⟨rfl, he⟩, _, ⟨rfl, hs⟩, _, hbinds, _, ⟨hfe, _⟩, _, ⟨hfs, _⟩, rfl, rfl⟩
    exact ⟨rfl, rfl, he, hs, hbinds, hfe, hfs⟩
  · rintro ⟨rfl, rfl, he, hs, hbinds, hfe, hfs⟩
    exact ⟨e, ⟨rfl, he⟩, s, ⟨rfl, hs⟩, (), hbinds, _, ⟨hfe, rfl⟩, _, ⟨hfs, rfl⟩, rfl, rfl⟩

/-- **What a call can do**: it raises and writes nothing, it finds the exact pair it was going to
write, or it writes a pair that its transaction let through. -/
theorem commitRows_cases (store : ControlStore) (event state : Json) :
    (∃ failure, commitRows store event state = (.error failure, store)) ∨
    ∃ e s, event = e.toJson ∧ state = s.toJson ∧ CommitPair e s ∧
      ((decideCommit store e s = .ok false ∧ commitRows store event state = (.ok false, store)) ∨
        (decideCommit store e s = .ok true ∧
          commitRows store event state = (.ok true, store.write e s))) := by
  unfold commitRows
  cases hprepare : prepareCommit event state with
  | error failure => exact .inl ⟨failure, rfl⟩
  | ok pair =>
      obtain ⟨e, s⟩ := pair
      obtain ⟨he, hs, hpair⟩ := prepareCommit_eq_ok.mp hprepare
      simp only [commitTransaction]
      cases hdecide : decideCommit store e s with
      | error failure => exact .inl ⟨failure, rfl⟩
      | ok committed =>
          refine .inr ⟨e, s, he, hs, hpair, ?_⟩
          cases committed with
          | false => exact .inl ⟨hdecide, rfl⟩
          | true => exact .inr ⟨hdecide, rfl⟩

end Acgps
