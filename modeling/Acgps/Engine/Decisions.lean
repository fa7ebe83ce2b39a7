import Acgps.Engine.EvidenceFiles
import Acgps.Engine.Handoff
import Acgps.Store.AuditReaders

/-!
# The decision queue

Requests for a human decision and their resolutions, each in a file that is written once.

## Main Definitions

* `createDecision`, `resolveDecision` - the two writers of the queue
* `validateResolution` - `DecisionQueue.validate_resolution`
* `listPending` - the requests that wait, reconciled with the task states and the audit log

## Key Theorems

* `PendingRequest`, `ResolutionAnswers` - what the record checks establish
* `may_validateResolution` - a resolution is accepted against the request of its decision
* `writeOnce_lookup` - a record that was written stays
-/

namespace Acgps

open Checked Interleaving

/-! ## Section 1: Errors and names -/

/-- `raise DecisionQueueError(message)`. -/
def decisionError (message : Text) : Failure := .decisionQueue message

/-- `except ContractValidationError as exc: raise DecisionQueueError(str(exc))`. -/
def asDecisionError (failure : Failure) : Failure :=
  match failure with
  | .contractValidation _ _ => .decisionQueue failure.str
  | other => other

/-- `except WorkflowStoreError as exc: raise DecisionQueueError(str(exc))`. -/
def asDecisionStoreError (failure : Failure) : Failure :=
  match failure with
  | .workflowStore _ => .decisionQueue failure.str
  | other => other

/-- The file name of a decision, without its directories. -/
def decisionFileName (decisionId : String) : String :=
  String.ofList ((pathSegments decisionId.toList).getLastD []) ++ ".json"

/-- `_contained_path` on `pending/{decision_id}.json` and on `resolved/{decision_id}.json`: the first
segment is no drive and no root. -/
def containedPath (directory decisionId : String) : Outcome Unit := do
  let relative := (directory ++ "/" ++ decisionId ++ ".json").toList
  require ('\\' ∉ relative)
    (decisionError "WORKFLOW_INVALID_INPUT: path: path must use POSIX separators")
  require (∀ segment ∈ pathSegments relative, segment ≠ [] ∧ segment ≠ ['.'] ∧ segment ≠ ['.', '.'])
    (decisionError
      "WORKFLOW_INVALID_INPUT: path: path must not contain empty, current, or parent segments")

/-! ## Section 2: Records -/

/-- `_validate_request`. -/
def validateDecisionRequest (request : Mapping) : Outcome Unit := do
  mapError asDecisionError (validateContract .humanDecisionRequest request.toJson)
  require (request.get "status" = .str "PENDING")
    (decisionError "pending decision request status must be PENDING")

/-- The identities of the options of a request. -/
def optionIds (request : Mapping) : List Json :=
  ((request.get "options").asList.getD []).map (fun option => option.field "id")

/-- `_validate_resolution_against_request`. -/
def validateResolutionAgainstRequest (resolution request : Mapping) : Outcome Unit := do
  mapError asDecisionError (validateContract .humanDecisionResolution resolution.toJson)
  forM ["decision_id", "project_id", "task_id"] (fun field =>
    require (resolution.get field = request.get field)
      (decisionError [.text "resolution ", .text field, .text " does not match pending request"]))
  require (resolution.get "resume_state" = request.get "stage")
    (decisionError "resolution resume_state does not match the approved target stage")
  require (resolution.get "selected_option" ∈ optionIds request)
    (decisionError "selected_option is not offered by the pending request")

/-- A request that may stand in the queue. -/
structure PendingRequest (request : Mapping) : Prop where
  contract : validateContract .humanDecisionRequest request.toJson = .ok ()
  status : request.get "status" = .str "PENDING"

/-- A resolution that answers a request. -/
structure ResolutionAnswers (resolution request : Mapping) : Prop where
  contract : validateContract .humanDecisionResolution resolution.toJson = .ok ()
  decisionId : resolution.get "decision_id" = request.get "decision_id"
  projectId : resolution.get "project_id" = request.get "project_id"
  taskId : resolution.get "task_id" = request.get "task_id"
  resumeState : resolution.get "resume_state" = request.get "stage"
  selected : resolution.get "selected_option" ∈ optionIds request

@[simp] theorem validateDecisionRequest_eq_ok {request : Mapping} {u : Unit} :
    validateDecisionRequest request = .ok u ↔ PendingRequest request := by
  simp only [validateDecisionRequest, bind_eq_ok, mapError_eq_ok, require_eq_ok]
  constructor
  · rintro ⟨_, hcontract, hstatus⟩
    exact ⟨hcontract, hstatus⟩
  · rintro ⟨hcontract, hstatus⟩
    exact ⟨(), hcontract, hstatus⟩

@[simp] theorem validateResolutionAgainstRequest_eq_ok {resolution request : Mapping} {u : Unit} :
    validateResolutionAgainstRequest resolution request = .ok u ↔
      ResolutionAnswers resolution request := by
  simp only [validateResolutionAgainstRequest, bind_eq_ok, mapError_eq_ok, forM_eq_ok_iff,
    require_eq_ok, exists_const, List.forall_mem_cons, List.not_mem_nil, false_implies,
    implies_true, and_true]
  constructor
  · rintro ⟨_, hcontract, ⟨hid, hproject, htask⟩, hresume, hselected⟩
    exact ⟨hcontract, hid, hproject, htask, hresume, hselected⟩
  · rintro ⟨hcontract, hid, hproject, htask, hresume, hselected⟩
    exact ⟨(), hcontract, ⟨hid, hproject, htask⟩, hresume, hselected⟩

/-- `_read_mapping` on a file of the queue. -/
def readDecisionMapping (name : String) (content : FileContent) : Outcome Mapping := do
  let value ← mapError (fun failure => match failure with
    | .undecodable => .interpreter "UnicodeDecodeError" "'utf-8' codec can't decode bytes"
    | .malformed => decisionError [.text "decision record is unreadable: ", .text name])
    content.loads
  expect value.asMapping
    (decisionError [.text "decision record must be a mapping: ", .text name])

@[simp] theorem readDecisionMapping_eq_ok {name : String} {content : FileContent}
    {record : Mapping} :
    readDecisionMapping name content = .ok record ↔ content.loads = .ok record.toJson := by
  simp [readDecisionMapping]

/-! ## Section 3: The directories -/

/-- `_write_once`: an existing file is kept, and has to hold the same bytes. -/
def writeOnce (files : List (String × FileContent)) (decisionId : String) (record : Mapping) :
    Outcome Unit × List (String × FileContent) :=
  let exists_ : Failure :=
    decisionError [.text "decision record already exists: ", .text (decisionFileName decisionId)]
  match files.lookup decisionId with
  | none => (.ok (), files ++ [(decisionId, .canonicalLine record)])
  | some (.canonicalLine stored) => (require (stored = record) exists_, files)
  | some (.other _ _) => (.error exists_, files)

/-- A record that was written stays. -/
theorem writeOnce_lookup {files : List (String × FileContent)} {decisionId id : String}
    {record : Mapping} {content : FileContent} (h : files.lookup id = some content) :
    (writeOnce files decisionId record).2.lookup id = some content := by
  unfold writeOnce
  dsimp only
  split
  · rw [List.lookup_append, h]
    rfl
  · exact h
  · exact h

/-- A write that succeeds leaves the record in its place. -/
theorem writeOnce_eq_ok {files : List (String × FileContent)} {decisionId : String}
    {record : Mapping} {u : Unit} (h : (writeOnce files decisionId record).1 = .ok u) :
    (writeOnce files decisionId record).2.lookup decisionId = some (.canonicalLine record) := by
  unfold writeOnce at h ⊢
  dsimp only at h ⊢
  split
  next hnone => simp [List.lookup_append, hnone]
  next stored hstored =>
    rw [hstored] at h
    obtain rfl : stored = record := by simpa using h
    exact hstored
  next hother =>
    rw [hother] at h
    simp at h

/-- `create`. -/
def createDecision (request : Mapping) : EngineProg Unit := do
  Prog.lift (validateDecisionRequest request)
  let decisionId := request.word "decision_id"
  Prog.lift (containedPath "pending" decisionId)
  Prog.update (fun w =>
    let written := writeOnce w.decisions.pending decisionId request
    (written.1, { w with decisions := { w.decisions with pending := written.2 } }))

/-- `validate_resolution`. -/
def validateResolution (resolution : Mapping) : EngineQuery Mapping := do
  Query.lift (mapError asDecisionError
    (validateContract .humanDecisionResolution resolution.toJson))
  let decisionId := resolution.word "decision_id"
  Query.lift (containedPath "pending" decisionId)
  let content ← Query.read (fun w => expect (w.decisions.pending.lookup decisionId)
    (decisionError "matching pending decision request is missing"))
  let request ← Query.lift (readDecisionMapping (decisionFileName decisionId) content)
  Query.lift (validateDecisionRequest request)
  Query.lift (validateResolutionAgainstRequest resolution request)
  return request

/-- `resolve`. -/
def resolveDecision (resolution : Mapping) : EngineProg Unit := do
  let _ ← Prog.query (validateResolution resolution)
  let decisionId := resolution.word "decision_id"
  Prog.lift (containedPath "resolved" decisionId)
  Prog.update (fun w =>
    let written := writeOnce w.decisions.resolved decisionId resolution
    (written.1, { w with decisions := { w.decisions with resolved := written.2 } }))

/-- A decision that the queue holds a request of. -/
theorem may_validateResolution {S : World → Prop} {resolution request : Mapping} :
    (validateResolution resolution).May S (.ok request) ↔
      containedPath "pending" (resolution.word "decision_id") = .ok () ∧
      PendingRequest request ∧ ResolutionAnswers resolution request ∧
      ∃ w, S w ∧ ∃ content,
        w.decisions.pending.lookup (resolution.word "decision_id") = some content ∧
        content.loads = .ok request.toJson := by
  simp only [validateResolution, Query.may_bind, Query.may_lift, mapError_eq_ok, Query.may_read,
    expect_eq_ok, readDecisionMapping_eq_ok, validateDecisionRequest_eq_ok,
    validateResolutionAgainstRequest_eq_ok, Query.may_pure]
  constructor
  · rintro ⟨_, _, _, hpath, content, ⟨w, hw, hlookup⟩, _, hloads, _, hpending, _, hanswers, rfl⟩
    exact ⟨hpath, hpending, hanswers, w, hw, content, hlookup, hloads⟩
  · rintro ⟨hpath, hpending, hanswers, w, hw, content, hlookup, hloads⟩
    exact ⟨(), hanswers.contract, (), hpath, content, ⟨w, hw, hlookup⟩, request, hloads, (),
      hpending, (), hanswers, rfl⟩

/-! ## Section 4: The pending requests -/

section Listing

variable [Platform]

/-- A row of `task_states`, as `read_waiting_human_decisions` takes it: the decision of a task that
waits. -/
def readWaitingRow (row : TaskStateRow) : Outcome (Option (String × Json)) := do
  let payload ← loadsJsonMapping row.stateJson "WORKFLOW_STATE_CORRUPT" "task_state"
  let state ← raiseOutcome (validateTaskState payload)
  require (state.taskId.val = row.taskId)
    (storeError "WORKFLOW_STATE_CORRUPT" "task_state.task_id" "task-state row identity mismatch")
  return if state.currentState = .waitingHuman then
    state.pendingDecisionId.map (fun id => (row.taskId, .str id.val)) else none

/-- `read_waiting_human_decisions`. -/
def readWaitingHumanDecisions (store : ControlStore) : Outcome Mapping := do
  let rows ← (store.taskStates.mergeSort (fun a b => a.taskId ≤ b.taskId)).mapM readWaitingRow
  return Mapping.ofPairs rows.reduceOption

/-- `_require_authoritative_pending_match`: `pending_by_task` against the tasks that wait. -/
def requireAuthoritativePendingMatch (records : List Mapping) (waiting : Mapping) : Outcome Unit :=
  let pendingByTask := Mapping.ofPairs
    (records.map (fun record => (record.word "task_id", record.get "decision_id")))
  require (pendingByTask.entries.length = records.length ∧ pendingByTask = waiting)
    (decisionError "pending decision records do not match authoritative WAITING_HUMAN tasks")

/-- The decisions with a file directly below `pending`, in the order of the file names. -/
def pendingNames (decisions : DecisionFiles) : List String :=
  ((decisions.pending.map Prod.fst).filter (fun id => '/' ∉ id.toList)).mergeSort
    (fun a b => a ++ ".json" ≤ b ++ ".json")

/-- `_resolution_is_committed`. -/
def resolutionIsCommitted (resolution : Mapping) : EngineQuery Bool :=
  Query.read (fun w =>
    mapError asDecisionStoreError (hasCommittedDecisionResolution w.store resolution))

/-- One turn of the loop of `list_pending`: a request whose resolution is committed is left out. -/
def pendingRecord (name : String) : EngineQuery (Option Mapping) := do
  Query.lift (containedPath "pending" name)
  let content ← Query.read (fun w => expect (w.decisions.pending.lookup name)
    (decisionError [.text "pending decision record must be a file: ", .text (name ++ ".json")]))
  let request ← Query.lift (readDecisionMapping (name ++ ".json") content)
  Query.lift (validateDecisionRequest request)
  let decisionId := request.word "decision_id"
  Query.lift (containedPath "resolved" decisionId)
  let resolved ← Query.read (fun w => .ok (w.decisions.resolved.lookup decisionId))
  match resolved with
  | none => return some request
  | some stored => do
      let resolution ← Query.lift (readDecisionMapping (decisionFileName decisionId) stored)
      Query.lift (validateResolutionAgainstRequest resolution request)
      let committed ← resolutionIsCommitted resolution
      return if committed then none else some request

/-- `list_pending`. -/
def listPending : EngineQuery (List Mapping) := do
  let names ← Query.read (fun w => .ok (pendingNames w.decisions))
  let records ← names.mapM pendingRecord
  let pending := records.reduceOption
  Query.read (fun w => do
    let waiting ← mapError asDecisionStoreError (readWaitingHumanDecisions w.store)
    requireAuthoritativePendingMatch pending waiting)
  return pending

end Listing

end Acgps
