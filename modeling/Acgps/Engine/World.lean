import Acgps.Engine.Lineage
import Acgps.Lib.Interleaving
import Acgps.Policy.Evaluation

/-!
# The world of the engine

What the engine and the other processes share: the control store, the initialization proofs, the
decision queue, and the files that evidence is read from.

## Main Definitions

* `EvidencePath`, `Location` - a path as the engine was given it, and where it leads
* `Files` - what every path leads to at one moment
* `World` - everything that a call can read or write
* `Engine` - the arguments an engine was built with
* `status`, `audit`, `trustedLineage` - the readers that the calls share

## Key Theorems

* `Location.ofLogical_logical` - a logical path names one location
* `may_status`, `may_audit`, `may_trustedLineage` - what the readers can return
-/

namespace Acgps

open Checked Interleaving

/-! ## Section 1: Paths -/

/-- The two trees that evidence may come from. -/
inductive ManagedRoot where
  | project
  | state
  deriving DecidableEq

/-- The word of a tree in a logical path. -/
def ManagedRoot.label : ManagedRoot → String
  | project => "project"
  | state => "state"

/-- `roots[prefix]`. -/
def ManagedRoot.ofLabel (label : String) : Option ManagedRoot :=
  if label = "project" then some .project else if label = "state" then some .state else none

@[simp] theorem ManagedRoot.ofLabel_label (root : ManagedRoot) :
    ManagedRoot.ofLabel root.label = some root := by
  cases root <;> simp [ofLabel, label]

/-- A file below one of the trees. -/
structure Location where
  root : ManagedRoot
  relative : String
  nonempty : relative ≠ ""
  deriving DecidableEq

namespace Location

/-- The logical path of a location. -/
def logical (l : Location) : String := l.root.label ++ "/" ++ l.relative

/-- `logical_path.partition("/")`, with the tree that the first part names. -/
def ofLogical (path : String) : Option Location :=
  match path.toList.dropWhile (· ≠ '/') with
  | [] => none
  | _ :: relative =>
      (ManagedRoot.ofLabel (String.ofList (path.toList.takeWhile (· ≠ '/')))).bind (fun root =>
        if h : String.ofList relative ≠ "" then some ⟨root, String.ofList relative, h⟩ else none)

/-- **A logical path names one location.** -/
theorem ofLogical_logical (l : Location) : ofLogical l.logical = some l := by
  obtain ⟨root, relative, hrelative⟩ := l
  have hlist : (Location.mk root relative hrelative).logical.toList
      = root.label.toList ++ '/' :: relative.toList := by
    simp [logical]
  have hlabel : ∀ c ∈ root.label.toList, decide (c ≠ '/') = true := by
    apply List.all_eq_true.mp
    cases root <;> decide +kernel
  have hdrop : (root.label.toList ++ '/' :: relative.toList).dropWhile (· ≠ '/')
      = '/' :: relative.toList := by
    rw [List.dropWhile_append_of_pos hlabel]
    simp
  have htake : (root.label.toList ++ '/' :: relative.toList).takeWhile (· ≠ '/')
      = root.label.toList := by
    rw [List.takeWhile_append_of_pos hlabel]
    simp
  rw [ofLogical, hlist, hdrop, htake]
  simp [hrelative]

theorem logical_injective : Function.Injective logical := by
  intro a b h
  have hsome := ofLogical_logical a
  rw [h, ofLogical_logical b] at hsome
  exact (Option.some.inj hsome).symm

end Location

/-- A path that the engine reads: as a caller gave it, below one of the trees, or relative to the
directory of another path. -/
inductive EvidencePath where
  | given (text : String)
  | rooted (l : Location)
  | sibling (path : EvidencePath) (relative : String)
  deriving DecidableEq

/-! ## Section 2: Files -/

/-- What a path resolves to. A regular file has the location below the first tree that contains it,
if one does. -/
inductive PathTarget where
  | missing
  | notRegular
  | file (resolved : String) (location : Option Location) (content : FileContent)

/-- What a path leads to. For a path that is relative to the directory of another one,
`withinParent` says whether the file lies below that directory. -/
structure PathEntry where
  isSymlink : Bool
  withinParent : Bool
  target : PathTarget

/-- What every path leads to at one moment. Two paths to one file agree on it: the path of its
location is no link and leads to the same bytes, and so does every path relative to its
directory. -/
structure Files where
  entry : EvidencePath → PathEntry
  located : ∀ {path resolved l content},
    (entry path).target = .file resolved (some l) content →
    (entry (.rooted l)).isSymlink = false ∧
      (entry (.rooted l)).target = .file resolved (some l) content
  beside : ∀ {path resolved l content}, (entry path).isSymlink = false →
    (entry path).target = .file resolved (some l) content →
    ∀ relative, entry (.sibling path relative) = entry (.sibling (.rooted l) relative)

/-- No path leads to a file. -/
def Files.empty : Files where
  entry := fun _ => ⟨false, false, .missing⟩
  located := by simp
  beside := by simp

/-! ## Section 3: The world -/

/-- A row of `idempotency_records` of kind `INITIALIZATION`: the proof of an intake. -/
structure InitializationProof where
  record : Mapping
  request : Mapping
  deriving DecidableEq

/-- The directories of the decision queue, by decision id. -/
structure DecisionFiles where
  pending : List (String × FileContent)
  resolved : List (String × FileContent)

/-- Everything that a call can read or write. The files of a project are seen from the root that an
engine was built with; `exportFault` is what the exports after a commit raise, if they do. -/
structure World where
  store : ControlStore
  initializations : List (String × InitializationProof)
  decisions : DecisionFiles
  files : String → Files
  exportFault : Option Failure

/-- A world in which nothing has happened. -/
def World.empty : World where
  store := .empty
  initializations := []
  decisions := ⟨[], []⟩
  files := fun _ => .empty
  exportFault := none

/-- The arguments an engine was built with, and how it prints a path. -/
structure Engine where
  bundle : PolicyBundle
  profileId : String
  projectName : String
  projectRoot : String
  pathText : EvidencePath → String
  readOnly : Bool

/-- A reader of the engine. -/
abbrev EngineQuery (α : Type) := Query World Failure α

/-- A call of the engine. -/
abbrev EngineProg (α : Type) := Prog World Failure α

/-- `raise WorkflowEngineError(message)`. -/
def engineError (message : Text) : Failure := .workflowEngine message

/-- `isinstance(exc, ValueError)`. -/
def Failure.isValueError : Failure → Bool
  | .workflowStore _ => false
  | .interpreter className _ => className = "ValueError" || className = "UnicodeDecodeError"
  | _ => true

/-- `except (ContractValidationError, ValueError) as exc: raise WorkflowEngineError(str(exc))`. -/
def asEngineError (failure : Failure) : Failure :=
  if failure.isValueError then .workflowEngine failure.str else failure

/-- `except (ContractValidationError, ReviewEvidenceError) as exc`. -/
def asGateError (failure : Failure) : Failure :=
  match failure with
  | .contractValidation _ _ | .reviewEvidence _ => .workflowEngine failure.str
  | other => other

/-- `except DecisionQueueError as exc`. -/
def asQueueError (failure : Failure) : Failure :=
  match failure with
  | .decisionQueue _ => .workflowEngine failure.str
  | other => other

/-! ## Section 4: The readers of the store -/

section Readers

variable [Platform]

/-- `_require_writable`. -/
def requireWritable (engine : Engine) : Outcome Unit :=
  require (engine.readOnly = false) (engineError "read-only workflow engine cannot modify state")

/-- `status`. -/
def status (taskId : String) : EngineQuery WorkflowTaskState :=
  Query.read (fun w => wrapStoreError (readTaskState w.store taskId))

/-- `audit`: the state and its generation are two reads. -/
def audit (taskId : String) : EngineQuery (List AuditEvent) := do
  let state ← status taskId
  Query.read (fun w =>
    wrapStoreError (readAuditEvents w.store taskId (state.auditGeneration.val : Int)))

/-- `_trusted_audit_lineage`, as one read: a walk that meets a commit of the task fails. -/
def trustedLineage (current : WorkflowTaskState) : EngineQuery (List AuditEvent) :=
  Query.read (fun w => trustedAuditLineage w.store current)

omit [Platform] in
@[simp] theorem may_status {S : World → Prop} {taskId : String} {current : WorkflowTaskState} :
    (status taskId).May S (.ok current) ↔ ∃ w, S w ∧ readTaskState w.store taskId = .ok current := by
  simp [status]

@[simp] theorem may_audit {S : World → Prop} {taskId : String} {events : List AuditEvent} :
    (audit taskId).May S (.ok events) ↔
      ∃ state, (∃ w, S w ∧ readTaskState w.store taskId = .ok state) ∧
        ∃ w, S w ∧ readAuditEvents w.store taskId (state.auditGeneration.val : Int) = .ok events := by
  simp [audit]

@[simp] theorem may_trustedLineage {S : World → Prop} {current : WorkflowTaskState}
    {events : List AuditEvent} :
    (trustedLineage current).May S (.ok events) ↔
      ∃ w, S w ∧ trustedAuditLineage w.store current = .ok events := by
  simp [trustedLineage]

end Readers

end Acgps
