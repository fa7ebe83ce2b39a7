import Acgps.Data.Text

/-!
# The declared vocabularies

The states of a task, the actors of the workflow and the closed word lists that contracts and
bindings are checked against.

## Main Definitions

* `TaskState` - the sixteen workflow states of `TASK_STATES`
* `Actor` - the roles of `ACTORS`
* `EventType` - the audit event types of `EVENT_TYPES`
-/

namespace Acgps

/-! ## Section 1: Task states -/

/-- The workflow states. -/
inductive TaskState where
  | draft
  | readyForClassification
  | classified
  | specReady
  | planReady
  | implementing
  | taskReview
  | fixRequired
  | integrating
  | systemQa
  | verified
  | rcReady
  | waitingHuman
  | blocked
  | closed
  | abandoned
  deriving DecidableEq, Inhabited

namespace TaskState

/-- The word of a state. -/
def name : TaskState → String
  | draft => "DRAFT"
  | readyForClassification => "READY_FOR_CLASSIFICATION"
  | classified => "CLASSIFIED"
  | specReady => "SPEC_READY"
  | planReady => "PLAN_READY"
  | implementing => "IMPLEMENTING"
  | taskReview => "TASK_REVIEW"
  | fixRequired => "FIX_REQUIRED"
  | integrating => "INTEGRATING"
  | systemQa => "SYSTEM_QA"
  | verified => "VERIFIED"
  | rcReady => "RC_READY"
  | waitingHuman => "WAITING_HUMAN"
  | blocked => "BLOCKED"
  | closed => "CLOSED"
  | abandoned => "ABANDONED"

/-- The states in declaration order. -/
def all : List TaskState :=
  [draft, readyForClassification, classified, specReady, planReady, implementing, taskReview,
    fixRequired, integrating, systemQa, verified, rcReady, waitingHuman, blocked, closed,
    abandoned]

theorem mem_all (s : TaskState) : s ∈ all := by
  cases s <;> decide

theorem name_injective : Function.Injective name := by
  intro a b h
  cases a <;> cases b <;> first | rfl | exact absurd h (by decide)

end TaskState

/-! ## Section 2: Actors and event types -/

/-- The actors of the workflow. -/
inductive Actor where
  | planner
  | coder
  | reviewer
  | verifier
  | controller
  | human
  deriving DecidableEq, Inhabited

namespace Actor

/-- The word of an actor. -/
def name : Actor → String
  | planner => "PLANNER"
  | coder => "CODER"
  | reviewer => "REVIEWER"
  | verifier => "VERIFIER"
  | controller => "CONTROLLER"
  | human => "HUMAN"

/-- All actors. -/
def all : List Actor := [planner, coder, reviewer, verifier, controller, human]

theorem mem_all (a : Actor) : a ∈ all := by
  cases a <;> decide

theorem name_injective : Function.Injective name := by
  intro a b h
  cases a <;> cases b <;> first | rfl | exact absurd h (by decide)

end Actor

/-- The types of audit events. -/
inductive EventType where
  | taskCreated
  | transitionAccepted
  | recoveryRecorded
  | rollbackRecorded
  deriving DecidableEq, Inhabited

namespace EventType

/-- The word of an event type. -/
def name : EventType → String
  | taskCreated => "TASK_CREATED"
  | transitionAccepted => "TRANSITION_ACCEPTED"
  | recoveryRecorded => "RECOVERY_RECORDED"
  | rollbackRecorded => "ROLLBACK_RECORDED"

/-- All event types. -/
def all : List EventType := [taskCreated, transitionAccepted, recoveryRecorded, rollbackRecorded]

theorem mem_all (t : EventType) : t ∈ all := by
  cases t <;> decide

theorem name_injective : Function.Injective name := by
  intro a b h
  cases a <;> cases b <;> first | rfl | exact absurd h (by decide)

end EventType

/-! ## Section 3: Reading a word of a vocabulary -/

section OfName

variable {α : Type} (name : α → String)

/-- The element of a vocabulary that a word names. -/
def ofName (vocabulary : List α) (word : String) : Option α :=
  vocabulary.find? (fun a => name a = word)

variable {name}

/-- A word is read back as the element that prints it. -/
theorem ofName_eq_some_iff {vocabulary : List α} (hall : ∀ a, a ∈ vocabulary)
    (hinj : Function.Injective name) {word : String} {a : α} :
    ofName name vocabulary word = some a ↔ word = name a := by
  constructor
  · intro h
    have hname := List.find?_some h
    exact (of_decide_eq_true hname).symm
  · rintro rfl
    cases h : ofName name vocabulary (name a) with
    | none =>
        have hnone := List.find?_eq_none.mp h a (hall a)
        simp at hnone
    | some b =>
        have hname := List.find?_some h
        simp only [decide_eq_true_eq] at hname
        rw [hinj hname]

end OfName

/-- The state a word names. -/
def TaskState.ofName (word : String) : Option TaskState := Acgps.ofName TaskState.name TaskState.all word

/-- The actor a word names. -/
def Actor.ofName (word : String) : Option Actor := Acgps.ofName Actor.name Actor.all word

/-- The event type a word names. -/
def EventType.ofName (word : String) : Option EventType := Acgps.ofName EventType.name EventType.all word

@[simp] theorem TaskState.ofName_eq_some_iff {word : String} {s : TaskState} :
    TaskState.ofName word = some s ↔ word = s.name :=
  Acgps.ofName_eq_some_iff TaskState.mem_all TaskState.name_injective

@[simp] theorem Actor.ofName_eq_some_iff {word : String} {a : Actor} :
    Actor.ofName word = some a ↔ word = a.name :=
  Acgps.ofName_eq_some_iff Actor.mem_all Actor.name_injective

@[simp] theorem EventType.ofName_eq_some_iff {word : String} {t : EventType} :
    EventType.ofName word = some t ↔ word = t.name :=
  Acgps.ofName_eq_some_iff EventType.mem_all EventType.name_injective

/-- A state as a value. -/
def TaskState.toJson (s : TaskState) : Json := .str s.name

/-- An actor as a value. -/
def Actor.toJson (a : Actor) : Json := .str a.name

/-- An event type as a value. -/
def EventType.toJson (t : EventType) : Json := .str t.name

/-! ## Section 4: Word lists -/

/-- `TASK_STATES`. -/
def taskStates : List String := TaskState.all.map TaskState.name

/-- `RISK_LEVELS`. -/
def riskLevels : List String := ["R0", "R1", "R2", "R3"]

/-- `ROLES`. -/
def roles : List String := ["PLANNER", "CODER", "REVIEWER", "VERIFIER"]

/-- `HUMAN_DECISION_TRIGGERS`. -/
def humanDecisionTriggers : List String :=
  ["H1_PRODUCT_INTENT", "H2_IRREVERSIBLE_OR_COSTLY", "H3_RISK_ACCEPTANCE",
    "H4_NORMATIVE_EXPERIENCE", "H5_EXTERNAL_ACTION"]

/-- `POLICY_SKILL_IDS`. -/
def policySkillIds : List String :=
  ["superpowers_writing_plans", "superpowers_requesting_code_review", "figma_design",
    "superpowers_verification_before_completion"]

/-- `POLICY_MODEL_ROLE_IDS`. -/
def policyModelRoleIds : List String :=
  ["planner_architect", "task_reviewer", "final_reviewer", "verifier"]

/-- `POLICY_MODEL_ACTORS`. -/
def policyModelActors : List String := ["planner", "reviewer", "verifier"]

/-- `POLICY_GATE_IDS`. -/
def policyGateIds : List String :=
  ["focused_check", "lightweight_review", "spec", "tests", "independent_review",
    "affected_checks", "architecture", "plan", "broad_verification", "high_capability_review",
    "rc_evidence", "human_approval", "risk_analysis", "strongest_planner", "strongest_reviewer",
    "full_verification", "rollback_plan", "human_release"]

/-- `POLICY_ERROR_CODES`. -/
def policyErrorCodes : List String :=
  ["POLICY_CONFLICT", "POLICY_DUPLICATE_DISCOVERY_ROUTE", "POLICY_DUPLICATE_PROFILE_ID",
    "POLICY_DUPLICATE_SET_MEMBER", "POLICY_DUPLICATE_YAML_KEY", "POLICY_FILE_MISSING",
    "POLICY_MALFORMED", "POLICY_PROFILE_DOWNGRADE_FORBIDDEN",
    "POLICY_PROFILE_REQUIRED_FILE_INVALID", "POLICY_TYPE_ERROR", "POLICY_UNKNOWN_ATTRIBUTE",
    "POLICY_UNKNOWN_ATTRIBUTE_VALUE", "POLICY_UNKNOWN_FIELD", "POLICY_UNKNOWN_ID",
    "POLICY_UNSUPPORTED_VERSION"]

end Acgps
