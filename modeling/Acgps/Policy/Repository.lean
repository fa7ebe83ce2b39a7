import Acgps.Policy.Evaluation

/-!
# The workflow policy of the repository

The transitions that `config/workflow_policy.yaml` declares.

## Main Definitions

* `repositoryTransitions` - the table
* `PolicyBundle.IsRepository` - a bundle with this table

## Key Theorems

* `repository_pause` - a pause is taken from no other pause
* `beforePlan_step`, `afterPlan_step` - the plan divides the states of a task
-/

namespace Acgps

/-! ## Section 1: The table -/

/-- `transitions` of `config/workflow_policy.yaml`. -/
def repositoryTransitions : List (TaskState × List TaskState) :=
  [(.draft, [.readyForClassification, .abandoned]),
    (.readyForClassification, [.classified, .draft, .abandoned]),
    (.classified, [.specReady, .waitingHuman, .abandoned]),
    (.specReady, [.planReady, .waitingHuman, .abandoned]),
    (.planReady, [.implementing, .waitingHuman, .abandoned]),
    (.implementing, [.taskReview, .blocked, .waitingHuman]),
    (.taskReview, [.fixRequired, .integrating, .waitingHuman]),
    (.fixRequired, [.implementing, .waitingHuman, .abandoned]),
    (.integrating, [.systemQa, .verified, .fixRequired, .blocked]),
    (.systemQa, [.verified, .fixRequired, .waitingHuman, .blocked]),
    (.verified, [.rcReady, .closed, .waitingHuman]),
    (.rcReady, [.closed, .waitingHuman]),
    (.waitingHuman, [.classified, .specReady, .planReady, .implementing, .taskReview,
      .fixRequired, .integrating, .systemQa, .verified, .rcReady, .abandoned]),
    (.blocked, [.implementing, .integrating, .systemQa, .abandoned]),
    (.closed, []),
    (.abandoned, [])]

/-- A bundle with the transitions of the repository. -/
def PolicyBundle.IsRepository (B : PolicyBundle) : Prop := B.transitions = repositoryTransitions

/-- The targets of a state in the table. -/
def repositoryTargets (s : TaskState) : List TaskState := (repositoryTransitions.lookup s).getD []

theorem PolicyBundle.IsRepository.targets_eq {B : PolicyBundle} (h : B.IsRepository)
    (s : TaskState) : B.targets s = repositoryTargets s := by
  rw [PolicyBundle.targets, h, repositoryTargets]

/-! ## Section 2: What the table says -/

/-- A pause is taken from no other pause. -/
theorem repository_pause : TaskState.waitingHuman ∉ repositoryTargets .waitingHuman := by decide

/-- The states before a plan is frozen. -/
def TaskState.beforePlan : TaskState → Bool
  | draft | readyForClassification | classified | specReady => true
  | _ => false

/-- The states behind a frozen plan, from which a task can still go on. -/
def TaskState.afterPlan : TaskState → Bool
  | planReady | implementing | taskReview | fixRequired | integrating | systemQa | verified
  | rcReady | blocked => true
  | _ => false

/-- Before the plan a task can only go to where no plan is frozen yet, freeze it, or end. -/
theorem beforePlan_step {source target : TaskState} (hsource : source.beforePlan = true)
    (htarget : target ∈ repositoryTargets source) (hpause : target ≠ .waitingHuman) :
    target.beforePlan = true ∨ target = .planReady ∨ target = .abandoned := by
  have hall : ∀ source ∈ TaskState.all, source.beforePlan = true →
      ∀ target ∈ repositoryTargets source, target ≠ .waitingHuman →
        target.beforePlan = true ∨ target = .planReady ∨ target = .abandoned := by decide
  exact hall source (TaskState.mem_all source) hsource target htarget hpause

/-- Behind the plan a task stays there, or ends; the plan is not frozen again. -/
theorem afterPlan_step {source target : TaskState} (hsource : source.afterPlan = true)
    (htarget : target ∈ repositoryTargets source) (hpause : target ≠ .waitingHuman) :
    target ≠ .planReady ∧ (target.afterPlan = true ∨ target = .abandoned ∨ target = .closed) := by
  have hall : ∀ source ∈ TaskState.all, source.afterPlan = true →
      ∀ target ∈ repositoryTargets source, target ≠ .waitingHuman →
        target ≠ .planReady ∧
          (target.afterPlan = true ∨ target = .abandoned ∨ target = .closed) := by decide
  exact hall source (TaskState.mem_all source) hsource target htarget hpause

end Acgps
