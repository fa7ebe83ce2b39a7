import Acgps.Policy.Evaluable
import Acgps.Policy.Repository

/-!
# Evaluation under the reference bundle

The smallest bundle that the loader accepts with the transitions of the repository: no trigger
raises the risk, and no task attribute, skill or model role is declared. Under it every well-formed
request is decided.

## Main Definitions

* `referenceBundle` - the bundle
* `ReferenceRequest` - a well-formed request

## Key Theorems

* `evaluatePolicy_reference` - **every well-formed request is decided**
-/

namespace Acgps

open Checked

/-! ## Section 1: The bundle -/

/-- The smallest bundle with the transitions of the repository. -/
def referenceBundle : PolicyBundle where
  digest := unarySha 0
  taskStates := TaskState.all
  transitions := repositoryTransitions
  risk :=
    { defaultLevel := .r0
      levels := [(.r0, ["focused_check"]), (.r1, ["spec"]), (.r2, ["plan"]),
        (.r3, ["human_approval"])]
      triggers := [] }
  humanTriggers := ["H1_PRODUCT_INTENT"]
  routingFeatures :=
    { taskAttributes := []
      riskConditions := []
      skillRuleFeatures := []
      modelRoleRules := [] }
  projectProfiles := [("demo", ⟨"demo", "project_profiles/demo.yaml", []⟩)]

theorem referenceBundle_isRepository : referenceBundle.IsRepository := rfl

/-- The human triggers of a request that raises the one of the bundle, or none. -/
def referenceTriggers (gated : Bool) : List String := if gated then ["H1_PRODUCT_INTENT"] else []

theorem repositoryTargets_nodup (s : TaskState) : (repositoryTargets s).Nodup := by
  cases s <;> decide

/-- The loader would accept the bundle. -/
theorem referenceBundle_accepted : referenceBundle.Accepted where
  targets := fun s => by
    rw [referenceBundle_isRepository.targets_eq]
    exact repositoryTargets_nodup s
  levels := by
    intro level
    cases level with
    | r0 => exact ⟨["focused_check"], rfl, by decide, by decide⟩
    | r1 => exact ⟨["spec"], rfl, by decide, by decide⟩
    | r2 => exact ⟨["plan"], rfl, by decide, by decide⟩
    | r3 => exact ⟨["human_approval"], rfl, by decide, by decide⟩
  humanTriggers := by decide
  skills := nofun
  actors := nofun
  alwaysRoles := nofun
  levelRoles := nofun
  profiles := by
    intro entry hentry
    obtain rfl := List.mem_singleton.mp hentry
    exact ⟨"demo.yaml", by decide⟩

/-! ## Section 2: Requests -/

/-- A request under the reference bundle, well formed; `gated` tells whether it raises the human
trigger. -/
structure ReferenceRequest (i : PolicyInput) (gated : Bool) : Prop where
  evaluationId : PlainText i.evaluationId
  projectId : PlainText i.projectId
  taskId : PlainText i.taskId
  createdAtUtc : isRfc3339Utc i.createdAtUtc = true
  profile : i.projectProfileId = "demo"
  riskTriggers : i.riskTriggers = []
  humanTriggers : i.humanTriggers = referenceTriggers gated
  taskAttributes : i.taskAttributes = []

theorem ReferenceRequest.input_eq {i : PolicyInput} {gated : Bool} (h : ReferenceRequest i gated) :
    i.input = ⟨i.currentState, [], referenceTriggers gated, .ofPairs [], some "demo"⟩ := by
  rw [PolicyInput.input, h.riskTriggers, h.humanTriggers, h.taskAttributes, h.profile]

/-- A request uses what the bundle declares. -/
theorem ReferenceRequest.usesDeclared {i : PolicyInput} {gated : Bool}
    (h : ReferenceRequest i gated) : i.input.UsesDeclared referenceBundle := by
  rw [h.input_eq]
  refine ⟨TaskState.mem_all i.currentState, nofun, ?_, nofun, ?_⟩
  · cases gated with
    | false => exact nofun
    | true => exact fun _ htrigger => htrigger
  · intro profileId hprofile
    obtain rfl := Option.some.inj hprofile
    decide

/-- **A request is evaluable.** -/
theorem ReferenceRequest.evaluable {i : PolicyInput} {gated : Bool} (h : ReferenceRequest i gated) :
    Evaluable referenceBundle (.published i.context) i.input := by
  have htriggers : ∀ trigger ∈ referenceTriggers gated, trigger ∉ templatePlaceholders := by
    cases gated <;> decide
  have hnodup : (referenceTriggers gated).Nodup := by cases gated <;> decide
  have horder : referenceBundle.humanTriggers.filter (· ∈ referenceTriggers gated)
      = humanDecisionTriggers.filter (· ∈ referenceTriggers gated) := by
    cases gated <;> decide +kernel
  have hgates : ∀ level gates, referenceBundle.risk.levels.lookup level = some gates →
      InOrder policyGateIds gates := by
    intro level gates hlookup
    have hentry : ∀ entry ∈ referenceBundle.risk.levels, InOrder policyGateIds entry.2 := by
      decide +kernel
    exact hentry _ (mem_of_lookup_eq_some hlookup)
  rw [h.input_eq]
  refine ⟨⟨List.nodup_nil, hnodup⟩, ?_, nofun, horder, rfl, hgates _, nofun⟩
  intro context hcontext
  obtain rfl := InputCarrier.published.inj hcontext
  refine ⟨⟨h.evaluationId.noPlaceholder, h.projectId, h.taskId, h.createdAtUtc⟩,
    nofun, htriggers, ?_, nofun⟩
  intro profileId hprofile
  obtain rfl := Option.some.inj hprofile
  decide

/-- **Every well-formed request is decided.** -/
theorem evaluatePolicy_reference [Platform] {i : PolicyInput} {gated : Bool}
    (h : ReferenceRequest i gated) : evaluatePolicy referenceBundle i
      = i.context.answered.evaluation (decision referenceBundle i.input)
        (some referenceBundle.digest) :=
  evaluatePolicy_of_evaluable h.evaluable referenceBundle_accepted
    (isSha256_unarySha (Nat.zero_le _)) h.usesDeclared

end Acgps
