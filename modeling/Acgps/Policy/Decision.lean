import Acgps.Policy.Evaluation

/-!
# The decision in closed form

An evaluation folds over the risk triggers of its input. What it decides is a function of the
sets of triggers: the risk level is the highest one that a trigger asks for.

## Main Definitions

* `triggerLevel` - the level that a trigger asks for
* `requestedLevel` - the level of an input
* `decision` - the result, without the checks

## Key Theorems

* `requestedLevel_rank_le_iff` - **the level of an input is the least one above all that is asked**
* `evaluateNormalized_eq_ok_iff` - when an evaluation decides, and what
-/

namespace Acgps

open Checked

/-! ## Section 1: The level -/

/-- The project profile of an input. -/
def EvaluationInput.profile (B : PolicyBundle) (i : EvaluationInput) : Option ProjectProfile :=
  i.projectProfileId.bind (B.projectProfiles.lookup ·)

/-- The override of a profile for a trigger. -/
def overrideOf (profile : Option ProjectProfile) (trigger : String) : Option RiskLevel :=
  profile.bind (·.riskOverrides.lookup trigger)

/-- The level that a trigger asks for: an override goes before the declared level. -/
def triggerLevel (B : PolicyBundle) (profile : Option ProjectProfile) (trigger : String) :
    Option RiskLevel :=
  (overrideOf profile trigger).or (B.risk.triggers.lookup trigger)

/-- The override of a trigger, if there is one, is not below the declared level. -/
def NotLowered (B : PolicyBundle) (profile : Option ProjectProfile) (trigger : String) : Prop :=
  ∀ level ∈ overrideOf profile trigger, ∀ declared ∈ B.risk.triggers.lookup trigger,
    declared.rank ≤ level.rank

/-- The higher one of a level and what a trigger asks for. -/
def raiseLevel (B : PolicyBundle) (profile : Option ProjectProfile) (level : RiskLevel)
    (trigger : String) : RiskLevel :=
  match triggerLevel B profile trigger with
  | some asked => if level.rank < asked.rank then asked else level
  | none => level

/-- The policy fields that a trigger rests on. -/
def triggerProvenance (B : PolicyBundle) (profile : Option ProjectProfile) (trigger : String) :
    List String :=
  (match B.risk.triggers.lookup trigger with
    | some _ => ["config/risk_policy.yaml:triggers." ++ trigger]
    | none => [])
  ++ (match profile, overrideOf profile trigger with
    | some p, some _ => [p.sourcePath ++ ":risk_overrides." ++ trigger]
    | _, _ => [])

/-- The triggers that a bundle or its profile has a level for. -/
def knownRiskTriggers (B : PolicyBundle) (profile : Option ProjectProfile) : List String :=
  let overrides := (profile.map (·.riskOverrides.map Prod.fst)).getD []
  let declared := B.risk.triggers.map Prod.fst
  declared ++ (overrides.filter (· ∉ declared)).mergeSort (· ≤ ·)

/-- The risk triggers of an input in their order. -/
def orderedRiskTriggers (B : PolicyBundle) (i : EvaluationInput) : List String :=
  canonicalOrder i.riskTriggers (knownRiskTriggers B (i.profile B))

/-- The level of an input. -/
def requestedLevel (B : PolicyBundle) (i : EvaluationInput) : RiskLevel :=
  (orderedRiskTriggers B i).foldl (raiseLevel B (i.profile B)) B.risk.defaultLevel

/-- One turn of the loop over the risk triggers. -/
theorem RiskScan.step_eq_ok_iff {B : PolicyBundle} {profile : Option ProjectProfile}
    {scan scan' : RiskScan} {trigger : String} :
    RiskScan.step B profile scan trigger = .ok scan' ↔
      ((triggerLevel B profile trigger).isSome = true ∧ NotLowered B profile trigger) ∧
      ⟨raiseLevel B profile scan.level trigger,
        scan.provenance ++ triggerProvenance B profile trigger⟩ = scan' := by
  cases profile with
  | none =>
      cases hdeclared : B.risk.triggers.lookup trigger with
      | none =>
          simp [RiskScan.step, triggerLevel, overrideOf, hdeclared, bind, Except.bind, expect]
      | some declared =>
          simp [RiskScan.step, triggerLevel, overrideOf, NotLowered, raiseLevel, triggerProvenance,
            hdeclared, bind, Except.bind, expect]
  | some p =>
      cases hoverride : p.riskOverrides.lookup trigger with
      | none =>
          cases hdeclared : B.risk.triggers.lookup trigger with
          | none =>
              simp [RiskScan.step, triggerLevel, overrideOf, hoverride, hdeclared, bind,
                Except.bind, expect]
          | some declared =>
              simp [RiskScan.step, triggerLevel, overrideOf, NotLowered, raiseLevel,
                triggerProvenance, hoverride, hdeclared, bind, Except.bind, expect]
      | some level =>
          cases hdeclared : B.risk.triggers.lookup trigger with
          | none =>
              simp [RiskScan.step, triggerLevel, overrideOf, NotLowered, raiseLevel,
                triggerProvenance, hoverride, hdeclared]
          | some declared =>
              simp [RiskScan.step, triggerLevel, overrideOf, NotLowered, raiseLevel,
                triggerProvenance, hoverride, hdeclared]

/-- The loop over the risk triggers. -/
theorem foldlM_step_eq_ok_iff {B : PolicyBundle} {profile : Option ProjectProfile} :
    ∀ {triggers : List String} {scan scan' : RiskScan},
    triggers.foldlM (RiskScan.step B profile) scan = .ok scan' ↔
      (∀ trigger ∈ triggers,
        (triggerLevel B profile trigger).isSome = true ∧ NotLowered B profile trigger) ∧
      ⟨triggers.foldl (raiseLevel B profile) scan.level,
        scan.provenance ++ triggers.flatMap (triggerProvenance B profile)⟩ = scan'
  | [], scan, scan' => by simp
  | trigger :: rest, scan, scan' => by
      rw [List.foldlM_cons, bind_eq_ok, List.forall_mem_cons, List.foldl_cons, List.flatMap_cons]
      simp only [RiskScan.step_eq_ok_iff, foldlM_step_eq_ok_iff]
      constructor
      · rintro ⟨_, ⟨hfirst, rfl⟩, hrest, rfl⟩
        exact ⟨⟨hfirst, hrest⟩, by simp⟩
      · rintro ⟨⟨hfirst, hrest⟩, rfl⟩
        exact ⟨_, ⟨hfirst, rfl⟩, hrest, by simp⟩

/-- The fold is the least level above the start and all that is asked. -/
theorem foldl_raiseLevel_rank_le_iff {B : PolicyBundle} {profile : Option ProjectProfile} {n : Nat} :
    ∀ {triggers : List String} {level : RiskLevel},
    (triggers.foldl (raiseLevel B profile) level).rank ≤ n ↔ level.rank ≤ n ∧
      ∀ trigger ∈ triggers, ∀ asked ∈ triggerLevel B profile trigger, asked.rank ≤ n
  | [], level => by simp
  | trigger :: rest, level => by
      have hraise : (raiseLevel B profile level trigger).rank ≤ n ↔ level.rank ≤ n ∧
          ∀ asked ∈ triggerLevel B profile trigger, asked.rank ≤ n := by
        unfold raiseLevel
        cases triggerLevel B profile trigger with
        | none => simp
        | some asked =>
            simp only [Option.mem_some_iff, forall_eq']
            split <;> omega
      rw [List.foldl_cons, foldl_raiseLevel_rank_le_iff, hraise, List.forall_mem_cons, and_assoc]

/-! ## Section 2: The triggers as sets -/

theorem mem_canonicalOrder {values order : List String} {word : String} :
    word ∈ canonicalOrder values order ↔ word ∈ order ∧ word ∈ values := by
  simp [canonicalOrder]

/-- The order of the values does not matter. -/
theorem canonicalOrder_congr {values values' : List String} (h : ∀ word, word ∈ values ↔ word ∈ values')
    (order : List String) : canonicalOrder values order = canonicalOrder values' order := by
  simp [canonicalOrder, h]

/-- A trigger is known iff it has a level. -/
theorem mem_knownRiskTriggers {B : PolicyBundle} {profile : Option ProjectProfile}
    {trigger : String} : trigger ∈ knownRiskTriggers B profile ↔
      trigger ∈ B.risk.triggers.map Prod.fst ∨
        trigger ∈ (profile.map (·.riskOverrides.map Prod.fst)).getD [] := by
  simp only [knownRiskTriggers, List.mem_append, List.mem_mergeSort, List.mem_filter,
    decide_eq_true_eq]
  tauto

/-- The level of an input is the least one above all that its triggers ask for. -/
theorem requestedLevel_rank_le_iff {B : PolicyBundle} {i : EvaluationInput} {n : Nat} :
    (requestedLevel B i).rank ≤ n ↔ B.risk.defaultLevel.rank ≤ n ∧
      ∀ trigger ∈ orderedRiskTriggers B i, ∀ asked ∈ triggerLevel B (i.profile B) trigger,
        asked.rank ≤ n :=
  foldl_raiseLevel_rank_le_iff

/-! ## Section 3: The decision -/

/-- The human triggers of an input in their order. -/
def orderedHumanTriggers (B : PolicyBundle) (i : EvaluationInput) : List String :=
  canonicalOrder i.humanTriggers B.humanTriggers

/-- The input needs a person. -/
def needsHuman (B : PolicyBundle) (i : EvaluationInput) : Bool :=
  orderedHumanTriggers B i ≠ [] ∨ requestedLevel B i = .r3

/-- The skills whose rule applies to an input. -/
def requestedSkills (B : PolicyBundle) (i : EvaluationInput) : List String :=
  deriveRequiredSkills B.routingFeatures
    (deriveRoutingFeatures B.routingFeatures i.taskAttributes (requestedLevel B i))

/-- The model roles of an input. -/
def requestedRoles (B : PolicyBundle) (i : EvaluationInput) : List (String × String) :=
  deriveModelRoles B.routingFeatures (requestedLevel B i)

/-- The policy fields that the level of an input rests on. -/
def levelProvenance (B : PolicyBundle) (i : EvaluationInput) : List String :=
  (if orderedRiskTriggers B i = [] then ["config/risk_policy.yaml:default_level"] else [])
    ++ (orderedRiskTriggers B i).flatMap (triggerProvenance B (i.profile B))

/-- The policy fields that a decision rests on, with repetitions. -/
def fullProvenance (B : PolicyBundle) (i : EvaluationInput) : List String :=
  levelProvenance B i
    ++ (orderedHumanTriggers B i).map ("config/human_decision_policy.yaml:triggers." ++ ·)
    ++ (requestedSkills B i).map ("config/skill_routing.yaml:skills." ++ ·)
    ++ (requestedRoles B i).map (fun role => "config/model_routing.yaml:roles." ++ role.2)
    ++ ["config/workflow_policy.yaml:transitions." ++ i.currentState.name]

/-- The decision on an input. -/
def decision (B : PolicyBundle) (i : EvaluationInput) : PolicyResult where
  decisionEmitted := true
  riskLevel := requestedLevel B i
  humanGate := needsHuman B i
  requiredHumanTriggers := orderedHumanTriggers B i
  requiredSkills := requestedSkills B i
  modelRoles := requestedRoles B i
  mandatoryGates := (B.risk.levels.lookup (requestedLevel B i)).getD []
  legalTransitions := B.targets i.currentState
  authorizedTransitions := if needsHuman B i = true then
    (B.targets i.currentState).filter (· ∈ humanGateAuthorizedTransitions)
    else B.targets i.currentState
  provenance := ((fullProvenance B i).reverse.dedup).reverse
  failClosed := false
  errorCode := none
  issues := []

/-- The risk triggers of an input are known, and no override among them lowers a level. -/
structure EvaluationInput.Rated (B : PolicyBundle) (i : EvaluationInput) : Prop where
  known : ∀ trigger ∈ i.riskTriggers, trigger ∈ knownRiskTriggers B (i.profile B)
  notLowered : ∀ trigger ∈ i.riskTriggers, NotLowered B (i.profile B) trigger

/-- A known trigger has a level. -/
theorem isSome_triggerLevel {B : PolicyBundle} {profile : Option ProjectProfile} {trigger : String}
    (h : trigger ∈ knownRiskTriggers B profile) :
    (triggerLevel B profile trigger).isSome = true := by
  have hlookup : ∀ l : List (String × RiskLevel), trigger ∈ l.map Prod.fst →
      (l.lookup trigger).isSome = true := by
    intro l hl
    obtain ⟨entry, hentry, rfl⟩ := List.mem_map.mp hl
    cases hnone : l.lookup entry.1 with
    | some => rfl
    | none =>
        have hall := List.lookup_eq_none_iff.mp hnone entry hentry
        simp at hall
  rw [triggerLevel, Option.isSome_or, Bool.or_eq_true]
  rcases mem_knownRiskTriggers.mp h with hdeclared | hoverride
  · exact .inr (hlookup _ hdeclared)
  · left
    cases profile with
    | none => simp at hoverride
    | some p => exact hlookup _ (by simpa using hoverride)

/-- **When an evaluation decides, and what.** -/
theorem evaluateNormalized_eq_ok_iff {B : PolicyBundle} {i : EvaluationInput} {r : PolicyResult} :
    evaluateNormalized B i = .ok r ↔ i.Rated B ∧ r = decision B i := by
  simp only [evaluateNormalized, bind_eq_ok, pure_eq_ok, forM_eq_ok_iff, require_eq_ok]
  rw [forall_mem_zipIdx_iff (fun trigger => trigger ∈ B.risk.triggers.map Prod.fst ∨
    trigger ∈ ((i.projectProfileId.bind (B.projectProfiles.lookup ·)).map
      (·.riskOverrides.map Prod.fst)).getD [])]
  have hknown : (∀ trigger ∈ i.riskTriggers, trigger ∈ B.risk.triggers.map Prod.fst ∨
      trigger ∈ ((i.projectProfileId.bind (B.projectProfiles.lookup ·)).map
        (·.riskOverrides.map Prod.fst)).getD []) ↔
      ∀ trigger ∈ i.riskTriggers, trigger ∈ knownRiskTriggers B (i.profile B) := by
    simp only [mem_knownRiskTriggers]
    rfl
  rw [hknown]
  simp only [foldlM_step_eq_ok_iff]
  have hgate : needsHuman B i = true ↔ orderedHumanTriggers B i ≠ [] ∨ requestedLevel B i = .r3 :=
    decide_eq_true_iff
  constructor
  · rintro ⟨_, hall, _, ⟨hrated, rfl⟩, rfl⟩
    refine ⟨⟨hall, fun trigger htrigger =>
      (hrated trigger (mem_canonicalOrder.mpr ⟨hall trigger htrigger, htrigger⟩)).2⟩, ?_⟩
    simp only [decision, hgate]
    rfl
  · rintro ⟨hrated, rfl⟩
    refine ⟨(), hrated.known, _, ⟨fun trigger htrigger => ?_, rfl⟩, ?_⟩
    · obtain ⟨hmem, hvalue⟩ := mem_canonicalOrder.mp htrigger
      exact ⟨isSome_triggerLevel hmem, hrated.notLowered trigger hvalue⟩
    · simp only [decision, hgate]
      rfl

end Acgps
