import Acgps.Policy.Escalation

/-!
# The level of a decision and the levels of the bundle

A bundle attaches levels to triggers in three places: the trigger table, the rules of the risk
policy and the overrides of a project profile. The loader checks all three, and an evaluation reads
the table and the overrides.

## Main Definitions

* `riskRules` - the rules that the loader has gone through
* `AttachedLevel` - a level that the bundle attaches to an input
* `RuledLow` - no rule asks for more than the table and the overrides do

## Key Theorems

* `requestedLevel_isHighest` - the level of a decision is the highest of those that are read
* `risk_level_highest_iff` - **it is the highest of all iff no rule asks for more**
-/

namespace Acgps

open Checked

/-! ## Section 1: Attached levels -/

/-- The rules that the loop of `_validate_risk_rule_conflicts` goes through, the last one first. -/
def riskRules (files : PolicyFiles) : List RiskRule :=
  match files.document "config/risk_policy.yaml" with
  | .ok risk =>
      match risk.lookup "rules" with
      | some (.arr rules) => (rules.zipIdx.foldlM checkRiskRule []).toOption.getD []
      | _ => []
  | .error _ => []

/-- A level that an evaluation reads: the default level, or a level that the trigger table or the
profile has for a trigger of the input. -/
inductive ReadLevel (B : PolicyBundle) (i : EvaluationInput) : RiskLevel → Prop where
  | default : ReadLevel B i B.risk.defaultLevel
  | declared {trigger : String} {level : RiskLevel} :
      trigger ∈ i.riskTriggers → B.risk.triggers.lookup trigger = some level →
      ReadLevel B i level
  | override {trigger : String} {level : RiskLevel} :
      trigger ∈ i.riskTriggers → overrideOf (i.profile B) trigger = some level →
      ReadLevel B i level

/-- A level that the bundle attaches to an input: one that is read, or that of a rule for a trigger
of the input. -/
inductive AttachedLevel (files : PolicyFiles) (B : PolicyBundle) (i : EvaluationInput) :
    RiskLevel → Prop where
  | read {level : RiskLevel} : ReadLevel B i level → AttachedLevel files B i level
  | rule {rule : RiskRule} :
      rule ∈ riskRules files → rule.trigger ∈ i.riskTriggers →
      AttachedLevel files B i rule.level

/-- The highest of a kind of levels. -/
def IsHighest (levels : RiskLevel → Prop) (level : RiskLevel) : Prop :=
  levels level ∧ ∀ other, levels other → other.rank ≤ level.rank

/-- Every rule for a trigger of the input stays below a level that is read. -/
def RuledLow (files : PolicyFiles) (B : PolicyBundle) (i : EvaluationInput) : Prop :=
  ∀ rule ∈ riskRules files, rule.trigger ∈ i.riskTriggers →
    ∃ level, ReadLevel B i level ∧ rule.level.rank ≤ level.rank

/-! ## Section 2: What an evaluation reads -/

theorem RiskLevel.rank_injective : Function.Injective RiskLevel.rank := by
  intro a b h
  cases a <;> cases b <;> first | rfl | cases h

/-- The level that a trigger asks for is one that is read. -/
theorem ReadLevel.of_triggerLevel {B : PolicyBundle} {i : EvaluationInput} {trigger : String}
    {level : RiskLevel} (htrigger : trigger ∈ i.riskTriggers)
    (h : triggerLevel B (i.profile B) trigger = some level) : ReadLevel B i level := by
  rcases Option.or_eq_some_iff.mp h with hoverride | ⟨_, hdeclared⟩
  · exact .override htrigger hoverride
  · exact .declared htrigger hdeclared

/-- A level that is read for a trigger is no higher than what the trigger asks for. -/
theorem EvaluationInput.Rated.readLevel_le {B : PolicyBundle} {i : EvaluationInput}
    (h : i.Rated B) {level : RiskLevel} (hread : ReadLevel B i level) :
    level.rank ≤ (requestedLevel B i).rank := by
  obtain ⟨hdefault, hasked⟩ := requestedLevel_rank_le_iff.mp (le_refl (requestedLevel B i).rank)
  cases hread with
  | default => exact hdefault
  | @declared trigger _ htrigger hdeclared =>
      cases hoverride : overrideOf (i.profile B) trigger with
      | none =>
          refine hasked trigger (h.mem_ordered htrigger) level ?_
          rw [triggerLevel, hoverride, hdeclared, Option.none_or]
          rfl
      | some raised =>
          -- the override was read instead, and it does not lower the declared level
          have hraised := hasked trigger (h.mem_ordered htrigger) raised
            (by rw [triggerLevel, hoverride, Option.some_or]; rfl)
          exact (h.notLowered trigger htrigger raised hoverride level hdeclared).trans hraised
  | @override trigger _ htrigger hoverride =>
      refine hasked trigger (h.mem_ordered htrigger) level ?_
      rw [triggerLevel, hoverride, Option.some_or]
      rfl

/-- The level of an input is one that is read: a least upper bound of levels is one of them. -/
theorem readLevel_requestedLevel (B : PolicyBundle) (i : EvaluationInput) :
    ReadLevel B i (requestedLevel B i) := by
  by_contra hnot
  have hne : ∀ level, ReadLevel B i level → level.rank ≠ (requestedLevel B i).rank := by
    intro level hread heq
    exact hnot (RiskLevel.rank_injective heq ▸ hread)
  obtain ⟨hdefault, hasked⟩ := requestedLevel_rank_le_iff.mp (le_refl (requestedLevel B i).rank)
  -- then everything that is asked for lies strictly below the level, which is the least such bound
  have hlower : (requestedLevel B i).rank ≤ (requestedLevel B i).rank - 1 := by
    apply requestedLevel_rank_le_iff.mpr
    refine ⟨?_, fun trigger htrigger level hlevel => ?_⟩
    · have := hne _ .default
      omega
    · have := hne level (.of_triggerLevel (mem_canonicalOrder.mp htrigger).2 hlevel)
      have := hasked trigger htrigger level hlevel
      omega
  have := hne _ .default
  omega

/-- **The level of a decision is the highest of those that are read.** -/
theorem requestedLevel_isHighest {B : PolicyBundle} {i : EvaluationInput} (h : i.Rated B) :
    IsHighest (ReadLevel B i) (requestedLevel B i) :=
  ⟨readLevel_requestedLevel B i, fun _ => h.readLevel_le⟩

/-! ## Section 3: The rules -/

/-- **The level of a decision is the highest that the bundle attaches to the input iff no rule for
a trigger of the input asks for more than the levels that are read.** -/
theorem risk_level_highest_iff [Platform] {files : PolicyFiles} {B : PolicyBundle}
    {carrier : InputCarrier} {i : EvaluationInput} (hload : loadPolicyBundle files = .ok B)
    (hdecided : Decided (loadPolicyBundle files) (carrier.toMapping i).toJson) :
    IsHighest (AttachedLevel files B i)
        (evaluateRecord (loadPolicyBundle files) (carrier.toMapping i).toJson).result.riskLevel ↔
      RuledLow files B i := by
  obtain ⟨B', form, j, hB, hrecord, -, -, hrated, -, hresult⟩ := evaluateRecord_open hdecided
  obtain rfl := Except.ok.inj (hload.symm.trans hB)
  obtain ⟨-, rfl⟩ := InputCarrier.toMapping_injective (Mapping.toJson_injective hrecord)
  rw [hresult]
  obtain ⟨hread, hbound⟩ := requestedLevel_isHighest hrated
  constructor
  · intro h rule hrule htrigger
    exact ⟨_, hread, h.2 rule.level (.rule hrule htrigger)⟩
  · intro h
    refine ⟨.read hread, fun other hother => ?_⟩
    cases hother with
    | read hlevel => exact hbound other hlevel
    | rule hrule htrigger =>
        obtain ⟨level, hlevel, hle⟩ := h _ hrule htrigger
        exact hle.trans (hbound level hlevel)

/-- The smallest policy files with one trigger at R1, and a rule for it. -/
def ruledFiles (ruled : RiskLevel) : PolicyFiles where
  document := fun path =>
    if path = "config/risk_policy.yaml" then
      .ok (smallestRiskPolicy [("data_loss", .r1)] ++
        [("rules", .arr [.obj [("trigger", .str "data_loss"), ("priority", .int 1),
          ("risk_level", .str ruled.name)]])])
    else (smallestFiles [] []).document path
  profileNames := []

/-- A rule that asks for R1 again. -/
theorem risk_level_highest_repeated :
    letI := smallestPlatform
    ∃ B, loadPolicyBundle (ruledFiles .r1) = .ok B ∧
      Decided (loadPolicyBundle (ruledFiles .r1))
        (InputCarrier.bare.toMapping (smallestInput ["data_loss"] [])).toJson ∧
      (IsHighest (AttachedLevel (ruledFiles .r1) B (smallestInput ["data_loss"] []))
          (evaluateRecord (loadPolicyBundle (ruledFiles .r1))
            (InputCarrier.bare.toMapping (smallestInput ["data_loss"] [])).toJson).result.riskLevel ↔
        RuledLow (ruledFiles .r1) B (smallestInput ["data_loss"] [])) := by
  let _ := smallestPlatform
  have htest : (loadPolicyBundle (ruledFiles .r1)).toOption.any
      (decidesPlainly · (smallestInput ["data_loss"] [])) = true := by
    decide +kernel
  obtain ⟨B, hload, hplainly⟩ := exists_loaded htest
  have hdecided := decided_of_plainly (fun _ => isSha256_unarySha (Nat.zero_le _)) hload rfl rfl
    hplainly
  exact ⟨B, hload, hdecided, risk_level_highest_iff hload hdecided⟩

/-- A rule that asks for R3 is accepted, and the trigger is decided at R1. -/
theorem ignored_rule_underrates :
    letI := smallestPlatform
    ∃ B, loadPolicyBundle (ruledFiles .r3) = .ok B ∧
      Decided (loadPolicyBundle (ruledFiles .r3))
        (InputCarrier.bare.toMapping (smallestInput ["data_loss"] [])).toJson ∧
      ¬ IsHighest (AttachedLevel (ruledFiles .r3) B (smallestInput ["data_loss"] []))
          (evaluateRecord (loadPolicyBundle (ruledFiles .r3))
            (InputCarrier.bare.toMapping (smallestInput ["data_loss"] [])).toJson).result.riskLevel := by
  let _ := smallestPlatform
  have htest : (loadPolicyBundle (ruledFiles .r3)).toOption.any (fun B =>
      decidesPlainly B (smallestInput ["data_loss"] [])
        && requestedLevel B (smallestInput ["data_loss"] []) = .r1) = true := by
    decide +kernel
  obtain ⟨B, hload, hB⟩ := exists_loaded htest
  obtain ⟨hplainly, hlow⟩ := Bool.and_eq_true_iff.mp hB
  have hdecided := decided_of_plainly (fun _ => isSha256_unarySha (Nat.zero_le _)) hload rfl rfl
    hplainly
  -- the answer is the decision on this input
  have hlevel : (evaluateRecord (loadPolicyBundle (ruledFiles .r3))
      (InputCarrier.bare.toMapping (smallestInput ["data_loss"] [])).toJson).result.riskLevel
        = .r1 := by
    obtain ⟨B', form, j, hload', hrecord, -, -, -, -, hresult⟩ := evaluateRecord_open hdecided
    obtain rfl := Except.ok.inj (hload.symm.trans hload')
    obtain ⟨-, rfl⟩ := InputCarrier.toMapping_injective (Mapping.toJson_injective hrecord)
    rw [hresult]
    exact of_decide_eq_true hlow
  refine ⟨B, hload, hdecided, fun hhighest => ?_⟩
  have hrule : (⟨"data_loss", 1, .r3⟩ : RiskRule) ∈ riskRules (ruledFiles .r3) := by
    have hrules : riskRules (ruledFiles .r3) = [⟨"data_loss", 1, .r3⟩] := by rfl
    rw [hrules]
    exact List.mem_singleton_self _
  have hle := hhighest.2 .r3 (.rule hrule (List.mem_singleton_self _))
  rw [hlevel] at hle
  exact absurd hle (by decide)

end Acgps
