import Acgps.Policy.DecisionContracts

/-!
# Escalation

Evaluations of two inputs compared: an input that raises more triggers, or selects a profile where
none was selected, is decided at least as strictly, and the order of its triggers does not matter.

## Main Definitions

* `EvaluationInput.EscalatedBy` - the second input raises at least the triggers of the first
* `PolicyResult.StricterThan` - the second result allows no more than the first
* `EvaluationInput.Permutes` - the inputs differ in the order of their triggers
* `decidesPlainly` - what a bundle needs to decide an input with neither attributes nor a profile

## Key Theorems

* `evaluateRecord_open` - where a decided result comes from
* `decided_of_plainly` - such an input is decided
* `policy_escalation` - **escalation makes a decision stricter, and order does not matter**
-/

namespace Acgps

open Checked

section Decided

variable [Platform]

/-! ## Section 1: Decided results -/

/-- The evaluation of the record did not fail closed. -/
def Decided (bundle : Except PolicyError PolicyBundle) (record : Json) : Prop :=
  (evaluateRecord bundle record).result.failClosed = false

/-- **Where a decided result comes from.** -/
theorem evaluateRecord_open {bundle : Except PolicyError PolicyBundle} {record : Json}
    (h : Decided bundle record) :
    ∃ (B : PolicyBundle) (carrier : InputCarrier) (i : EvaluationInput), bundle = .ok B ∧
      record = (carrier.toMapping i).toJson ∧ carrier.Admits i ∧ i.Known B ∧ i.Rated B ∧
      validatePolicyResultContract B (decision B i) = .ok () ∧
      (evaluateRecord bundle record).result = decision B i := by
  have hresult : (evaluateRecord bundle record).result = resultOf (decideRecord bundle record) := by
    unfold Decided at h
    unfold evaluateRecord at h ⊢
    cases hcontext : publicInputContext record with
    | none => rfl
    | some context =>
        rw [hcontext] at h
        show (wrapPublicResult _ _ _).result = _
        rw [(wrapPublicResult_open h).1]
  unfold Decided at h
  rw [hresult] at h ⊢
  cases hdecide : decideRecord bundle record with
  | error error =>
      rw [hdecide] at h
      exact absurd h (by simp [resultOf, failClosedResult_failClosed])
  | ok r =>
      simp only [decideRecord, decideInput, bind_eq_ok, pure_eq_ok, prevalidateRecord_eq_ok_iff,
        evaluateNormalized_eq_ok_iff] at hdecide
      obtain ⟨B, rfl, i, ⟨carrier, rfl, hadmits, hknown⟩, _, ⟨hrated, rfl⟩, _, hcontract, rfl⟩ :=
        hdecide
      exact ⟨B, carrier, i, rfl, rfl, hadmits, hknown, hrated, hcontract, rfl⟩

/-- The decision on an input that passes every check. -/
theorem decideRecord_of_accepted {B : PolicyBundle} {carrier : InputCarrier} {i : EvaluationInput}
    (hadmits : carrier.Admits i) (hknown : i.Known B) (hrated : i.Rated B)
    (hcontract : validatePolicyResultContract B (decision B i) = .ok ()) :
    decideRecord (.ok B) (carrier.toMapping i).toJson = .ok (decision B i) := by
  simp only [decideRecord, decideInput, bind_eq_ok, pure_eq_ok, prevalidateRecord_eq_ok_iff,
    evaluateNormalized_eq_ok_iff]
  exact ⟨B, rfl, i, ⟨carrier, rfl, hadmits, hknown⟩, _, ⟨hrated, rfl⟩, (), hcontract, rfl⟩

/-- The answer to a bare input that passes every check is the decision on it. -/
theorem evaluateRecord_bare {B : PolicyBundle} {i : EvaluationInput} (hknown : i.Known B)
    (hrated : i.Rated B) (hcontract : validatePolicyResultContract B (decision B i) = .ok ()) :
    evaluateRecord (.ok B) (InputCarrier.bare.toMapping i).toJson = .bare (decision B i) := by
  have hadmits : InputCarrier.bare.Admits i := by
    intro context hcontext
    cases hcontext
  have hcontext : publicInputContext (InputCarrier.bare.toMapping i).toJson = none := by
    rw [publicInputContext, Mapping.asMapping_toJson]
    rfl
  rw [evaluateRecord, hcontext, decideRecord_of_accepted hadmits hknown hrated hcontract]
  rfl

end Decided

/-! ## Section 2: Inputs compared -/

/-- The second input raises at least the triggers of the first, and has its profile or a profile
where the first has none. -/
structure EvaluationInput.EscalatedBy (i i' : EvaluationInput) : Prop where
  state : i'.currentState = i.currentState
  attributes : i'.taskAttributes = i.taskAttributes
  riskTriggers : ∀ trigger ∈ i.riskTriggers, trigger ∈ i'.riskTriggers
  humanTriggers : ∀ trigger ∈ i.humanTriggers, trigger ∈ i'.humanTriggers
  profile : i'.projectProfileId = i.projectProfileId ∨ i.projectProfileId = none

/-- The inputs differ in the order of their triggers. -/
structure EvaluationInput.Permutes (i i' : EvaluationInput) : Prop where
  state : i'.currentState = i.currentState
  attributes : i'.taskAttributes = i.taskAttributes
  riskTriggers : i.riskTriggers.Perm i'.riskTriggers
  humanTriggers : i.humanTriggers.Perm i'.humanTriggers
  profile : i'.projectProfileId = i.projectProfileId

/-- The second result is at least as strict as the first. -/
structure PolicyResult.StricterThan (r' r : PolicyResult) : Prop where
  level : r.riskLevel.rank ≤ r'.riskLevel.rank
  gate : r.humanGate = true → r'.humanGate = true
  triggers : ∀ trigger ∈ r.requiredHumanTriggers, trigger ∈ r'.requiredHumanTriggers
  authorized : ∀ target ∈ r'.authorizedTransitions, target ∈ r.authorizedTransitions

/-! ## Section 3: Escalation -/

/-- A trigger of a rated input is one of the triggers in order. -/
theorem EvaluationInput.Rated.mem_ordered {B : PolicyBundle} {i : EvaluationInput}
    (h : i.Rated B) {trigger : String} (htrigger : trigger ∈ i.riskTriggers) :
    trigger ∈ orderedRiskTriggers B i :=
  mem_canonicalOrder.mpr ⟨h.known trigger htrigger, htrigger⟩

/-- A trigger asks for no less of the second input. -/
theorem triggerLevel_escalated {B : PolicyBundle} {i i' : EvaluationInput} (h : i.EscalatedBy i')
    (hrated : i'.Rated B) {trigger : String} (htrigger : trigger ∈ i'.riskTriggers)
    {level : RiskLevel} (hlevel : triggerLevel B (i.profile B) trigger = some level) :
    ∃ level', triggerLevel B (i'.profile B) trigger = some level' ∧ level.rank ≤ level'.rank := by
  rcases h.profile with hsame | hnone
  · have hprofile : i'.profile B = i.profile B := by
      rw [EvaluationInput.profile, hsame, EvaluationInput.profile]
    exact ⟨level, by rw [hprofile, hlevel], le_rfl⟩
  · -- without a profile the trigger has its declared level, which no override may lower
    have hdeclared : B.risk.triggers.lookup trigger = some level := by
      simpa [triggerLevel, overrideOf, EvaluationInput.profile, hnone] using hlevel
    cases hoverride : overrideOf (i'.profile B) trigger with
    | none => exact ⟨level, by rw [triggerLevel, hoverride, hdeclared, Option.none_or], le_rfl⟩
    | some level' =>
        refine ⟨level', by rw [triggerLevel, hoverride, Option.some_or], ?_⟩
        exact hrated.notLowered trigger htrigger level' hoverride level hdeclared

/-- **The level of an escalated input is at least as high.** -/
theorem requestedLevel_escalated {B : PolicyBundle} {i i' : EvaluationInput} (h : i.EscalatedBy i')
    (hrated : i'.Rated B) : (requestedLevel B i).rank ≤ (requestedLevel B i').rank := by
  obtain ⟨hdefault, hall⟩ := requestedLevel_rank_le_iff.mp (le_refl (requestedLevel B i').rank)
  apply requestedLevel_rank_le_iff.mpr
  refine ⟨hdefault, fun trigger htrigger level hlevel => ?_⟩
  have hraised := h.riskTriggers trigger (mem_canonicalOrder.mp htrigger).2
  obtain ⟨level', hlevel', hle⟩ := triggerLevel_escalated h hrated hraised hlevel
  exact hle.trans (hall trigger (hrated.mem_ordered hraised) level' hlevel')

/-- R3 is the highest level. -/
theorem RiskLevel.eq_r3_of_rank_le {level : RiskLevel} (h : RiskLevel.r3.rank ≤ level.rank) :
    level = .r3 := by
  revert h
  cases level <;> decide

/-- The human triggers of an escalated input are at least those of the first. -/
theorem orderedHumanTriggers_escalated {B : PolicyBundle} {i i' : EvaluationInput}
    (h : i.EscalatedBy i') :
    ∀ trigger ∈ orderedHumanTriggers B i, trigger ∈ orderedHumanTriggers B i' := by
  intro trigger htrigger
  obtain ⟨hdeclared, hraised⟩ := mem_canonicalOrder.mp htrigger
  exact mem_canonicalOrder.mpr ⟨hdeclared, h.humanTriggers trigger hraised⟩

/-- An escalated input needs a person if the first does. -/
theorem needsHuman_escalated {B : PolicyBundle} {i i' : EvaluationInput} (h : i.EscalatedBy i')
    (hrated : i'.Rated B) (hgate : needsHuman B i = true) : needsHuman B i' = true := by
  simp only [needsHuman, decide_eq_true_eq] at hgate ⊢
  rcases hgate with htriggers | hlevel
  · left
    obtain ⟨trigger, htrigger⟩ := List.exists_mem_of_ne_nil _ htriggers
    exact List.ne_nil_of_mem (orderedHumanTriggers_escalated h trigger htrigger)
  · right
    apply RiskLevel.eq_r3_of_rank_le
    rw [← hlevel]
    exact requestedLevel_escalated h hrated

/-- **The decision on an escalated input is stricter.** -/
theorem decision_escalated {B : PolicyBundle} {i i' : EvaluationInput} (h : i.EscalatedBy i')
    (hrated : i'.Rated B) : (decision B i').StricterThan (decision B i) where
  level := requestedLevel_escalated h hrated
  gate := needsHuman_escalated h hrated
  triggers := orderedHumanTriggers_escalated h
  authorized := by
    intro target htarget
    simp only [decision, h.state] at htarget ⊢
    by_cases hgate : needsHuman B i = true
    · rw [if_pos (needsHuman_escalated h hrated hgate)] at htarget
      rwa [if_pos hgate]
    · rw [if_neg hgate]
      split at htarget
      · exact (List.mem_filter.mp htarget).1
      · exact htarget

/-! ## Section 4: Order -/

/-- **The decision does not depend on the order of the triggers.** -/
theorem decision_permuted {B : PolicyBundle} {i i' : EvaluationInput} (h : i.Permutes i') :
    decision B i' = decision B i := by
  have hprofile : i'.profile B = i.profile B := by
    rw [EvaluationInput.profile, h.profile, EvaluationInput.profile]
  have hrisk : orderedRiskTriggers B i' = orderedRiskTriggers B i := by
    rw [orderedRiskTriggers, orderedRiskTriggers, hprofile]
    exact canonicalOrder_congr (fun _ => h.riskTriggers.mem_iff.symm) _
  have hhuman : orderedHumanTriggers B i' = orderedHumanTriggers B i :=
    canonicalOrder_congr (fun _ => h.humanTriggers.mem_iff.symm) _
  have hlevel : requestedLevel B i' = requestedLevel B i := by
    rw [requestedLevel, requestedLevel, hrisk, hprofile]
  have hgate : needsHuman B i' = needsHuman B i := by
    rw [needsHuman, needsHuman, hhuman, hlevel]
  have hskills : requestedSkills B i' = requestedSkills B i := by
    rw [requestedSkills, requestedSkills, hlevel, h.attributes]
  have hroles : requestedRoles B i' = requestedRoles B i := by
    rw [requestedRoles, requestedRoles, hlevel]
  have hlevelled : levelProvenance B i' = levelProvenance B i := by
    rw [levelProvenance, levelProvenance, hrisk, hprofile]
  have hprovenance : fullProvenance B i' = fullProvenance B i := by
    rw [fullProvenance, fullProvenance, hlevelled, hhuman, hskills, hroles, h.state]
  rw [decision, decision, hlevel, hgate, hhuman, hskills, hroles, hprovenance, h.state]

theorem EvaluationInput.Permutes.rated {B : PolicyBundle} {i i' : EvaluationInput}
    (h : i.Permutes i') (hrated : i.Rated B) : i'.Rated B := by
  have hprofile : i'.profile B = i.profile B := by
    rw [EvaluationInput.profile, h.profile, EvaluationInput.profile]
  constructor
  · intro trigger htrigger
    rw [hprofile]
    exact hrated.known trigger (h.riskTriggers.mem_iff.mpr htrigger)
  · intro trigger htrigger
    rw [hprofile]
    exact hrated.notLowered trigger (h.riskTriggers.mem_iff.mpr htrigger)

theorem EvaluationInput.Permutes.known {B : PolicyBundle} {i i' : EvaluationInput}
    (h : i.Permutes i') (hknown : i.Known B) : i'.Known B where
  state := h.state ▸ hknown.state
  riskTriggers := h.riskTriggers.nodup_iff.mp hknown.riskTriggers
  humanTriggers := h.humanTriggers.nodup_iff.mp hknown.humanTriggers
  attributes := h.attributes ▸ hknown.attributes
  declared := fun trigger htrigger =>
    hknown.declared trigger (h.humanTriggers.mem_iff.mpr htrigger)
  profile := h.profile ▸ hknown.profile

theorem EvaluationInput.Permutes.admits [Platform] {carrier : InputCarrier}
    {i i' : EvaluationInput} (h : i.Permutes i') (hadmits : carrier.Admits i) :
    carrier.Admits i' := by
  intro context hcarrier
  obtain ⟨hcontext, htexts⟩ := input_contract_iff.mp (hadmits context hcarrier)
  refine input_contract_iff.mpr ⟨hcontext, ?_, ?_, ?_, ?_⟩
  · exact fun trigger htrigger => htexts.riskTriggers trigger (h.riskTriggers.mem_iff.mpr htrigger)
  · exact fun trigger htrigger =>
      htexts.humanTriggers trigger (h.humanTriggers.mem_iff.mpr htrigger)
  · exact h.profile ▸ htexts.profile
  · exact h.attributes ▸ htexts.attributes

/-- The answer does not depend on the order of the triggers. -/
theorem evaluateRecord_permuted [Platform] {bundle : Except PolicyError PolicyBundle}
    {carrier : InputCarrier} {i i' : EvaluationInput} (h : i.Permutes i')
    (hdecided : Decided bundle (carrier.toMapping i).toJson) :
    evaluateRecord bundle (carrier.toMapping i').toJson
      = evaluateRecord bundle (carrier.toMapping i).toJson := by
  obtain ⟨B, carrier', i₀, rfl, hrecord, hadmits, hknown, hrated, hcontract, -⟩ :=
    evaluateRecord_open hdecided
  obtain ⟨rfl, rfl⟩ := InputCarrier.toMapping_injective (Mapping.toJson_injective hrecord)
  have hfirst := decideRecord_of_accepted hadmits hknown hrated hcontract
  have hsecond := decideRecord_of_accepted (h.admits hadmits) (h.known hknown) (h.rated hrated)
    (by rw [decision_permuted h, hcontract])
  rw [decision_permuted h] at hsecond
  have hcontext : publicInputContext (carrier.toMapping i').toJson
      = publicInputContext (carrier.toMapping i).toJson := by
    simp only [publicInputContext, Mapping.asMapping_toJson]
    cases carrier <;> rfl
  rw [evaluateRecord, evaluateRecord, hfirst, hsecond, hcontext]

/-! ## Section 5: Plain inputs -/

/-- The bundle decides an input that has neither attributes nor a profile. -/
def decidesPlainly (B : PolicyBundle) (i : EvaluationInput) : Bool :=
  i.currentState ∈ B.taskStates && i.riskTriggers.Nodup && i.humanTriggers.Nodup
    && i.humanTriggers.all (· ∈ B.humanTriggers)
    && i.riskTriggers.all (· ∈ knownRiskTriggers B none)
    && InOrder humanDecisionTriggers (orderedHumanTriggers B i)
    && InOrder policySkillIds (requestedSkills B i)
    && InOrder policyGateIds ((B.risk.levels.lookup (requestedLevel B i)).getD [])
    && (orderedRiskTriggers B i).all (fun trigger =>
      (triggerProvenance B none trigger).all isProvenance)

/-- An input that a loaded bundle decides plainly is decided. -/
theorem decided_of_plainly [Platform] (hhex : ∀ value, isSha256 (canonicalSha value) = true)
    {files : PolicyFiles} {B : PolicyBundle} (hload : loadPolicyBundle files = .ok B)
    {i : EvaluationInput} (hattributes : i.taskAttributes.entries = [])
    (hprofile : i.projectProfileId = none) (h : decidesPlainly B i = true) :
    Decided (loadPolicyBundle files) (InputCarrier.bare.toMapping i).toJson := by
  have hnone : i.profile B = none := by rw [EvaluationInput.profile, hprofile, Option.bind_none]
  simp only [decidesPlainly, Bool.and_eq_true, decide_eq_true_eq, List.all_eq_true,
    and_assoc] at h
  obtain ⟨hstate, hrisks, hhumans, hdeclared, hrated, htriggers, hskills, hgates, hfields⟩ := h
  have hB := loadPolicyBundle_accepted hload
  have hknown : i.Known B := by
    refine ⟨hstate, hrisks, hhumans, ?_, hdeclared, ?_⟩
    · simp [hattributes]
    · simp [hprofile]
  have hlevels : i.Rated B := by
    refine ⟨?_, ?_⟩
    · rwa [hnone]
    · simp [hnone, NotLowered, overrideOf]
  have hordered : (decision B i).Ordered := by
    refine (decision_ordered_iff hB i).mpr ⟨htriggers, hskills, hgates, ?_⟩
    rwa [hnone]
  have hcontract := (validatePolicyResultContract_decision_iff hB
    (loadPolicyBundle_digest hhex hload) i).mpr hordered
  unfold Decided
  rw [hload, evaluateRecord_bare hknown hlevels hcontract]
  rfl

/-- What a test finds of a bundle holds of the bundle that is loaded. -/
theorem exists_loaded [Platform] {files : PolicyFiles} {test : PolicyBundle → Bool}
    (h : (loadPolicyBundle files).toOption.any test = true) :
    ∃ B, loadPolicyBundle files = .ok B ∧ test B = true := by
  cases hload : loadPolicyBundle files with
  | error error =>
      rw [hload] at h
      cases h
  | ok B =>
      rw [hload] at h
      exact ⟨B, rfl, h⟩

/-! ## Section 6: The law -/

/-- **Escalation makes a decision stricter, and the order of the triggers does not matter.** -/
theorem policy_escalation [Platform] (files : PolicyFiles) :
    (∀ (carrier carrier' : InputCarrier) (i i' : EvaluationInput), i.EscalatedBy i' →
      Decided (loadPolicyBundle files) (carrier.toMapping i).toJson →
      Decided (loadPolicyBundle files) (carrier'.toMapping i').toJson →
      (evaluateRecord (loadPolicyBundle files) (carrier'.toMapping i').toJson).result.StricterThan
        (evaluateRecord (loadPolicyBundle files) (carrier.toMapping i).toJson).result) ∧
    (∀ (carrier : InputCarrier) (i i' : EvaluationInput), i.Permutes i' →
      Decided (loadPolicyBundle files) (carrier.toMapping i).toJson →
      evaluateRecord (loadPolicyBundle files) (carrier.toMapping i').toJson
        = evaluateRecord (loadPolicyBundle files) (carrier.toMapping i).toJson) := by
  constructor
  · intro carrier carrier' i i' h hfirst hsecond
    obtain ⟨B, form, j, hB, hrecord, -, -, -, -, hresult⟩ := evaluateRecord_open hfirst
    obtain ⟨B', form', j', hB', hrecord', -, -, hrated, -, hresult'⟩ := evaluateRecord_open hsecond
    obtain rfl := Except.ok.inj (hB.symm.trans hB')
    -- the records carry the inputs they were made from
    obtain ⟨-, rfl⟩ := InputCarrier.toMapping_injective (Mapping.toJson_injective hrecord)
    obtain ⟨-, rfl⟩ := InputCarrier.toMapping_injective (Mapping.toJson_injective hrecord')
    rw [hresult, hresult']
    exact decision_escalated h hrated
  · intro carrier i i' h hdecided
    exact evaluateRecord_permuted h hdecided

/-- A trigger that asks for R3, and a second one for a person, beside none; and the latter two in
the other order. -/
theorem policy_escalation_smallest :
    letI := smallestPlatform
    let bundle := loadPolicyBundle (smallestFiles [("data_loss", .r3)]
      ["H1_PRODUCT_INTENT", "H3_RISK_ACCEPTANCE"])
    let answer := fun risk human =>
      evaluateRecord bundle (InputCarrier.bare.toMapping (smallestInput risk human)).toJson
    (answer ["data_loss"] ["H3_RISK_ACCEPTANCE"]).result.StricterThan (answer [] []).result ∧
      answer [] ["H3_RISK_ACCEPTANCE", "H1_PRODUCT_INTENT"]
        = answer [] ["H1_PRODUCT_INTENT", "H3_RISK_ACCEPTANCE"] := by
  let _ := smallestPlatform
  obtain ⟨hstricter, hordered⟩ := policy_escalation (smallestFiles [("data_loss", .r3)]
    ["H1_PRODUCT_INTENT", "H3_RISK_ACCEPTANCE"])
  have hload : (loadPolicyBundle (smallestFiles [("data_loss", .r3)]
      ["H1_PRODUCT_INTENT", "H3_RISK_ACCEPTANCE"])).toOption.any (fun B =>
        decidesPlainly B (smallestInput ["data_loss"] ["H3_RISK_ACCEPTANCE"])
          && decidesPlainly B (smallestInput [] [])
          && decidesPlainly B (smallestInput [] ["H1_PRODUCT_INTENT", "H3_RISK_ACCEPTANCE"]))
        = true := by
    decide +kernel
  obtain ⟨B, hB, hplainly⟩ := exists_loaded hload
  simp only [Bool.and_eq_true, and_assoc] at hplainly
  obtain ⟨hraised, hnone, hhuman⟩ := hplainly
  have hhex : ∀ value, isSha256 (canonicalSha value) = true :=
    fun _ => isSha256_unarySha (Nat.zero_le _)
  constructor
  · apply hstricter .bare .bare
    · exact ⟨rfl, rfl, fun _ h => absurd h List.not_mem_nil, fun _ h => absurd h List.not_mem_nil,
        .inl rfl⟩
    · exact decided_of_plainly hhex hB rfl rfl hnone
    · exact decided_of_plainly hhex hB rfl rfl hraised
  · apply hordered .bare
    · exact ⟨rfl, rfl, .nil, .swap _ _ _, rfl⟩
    · exact decided_of_plainly hhex hB rfl rfl hhuman

end Acgps
