import Acgps.Policy.Envelope

/-!
# What a loaded bundle can decide

The loader accepts some bundles under which an input that uses only what is declared is not
decided: the result has to name triggers, skills and gates in the order of their vocabularies and
policy fields of one form, and the loader asks for neither.

## Main Definitions

* `EvaluationInput.UsesDeclared` - the input uses what the bundle declares, and nothing else
* `Evaluable` - the order of the declarations, and the other conditions, for one input

## Key Theorems

* `decided_iff_evaluable` - **an input is decided iff it is evaluable**
-/

namespace Acgps

open Checked

/-! ## Section 1: Evaluable inputs -/

/-- The input uses states, triggers, attributes, values and profiles that are declared. -/
structure EvaluationInput.UsesDeclared (B : PolicyBundle) (i : EvaluationInput) : Prop where
  state : i.currentState ∈ B.taskStates
  riskTriggers : ∀ trigger ∈ i.riskTriggers, trigger ∈ knownRiskTriggers B (i.profile B)
  humanTriggers : ∀ trigger ∈ i.humanTriggers, trigger ∈ B.humanTriggers
  attributes : ∀ attr ∈ i.taskAttributes.entries, ∃ entry,
    B.routingFeatures.taskAttributes.lookup attr.1 = some entry ∧ attr.2 ∈ entry.allowedValues
  profile : ∀ profileId, i.projectProfileId = some profileId →
    (B.projectProfiles.lookup profileId).isSome = true

/-- The conditions under which an input that uses what is declared is decided. -/
structure Evaluable (B : PolicyBundle) (carrier : InputCarrier) (i : EvaluationInput) : Prop where
  distinct : i.riskTriggers.Nodup ∧ i.humanTriggers.Nodup
  admitted : ∀ context, carrier = .published context → context.Valid ∧ i.TextsAllowed
  notLowered : ∀ trigger ∈ i.riskTriggers, NotLowered B (i.profile B) trigger
  humanOrder : B.humanTriggers.filter (· ∈ i.humanTriggers)
    = humanDecisionTriggers.filter (· ∈ i.humanTriggers)
  skillOrder : InOrder policySkillIds (requestedSkills B i)
  gateOrder : ∀ gates, B.risk.levels.lookup (requestedLevel B i) = some gates →
    InOrder policyGateIds gates
  provenance : ∀ trigger ∈ i.riskTriggers, ∀ field ∈ triggerProvenance B (i.profile B) trigger,
    isProvenance field = true

/-- The human triggers of an input are in order iff they are declared in that order. -/
theorem inOrder_humanTriggers_iff {B : PolicyBundle} {i : EvaluationInput}
    (h : ∀ trigger ∈ i.humanTriggers, trigger ∈ B.humanTriggers) :
    InOrder humanDecisionTriggers (orderedHumanTriggers B i) ↔
      B.humanTriggers.filter (· ∈ i.humanTriggers)
        = humanDecisionTriggers.filter (· ∈ i.humanTriggers) := by
  have hmem : ∀ trigger, trigger ∈ orderedHumanTriggers B i ↔ trigger ∈ i.humanTriggers := by
    intro trigger
    rw [orderedHumanTriggers, mem_canonicalOrder]
    exact ⟨fun hboth => hboth.2, fun hraised => ⟨h trigger hraised, hraised⟩⟩
  unfold InOrder
  simp only [hmem]
  rfl

section Decided

variable [Platform]

/-- A decision that has passed its checks is the answer. -/
theorem decided_of_accepted {B : PolicyBundle} (hB : B.Accepted)
    (hdigest : isSha256 B.digest = true) {carrier : InputCarrier} {i : EvaluationInput}
    (hadmits : carrier.Admits i) (hknown : i.Known B) (hrated : i.Rated B)
    (hordered : (decision B i).Ordered) : Decided (.ok B) (carrier.toMapping i).toJson := by
  have hcontract := (validatePolicyResultContract_decision_iff hB hdigest i).mpr hordered
  have hdecide := decideRecord_of_accepted hadmits hknown hrated hcontract
  unfold Decided
  cases carrier with
  | bare =>
      rw [evaluateRecord_bare hknown hrated hcontract]
      rfl
  | versioned =>
      have hcontext : publicInputContext (InputCarrier.versioned.toMapping i).toJson = none := by
        rw [publicInputContext, Mapping.asMapping_toJson]
        rfl
      rw [evaluateRecord, hcontext, hdecide]
      rfl
  | published context =>
      have hpublic : looksLikePublicInput ((InputCarrier.published context).toMapping i) = true :=
        rfl
      have hvalid : (contextOf ((InputCarrier.published context).toMapping i)).Valid := by
        obtain ⟨hcontext, -⟩ := input_contract_iff.mp (hadmits context rfl)
        exact ⟨hcontext.evaluationId, hcontext.projectId, hcontext.taskId,
          (publicTimestamp_iff context.createdAtUtc).mpr (fun _ => hcontext.createdAtUtc)⟩
      have hpassed : validateContract .policyEvaluationResult
          ((contextOf ((InputCarrier.published context).toMapping i)).evaluation (decision B i)
            (some B.digest)).toMapping.toJson = .ok () := by
        apply evaluation_contract_iff.mpr
        refine ⟨hvalid, fun d hd => ?_, (resultAccepted_iff (decision_regular hB i)).mpr hordered⟩
        rwa [← Option.some.inj hd]
      rw [evaluateRecord_public hpublic, hdecide]
      show (wrapPublicResult _ (decision B i) (some B.digest)).result.failClosed = false
      rw [wrapPublicResult_of_ok hpassed]
      rfl

omit [Platform] in
/-- The triggers in order are those that the input raises. -/
theorem EvaluationInput.UsesDeclared.mem_orderedRiskTriggers {B : PolicyBundle}
    {i : EvaluationInput} (h : i.UsesDeclared B) (trigger : String) :
    trigger ∈ orderedRiskTriggers B i ↔ trigger ∈ i.riskTriggers := by
  rw [orderedRiskTriggers, mem_canonicalOrder]
  exact ⟨fun hboth => hboth.2, fun hraised => ⟨h.riskTriggers trigger hraised, hraised⟩⟩

/-- **An evaluable input is decided.** -/
theorem Evaluable.decided {B : PolicyBundle} {carrier : InputCarrier} {i : EvaluationInput}
    (hevaluable : Evaluable B carrier i) (hB : B.Accepted) (hdigest : isSha256 B.digest = true)
    (h : i.UsesDeclared B) : Decided (.ok B) (carrier.toMapping i).toJson := by
  have hadmits : carrier.Admits i := fun context hcontext =>
    input_contract_iff.mpr (hevaluable.admitted context hcontext)
  obtain ⟨gates, hlookup, -⟩ := hB.levels (requestedLevel B i)
  apply decided_of_accepted hB hdigest hadmits
  · exact ⟨h.state, hevaluable.distinct.1, hevaluable.distinct.2, h.attributes, h.humanTriggers,
      h.profile⟩
  · exact ⟨h.riskTriggers, hevaluable.notLowered⟩
  · apply (decision_ordered_iff hB i).mpr
    refine ⟨(inOrder_humanTriggers_iff h.humanTriggers).mpr hevaluable.humanOrder,
      hevaluable.skillOrder, ?_, fun trigger htrigger =>
        hevaluable.provenance trigger ((h.mem_orderedRiskTriggers trigger).mp htrigger)⟩
    rw [hlookup, Option.getD_some]
    exact hevaluable.gateOrder gates hlookup

/-- The answer to an evaluable request of the engine. -/
theorem evaluatePolicy_of_evaluable {B : PolicyBundle} {i : PolicyInput}
    (hevaluable : Evaluable B (.published i.context) i.input) (hB : B.Accepted)
    (hdigest : isSha256 B.digest = true) (h : i.input.UsesDeclared B) :
    evaluatePolicy B i
      = i.context.answered.evaluation (decision B i.input) (some B.digest) := by
  have hdecided := hevaluable.decided hB hdigest h
  obtain ⟨B', form, j, hbundle, hrecord, -, -, -, -, hresult⟩ := evaluateRecord_open hdecided
  obtain rfl := Except.ok.inj hbundle
  obtain ⟨-, rfl⟩ := InputCarrier.toMapping_injective (Mapping.toJson_injective hrecord)
  have hanswer : (evaluateRecord (.ok B)
      ((InputCarrier.published i.context).toMapping i.input).toJson).result
      = (evaluatePolicy B i).result := congrArg PolicyAnswer.result (evaluateRecord_toMapping B i)
  rw [hanswer] at hresult
  rcases wrapPublicResult_cases i.context.answered (resultOf (decidePolicy B i)) (some B.digest)
    with heq | ⟨error, heq⟩
  · rw [evaluatePolicy, heq] at hresult ⊢
    exact congrArg (fun r => i.context.answered.evaluation r (some B.digest)) hresult
  · rw [evaluatePolicy, heq] at hresult ⊢
    exact congrArg (fun r => i.context.answered.evaluation r (some B.digest)) hresult

/-- **An input that uses what is declared is decided iff it is evaluable.** -/
theorem decided_iff_evaluable (hhex : ∀ value, isSha256 (canonicalSha value) = true)
    {files : PolicyFiles} {B : PolicyBundle} (hload : loadPolicyBundle files = .ok B)
    (carrier : InputCarrier) {i : EvaluationInput} (h : i.UsesDeclared B) :
    Decided (.ok B) (carrier.toMapping i).toJson ↔ Evaluable B carrier i := by
  have hB := loadPolicyBundle_accepted hload
  have hdigest := loadPolicyBundle_digest hhex hload
  constructor
  · intro hdecided
    obtain ⟨B', form, j, hbundle, hrecord, hadmits, hknown, hrated, hcontract, -⟩ :=
      evaluateRecord_open hdecided
    obtain rfl := Except.ok.inj hbundle
    obtain ⟨rfl, rfl⟩ := InputCarrier.toMapping_injective (Mapping.toJson_injective hrecord)
    obtain ⟨hhuman, hskills, hgates, hfields⟩ := (decision_ordered_iff hB i).mp
      ((validatePolicyResultContract_decision_iff hB hdigest i).mp hcontract)
    refine ⟨⟨hknown.riskTriggers, hknown.humanTriggers⟩, fun context hcontext =>
      input_contract_iff.mp (hadmits context hcontext), hrated.notLowered,
      (inOrder_humanTriggers_iff h.humanTriggers).mp hhuman, hskills, fun gates hlookup => ?_,
      fun trigger htrigger => hfields trigger ((h.mem_orderedRiskTriggers trigger).mpr htrigger)⟩
    rwa [hlookup, Option.getD_some] at hgates
  · exact fun hevaluable => hevaluable.decided hB hdigest h

end Decided

/-- The input uses what the smallest files declare. -/
theorem usesDeclared_smallest {B : PolicyBundle} {humanTriggers declared : List String}
    (hstates : B.taskStates = [.draft]) (hdeclared : B.humanTriggers = declared)
    (hraised : ∀ trigger ∈ humanTriggers, trigger ∈ declared) :
    (smallestInput [] humanTriggers).UsesDeclared B where
  state := hstates ▸ List.mem_singleton.mpr rfl
  riskTriggers := nofun
  humanTriggers := fun trigger htrigger => hdeclared ▸ hraised trigger htrigger
  attributes := nofun
  profile := nofun

/-- An input that raises two human triggers in the order of their vocabulary is evaluable. -/
theorem evaluable_smallest :
    letI := smallestPlatform
    ∃ B, loadPolicyBundle (smallestFiles [] ["H1_PRODUCT_INTENT", "H3_RISK_ACCEPTANCE"]) = .ok B ∧
      Evaluable B .bare (smallestInput [] ["H1_PRODUCT_INTENT", "H3_RISK_ACCEPTANCE"]) := by
  let _ := smallestPlatform
  have hload : (loadPolicyBundle (smallestFiles []
      ["H1_PRODUCT_INTENT", "H3_RISK_ACCEPTANCE"])).toOption.any
        (fun B => B.taskStates = [.draft]
          ∧ B.humanTriggers = ["H1_PRODUCT_INTENT", "H3_RISK_ACCEPTANCE"]
          ∧ decidesPlainly B (smallestInput [] ["H1_PRODUCT_INTENT", "H3_RISK_ACCEPTANCE"]))
        = true := by
    decide +kernel
  obtain ⟨B, hB, htest⟩ := exists_loaded hload
  obtain ⟨hstates, hdeclared, hplainly⟩ := of_decide_eq_true htest
  have hhex : ∀ value, isSha256 (canonicalSha value) = true :=
    fun _ => isSha256_unarySha (Nat.zero_le _)
  refine ⟨B, hB, ?_⟩
  apply (decided_iff_evaluable hhex hB .bare
    (usesDeclared_smallest hstates hdeclared (fun _ h => h))).mp
  rw [← hB]
  exact decided_of_plainly hhex hB rfl rfl hplainly

/-- The files are accepted also where they declare the triggers in the other order, and the same
input is not decided. -/
theorem undecided_smallest :
    letI := smallestPlatform
    ∃ B, loadPolicyBundle (smallestFiles [] ["H3_RISK_ACCEPTANCE", "H1_PRODUCT_INTENT"]) = .ok B ∧
      (smallestInput [] ["H1_PRODUCT_INTENT", "H3_RISK_ACCEPTANCE"]).UsesDeclared B ∧
      ¬ Decided (.ok B) (InputCarrier.bare.toMapping
        (smallestInput [] ["H1_PRODUCT_INTENT", "H3_RISK_ACCEPTANCE"])).toJson := by
  let _ := smallestPlatform
  have hload : (loadPolicyBundle (smallestFiles []
      ["H3_RISK_ACCEPTANCE", "H1_PRODUCT_INTENT"])).toOption.any
        (fun B => B.taskStates = [.draft]
          ∧ B.humanTriggers = ["H3_RISK_ACCEPTANCE", "H1_PRODUCT_INTENT"]
          ∧ ¬ InOrder humanDecisionTriggers (orderedHumanTriggers B
            (smallestInput [] ["H1_PRODUCT_INTENT", "H3_RISK_ACCEPTANCE"]))) = true := by
    decide +kernel
  obtain ⟨B, hB, htest⟩ := exists_loaded hload
  obtain ⟨hstates, hdeclared, hunordered⟩ := of_decide_eq_true htest
  refine ⟨B, hB, usesDeclared_smallest hstates hdeclared (by simp), fun hdecided => hunordered ?_⟩
  obtain ⟨B', form, j, hbundle, hrecord, -, -, -, hcontract, -⟩ := evaluateRecord_open hdecided
  obtain rfl := Except.ok.inj hbundle
  obtain ⟨-, rfl⟩ := InputCarrier.toMapping_injective (Mapping.toJson_injective hrecord)
  exact ((validatePolicyResultContract_decision_iff (loadPolicyBundle_accepted hB)
    (loadPolicyBundle_digest (fun _ => isSha256_unarySha (Nat.zero_le _)) hB) _).mp
      hcontract).triggers

end Acgps
