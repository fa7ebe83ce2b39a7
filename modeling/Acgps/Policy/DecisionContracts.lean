import Acgps.Policy.Decision
import Acgps.Policy.Loader
import Acgps.Policy.ResultRules

/-!
# What the contract asks of a decision

Under a loaded bundle a decision is a regular result, so its contract asks for names and orders
only: the triggers, the skills and the gates in the order of their vocabularies, and policy fields
of one form.

## Main Definitions

* `provenanceParts` - the provenance of a decision, policy file by policy file

## Key Theorems

* `decision_regular` - **a decision is a regular result**
* `decision_ordered_iff` - what its order comes down to
* `validatePolicyResultContract_decision_iff` - **its contract is its order**
-/

namespace Acgps

open Checked

/-! ## Section 1: The provenance of a decision -/

/-- The places of the policy files. -/
def policyFileGroups : List (String × Nat) :=
  [("config/risk_policy.yaml:", 0), ("project_profiles/", 0),
    ("config/human_decision_policy.yaml:", 1), ("config/skill_routing.yaml:", 2),
    ("config/model_routing.yaml:", 3), ("config/workflow_policy.yaml:", 4)]

/-- The place of a policy field is that of its file. -/
theorem policyGroup_append (file : String) (group : Nat) (hfile : (file, group) ∈ policyFileGroups)
    (field : String) : policyGroup (file ++ field) = group := by
  have hall : ∀ entry ∈ policyFileGroups, policyGroup (entry.1 ++ field) = entry.2 := by
    intro entry hentry
    simp only [policyFileGroups, List.mem_cons, List.not_mem_nil, or_false] at hentry
    rcases hentry with rfl | rfl | rfl | rfl | rfl | rfl <;>
      simp [policyGroup, provenanceOrderGroup]
  exact hall (file, group) hfile

/-- The policy fields of a trigger come first. -/
theorem policyGroup_triggerProvenance {B : PolicyBundle} (hB : B.Accepted) {i : EvaluationInput}
    {trigger field : String} (hfield : field ∈ triggerProvenance B (i.profile B) trigger) :
    policyGroup field = 0 := by
  rcases List.mem_append.mp hfield with hdeclared | hoverride
  · cases hlookup : B.risk.triggers.lookup trigger with
    | none => simp [hlookup] at hdeclared
    | some level =>
        rw [hlookup] at hdeclared
        obtain rfl := List.mem_singleton.mp hdeclared
        have hsplit : "config/risk_policy.yaml:triggers." ++ trigger
            = "config/risk_policy.yaml:" ++ ("triggers." ++ trigger) := by
          rw [← String.append_assoc]
          rfl
        rw [hsplit]
        exact policyGroup_append "config/risk_policy.yaml:" 0 (by simp [policyFileGroups]) _
  · cases hprofile : i.profile B with
    | none => simp [hprofile] at hoverride
    | some profile =>
        cases hlevel : overrideOf (some profile) trigger with
        | none => simp [hprofile, hlevel] at hoverride
        | some level =>
            rw [hprofile, hlevel] at hoverride
            obtain rfl := List.mem_singleton.mp hoverride
            obtain ⟨profileId, -, hfound⟩ := Option.bind_eq_some_iff.mp hprofile
            obtain ⟨name, hname⟩ := hB.profiles _ (mem_of_lookup_eq_some hfound)
            dsimp only at hname
            rw [hname, String.append_assoc, String.append_assoc]
            exact policyGroup_append "project_profiles/" 0 (by simp [policyFileGroups]) _

/-- The parts of the provenance, each with the place of its file. -/
def provenanceParts (B : PolicyBundle) (i : EvaluationInput) : List (Nat × List String) :=
  [(0, levelProvenance B i),
    (1, (orderedHumanTriggers B i).map ("config/human_decision_policy.yaml:triggers." ++ ·)),
    (2, (requestedSkills B i).map ("config/skill_routing.yaml:skills." ++ ·)),
    (3, (requestedRoles B i).map (fun role => "config/model_routing.yaml:roles." ++ role.2)),
    (4, ["config/workflow_policy.yaml:transitions." ++ i.currentState.name])]

/-- The provenance is made of its parts. -/
theorem fullProvenance_eq (B : PolicyBundle) (i : EvaluationInput) :
    fullProvenance B i = (provenanceParts B i).flatMap Prod.snd := by
  simp [fullProvenance, provenanceParts]

/-- The fields of a part belong to its file. -/
theorem policyGroup_part {B : PolicyBundle} (hB : B.Accepted) {i : EvaluationInput} :
    ∀ part ∈ provenanceParts B i, ∀ field ∈ part.2, policyGroup field = part.1 := by
  have hsplit : ∀ file head word : String, file ++ head ++ word = file ++ (head ++ word) :=
    fun file head word => String.append_assoc
  simp only [provenanceParts, List.forall_mem_cons, List.not_mem_nil, false_implies, implies_true,
    and_true]
  refine ⟨fun field hfield => ?_, fun field hfield => ?_, fun field hfield => ?_,
    fun field hfield => ?_, ?_⟩
  · rcases List.mem_append.mp hfield with hdefault | htrigger
    · split at hdefault
      · obtain rfl := List.mem_singleton.mp hdefault
        decide +kernel
      · exact absurd hdefault List.not_mem_nil
    · obtain ⟨trigger, -, hmem⟩ := List.mem_flatMap.mp htrigger
      exact policyGroup_triggerProvenance hB hmem
  · obtain ⟨word, -, rfl⟩ := List.mem_map.mp hfield
    exact (congrArg policyGroup (hsplit "config/human_decision_policy.yaml:" "triggers." word)).trans
      (policyGroup_append "config/human_decision_policy.yaml:" 1 (by simp [policyFileGroups]) _)
  · obtain ⟨word, -, rfl⟩ := List.mem_map.mp hfield
    exact (congrArg policyGroup (hsplit "config/skill_routing.yaml:" "skills." word)).trans
      (policyGroup_append "config/skill_routing.yaml:" 2 (by simp [policyFileGroups]) _)
  · obtain ⟨role, -, rfl⟩ := List.mem_map.mp hfield
    exact (congrArg policyGroup (hsplit "config/model_routing.yaml:" "roles." role.2)).trans
      (policyGroup_append "config/model_routing.yaml:" 3 (by simp [policyFileGroups]) _)
  · exact (congrArg policyGroup
      (hsplit "config/workflow_policy.yaml:" "transitions." i.currentState.name)).trans
      (policyGroup_append "config/workflow_policy.yaml:" 4 (by simp [policyFileGroups]) _)

/-- **The provenance stands in the order of the policy files.** -/
theorem fullProvenance_order {B : PolicyBundle} (hB : B.Accepted) (i : EvaluationInput) :
    (fullProvenance B i).Pairwise (fun a b => policyGroup a ≤ policyGroup b) := by
  have hparts : (provenanceParts B i).Pairwise (fun part part' => part.1 ≤ part'.1) := by
    simp [provenanceParts]
  rw [fullProvenance_eq]
  apply List.pairwise_flatMap.mpr
  constructor
  · intro part hpart
    apply List.pairwise_of_forall_mem_list
    intro a ha b hb
    exact (policyGroup_part hB part hpart a ha).trans_le (policyGroup_part hB part hpart b hb).ge
  · apply hparts.imp_of_mem
    intro part part' hpart hpart' hle a ha b hb
    rw [policyGroup_part hB part hpart a ha, policyGroup_part hB part' hpart' b hb]
    exact hle

/-- The skills of an input are known ones. -/
theorem requestedSkills_subset {B : PolicyBundle} (hB : B.Accepted) (i : EvaluationInput) :
    ∀ skill ∈ requestedSkills B i, skill ∈ policySkillIds := by
  intro skill hskill
  obtain ⟨rule, hrule, rfl⟩ := List.mem_map.mp hskill
  exact hB.skills rule (List.mem_filter.mp hrule).1

/-- The model roles of an input are known ones, of known actors. -/
theorem requestedRoles_known {B : PolicyBundle} (hB : B.Accepted) (i : EvaluationInput) :
    ∀ entry ∈ requestedRoles B i, entry.1 ∈ policyModelActors ∧ entry.2 ∈ policyModelRoleIds := by
  intro entry hentry
  obtain ⟨rule, hrule, hrole⟩ := List.mem_filterMap.mp hentry
  obtain ⟨role, hfound, rfl⟩ := Option.map_eq_some_iff.mp hrole
  refine ⟨hB.actors rule hrule, ?_⟩
  rcases Option.or_eq_some_iff.mp hfound with halways | ⟨-, hlevel⟩
  · exact hB.alwaysRoles rule hrule role halways
  · exact hB.levelRoles rule hrule _ (mem_of_lookup_eq_some hlevel)

/-- The human triggers of an input are known ones. -/
theorem orderedHumanTriggers_subset {B : PolicyBundle} (hB : B.Accepted) (i : EvaluationInput) :
    ∀ trigger ∈ orderedHumanTriggers B i, trigger ∈ humanDecisionTriggers := by
  intro trigger htrigger
  exact hB.humanTriggers trigger (mem_canonicalOrder.mp htrigger).1

/-- The provenance names the fields of the triggers, beside fields of the form that is asked. -/
theorem fullProvenance_fields_iff {B : PolicyBundle} (hB : B.Accepted) (i : EvaluationInput) :
    (∀ field ∈ fullProvenance B i, isProvenance field = true) ↔
      ∀ trigger ∈ orderedRiskTriggers B i, ∀ field ∈ triggerProvenance B (i.profile B) trigger,
        isProvenance field = true := by
  have hchars : (∀ word ∈ humanDecisionTriggers, word.toList.all isFieldChar = true) ∧
      (∀ word ∈ policySkillIds, word.toList.all isFieldChar = true) ∧
      (∀ word ∈ policyModelRoleIds, word.toList.all isFieldChar = true) ∧
      ∀ s ∈ TaskState.all, s.name.toList.all isFieldChar = true := by
    simp only [← quickChars_eq]
    decide +kernel
  have hheads : ∀ head ∈ ["config/human_decision_policy.yaml:triggers.",
      "config/skill_routing.yaml:skills.", "config/model_routing.yaml:roles.",
      "config/workflow_policy.yaml:transitions."],
      isProvenance head = true ∧ head.toList.getLast? ≠ some '\n' := by decide +kernel
  have hdefault : isProvenance "config/risk_policy.yaml:default_level" = true := by decide +kernel
  obtain ⟨hhuman, hskill, hrole, hstate⟩ := hchars
  obtain ⟨⟨hhumanHead, hhumanLast⟩, ⟨hskillHead, hskillLast⟩, ⟨hroleHead, hroleLast⟩, ⟨hstateHead,
    hstateLast⟩, -⟩ := by simpa only [List.forall_mem_cons] using hheads
  constructor
  · intro hall trigger htrigger field hfield
    apply hall
    rw [fullProvenance_eq]
    apply List.mem_flatMap.mpr
    refine ⟨_, List.mem_cons_self, List.mem_append_right _ ?_⟩
    exact List.mem_flatMap.mpr ⟨trigger, htrigger, hfield⟩
  · intro htriggers field hfield
    rw [fullProvenance_eq] at hfield
    obtain ⟨part, hpart, hmem⟩ := List.mem_flatMap.mp hfield
    simp only [provenanceParts, List.mem_cons, List.not_mem_nil, or_false] at hpart
    rcases hpart with rfl | rfl | rfl | rfl | rfl
    · rcases List.mem_append.mp hmem with hstart | htrigger
      · split at hstart
        · obtain rfl := List.mem_singleton.mp hstart
          exact hdefault
        · exact absurd hstart List.not_mem_nil
      · obtain ⟨trigger, htrigger, hfield⟩ := List.mem_flatMap.mp htrigger
        exact htriggers trigger htrigger field hfield
    · obtain ⟨word, hword, rfl⟩ := List.mem_map.mp hmem
      exact isProvenance_append hhumanHead hhumanLast
        (hhuman word (orderedHumanTriggers_subset hB i word hword))
    · obtain ⟨word, hword, rfl⟩ := List.mem_map.mp hmem
      exact isProvenance_append hskillHead hskillLast
        (hskill word (requestedSkills_subset hB i word hword))
    · obtain ⟨role, hrole', rfl⟩ := List.mem_map.mp hmem
      exact isProvenance_append hroleHead hroleLast
        (hrole role.2 (requestedRoles_known hB i role hrole').2)
    · obtain rfl := List.mem_singleton.mp hmem
      exact isProvenance_append hstateHead hstateLast (hstate _ (TaskState.mem_all _))

/-! ## Section 2: The contract of a decision -/

/-- **A decision is a regular result.** -/
theorem decision_regular {B : PolicyBundle} (hB : B.Accepted) (i : EvaluationInput) :
    (decision B i).Regular where
  decided := ⟨rfl, rfl, rfl, rfl⟩
  gated := by
    intro h
    show needsHuman B i = true
    simp only [needsHuman, decide_eq_true_eq]
    exact h.symm
  legal := hB.targets i.currentState
  authorized := by
    show List.Sublist (if needsHuman B i = true then _ else _) _
    split
    · exact List.filter_sublist
    · exact List.Sublist.refl _
  behindGate := by
    intro hgate target htarget
    have hauthorized : (decision B i).authorizedTransitions
        = (B.targets i.currentState).filter (· ∈ humanGateAuthorizedTransitions) :=
      if_pos hgate
    rw [hauthorized] at htarget
    simpa using (List.mem_filter.mp htarget).2
  roles := requestedRoles_known hB i

/-- **What the contract asks of a decision.** -/
theorem decision_ordered_iff {B : PolicyBundle} (hB : B.Accepted) (i : EvaluationInput) :
    (decision B i).Ordered ↔ InOrder humanDecisionTriggers (orderedHumanTriggers B i) ∧
      InOrder policySkillIds (requestedSkills B i) ∧
      InOrder policyGateIds ((B.risk.levels.lookup (requestedLevel B i)).getD []) ∧
      ∀ trigger ∈ orderedRiskTriggers B i, ∀ field ∈ triggerProvenance B (i.profile B) trigger,
        isProvenance field = true := by
  have hmem : ∀ field, field ∈ (decision B i).provenance ↔ field ∈ fullProvenance B i := by
    intro field
    simp [decision]
  have hsublist : (decision B i).provenance.Sublist (fullProvenance B i) := by
    have hreverse := (List.dedup_sublist (fullProvenance B i).reverse).reverse
    rwa [List.reverse_reverse] at hreverse
  have hnodup : (decision B i).provenance.Nodup := List.nodup_reverse.mpr (List.nodup_dedup _)
  rw [← fullProvenance_fields_iff hB]
  constructor
  · intro h
    exact ⟨h.triggers, h.skills, h.gates,
      fun field hfield => h.provenance.fields field ((hmem field).mpr hfield)⟩
  · rintro ⟨htriggers, hskills, hgates, hfields⟩
    exact ⟨htriggers, hskills, hgates, hnodup, (fullProvenance_order hB i).sublist hsublist,
      fun field hfield => hfields field ((hmem field).mp hfield)⟩

/-- The check of a decision, by its parts. -/
theorem validatePolicyResultContract_decision_iff {B : PolicyBundle} (hB : B.Accepted)
    (hdigest : isSha256 B.digest = true) (i : EvaluationInput) :
    validatePolicyResultContract B (decision B i) = .ok () ↔ (decision B i).Ordered := by
  have hinternal : PublicContext.Valid
      ⟨"INTERNAL", "ACGPS", "POLICY_EVALUATION", "1970-01-01T00:00:00Z"⟩ :=
    ⟨by decide, ⟨by decide, by decide⟩, ⟨by decide, by decide⟩, by decide +kernel⟩
  have hsha : ∀ d, some B.digest = some d → isSha256 d = true := by
    intro d hd
    rwa [← Option.some.inj hd]
  obtain ⟨gates, hgates, -⟩ := hB.levels (requestedLevel B i)
  have hmandatory : (decision B i).mandatoryGates = gates := by
    show (B.risk.levels.lookup (requestedLevel B i)).getD [] = gates
    rw [hgates, Option.getD_some]
  have hlookup : B.risk.levels.lookup (decision B i).riskLevel = some gates := hgates
  have henvelope : validateContract .policyEvaluationResult (PolicyEvaluation.toMapping
      ⟨"INTERNAL", "ACGPS", "POLICY_EVALUATION", some B.digest, decision B i,
        "1970-01-01T00:00:00Z"⟩).toJson = .ok () ↔ (decision B i).Ordered := by
    rw [evaluation_contract_iff, ← @resultAccepted_iff _ (decision_regular hB i) B.digest]
    exact ⟨fun h => h.2.2, fun haccepted => ⟨hinternal, hsha, haccepted⟩⟩
  simp only [validatePolicyResultContract, bind_eq_ok, policyContract_eq_ok, expect_eq_ok,
    require_eq_ok]
  constructor
  · rintro ⟨_, hcontract, -⟩
    exact henvelope.mp hcontract
  · intro hordered
    exact ⟨(), henvelope.mpr hordered, gates, hlookup, hmandatory⟩

end Acgps
