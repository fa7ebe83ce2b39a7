import Acgps.Platform
import Acgps.Workflow.Bindings

/-!
# Policy evaluation

The policy bundle as the loader accepts it, and the evaluation of one transition request against it.

## Main Definitions

* `PolicyBundle` - the policies that an evaluation reads
* `evaluateNormalized` - the decision on a normalised input
* `evaluatePolicy` - `evaluate_policy` on the public input of the engine

## Key Theorems

* `evaluateNormalized_eq_ok` - what a decision authorises
* `evaluatePolicy_open` - **an evaluation that did not fail closed is such a decision**
-/

namespace Acgps

open Checked

/-! ## Section 1: Bundles -/

/-- `RISK_LEVELS`. -/
inductive RiskLevel where
  | r0
  | r1
  | r2
  | r3
  deriving DecidableEq

namespace RiskLevel

/-- The word of a level. -/
def name : RiskLevel → String
  | r0 => "R0"
  | r1 => "R1"
  | r2 => "R2"
  | r3 => "R3"

/-- `RISK_ORDER`. -/
def rank : RiskLevel → Nat
  | r0 => 0
  | r1 => 1
  | r2 => 2
  | r3 => 3

end RiskLevel

/-- `config/risk_policy.yaml`. -/
structure RiskPolicy where
  defaultLevel : RiskLevel
  levels : List (RiskLevel × List String)
  triggers : List (String × RiskLevel)

/-- The values of a task attribute and the features they stand for. -/
structure AttributeVocabulary where
  allowedValues : List String
  mapsToFeatures : List (String × List String)

/-- When a skill is required. -/
structure SkillRule where
  always : Bool
  whenAny : List String

/-- The model role of an actor: always the same, or one for each risk level. -/
structure ModelRoleRule where
  always : Option String
  byLevel : List (RiskLevel × String)

/-- `config/policy_routing_features.yaml`. -/
structure RoutingFeatures where
  taskAttributes : List (String × AttributeVocabulary)
  riskConditions : List (RiskLevel × List String)
  skillRuleFeatures : List (String × SkillRule)
  modelRoleRules : List (String × ModelRoleRule)

/-- A project profile, with the path it was loaded from. -/
structure ProjectProfile where
  projectName : String
  sourcePath : String
  riskOverrides : List (String × RiskLevel)

/-- The policies that an evaluation reads. The loader accepts declared states only. -/
structure PolicyBundle where
  digest : String
  taskStates : List TaskState
  transitions : List (TaskState × List TaskState)
  risk : RiskPolicy
  humanTriggers : List String
  routingFeatures : RoutingFeatures
  projectProfiles : List (String × ProjectProfile)

/-- `bundle.workflow["transitions"].get(state, [])`. -/
def PolicyBundle.targets (B : PolicyBundle) (s : TaskState) : List TaskState :=
  (B.transitions.lookup s).getD []

/-! ## Section 2: Inputs and results -/

/-- The task attributes of an input: a dictionary of strings, in key order. -/
structure TaskAttributes where
  entries : List (String × String)
  sorted : (entries.map Prod.fst).Pairwise (· < ·)

/-- The attributes as a mapping. -/
def TaskAttributes.toMapping (attributes : TaskAttributes) : Mapping where
  entries := attributes.entries.map (fun a => (a.1, .str a.2))
  sorted := by
    rw [List.map_map]
    exact attributes.sorted

/-- What is read off some elements of a list is a part of what is read off all of them. -/
theorem filterMap_sublist_map {α β : Type} {f : α → Option β} {g : α → β}
    (h : ∀ a b, f a = some b → b = g a) : ∀ l : List α, (l.filterMap f).Sublist (l.map g)
  | [] => List.Sublist.slnil
  | a :: l => by
      rw [List.filterMap_cons, List.map_cons]
      cases hf : f a with
      | none => exact (filterMap_sublist_map h l).cons _
      | some b =>
          obtain rfl := h a b hf
          exact (filterMap_sublist_map h l).cons_cons _

/-- The strings of a mapping. -/
def TaskAttributes.ofMapping (data : Mapping) : TaskAttributes where
  entries := data.entries.filterMap (fun e => e.2.asStr.map (e.1, ·))
  sorted := by
    rw [List.map_filterMap]
    apply List.Pairwise.sublist (filterMap_sublist_map ?_ data.entries) data.sorted
    intro e key hkey
    obtain ⟨_, hentry, rfl⟩ := Option.map_eq_some_iff.mp hkey
    obtain ⟨_, -, rfl⟩ := Option.map_eq_some_iff.mp hentry
    rfl

@[simp] theorem TaskAttributes.ofMapping_toMapping (attributes : TaskAttributes) :
    ofMapping attributes.toMapping = attributes := by
  obtain ⟨entries, sorted⟩ := attributes
  have hentries : (entries.map (fun a => (a.1, Json.str a.2))).filterMap
      (fun e => e.2.asStr.map (e.1, ·)) = entries := by
    rw [List.filterMap_map]
    exact List.filterMap_some
  simpa only [ofMapping, toMapping, TaskAttributes.mk.injEq] using hentries

/-- A mapping of strings is the mapping of its strings. -/
theorem TaskAttributes.toMapping_ofMapping {data : Mapping}
    (hstrings : ∀ e ∈ data.entries, ∃ word, e.2 = .str word) : (ofMapping data).toMapping = data := by
  obtain ⟨entries, sorted⟩ := data
  have hentries : ∀ l : List (String × Json), (∀ e ∈ l, ∃ word, e.2 = .str word) →
      (l.filterMap (fun e => e.2.asStr.map (e.1, ·))).map (fun a => (a.1, Json.str a.2)) = l := by
    intro l hl
    induction l with
    | nil => rfl
    | cons e l ih =>
        obtain ⟨⟨word, hword⟩, hrest⟩ := List.forall_mem_cons.mp hl
        obtain ⟨key, value⟩ := e
        subst hword
        exact congrArg ((key, Json.str word) :: ·) (ih hrest)
  simpa only [ofMapping, toMapping, Mapping.mk.injEq] using hentries entries hstrings

/-- The attributes that a list of assignments makes. -/
def TaskAttributes.ofPairs (pairs : List (String × String)) : TaskAttributes :=
  ofMapping (Mapping.ofPairs (pairs.map (fun a => (a.1, .str a.2))))

/-- The fields of a normalised input. -/
structure EvaluationInput where
  currentState : TaskState
  riskTriggers : List String
  humanTriggers : List String
  taskAttributes : TaskAttributes
  projectProfileId : Option String

/-- The fields as a mapping. -/
def EvaluationInput.toMapping (i : EvaluationInput) : Mapping where
  entries :=
    [("current_state", i.currentState.toJson), ("human_triggers", Json.strs i.humanTriggers),
      ("project_profile_id", Json.ofOption .str i.projectProfileId),
      ("risk_triggers", Json.strs i.riskTriggers),
      ("task_attributes", i.taskAttributes.toMapping.toJson)]
  sorted := by
    show ["current_state", "human_triggers", "project_profile_id", "risk_triggers",
      "task_attributes"].Pairwise (· < ·)
    decide +kernel

/-- The context of a public input that its result repeats. -/
structure PublicContext where
  evaluationId : String
  projectId : String
  taskId : String
  createdAtUtc : String

/-- An input inside its public wrapper. -/
def PublicContext.wrap (context : PublicContext) (i : EvaluationInput) : Mapping where
  entries :=
    [("created_at_utc", .str context.createdAtUtc), ("evaluation_id", .str context.evaluationId),
      ("input", i.toMapping.toJson), ("project_id", .str context.projectId),
      ("schema_version", .int 1), ("task_id", .str context.taskId)]
  sorted := by
    show ["created_at_utc", "evaluation_id", "input", "project_id", "schema_version",
      "task_id"].Pairwise (· < ·)
    decide +kernel

/-- The public input of an evaluation, as the engine builds it. -/
structure PolicyInput where
  evaluationId : String
  projectId : String
  taskId : String
  currentState : TaskState
  riskTriggers : List String
  humanTriggers : List String
  taskAttributes : List (String × String)
  projectProfileId : String
  createdAtUtc : String

/-- The fields of the input. -/
def PolicyInput.input (i : PolicyInput) : EvaluationInput :=
  ⟨i.currentState, i.riskTriggers, i.humanTriggers, .ofPairs i.taskAttributes,
    some i.projectProfileId⟩

/-- The context of the input. -/
def PolicyInput.context (i : PolicyInput) : PublicContext :=
  ⟨i.evaluationId, i.projectId, i.taskId, i.createdAtUtc⟩

/-- The input as the record that `evaluate_policy` takes. -/
def PolicyInput.toMapping (i : PolicyInput) : Mapping := i.context.wrap i.input

/-- `PolicyEvaluationError`. -/
structure PolicyError where
  code : String
  path : String
  message : Text

/-- An issue of a failed evaluation. -/
structure PolicyIssue where
  code : String
  path : String
  message : String

/-- The result of an evaluation. -/
structure PolicyResult where
  decisionEmitted : Bool
  riskLevel : RiskLevel
  humanGate : Bool
  requiredHumanTriggers : List String
  requiredSkills : List String
  modelRoles : List (String × String)
  mandatoryGates : List String
  legalTransitions : List TaskState
  authorizedTransitions : List TaskState
  provenance : List String
  failClosed : Bool
  errorCode : Option String
  issues : List PolicyIssue

/-- An issue as a value. -/
def PolicyIssue.toJson (issue : PolicyIssue) : Json :=
  .obj [("code", .str issue.code), ("message", .str issue.message), ("path", .str issue.path)]

/-- The result as a mapping. -/
def PolicyResult.toMapping (r : PolicyResult) : Mapping where
  entries :=
    [("authorized_transitions", .arr (r.authorizedTransitions.map TaskState.toJson)),
      ("decision_emitted", .bool r.decisionEmitted),
      ("error_code", Json.ofOption .str r.errorCode), ("fail_closed", .bool r.failClosed),
      ("human_gate", .bool r.humanGate), ("issues", .arr (r.issues.map PolicyIssue.toJson)),
      ("legal_transitions", .arr (r.legalTransitions.map TaskState.toJson)),
      ("mandatory_gates", Json.strs r.mandatoryGates),
      ("model_roles", (Mapping.ofPairs (r.modelRoles.map (fun e => (e.1, .str e.2)))).toJson),
      ("provenance", Json.strs r.provenance),
      ("required_human_triggers", Json.strs r.requiredHumanTriggers),
      ("required_skills", Json.strs r.requiredSkills), ("risk_level", .str r.riskLevel.name)]
  sorted := by
    show ["authorized_transitions", "decision_emitted", "error_code", "fail_closed", "human_gate",
      "issues", "legal_transitions", "mandatory_gates", "model_roles", "provenance",
      "required_human_triggers", "required_skills", "risk_level"].Pairwise (· < ·)
    decide +kernel

/-- A result with the identity of the request it answers. -/
structure PolicyEvaluation where
  evaluationId : String
  projectId : String
  taskId : String
  policyBundleDigest : Option String
  result : PolicyResult
  createdAtUtc : String

/-- The record that is bound to a transition. -/
def PolicyEvaluation.toMapping (ev : PolicyEvaluation) : Mapping where
  entries :=
    [("created_at_utc", .str ev.createdAtUtc), ("evaluation_id", .str ev.evaluationId),
      ("policy_bundle_digest", Json.ofOption .str ev.policyBundleDigest),
      ("project_id", .str ev.projectId), ("result", ev.result.toMapping.toJson),
      ("schema_version", .int 1), ("task_id", .str ev.taskId)]
  sorted := by
    show ["created_at_utc", "evaluation_id", "policy_bundle_digest", "project_id", "result",
      "schema_version", "task_id"].Pairwise (· < ·)
    decide +kernel

section Evaluation

variable [Platform]

/-- `fail_closed_result`. -/
def failClosedResult (error : PolicyError) : PolicyResult :=
  let code := if policyErrorCodes.contains error.code then error.code else "POLICY_MALFORMED"
  { decisionEmitted := false, riskLevel := .r3, humanGate := true, requiredHumanTriggers := [],
    requiredSkills := [], modelRoles := [], mandatoryGates := [], legalTransitions := [],
    authorizedTransitions := [], provenance := [], failClosed := true, errorCode := some code,
    issues := [⟨code, error.path, error.message.render⟩] }

/-- The error that stands for an exception of another class, of which the result shows the name. -/
def failedClosed (className : String) : PolicyError :=
  ⟨"POLICY_MALFORMED", "policy", "policy evaluation failed closed: " ++ className⟩

/-- `except ContractValidationError` around a contract check, and `except Exception` around it. -/
def policyContract (x : Outcome Unit) (onIssue : ValidationIssue → PolicyError) :
    Except PolicyError Unit :=
  mapError (fun failure => match failure with
    | .contractValidation _ (issue :: _) => onIssue issue
    | .interpreter className _ => failedClosed className
    | .unsupportedContractVersion _ _ => failedClosed "UnsupportedContractVersionError"
    | _ => failedClosed "ValueError") x

omit [Platform] in
@[simp] theorem policyContract_eq_ok {x : Outcome Unit} {onIssue : ValidationIssue → PolicyError}
    {u : Unit} : policyContract x onIssue = .ok u ↔ x = .ok u := by
  simp [policyContract]

/-! ## Section 3: Checks on the input -/

/-- The error for the first issue of a public input. -/
def inputContractError (issue : ValidationIssue) : PolicyError :=
  if issue.message = ("unexpected field" : Text) then
    ⟨"POLICY_UNKNOWN_FIELD", issue.path,
      [.text "unknown PolicyEvaluationInput field ", .text issue.path]⟩
  else if "expected".toList.isPrefixOf issue.message.render.toList then
    ⟨"POLICY_TYPE_ERROR", issue.path, issue.message⟩
  else ⟨"POLICY_MALFORMED", issue.path, issue.message⟩

/-- `_normalize_input` on a public input. -/
def normalizeInput (i : PolicyInput) : Except PolicyError Unit :=
  policyContract (validateContract .policyEvaluationInput i.toMapping.toJson) inputContractError

/-- `_duplicate_item`, with the error of the caller; `singular` is the field name without its last
letter. -/
def rejectDuplicate (fieldName singular : String) (values : List String) :
    Except PolicyError Unit :=
  match ((repeatedBefore [] values).zipIdx).find? (fun entry => entry.1.2) with
  | some ((value, _), index) =>
      .error ⟨"POLICY_DUPLICATE_SET_MEMBER", itemPath ("input." ++ fieldName) index,
        [.text "duplicate ", .text singular, .text " ", .text value]⟩
  | none => .ok ()

/-- One turn of the loop of `_validate_task_attributes`. -/
def validateTaskAttribute (vocabulary : List (String × AttributeVocabulary))
    (attr : String × String) : Except PolicyError Unit := do
  let path := "input.task_attributes." ++ attr.1
  let entry ← expect (vocabulary.lookup attr.1)
    ⟨"POLICY_UNKNOWN_ATTRIBUTE", path, [.text "unknown task attribute ", .text attr.1]⟩
  require (attr.2 ∈ entry.allowedValues)
    ⟨"POLICY_UNKNOWN_ATTRIBUTE_VALUE", path,
      [.text "unknown value ", .text attr.2, .text " for task attribute ", .text attr.1]⟩

/-- `_validate_task_attributes`. -/
def validateTaskAttributes (vocabulary : List (String × AttributeVocabulary))
    (attributes : TaskAttributes) : Except PolicyError Unit :=
  forM attributes.entries (validateTaskAttribute vocabulary)

/-- `_prevalidate_input`. -/
def prevalidateInput (B : PolicyBundle) (i : PolicyInput) : Except PolicyError Unit := do
  normalizeInput i
  require (i.currentState ∈ B.taskStates)
    ⟨"POLICY_UNKNOWN_ID", "input.current_state",
      [.text "unknown current_state ", .text i.currentState.name]⟩
  rejectDuplicate "risk_triggers" "risk_trigger" i.riskTriggers
  rejectDuplicate "human_triggers" "human_trigger" i.humanTriggers
  validateTaskAttributes B.routingFeatures.taskAttributes i.input.taskAttributes
  forM i.humanTriggers.zipIdx (fun (trigger, index) => require (trigger ∈ B.humanTriggers)
    ⟨"POLICY_UNKNOWN_ID", itemPath "input.human_triggers" index,
      [.text "unknown human trigger ", .text trigger]⟩)
  require ((B.projectProfiles.lookup i.projectProfileId).isSome = true)
    ⟨"POLICY_UNKNOWN_ID", "input.project_profile_id",
      [.text "unknown project_profile_id ", .text i.projectProfileId]⟩

/-! ## Section 4: The decision -/

/-- `_canonical_order`. -/
def canonicalOrder (values declarationOrder : List String) : List String :=
  declarationOrder.filter (· ∈ values)

/-- The risk level found so far, with the policy fields it rests on. -/
structure RiskScan where
  level : RiskLevel
  provenance : List String

/-- One turn of the loop over the risk triggers. -/
def RiskScan.step (B : PolicyBundle) (profile : Option ProjectProfile) (scan : RiskScan)
    (trigger : String) : Except PolicyError RiskScan := do
  let declared := B.risk.triggers.lookup trigger
  let source := match declared with
    | some _ => ["config/risk_policy.yaml:triggers." ++ trigger]
    | none => []
  match profile.bind (fun p => (p.riskOverrides.lookup trigger).map (p.sourcePath, ·)) with
  | some (profilePath, level) => do
      let path := profilePath ++ ":risk_overrides." ++ trigger
      require (∀ d ∈ declared, d.rank ≤ level.rank)
        ⟨"POLICY_PROFILE_DOWNGRADE_FORBIDDEN", path, "project profile may not lower global risk level"⟩
      return ⟨if scan.level.rank < level.rank then level else scan.level,
        scan.provenance ++ source ++ [path]⟩
  | none => do
      let level ← expect declared
        ⟨"POLICY_UNKNOWN_ID", "input.risk_triggers", [.text "unknown risk trigger ", .text trigger]⟩
      return ⟨if scan.level.rank < level.rank then level else scan.level, scan.provenance ++ source⟩

/-- `_derive_routing_features`. -/
def deriveRoutingFeatures (R : RoutingFeatures) (attributes : TaskAttributes)
    (level : RiskLevel) : List String :=
  (R.riskConditions.lookup level).getD []
    ++ attributes.entries.flatMap (fun attr =>
      (((R.taskAttributes.lookup attr.1).map
        (fun entry => (entry.mapsToFeatures.lookup attr.2).getD [])).getD []))

/-- `_derive_required_skills`. -/
def deriveRequiredSkills (R : RoutingFeatures) (features : List String) : List String :=
  (R.skillRuleFeatures.filter (fun rule =>
    rule.2.always || rule.2.whenAny.any (features.contains ·))).map Prod.fst

/-- `_derive_model_roles`. -/
def deriveModelRoles (R : RoutingFeatures) (level : RiskLevel) : List (String × String) :=
  R.modelRoleRules.filterMap (fun rule =>
    ((rule.2.always).or (rule.2.byLevel.lookup level)).map (rule.1, ·))

/-- `_evaluate_normalized`. -/
def evaluateNormalized (B : PolicyBundle) (i : EvaluationInput) :
    Except PolicyError PolicyResult := do
  let profile := i.projectProfileId.bind (B.projectProfiles.lookup ·)
  let overrides := (profile.map (·.riskOverrides.map Prod.fst)).getD []
  let declared := B.risk.triggers.map Prod.fst
  forM i.riskTriggers.zipIdx (fun (trigger, index) =>
    require (trigger ∈ declared ∨ trigger ∈ overrides)
      ⟨"POLICY_UNKNOWN_ID", itemPath "input.risk_triggers" index,
        [.text "unknown risk trigger ", .text trigger]⟩)
  let riskTriggers := canonicalOrder i.riskTriggers
    (declared ++ (overrides.filter (· ∉ declared)).mergeSort (· ≤ ·))
  let start := if riskTriggers = [] then ["config/risk_policy.yaml:default_level"] else []
  let scan ← riskTriggers.foldlM (RiskScan.step B profile) ⟨B.risk.defaultLevel, start⟩
  let level := scan.level
  let humanTriggers := canonicalOrder i.humanTriggers B.humanTriggers
  let humanGate := humanTriggers ≠ [] ∨ level = .r3
  let legalTransitions := B.targets i.currentState
  let authorizedTransitions := if humanGate then
    legalTransitions.filter (· ∈ humanGateAuthorizedTransitions) else legalTransitions
  let skills := deriveRequiredSkills B.routingFeatures
    (deriveRoutingFeatures B.routingFeatures i.taskAttributes level)
  let modelRoles := deriveModelRoles B.routingFeatures level
  let provenance := scan.provenance
    ++ humanTriggers.map ("config/human_decision_policy.yaml:triggers." ++ ·)
    ++ skills.map ("config/skill_routing.yaml:skills." ++ ·)
    ++ modelRoles.map (fun role => "config/model_routing.yaml:roles." ++ role.2)
    ++ ["config/workflow_policy.yaml:transitions." ++ i.currentState.name]
  return {
    decisionEmitted := true, riskLevel := level, humanGate := humanGate,
    requiredHumanTriggers := humanTriggers, requiredSkills := skills, modelRoles := modelRoles,
    mandatoryGates := (B.risk.levels.lookup level).getD [], legalTransitions := legalTransitions,
    authorizedTransitions := authorizedTransitions,
    provenance := (provenance.reverse.dedup).reverse, failClosed := false, errorCode := none,
    issues := [] }

/-- `_validate_policy_result_contract`. -/
def validatePolicyResultContract (B : PolicyBundle) (result : PolicyResult) :
    Except PolicyError Unit := do
  let envelope : PolicyEvaluation := ⟨"INTERNAL", "ACGPS", "POLICY_EVALUATION", some B.digest,
    result, "1970-01-01T00:00:00Z"⟩
  policyContract (validateContract .policyEvaluationResult envelope.toMapping.toJson)
    (fun issue => ⟨"POLICY_MALFORMED", issue.path, issue.message⟩)
  let gates ← expect (B.risk.levels.lookup result.riskLevel)
    ⟨"POLICY_UNKNOWN_ID", "result.risk_level", "result risk level is undeclared"⟩
  require (result.mandatoryGates = gates)
    ⟨"POLICY_CONFLICT", "result.mandatory_gates",
      "mandatory gates must match the selected risk level declaration"⟩

/-- The evaluation proper: every check, then the decision. -/
def decidePolicy (B : PolicyBundle) (i : PolicyInput) : Except PolicyError PolicyResult := do
  prevalidateInput B i
  let result ← evaluateNormalized B i.input
  validatePolicyResultContract B result
  return result

/-- The timestamp of a result: what does not look like one is replaced. -/
def publicTimestamp (timestamp : String) : String :=
  if matchesTemplate isDecimal utcTemplate timestamp.toList then timestamp
  else "1970-01-01T00:00:00Z"

/-- The context that the result repeats. -/
def PublicContext.answered (context : PublicContext) : PublicContext :=
  { context with createdAtUtc := publicTimestamp context.createdAtUtc }

/-- `_wrap_public_result`. -/
def wrapPublicResult (context : PublicContext) (result : PolicyResult)
    (policyBundleDigest : Option String) : PolicyEvaluation :=
  let wrapped : PolicyEvaluation :=
    ⟨context.evaluationId, context.projectId, context.taskId, policyBundleDigest, result,
      context.createdAtUtc⟩
  match policyContract (validateContract .policyEvaluationResult wrapped.toMapping.toJson)
      (fun issue => ⟨"POLICY_MALFORMED", issue.path, issue.message⟩) with
  | .ok _ => wrapped
  | .error error => { wrapped with result := failClosedResult error }

/-- The result of a decision: an error fails closed. -/
def resultOf : Except PolicyError PolicyResult → PolicyResult
  | .ok result => result
  | .error error => failClosedResult error

/-- `evaluate_policy`. -/
def evaluatePolicy (B : PolicyBundle) (i : PolicyInput) : PolicyEvaluation :=
  wrapPublicResult i.context.answered (resultOf (decidePolicy B i)) (some B.digest)

/-! ## Section 5: What an evaluation authorises -/

omit [Platform] in
/-- What a decision says about the targets of a transition. -/
structure PolicyResult.Decides (B : PolicyBundle) (i : EvaluationInput) (r : PolicyResult) :
    Prop where
  decided : r.failClosed = false
  legal : r.legalTransitions = B.targets i.currentState
  authorized : r.authorizedTransitions = if r.humanGate = true then
    (B.targets i.currentState).filter (· ∈ humanGateAuthorizedTransitions)
    else B.targets i.currentState
  triggers : r.requiredHumanTriggers = canonicalOrder i.humanTriggers B.humanTriggers
  gate : r.humanGate = true ↔ r.requiredHumanTriggers ≠ [] ∨ r.riskLevel = .r3

omit [Platform] in
/-- What a decision authorises. -/
theorem evaluateNormalized_eq_ok {B : PolicyBundle} {i : EvaluationInput} {r : PolicyResult}
    (h : evaluateNormalized B i = .ok r) : r.Decides B i := by
  simp only [evaluateNormalized, bind_eq_ok, pure_eq_ok] at h
  obtain ⟨_, _, scan, _, rfl⟩ := h
  refine ⟨rfl, rfl, ?_, rfl, by simp⟩
  simp only [decide_eq_true_eq]

omit [Platform] in
/-- A target that a decision authorises is a transition of the bundle. -/
theorem PolicyResult.Decides.mem_targets {B : PolicyBundle} {i : EvaluationInput} {r : PolicyResult}
    (h : r.Decides B i) {target : TaskState} (htarget : target ∈ r.authorizedTransitions) :
    target ∈ B.targets i.currentState := by
  rw [h.authorized] at htarget
  split at htarget
  · exact (List.mem_filter.mp htarget).1
  · exact htarget

theorem failClosedResult_failClosed (error : PolicyError) :
    (failClosedResult error).failClosed = true := rfl

/-- A wrapped result that did not fail closed is the result itself, and its record meets the
contract. -/
theorem wrapPublicResult_open {context : PublicContext} {r : PolicyResult} {digest : Option String}
    (hopen : (wrapPublicResult context r digest).result.failClosed = false) :
    wrapPublicResult context r digest = ⟨context.evaluationId, context.projectId, context.taskId,
      digest, r, context.createdAtUtc⟩ ∧
    validateContract .policyEvaluationResult
      (wrapPublicResult context r digest).toMapping.toJson = .ok () := by
  unfold wrapPublicResult at hopen ⊢
  dsimp only at hopen ⊢
  split
  next u hcontract => exact ⟨rfl, policyContract_eq_ok.mp hcontract⟩
  next error hcontract =>
    rw [hcontract] at hopen
    simp [failClosedResult_failClosed] at hopen

/-- **An evaluation that did not fail closed is a decision** on the request, and its record meets
the contract. -/
theorem evaluatePolicy_open {B : PolicyBundle} {i : PolicyInput}
    (hopen : (evaluatePolicy B i).result.failClosed = false) :
    ∃ r, decidePolicy B i = .ok r ∧ r.Decides B i.input ∧ (evaluatePolicy B i).result = r ∧
      (evaluatePolicy B i).evaluationId = i.evaluationId ∧
      (evaluatePolicy B i).projectId = i.projectId ∧ (evaluatePolicy B i).taskId = i.taskId ∧
      (evaluatePolicy B i).policyBundleDigest = some B.digest ∧
      validateContract .policyEvaluationResult (evaluatePolicy B i).toMapping.toJson = .ok () := by
  obtain ⟨hwrapped, hcontract⟩ := wrapPublicResult_open hopen
  cases hdecide : decidePolicy B i with
  | error error =>
      rw [evaluatePolicy, hwrapped, hdecide] at hopen
      exact absurd hopen (by simp [resultOf, failClosedResult_failClosed])
  | ok r =>
      have heq : evaluatePolicy B i = ⟨i.evaluationId, i.projectId, i.taskId, some B.digest, r,
          publicTimestamp i.createdAtUtc⟩ := by
        rw [evaluatePolicy, hwrapped, hdecide]
        rfl
      simp only [decidePolicy, bind_eq_ok, pure_eq_ok] at hdecide
      obtain ⟨_, _, _, hnormal, _, _, rfl⟩ := hdecide
      refine ⟨_, rfl, evaluateNormalized_eq_ok hnormal, ?_, ?_, ?_, ?_, ?_, hcontract⟩
      all_goals rw [heq]

end Evaluation

end Acgps
