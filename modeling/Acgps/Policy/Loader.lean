import Acgps.Data.JsonCode
import Acgps.Policy.Documents

/-!
# The policy loader

`load_policy_bundle` on the parsed policy files: every check on the files, each beside the others,
and the bundle that the evaluation reads.

## Main Definitions

* `PolicyFiles` - what the reader of the files hands to the loader
* `loadPolicyBundle` - `load_policy_bundle`
* `PolicyBundle.Accepted` - what holds of a loaded bundle
* `smallestFiles` - the smallest files that are loaded with given triggers

## Key Theorems

* `loadPolicyBundle_accepted` - **a loaded bundle is an accepted one**
-/

namespace Acgps

open Checked

/-! ## Section 1: Vocabularies -/

/-- The level that a word names. -/
def RiskLevel.ofName (word : String) : Option RiskLevel :=
  [r0, r1, r2, r3].find? (fun level => level.name = word)

/-- `POLICY_ROUTING_FEATURE_IDS`. -/
def policyRoutingFeatureIds : List String :=
  ["approved_plan", "before_integration", "behavior_change", "bug_fix", "critical_browser_flow",
    "critical_user_flow", "design_system_change", "failing_test", "formal_feature",
    "formal_milestone", "high_fidelity_experience", "integration", "isolated_review_work",
    "multi_file", "multi_step", "new_ui", "parallel_tasks", "public_contract_change",
    "rc_candidate", "regression", "responsive_layout", "risk_R2", "risk_R3",
    "two_or_more_independent_tasks", "unclear_runtime_behavior", "unexpected_failure",
    "web_ui_change"]

/-- The primary discovery targets that are no policy skills. -/
def discoveryTargets : List String :=
  ["grill_with_docs", "concise_spec", "superpowers_brainstorming"]

/-- The declared skills that no policy result names. -/
def otherSkillIds : List String :=
  ["superpowers_tdd", "superpowers_systematic_debugging", "superpowers_git_worktrees",
    "superpowers_subagent_driven", "browser_qa"]

/-- The declared model roles that no policy result names. -/
def otherModelRoleIds : List String := ["deep_research", "coder_mechanical", "coder_integration"]

/-- `_require_known_feature_list`. -/
def requireKnownFeatureList (value : Json) (path : String) : Except PolicyError (List String) := do
  let features ← requireStringList value path
  requireKnown features policyRoutingFeatureIds path "unknown routing feature"
  return features

/-! ## Section 2: The workflow policy -/

/-- The states that a list of words names. -/
def readStates (words : List String) (known : TaskState → Bool) (path : String) (message : Text) :
    Except PolicyError (List TaskState) :=
  words.zipIdx.mapM (fun (word, index) => expect ((TaskState.ofName word).filter known)
    ⟨"POLICY_UNKNOWN_ID", itemPath path index, message⟩)

/-- One row of the transitions. -/
def readTransitionRow (states : List TaskState) (path : String) (row : String × Json) :
    Except PolicyError (TaskState × List TaskState) := do
  let path := path ++ ":transitions." ++ row.1
  let source ← expect ((TaskState.ofName row.1).filter (· ∈ states))
    ⟨"POLICY_UNKNOWN_ID", path, "unknown transition source state"⟩
  let words ← requireStringList row.2 path
  let targets ← readStates words (· ∈ states) path "unknown workflow transition target"
  return (source, targets)

/-- The workflow policy as the evaluation reads it. -/
structure WorkflowPolicy where
  taskStates : List TaskState
  transitions : List (TaskState × List TaskState)

/-- `_validate_workflow_policy`. -/
def validateWorkflowPolicy (workflow : Document) : Except PolicyError WorkflowPolicy := do
  let path := "config/workflow_policy.yaml"
  requireExactFields workflow
    ["schema_version", "policy_id", "task_states", "transitions", "mandatory_rules"] [] path
  requirePolicyId workflow path "global-workflow-v1"
  let words ← requireStringList (docGet workflow "task_states") (path ++ ":task_states")
  let states ← readStates words (fun _ => true) (path ++ ":task_states") "unknown workflow state"
  let transitions ← expect (docGet workflow "transitions").asDocument
    ⟨"POLICY_TYPE_ERROR", path ++ ":transitions", "workflow transitions must be a mapping"⟩
  requireSameKeys transitions words
    (fun key => ⟨"POLICY_UNKNOWN_ID", path ++ ":transitions." ++ key,
      "workflow state is missing a transition row"⟩)
    (fun key => ⟨"POLICY_UNKNOWN_ID", path ++ ":transitions." ++ key,
      "unknown transition source state"⟩)
  let rows ← transitions.mapM (readTransitionRow states path)
  let _ ← requireStringList (docGet workflow "mandatory_rules") (path ++ ":mandatory_rules")
  return ⟨states, rows⟩

/-! ## Section 3: The risk policy -/

/-- One risk level. -/
def readRiskLevel (path : String) (entry : String × Json) :
    Except PolicyError (RiskLevel × List String) := do
  let path := path ++ ":levels." ++ entry.1
  let level ← expect (RiskLevel.ofName entry.1) ⟨"POLICY_UNKNOWN_ID", path, "unknown risk level"⟩
  let config ← expect entry.2.asDocument
    ⟨"POLICY_TYPE_ERROR", path, "risk level must be a mapping"⟩
  requireExactFields config ["description", "required_gates"] [] path
  let _ ← requireText (docGet config "description") (path ++ ".description")
    "risk level description must be a non-empty string"
  let gates ← requireStringList (docGet config "required_gates") (path ++ ".required_gates")
  require (gates ≠ []) ⟨"POLICY_TYPE_ERROR", path ++ ".required_gates",
    "risk level must declare at least one mandatory gate"⟩
  requireKnown gates policyGateIds (path ++ ".required_gates") "unknown gate id"
  return (level, gates)

/-- One risk trigger; the declared levels are all the levels there are. -/
def readRiskTrigger (path : String) (entry : String × Json) :
    Except PolicyError (String × RiskLevel) := do
  let word ← expect entry.2.asStr ⟨"POLICY_TYPE_ERROR", path ++ ":triggers",
    "risk trigger ids and levels must be strings"⟩
  let level ← expect (RiskLevel.ofName word)
    ⟨"POLICY_UNKNOWN_ID", path ++ ":triggers." ++ entry.1, "unknown risk level"⟩
  return (entry.1, level)

/-- A rule of the risk policy, by its trigger and its priority. -/
structure RiskRule where
  trigger : String
  priority : Int
  level : RiskLevel

/-- One turn of the loop of `_validate_risk_rule_conflicts`. -/
def checkRiskRule (seen : List RiskRule) (item : Json × Nat) : Except PolicyError (List RiskRule) := do
  let path := itemPath "config/risk_policy.yaml:rules" item.2
  let rule ← expect item.1.asDocument ⟨"POLICY_TYPE_ERROR", path, "risk rule must be a mapping"⟩
  refuseFirst ((rule.map Prod.fst).filter (fun name =>
      !(["trigger", "priority", "risk_level"] : List String).contains name))
    (fun name => ⟨"POLICY_UNKNOWN_FIELD", path ++ ":" ++ name,
      [.text "unexpected policy field ", .text name]⟩)
  requireExactFields rule ["trigger", "priority", "risk_level"] [] path
  let trigger ← requireText (docGet rule "trigger") (path ++ ".trigger")
    "risk rule trigger must be a non-empty string"
  let priority ← expect (docGet rule "priority").asInt
    ⟨"POLICY_TYPE_ERROR", path ++ ".priority", "risk rule priority must be an integer"⟩
  require ((docGet rule "risk_level").isUnhashable = false) (failedClosed "TypeError")
  let level ← expect ((docGet rule "risk_level").asStr.bind RiskLevel.ofName)
    ⟨"POLICY_UNKNOWN_ID", path ++ ".risk_level", "risk rule must reference a declared risk level"⟩
  let previous := seen.find? (fun rule => rule.trigger = trigger ∧ rule.priority = priority)
  require (∀ rule ∈ previous, rule.level = level)
    ⟨"POLICY_CONFLICT", path, "conflicting equal-priority policy rules"⟩
  return ⟨trigger, priority, level⟩ :: seen

/-- `_validate_risk_rule_conflicts`: the items of a dictionary are its keys, and those of a text
its characters. -/
def validateRiskRuleConflicts (risk : Document) : Except PolicyError Unit := do
  let rules ← match risk.lookup "rules" with
    | none => pure []
    | some (.arr rules) => pure rules
    | some (.obj members) => pure (members.map (fun member => .str member.1))
    | some (.str s) => pure (s.toList.map (fun c => .str (String.ofList [c])))
    | some _ => .error (failedClosed "TypeError")
  let _ ← rules.zipIdx.foldlM checkRiskRule []

/-- The risk policy as it is read, and whether a profile may lower a level. -/
structure LoadedRisk where
  policy : RiskPolicy
  profileMayLower : Bool

/-- `_validate_risk_policy`, with the default level that was looked up before. -/
def validateRiskPolicy (risk : Document) : Except PolicyError LoadedRisk := do
  let path := "config/risk_policy.yaml"
  requireExactFields risk
    ["schema_version", "policy_id", "default_level", "unknown_trigger_behavior", "levels",
      "triggers", "highest_applicable_level_wins", "project_profile_may_lower_risk"]
    ["rules"] path
  requirePolicyId risk path "global-risk-v1"
  let levels ← expect (docGet risk "levels").asDocument
    ⟨"POLICY_TYPE_ERROR", path ++ ":levels", "risk levels must be a mapping"⟩
  requireSameKeys levels riskLevels
    (fun key => ⟨"POLICY_UNKNOWN_ID", path ++ ":levels." ++ key,
      "required risk level is undeclared"⟩)
    (fun key => ⟨"POLICY_UNKNOWN_ID", path ++ ":levels." ++ key, "unknown risk level"⟩)
  let levels ← levels.mapM (readRiskLevel path)
  let triggers ← expect (docGet risk "triggers").asDocument
    ⟨"POLICY_TYPE_ERROR", path ++ ":triggers", "risk triggers must be a mapping"⟩
  let triggers ← triggers.mapM (readRiskTrigger path)
  let _ ← requireBool (docGet risk "highest_applicable_level_wins")
    (path ++ ":highest_applicable_level_wins") "must be a boolean"
  let profileMayLower ← requireBool (docGet risk "project_profile_may_lower_risk")
    (path ++ ":project_profile_may_lower_risk") "must be a boolean"
  validateRiskRuleConflicts risk
  let defaultLevel ← expect ((docGet risk "default_level").asStr.bind RiskLevel.ofName)
    ⟨"POLICY_UNKNOWN_ID", path ++ ":default_level", "default risk level is undeclared"⟩
  return ⟨⟨defaultLevel, levels, triggers⟩, profileMayLower⟩

/-! ## Section 4: The human decision policy, the skills and the model roles -/

/-- One human trigger. -/
def readHumanTrigger (path : String) (entry : String × Json) : Except PolicyError String := do
  let path := path ++ ":triggers." ++ entry.1
  require (entry.1 ∈ humanDecisionTriggers) ⟨"POLICY_UNKNOWN_ID", path, "unknown human trigger"⟩
  let config ← expect entry.2.asDocument
    ⟨"POLICY_TYPE_ERROR", path, "human trigger config must be a mapping"⟩
  requireExactFields config ["examples"] [] path
  let _ ← requireStringList (docGet config "examples") (path ++ ".examples")
  return entry.1

/-- `_validate_human_policy`, with the declared triggers. -/
def validateHumanPolicy (human : Document) : Except PolicyError (List String) := do
  let path := "config/human_decision_policy.yaml"
  requireExactFields human
    ["schema_version", "policy_id", "default_without_response", "triggers", "do_not_escalate"] []
    path
  requirePolicyId human path "human-decision-v1"
  require (docGet human "default_without_response" = .str "PAUSE")
    ⟨"POLICY_UNKNOWN_ID", path ++ ":default_without_response", "unknown default behavior"⟩
  let triggers ← expect (docGet human "triggers").asDocument
    ⟨"POLICY_TYPE_ERROR", path ++ ":triggers", "human triggers must be a mapping"⟩
  let triggers ← triggers.mapM (readHumanTrigger path)
  let _ ← requireStringList (docGet human "do_not_escalate") (path ++ ":do_not_escalate")
  return triggers

/-- `_validate_primary_routes` on a list of routes. -/
def validatePrimaryRoutes (routes : List Json) (logicalPath : String) : Except PolicyError Unit :=
  rejectRepeated (fun index => ⟨"POLICY_DUPLICATE_DISCOVERY_ROUTE",
      itemPath (logicalPath ++ ":primary_discovery.routes") index ++ ".route_id",
      "duplicate primary discovery route detected"⟩) [] 0
    (routes.filterMap (fun item => item.asDocument.map (docGet · "route_id")))

/-- A field that is checked only when it is there. -/
def checkOptional (doc : Document) (key : String) (check : Json → Except PolicyError Unit) :
    Except PolicyError Unit :=
  match doc.lookup key with
  | some value => check value
  | none => .ok ()

/-- One declared skill. -/
def readSkill (path : String) (entry : String × Json) : Except PolicyError String := do
  let path := path ++ ":skills." ++ entry.1
  require (entry.1 ∈ policySkillIds ++ otherSkillIds)
    ⟨"POLICY_UNKNOWN_ID", path, "unknown policy skill id"⟩
  let rule ← expect entry.2.asDocument
    ⟨"POLICY_TYPE_ERROR", path, "skill rule must be a mapping"⟩
  requireExactFields rule [] ["always", "when_any", "when_all"] path
  checkOptional rule "always" (fun value => do
    let _ ← requireBool value (path ++ ".always") "always must be a boolean")
  checkOptional rule "when_any" (fun value => do
    let _ ← requireKnownFeatureList value (path ++ ".when_any"))
  checkOptional rule "when_all" (fun value => do
    let _ ← requireKnownFeatureList value (path ++ ".when_all"))
  return entry.1

/-- `_validate_skill_policy`, with the declared skills. -/
def validateSkillPolicy (skills : Document) : Except PolicyError (List String) := do
  let path := "config/skill_routing.yaml"
  requireExactFields skills
    ["schema_version", "policy_id", "primary_discovery", "skills", "exception_requires_record"] []
    path
  requirePolicyId skills path "skill-routing-v1"
  let primary ← requirePolicyMapping (docGet skills "primary_discovery")
    (path ++ ":primary_discovery")
  requireExactFields primary ["exclusive", "routes"] [] (path ++ ":primary_discovery")
  let _ ← requireBool (docGet primary "exclusive") (path ++ ":primary_discovery.exclusive")
    "exclusive must be a boolean"
  match docGet primary "routes" with
  | .arr routes => validatePrimaryRoutes routes path
  | _ => pure ()
  let routes ← requirePolicyMapping (docGet primary "routes") (path ++ ":primary_discovery.routes")
  forM routes (fun entry => do
    let target ← expect entry.2.asStr ⟨"POLICY_TYPE_ERROR", path ++ ":primary_discovery.routes",
      "routes must map strings to strings"⟩
    require (target ∈ policySkillIds ++ discoveryTargets)
      ⟨"POLICY_UNKNOWN_ID", path ++ ":primary_discovery.routes." ++ entry.1,
        "unknown primary discovery target"⟩)
  let rules ← requirePolicyMapping (docGet skills "skills") (path ++ ":skills")
  let skillIds ← rules.mapM (readSkill path)
  let _ ← requireBool (docGet skills "exception_requires_record")
    (path ++ ":exception_requires_record") "exception_requires_record must be a boolean"
  return skillIds

/-- One declared model role. -/
def readModelRole (path : String) (entry : String × Json) : Except PolicyError String := do
  let path := path ++ ":roles." ++ entry.1
  require (entry.1 ∈ policyModelRoleIds ++ otherModelRoleIds)
    ⟨"POLICY_UNKNOWN_ID", path, "unknown model role"⟩
  let config ← expect entry.2.asDocument
    ⟨"POLICY_TYPE_ERROR", path, "model role config must be a mapping"⟩
  requireExactFields config ["capability"] ["independent_context", "model_role"] path
  let _ ← requireText (docGet config "capability") (path ++ ".capability")
    "capability must be a non-empty string"
  checkOptional config "independent_context" (fun value => do
    let _ ← requireBool value (path ++ ".independent_context")
      "independent_context must be a boolean")
  checkOptional config "model_role" (fun value => do
    let _ ← requireText value (path ++ ".model_role") "model_role must be a non-empty string")
  return entry.1

/-- `_validate_model_policy`, with the declared roles. -/
def validateModelPolicy (models : Document) : Except PolicyError (List String) := do
  let path := "config/model_routing.yaml"
  requireExactFields models ["schema_version", "policy_id", "roles", "escalate_when"] [] path
  requirePolicyId models path "model-routing-v1"
  let roles ← requirePolicyMapping (docGet models "roles") (path ++ ":roles")
  let roleIds ← roles.mapM (readModelRole path)
  let _ ← requireStringList (docGet models "escalate_when") (path ++ ":escalate_when")
  return roleIds

/-! ## Section 5: The routing features -/

/-- The features of one value of a task attribute. -/
def readFeatureMap (path : String) (allowedValues : List String) (entry : String × Json) :
    Except PolicyError (String × List String) := do
  let path := path ++ ".maps_to_features." ++ entry.1
  require (entry.1 ∈ allowedValues)
    ⟨"POLICY_UNKNOWN_ATTRIBUTE_VALUE", path, "unknown task attribute value"⟩
  let features ← requireKnownFeatureList entry.2 path
  return (entry.1, features)

/-- One task attribute. -/
def readAttributeVocabulary (path : String) (entry : String × Json) :
    Except PolicyError (String × AttributeVocabulary) := do
  let path := path ++ ":task_attributes." ++ entry.1
  let config ← expect entry.2.asDocument
    ⟨"POLICY_TYPE_ERROR", path, "task attribute config must be a mapping"⟩
  requireExactFields config ["allowed_values", "maps_to_features"] [] path
  let allowedValues ← requireStringList (docGet config "allowed_values") (path ++ ".allowed_values")
  let features ← expect (docGet config "maps_to_features").asDocument
    ⟨"POLICY_TYPE_ERROR", path ++ ".maps_to_features", "maps_to_features must be a mapping"⟩
  let features ← features.mapM (readFeatureMap path allowedValues)
  return (entry.1, ⟨allowedValues, features⟩)

/-- The features of one risk level. -/
def readRiskCondition (path : String) (entry : String × Json) :
    Except PolicyError (RiskLevel × List String) := do
  let path := path ++ ":risk_conditions." ++ entry.1
  let level ← expect (RiskLevel.ofName entry.1) ⟨"POLICY_UNKNOWN_ID", path, "unknown risk level"⟩
  let features ← requireKnownFeatureList entry.2 path
  return (level, features)

/-- A flag that may be missing. -/
def readFlag (doc : Document) (key path : String) (message : Text) : Except PolicyError Bool :=
  match doc.lookup key with
  | some value => requireBool value path message
  | none => .ok false

/-- A list of features that may be missing. -/
def readFeatures (doc : Document) (key path : String) : Except PolicyError (List String) :=
  match doc.lookup key with
  | some value => requireKnownFeatureList value path
  | none => .ok []

/-- The rule of one skill. -/
def readSkillRule (path : String) (entry : String × Json) :
    Except PolicyError (String × SkillRule) := do
  let path := path ++ ":skill_rule_features." ++ entry.1
  require (entry.1 ∈ policySkillIds) ⟨"POLICY_UNKNOWN_ID", path, "unknown policy skill id"⟩
  let rule ← expect entry.2.asDocument
    ⟨"POLICY_TYPE_ERROR", path, "skill rule must be a mapping"⟩
  requireExactFields rule [] ["always", "when_any"] path
  let always ← readFlag rule "always" (path ++ ".always") "always must be a boolean"
  let whenAny ← readFeatures rule "when_any" (path ++ ".when_any")
  return (entry.1, ⟨always, whenAny⟩)

/-- A selector: every risk level, or one. -/
def readSelector (word path : String) : Except PolicyError (Option RiskLevel) :=
  if word = "always" then .ok none
  else expect ((RiskLevel.ofName word).map some)
    ⟨"POLICY_UNKNOWN_ID", path, "unknown model role selector"⟩

/-- The role that one selector of an actor names. -/
def readModelSelector (path : String) (entry : String × Json) :
    Except PolicyError (Option RiskLevel × String) := do
  let path := path ++ "." ++ entry.1
  let selector ← readSelector entry.1 path
  let role ← expect (entry.2.asStr.filter (· ∈ policyModelRoleIds))
    ⟨"POLICY_UNKNOWN_ID", path, "unknown model role"⟩
  return (selector, role)

/-- The model roles of one actor. -/
def readModelRoleRule (path : String) (entry : String × Json) :
    Except PolicyError (String × ModelRoleRule) := do
  let path := path ++ ":model_role_rules." ++ entry.1
  require (entry.1 ∈ policyModelActors) ⟨"POLICY_UNKNOWN_ID", path, "unknown model actor"⟩
  let rule ← expect entry.2.asDocument
    ⟨"POLICY_TYPE_ERROR", path, "model role rule must be a mapping"⟩
  let selectors ← rule.mapM (readModelSelector path)
  return (entry.1, ⟨selectors.lookup none, selectors.filterMap (fun s => s.1.map (·, s.2))⟩)

/-- The canonical order of the set-like inputs. -/
def validateCanonicalOrder (value : Json) (path : String) : Except PolicyError Unit := do
  let path := path ++ ":canonical_order"
  let canonical ← requirePolicyMapping value path
  requireExactFields canonical ["set_like_inputs", "order_source"] [] path
  let inputs ← requireStringList (docGet canonical "set_like_inputs") (path ++ ".set_like_inputs")
  require (∀ name ∈ inputs, name ∈ ["risk_triggers", "human_triggers"])
    ⟨"POLICY_UNKNOWN_ID", path ++ ".set_like_inputs", "unknown canonical input field"⟩
  require (docGet canonical "order_source" = .str "policy_declaration_order")
    ⟨"POLICY_UNKNOWN_ID", path ++ ".order_source", "unknown canonical order source"⟩

/-- `_validate_routing_features_policy`. -/
def validateRoutingFeaturesPolicy (routing : Document) : Except PolicyError RoutingFeatures := do
  let path := "config/policy_routing_features.yaml"
  requireExactFields routing
    ["schema_version", "policy_id", "task_attributes", "risk_conditions", "skill_rule_features",
      "model_role_rules", "canonical_order"] [] path
  requirePolicyId routing path "policy-routing-features-v1"
  let attributes ← expect (docGet routing "task_attributes").asDocument
    ⟨"POLICY_TYPE_ERROR", path ++ ":task_attributes", "task attributes must be a mapping"⟩
  let attributes ← attributes.mapM (readAttributeVocabulary path)
  let conditions ← requirePolicyMapping (docGet routing "risk_conditions")
    (path ++ ":risk_conditions")
  let conditions ← conditions.mapM (readRiskCondition path)
  let rules ← requirePolicyMapping (docGet routing "skill_rule_features")
    (path ++ ":skill_rule_features")
  let rules ← rules.mapM (readSkillRule path)
  let roles ← requirePolicyMapping (docGet routing "model_role_rules") (path ++ ":model_role_rules")
  let roles ← roles.mapM (readModelRoleRule path)
  validateCanonicalOrder (docGet routing "canonical_order") path
  return ⟨attributes, conditions, rules, roles⟩

/-- `_validate_cross_file_references`: what the schemas have not settled. -/
def validateCrossFileReferences (skillIds roleIds : List String) (routing : RoutingFeatures) :
    Except PolicyError Unit := do
  let path := "config/policy_routing_features.yaml"
  forM routing.skillRuleFeatures (fun rule => require (rule.1 ∈ skillIds)
    ⟨"POLICY_UNKNOWN_ID", path ++ ":skill_rule_features." ++ rule.1,
      [.text "unknown skill rule ", .text rule.1]⟩)
  forM routing.modelRoleRules (fun rule =>
    forM (rule.2.always.toList ++ rule.2.byLevel.map Prod.snd) (fun role =>
      require (role ∈ roleIds)
        ⟨"POLICY_UNKNOWN_ID", path ++ ":model_role_rules." ++ rule.1,
          [.text "unknown model role ", .text role]⟩))

/-! ## Section 6: Project profiles -/

section Loading

variable [Platform]

/-- The error for the first issue of a project profile. -/
def profileContractError (logicalPath : String) (issue : ValidationIssue) : PolicyError :=
  let path := logicalPath ++ ":" ++ issue.path
  if "required_files".toList.isPrefixOf issue.path.toList then
    ⟨"POLICY_PROFILE_REQUIRED_FILE_INVALID", path,
      "profile required_files entry is unsafe or missing"⟩
  else ⟨"POLICY_TYPE_ERROR", path, issue.message⟩

omit [Platform] in
/-- One risk override of a profile. -/
def readRiskOverride (risk : LoadedRisk) (logicalPath : String) (entry : String × Json) :
    Except PolicyError (String × RiskLevel) := do
  let path := logicalPath ++ ":risk_overrides"
  require (entry.1 ≠ "")
    ⟨"POLICY_TYPE_ERROR", path, "risk_overrides keys must be non-empty strings"⟩
  let level ← expect (entry.2.asStr.bind RiskLevel.ofName)
    ⟨"POLICY_UNKNOWN_ID", path ++ "." ++ entry.1,
      "risk override must reference a declared risk level"⟩
  require (risk.profileMayLower = true ∨
      ∀ declared ∈ risk.policy.triggers.lookup entry.1, declared.rank ≤ level.rank)
    ⟨"POLICY_PROFILE_DOWNGRADE_FORBIDDEN", path ++ "." ++ entry.1,
      "project profile may not lower global risk level"⟩
  return (entry.1, level)

/-- `_validate_project_profile`. The contract has checked that the fields are there, each of its
type, and that there are no others. -/
def validateProjectProfile (risk : LoadedRisk) (logicalPath : String) (profile : Document) :
    Except PolicyError ProjectProfile := do
  policyContract (validateContract .projectProfile (Json.canonical (.obj profile)))
    (profileContractError logicalPath)
  forM ["critical_surfaces", "pilot_restrictions"] (fun field =>
    forM ((docGet profile field).asList.getD []).zipIdx (fun (item, index) => do
      let _ ← requireText item (itemPath (logicalPath ++ ":" ++ field) index)
        [.text field, .text " entries must be non-empty strings"]))
  let overrides ← ((docGet profile "risk_overrides").asDocument.getD []).mapM
    (readRiskOverride risk logicalPath)
  forM ((docGet profile "required_files").asDocument.getD []) (fun entry =>
    require (entry.2.asStr.any isSafeRelativePath = true)
      ⟨"POLICY_PROFILE_REQUIRED_FILE_INVALID", logicalPath ++ ":required_files." ++ entry.1,
        "profile required_files entry is unsafe or missing"⟩)
  return ⟨(docGet profile "project_name").asStr.getD "", logicalPath, overrides⟩

/-- What the reader of the files hands to the loader: the dictionary of each policy file or the
error of `_load_yaml_mapping`, and the names of the files of `project_profiles`, in order. -/
structure PolicyFiles where
  document : String → Except PolicyError Document
  profileNames : List String

/-- A profile with its file. -/
structure LoadedProfile where
  profile : ProjectProfile
  document : Document

omit [Platform] in
/-- An entry of `project_profiles` as the digest sees it. -/
def LoadedProfile.toJson (loaded : LoadedProfile) : Json :=
  .obj [("source_path", .str loaded.profile.sourcePath), ("profile", .obj loaded.document)]

/-- One turn of the loop of `_load_project_profiles`. -/
def loadProjectProfile (files : PolicyFiles) (risk : LoadedRisk)
    (registry : List (String × LoadedProfile)) (name : String) :
    Except PolicyError (List (String × LoadedProfile)) := do
  let logicalPath := "project_profiles/" ++ name
  let document ← files.document logicalPath
  let profile ← validateProjectProfile risk logicalPath document
  let profileId := (docGet document "profile_id").asStr.getD ""
  require ((registry.map Prod.fst).contains profileId = false)
    ⟨"POLICY_DUPLICATE_PROFILE_ID", logicalPath ++ ":profile_id", "duplicate profile_id detected"⟩
  return registry ++ [(profileId, ⟨profile, document⟩)]

/-- `_load_project_profiles`. -/
def loadProjectProfiles (files : PolicyFiles) (risk : LoadedRisk) :
    Except PolicyError (List (String × LoadedProfile)) :=
  files.profileNames.foldlM (loadProjectProfile files risk) []

/-! ## Section 7: The bundle -/

/-- The six policy files. -/
structure PolicyDocuments where
  workflow : Document
  risk : Document
  human : Document
  skills : Document
  models : Document
  routingFeatures : Document

omit [Platform] in
/-- `POLICY_FILES` with what was read, in order. -/
def PolicyDocuments.entries (policies : PolicyDocuments) : List (String × Document) :=
  [("config/workflow_policy.yaml", policies.workflow), ("config/risk_policy.yaml", policies.risk),
    ("config/human_decision_policy.yaml", policies.human),
    ("config/skill_routing.yaml", policies.skills),
    ("config/model_routing.yaml", policies.models),
    ("config/policy_routing_features.yaml", policies.routingFeatures)]

omit [Platform] in
/-- The reader is called for the policy files one after another. -/
def readPolicyDocuments (files : PolicyFiles) : Except PolicyError PolicyDocuments := do
  let workflow ← files.document "config/workflow_policy.yaml"
  let risk ← files.document "config/risk_policy.yaml"
  let human ← files.document "config/human_decision_policy.yaml"
  let skills ← files.document "config/skill_routing.yaml"
  let models ← files.document "config/model_routing.yaml"
  let routingFeatures ← files.document "config/policy_routing_features.yaml"
  return ⟨workflow, risk, human, skills, models, routingFeatures⟩

/-- What the schemas give of the six files. -/
structure PolicySchemas where
  workflow : WorkflowPolicy
  risk : LoadedRisk
  humanTriggers : List String
  skillIds : List String
  roleIds : List String
  routingFeatures : RoutingFeatures

/-- `_validate_policy_schemas`. -/
def validatePolicySchemas (policies : PolicyDocuments) : Except PolicyError PolicySchemas := do
  forM policies.entries (fun entry =>
    require (Json.pyEq (docGet entry.2 "schema_version") (.int 1) = true)
      ⟨"POLICY_UNSUPPORTED_VERSION", entry.1 ++ ":schema_version",
        "unsupported policy schema version"⟩)
  let declared ← declares ((policies.risk.lookup "levels").getD (.obj []))
    (docGet policies.risk "default_level")
  require (declared = true) ⟨"POLICY_UNKNOWN_ID", "config/risk_policy.yaml:default_level",
    "default risk level is undeclared"⟩
  require (docGet policies.risk "unknown_trigger_behavior" = .str "fail_closed")
    ⟨"POLICY_CONFLICT", "config/risk_policy.yaml:unknown_trigger_behavior",
      "unknown trigger behavior must be fail_closed"⟩
  let workflow ← validateWorkflowPolicy policies.workflow
  let risk ← validateRiskPolicy policies.risk
  let humanTriggers ← validateHumanPolicy policies.human
  let skillIds ← validateSkillPolicy policies.skills
  let roleIds ← validateModelPolicy policies.models
  let routingFeatures ← validateRoutingFeaturesPolicy policies.routingFeatures
  return ⟨workflow, risk, humanTriggers, skillIds, roleIds, routingFeatures⟩

/-- `_policy_bundle_digest`. -/
def policyBundleDigest (policies : PolicyDocuments) (profiles : List (String × LoadedProfile)) :
    String :=
  canonicalSha (Json.canonical (.obj
    [("policy_files", .obj (policies.entries.map (fun entry => (entry.1, .obj entry.2)))),
      ("project_profiles", .obj (profiles.map (fun entry => (entry.1, entry.2.toJson))))]))

/-- `load_policy_bundle`. -/
def loadPolicyBundle (files : PolicyFiles) : Except PolicyError PolicyBundle := do
  let policies ← readPolicyDocuments files
  let schemas ← validatePolicySchemas policies
  let profiles ← loadProjectProfiles files schemas.risk
  validateCrossFileReferences schemas.skillIds schemas.roleIds schemas.routingFeatures
  return {
    digest := policyBundleDigest policies profiles
    taskStates := schemas.workflow.taskStates
    transitions := schemas.workflow.transitions
    risk := schemas.risk.policy
    humanTriggers := schemas.humanTriggers
    routingFeatures := schemas.routingFeatures
    projectProfiles := profiles.map (fun entry => (entry.1, entry.2.profile)) }

end Loading

/-! ## Section 8: Accepted bundles -/

/-- What the loader has checked of a bundle, as far as an evaluation depends on it. -/
structure PolicyBundle.Accepted (B : PolicyBundle) : Prop where
  targets : ∀ s, (B.targets s).Nodup
  levels : ∀ level, ∃ gates, B.risk.levels.lookup level = some gates ∧ gates.Nodup ∧
    ∀ gate ∈ gates, gate ∈ policyGateIds
  humanTriggers : ∀ trigger ∈ B.humanTriggers, trigger ∈ humanDecisionTriggers
  skills : ∀ rule ∈ B.routingFeatures.skillRuleFeatures, rule.1 ∈ policySkillIds
  actors : ∀ rule ∈ B.routingFeatures.modelRoleRules, rule.1 ∈ policyModelActors
  alwaysRoles : ∀ rule ∈ B.routingFeatures.modelRoleRules, ∀ role, rule.2.always = some role →
    role ∈ policyModelRoleIds
  levelRoles : ∀ rule ∈ B.routingFeatures.modelRoleRules, ∀ entry ∈ rule.2.byLevel,
    entry.2 ∈ policyModelRoleIds
  profiles : ∀ entry ∈ B.projectProfiles, ∃ name, entry.2.sourcePath = "project_profiles/" ++ name

/-- A value that is looked up stands in the list. -/
theorem mem_of_lookup_eq_some {α β : Type} [BEq α] [LawfulBEq α] {key : α} {value : β} :
    ∀ {l : List (α × β)}, l.lookup key = some value → (key, value) ∈ l
  | [], h => by simp at h
  | (k, v) :: l, h => by
      rw [List.lookup_cons] at h
      split at h
      next heq =>
        rw [beq_iff_eq.mp heq, Option.some.inj h]
        exact List.mem_cons_self
      next => exact List.mem_cons_of_mem _ (mem_of_lookup_eq_some h)

/-- A key that stands in the list is looked up with success. -/
theorem exists_lookup_of_mem {α β : Type} [BEq α] [LawfulBEq α] {key : α} :
    ∀ {l : List (α × β)}, key ∈ l.map Prod.fst → ∃ value, l.lookup key = some value
  | [], h => by simp at h
  | (k, v) :: l, h => by
      rw [List.lookup_cons]
      split
      · exact ⟨v, rfl⟩
      next hne =>
        rcases List.mem_cons.mp h with heq | hmem
        · simp only [heq, beq_self_eq_true] at hne
          cases hne
        · exact exists_lookup_of_mem hmem

theorem RiskLevel.ofName_eq_some_iff {word : String} {level : RiskLevel} :
    RiskLevel.ofName word = some level ↔ word = level.name := by
  constructor
  · intro h
    have hname := List.find?_some h
    exact (of_decide_eq_true hname).symm
  · rintro rfl
    cases level <;> decide

theorem readStates_eq_ok {words : List String} {known : TaskState → Bool} {path : String}
    {message : Text} {states : List TaskState}
    (h : readStates words known path message = .ok states) : words = states.map TaskState.name := by
  simp only [readStates, mapM_eq_ok_iff, expect_eq_ok, Option.filter_eq_some_iff,
    TaskState.ofName_eq_some_iff] at h
  rw [forall₂_zipIdx_iff (fun word (state : TaskState) => word = state.name ∧ known state = true)] at h
  rw [← List.forall₂_eq_eq_eq, List.forall₂_map_right_iff]
  exact h.imp (fun _ _ hword => hword.1)

theorem readTransitionRow_eq_ok {states : List TaskState} {path : String} {row : String × Json}
    {result : TaskState × List TaskState} (h : readTransitionRow states path row = .ok result) :
    result.2.Nodup := by
  simp only [readTransitionRow, bind_eq_ok, expect_eq_ok, requireStringList_eq_ok_iff,
    pure_eq_ok] at h
  obtain ⟨_, _, words, ⟨_, hnodup, _⟩, targets, htargets, rfl⟩ := h
  rw [readStates_eq_ok htargets] at hnodup
  exact hnodup.of_map _

theorem validateWorkflowPolicy_eq_ok {workflow : Document} {policy : WorkflowPolicy}
    (h : validateWorkflowPolicy workflow = .ok policy) :
    ∀ row ∈ policy.transitions, row.2.Nodup := by
  simp only [validateWorkflowPolicy, bind_eq_ok, pure_eq_ok] at h
  obtain ⟨_, _, _, _, _, _, _, _, _, _, _, _, rows, hrows, _, _, rfl⟩ := h
  intro row hrow
  obtain ⟨_, _, hread⟩ := exists_of_mem_mapM hrows hrow
  exact readTransitionRow_eq_ok hread

theorem readRiskLevel_eq_ok {path : String} {entry : String × Json}
    {result : RiskLevel × List String} (h : readRiskLevel path entry = .ok result) :
    entry.1 = result.1.name ∧ result.2.Nodup ∧ ∀ gate ∈ result.2, gate ∈ policyGateIds := by
  simp only [readRiskLevel, bind_eq_ok, expect_eq_ok, requireStringList_eq_ok_iff,
    requireKnown_eq_ok_iff, RiskLevel.ofName_eq_some_iff, pure_eq_ok] at h
  obtain ⟨level, hlevel, _, _, _, _, _, _, gates, ⟨_, hnodup, _⟩, _, _, _, hknown, rfl⟩ := h
  exact ⟨hlevel, hnodup, hknown⟩

theorem validateRiskPolicy_eq_ok {risk : Document} {loaded : LoadedRisk}
    (h : validateRiskPolicy risk = .ok loaded) (level : RiskLevel) :
    ∃ gates, loaded.policy.levels.lookup level = some gates ∧ gates.Nodup ∧
      ∀ gate ∈ gates, gate ∈ policyGateIds := by
  simp only [validateRiskPolicy, bind_eq_ok, requireSameKeys_eq_ok_iff, pure_eq_ok] at h
  obtain ⟨_, _, _, _, document, _, _, hkeys, levels, hlevels, _, _, _, _, _, _, _, _, _, _, _, _,
    rfl⟩ := h
  have hmem : level ∈ levels.map Prod.fst := by
    have hname : level.name ∈ document.map Prod.fst :=
      hkeys.1 _ (by cases level <;> decide)
    obtain ⟨entry, hentry, hkey⟩ := List.mem_map.mp hname
    obtain ⟨result, hresult, hread⟩ :=
      exists_of_mem_forall₂ (List.Forall₂.flip (mapM_eq_ok_iff.mp hlevels)) hentry
    have hsame := (readRiskLevel_eq_ok hread).1
    rw [hkey] at hsame
    have heq : level = result.1 := by
      revert hsame
      cases level <;> cases result.1 <;> decide
    exact heq ▸ List.mem_map_of_mem hresult
  obtain ⟨gates, hgates⟩ := exists_lookup_of_mem hmem
  obtain ⟨_, _, hread⟩ := exists_of_mem_mapM hlevels (mem_of_lookup_eq_some hgates)
  exact ⟨gates, hgates, (readRiskLevel_eq_ok hread).2⟩

theorem validateHumanPolicy_eq_ok {human : Document} {triggers : List String}
    (h : validateHumanPolicy human = .ok triggers) :
    ∀ trigger ∈ triggers, trigger ∈ humanDecisionTriggers := by
  simp only [validateHumanPolicy, bind_eq_ok, pure_eq_ok] at h
  obtain ⟨_, _, _, _, _, _, document, _, names, hnames, _, _, rfl⟩ := h
  intro trigger htrigger
  obtain ⟨_, _, hread⟩ := exists_of_mem_mapM hnames htrigger
  simp only [readHumanTrigger, bind_eq_ok, require_eq_ok, pure_eq_ok] at hread
  obtain ⟨_, hknown, _, _, _, _, _, _, rfl⟩ := hread
  exact hknown

theorem readSkillRule_eq_ok {path : String} {entry : String × Json} {rule : String × SkillRule}
    (h : readSkillRule path entry = .ok rule) : rule.1 ∈ policySkillIds := by
  simp only [readSkillRule, bind_eq_ok, require_eq_ok, pure_eq_ok] at h
  obtain ⟨_, hknown, _, _, _, _, _, _, _, _, rfl⟩ := h
  exact hknown

theorem readModelRoleRule_eq_ok {path : String} {entry : String × Json}
    {rule : String × ModelRoleRule} (h : readModelRoleRule path entry = .ok rule) :
    rule.1 ∈ policyModelActors ∧
      (∀ role, rule.2.always = some role → role ∈ policyModelRoleIds) ∧
      ∀ e ∈ rule.2.byLevel, e.2 ∈ policyModelRoleIds := by
  simp only [readModelRoleRule, bind_eq_ok, require_eq_ok, expect_eq_ok, pure_eq_ok] at h
  obtain ⟨_, hactor, _, _, selectors, hselectors, rfl⟩ := h
  have hrole : ∀ selector ∈ selectors, selector.2 ∈ policyModelRoleIds := by
    intro selector hselector
    obtain ⟨_, _, hread⟩ := exists_of_mem_mapM hselectors hselector
    simp only [readModelSelector, bind_eq_ok, expect_eq_ok, Option.filter_eq_some_iff,
      decide_eq_true_eq, pure_eq_ok] at hread
    obtain ⟨_, _, _, ⟨_, hknown⟩, rfl⟩ := hread
    exact hknown
  refine ⟨hactor, fun role hrole' => hrole _ (mem_of_lookup_eq_some hrole'), ?_⟩
  intro e he
  obtain ⟨selector, hselector, hsome⟩ := List.mem_filterMap.mp he
  obtain ⟨_, _, rfl⟩ := Option.map_eq_some_iff.mp hsome
  exact hrole selector hselector

section Loaded

variable [Platform]

omit [Platform] in
/-- The profiles that are loaded lie under `project_profiles`. -/
theorem loadProjectProfiles_eq_ok {files : PolicyFiles} {risk : LoadedRisk}
    {profiles : List (String × LoadedProfile)} (h : loadProjectProfiles files risk = .ok profiles) :
    ∀ entry ∈ profiles, ∃ name, entry.2.profile.sourcePath = "project_profiles/" ++ name := by
  have hfrom : ∀ (names : List String) (registry : List (String × LoadedProfile)),
      (∀ entry ∈ registry, ∃ name, entry.2.profile.sourcePath = "project_profiles/" ++ name) →
      names.foldlM (loadProjectProfile files risk) registry = .ok profiles →
      ∀ entry ∈ profiles, ∃ name, entry.2.profile.sourcePath = "project_profiles/" ++ name := by
    intro names
    induction names with
    | nil =>
        intro registry hregistry hfold
        rw [List.foldlM_nil, pure_eq_ok] at hfold
        exact hfold ▸ hregistry
    | cons name names ih =>
        intro registry hregistry hfold
        rw [List.foldlM_cons, bind_eq_ok] at hfold
        obtain ⟨next, hnext, hrest⟩ := hfold
        refine ih next ?_ hrest
        simp only [loadProjectProfile, validateProjectProfile, bind_eq_ok, pure_eq_ok] at hnext
        obtain ⟨_, _, _, ⟨_, _, _, _, _, _, _, _, rfl⟩, _, _, rfl⟩ := hnext
        intro entry hentry
        rcases List.mem_append.mp hentry with hold | hnew
        · exact hregistry entry hold
        · obtain rfl := List.mem_singleton.mp hnew
          exact ⟨name, rfl⟩
  exact hfrom files.profileNames [] (by simp) h

/-- **A loaded bundle is an accepted one.** -/
theorem loadPolicyBundle_accepted {files : PolicyFiles} {B : PolicyBundle}
    (h : loadPolicyBundle files = .ok B) : B.Accepted := by
  simp only [loadPolicyBundle, bind_eq_ok, pure_eq_ok] at h
  obtain ⟨policies, _, schemas, hschemas, profiles, hprofiles, _, _, rfl⟩ := h
  simp only [validatePolicySchemas, bind_eq_ok, pure_eq_ok] at hschemas
  obtain ⟨_, _, _, _, _, _, _, _, workflow, hworkflow, risk, hrisk, human, hhuman, _, _, _, _,
    routing, hrouting, rfl⟩ := hschemas
  simp only [validateRoutingFeaturesPolicy, bind_eq_ok, pure_eq_ok] at hrouting
  obtain ⟨_, _, _, _, _, _, _, _, _, _, _, _, _, _, rules, hrules, _, _, roles, hroles, _, _, rfl⟩ :=
    hrouting
  have hrole : ∀ rule ∈ roles, rule.1 ∈ policyModelActors ∧
      (∀ role, rule.2.always = some role → role ∈ policyModelRoleIds) ∧
      ∀ e ∈ rule.2.byLevel, e.2 ∈ policyModelRoleIds := by
    intro rule hrule
    obtain ⟨_, _, hread⟩ := exists_of_mem_mapM hroles hrule
    exact readModelRoleRule_eq_ok hread
  refine ⟨?_, validateRiskPolicy_eq_ok hrisk, validateHumanPolicy_eq_ok hhuman, ?_,
    fun rule hrule => (hrole rule hrule).1, fun rule hrule => (hrole rule hrule).2.1,
    fun rule hrule => (hrole rule hrule).2.2, ?_⟩
  · intro s
    unfold PolicyBundle.targets
    dsimp only
    cases hrow : workflow.transitions.lookup s with
    | none => exact List.nodup_nil
    | some targets =>
        exact validateWorkflowPolicy_eq_ok hworkflow _ (mem_of_lookup_eq_some hrow)
  · intro rule hrule
    obtain ⟨_, _, hread⟩ := exists_of_mem_mapM hrules hrule
    exact readSkillRule_eq_ok hread
  · intro entry hentry
    obtain ⟨loaded, hloaded, rfl⟩ := List.mem_map.mp hentry
    exact loadProjectProfiles_eq_ok hprofiles loaded hloaded

/-- The digest of a loaded bundle is a digest. -/
theorem loadPolicyBundle_digest (hhex : ∀ value, isSha256 (canonicalSha value) = true)
    {files : PolicyFiles} {B : PolicyBundle} (h : loadPolicyBundle files = .ok B) :
    isSha256 B.digest = true := by
  simp only [loadPolicyBundle, bind_eq_ok, pure_eq_ok] at h
  obtain ⟨_, _, _, _, _, _, _, _, rfl⟩ := h
  exact hhex _

end Loaded

/-! ## Section 10: The smallest policy files -/

/-- A platform with one digest for everything. -/
@[reducible] def smallestPlatform : Platform where
  canonicalSha := fun _ => unarySha 0
  taskToken := fun _ => "0000000000000000"
  fileSha := fun _ => unarySha 0
  casefold := id
  repr := fun _ => ""
  floatEq := fun _ _ => false

/-- A policy file with its version and its id. -/
def policyDocument (policyId : String) (fields : Document) : Document :=
  ("schema_version", .int 1) :: ("policy_id", .str policyId) :: fields

/-- A risk level with one gate. -/
def smallestLevel (level gate : String) : String × Json :=
  (level, .obj [("description", .str level), ("required_gates", Json.strs [gate])])

/-- The risk policy that starts at R0 and has the given triggers. -/
def smallestRiskPolicy (riskTriggers : List (String × RiskLevel)) : Document :=
  policyDocument "global-risk-v1"
    [("default_level", .str "R0"), ("unknown_trigger_behavior", .str "fail_closed"),
      ("levels", .obj [smallestLevel "R0" "focused_check", smallestLevel "R1" "spec",
        smallestLevel "R2" "plan", smallestLevel "R3" "human_approval"]),
      ("triggers", .obj (riskTriggers.map (fun t => (t.1, .str t.2.name)))),
      ("highest_applicable_level_wins", .bool true),
      ("project_profile_may_lower_risk", .bool false)]

/-- The human decision policy with the given triggers. -/
def smallestHumanPolicy (humanTriggers : List String) : Document :=
  policyDocument "human-decision-v1"
    [("default_without_response", .str "PAUSE"),
      ("triggers", .obj (humanTriggers.map (fun t => (t, .obj [("examples", .arr [])])))),
      ("do_not_escalate", .arr [])]

/-- The smallest policy files with the given triggers: one state that leads nowhere, and neither
skills nor model roles nor project profiles. -/
def smallestFiles (riskTriggers : List (String × RiskLevel)) (humanTriggers : List String) :
    PolicyFiles where
  document := fun path => .ok
    (if path = "config/workflow_policy.yaml" then
      policyDocument "global-workflow-v1"
        [("task_states", Json.strs ["DRAFT"]), ("transitions", .obj [("DRAFT", .arr [])]),
          ("mandatory_rules", .arr [])]
    else if path = "config/risk_policy.yaml" then smallestRiskPolicy riskTriggers
    else if path = "config/human_decision_policy.yaml" then smallestHumanPolicy humanTriggers
    else if path = "config/skill_routing.yaml" then
      policyDocument "skill-routing-v1"
        [("primary_discovery", .obj [("exclusive", .bool true), ("routes", .obj [])]),
          ("skills", .obj []), ("exception_requires_record", .bool true)]
    else if path = "config/model_routing.yaml" then
      policyDocument "model-routing-v1" [("roles", .obj []), ("escalate_when", .arr [])]
    else
      policyDocument "policy-routing-features-v1"
        [("task_attributes", .obj []), ("risk_conditions", .obj []),
          ("skill_rule_features", .obj []), ("model_role_rules", .obj []),
          ("canonical_order", .obj [("set_like_inputs", .arr []),
            ("order_source", .str "policy_declaration_order")])])
  profileNames := []

/-- An input for these files. -/
def smallestInput (riskTriggers humanTriggers : List String) : EvaluationInput :=
  ⟨.draft, riskTriggers, humanTriggers, ⟨[], Mapping.sorted_nil⟩, none⟩

end Acgps
