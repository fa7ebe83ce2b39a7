import Acgps.Lib.Checked
import Acgps.Contracts.Spec

/-!
# The record contracts

The tables of the contracts that the workflow engine checks, the conditions that tie the fields of
one record together, and the check itself.

## Main Definitions

* `Contract` - the contracts the engine names; each has one version
* `Contract.table` - the field table of a contract
* `validateContract` - `validate_contract` in runtime mode

## Key Theorems

* `validateContract_eq_ok_iff` - when a record is accepted
* `get_of_validateContract` - every field of an accepted record is what its table says
-/

namespace Acgps

open Checked

/-! ## Section 1: Tables -/

/-- The contracts that the engine, the decision queue, the handoff previews and the policy loader
check. -/
inductive Contract where
  | projectProfile
  | taskIntake
  | policyEvaluationInput
  | policyEvaluationResult
  | humanDecisionRequest
  | humanDecisionResolution
  | agentTaskContract
  | agentResult
  | reviewFinding
  | verificationRecord
  | releaseCandidateManifest
  deriving DecidableEq

/-- The name of a contract. -/
def Contract.name : Contract → String
  | projectProfile => "project_profile"
  | taskIntake => "task_intake"
  | policyEvaluationInput => "policy_evaluation_input"
  | policyEvaluationResult => "policy_evaluation_result"
  | humanDecisionRequest => "human_decision_request"
  | humanDecisionResolution => "human_decision_resolution"
  | agentTaskContract => "agent_task_contract"
  | agentResult => "agent_result"
  | reviewFinding => "review_finding"
  | verificationRecord => "verification_record"
  | releaseCandidateManifest => "release_candidate_manifest"

/-- `HUMAN_DECISION_OPTION_FIELDS`. -/
def humanDecisionOptionFields : List (String × FieldSpec) :=
  [("id", .ofType .str), ("description", .ofType .str), ("benefits", .strings),
    ("costs", .strings), ("risks", .strings), ("reversible", .ofType .bool)]

/-- `SOURCE_ARTIFACT_FIELDS`. -/
def sourceArtifactFields : List (String × FieldSpec) :=
  [("path", .ofType .str), ("sha256", .ofType .str)]

/-- `POLICY_EVALUATION_INPUT_FIELDS`. -/
def policyEvaluationInputFields : List (String × FieldSpec) :=
  [("current_state", .word taskStates), ("risk_triggers", .strings), ("human_triggers", .strings),
    ("task_attributes", .stringMap), ("project_profile_id", .nullable .str)]

/-- `POLICY_EVALUATION_ISSUE_FIELDS`. -/
def policyEvaluationIssueFields : List (String × FieldSpec) :=
  [("code", .ofType .str), ("path", .ofType .str), ("message", .ofType .str)]

/-- `POLICY_EVALUATION_RESULT_FIELDS`. -/
def policyEvaluationResultFields : List (String × FieldSpec) :=
  [("decision_emitted", .ofType .bool), ("risk_level", .word riskLevels),
    ("human_gate", .ofType .bool), ("required_human_triggers", .strings),
    ("required_skills", .strings), ("model_roles", .stringMap), ("mandatory_gates", .strings),
    ("legal_transitions", .strings), ("authorized_transitions", .strings),
    ("provenance", .strings), ("fail_closed", .ofType .bool), ("error_code", .nullable .str),
    ("issues", .items policyEvaluationIssueFields)]

/-- `VERIFICATION_CHECK_FIELDS`. -/
def verificationCheckFields : List (String × FieldSpec) :=
  [("name", .ofType .str), ("command", .ofType .str), ("exit_code", .ofType .int),
    ("result_summary", .ofType .str), ("output_path", .ofType .str)]

/-- The rows of a contract's field table. -/
def Contract.rows : Contract → List (String × FieldSpec)
  | projectProfile =>
      [("schema_version", .ofType .int), ("profile_id", .ofType .str),
        ("project_name", .ofType .str), ("project_type", .ofType .str),
        ("required_files", .stringMap), ("critical_surfaces", .strings),
        ("risk_overrides", .stringMap), ("pilot_restrictions", .strings),
        ("commands", .stringMap)]
  | taskIntake =>
      [("schema_version", .ofType .int), ("task_id", .ofType .str), ("project_id", .ofType .str),
        ("title", .ofType .str), ("requested_outcome", .ofType .str),
        ("business_context", .ofType .str), ("in_scope", .strings), ("out_of_scope", .strings),
        ("acceptance_criteria", .strings), ("known_constraints", .strings),
        ("known_risks", .strings), ("affected_surfaces", .strings), ("source_paths", .strings),
        ("requested_by", .ofType .str), ("created_at_utc", .ofType .str)]
  | policyEvaluationInput =>
      [("schema_version", .ofType .int), ("evaluation_id", .ofType .str),
        ("project_id", .ofType .str), ("task_id", .ofType .str),
        ("input", .nested policyEvaluationInputFields), ("created_at_utc", .ofType .str)]
  | policyEvaluationResult =>
      [("schema_version", .ofType .int), ("evaluation_id", .ofType .str),
        ("project_id", .ofType .str), ("task_id", .ofType .str),
        ("policy_bundle_digest", .nullable .str), ("result", .nested policyEvaluationResultFields),
        ("created_at_utc", .ofType .str)]
  | humanDecisionRequest =>
      [("schema_version", .ofType .int), ("decision_id", .ofType .str),
        ("project_id", .ofType .str), ("task_id", .ofType .str), ("stage", .word taskStates),
        ("risk_level", .word riskLevels), ("trigger", .word humanDecisionTriggers),
        ("question", .ofType .str), ("recommended_option", .ofType .str),
        ("recommendation_rationale", .ofType .str), ("options", .items humanDecisionOptionFields),
        ("default_without_response", .word ["PAUSE"]), ("evidence_paths", .strings),
        ("created_at_utc", .ofType .str), ("status", .word ["PENDING", "RESOLVED", "CANCELLED"])]
  | humanDecisionResolution =>
      [("schema_version", .ofType .int), ("decision_id", .ofType .str),
        ("project_id", .ofType .str), ("task_id", .ofType .str), ("selected_option", .ofType .str),
        ("resolved_by", .ofType .str), ("resolved_at_utc", .ofType .str),
        ("rationale", .ofType .str), ("evidence_paths", .strings),
        ("resume_state", .word taskStates), ("status", .word ["RESOLVED"])]
  | agentTaskContract =>
      [("schema_version", .ofType .int), ("packet_id", .ofType .str), ("role", .word roles),
        ("project_id", .ofType .str), ("task_id", .ofType .str), ("objective", .ofType .str),
        ("binding_constraints", .strings), ("non_goals", .strings), ("relevant_paths", .strings),
        ("interfaces_consumed", .strings), ("interfaces_produced", .strings),
        ("acceptance_criteria", .strings), ("required_skills", .strings),
        ("required_evidence", .strings), ("prohibited_actions", .strings),
        ("return_schema", .ofType .str)]
  | agentResult =>
      [("schema_version", .ofType .int), ("packet_id", .ofType .str), ("role", .word roles),
        ("status", .word ["DONE", "DONE_WITH_CONCERNS", "NEEDS_CONTEXT", "BLOCKED", "FAILED"]),
        ("summary", .ofType .str), ("changed_files", .strings), ("created_files", .strings),
        ("commands_run", .strings), ("evidence_paths", .strings), ("assumptions", .strings),
        ("concerns", .strings), ("blocker", .nullable .str),
        ("recommended_next_state", .word taskStates)]
  | reviewFinding =>
      [("schema_version", .ofType .int), ("finding_id", .ofType .str), ("review_id", .ofType .str),
        ("severity", .word ["P0", "P1", "P2", "P3"]), ("category", .ofType .str),
        ("summary", .ofType .str), ("evidence_paths", .strings), ("impact", .ofType .str),
        ("recommendation", .ofType .str),
        ("disposition", .word ["UNTRIAGED", "ACCEPTED", "PARTIAL", "DEFERRED", "ALREADY_FIXED",
          "NOT_REPRODUCIBLE", "REJECTED", "DUPLICATE", "STALE"]),
        ("status", .word ["OPEN", "IN_PROGRESS", "VERIFIED", "CLOSED"]),
        ("rationale", .nullable .str), ("verification_required", .strings)]
  | verificationRecord =>
      [("schema_version", .ofType .int), ("verification_id", .ofType .str),
        ("project_id", .ofType .str), ("task_id", .ofType .str), ("baseline_hash", .ofType .str),
        ("checks", .items verificationCheckFields), ("requirements_checked", .strings),
        ("failed_requirements", .strings), ("verified_at_utc", .ofType .str),
        ("verifier_role", .word ["VERIFIER"]),
        ("recommendation", .word ["VERIFIED", "FIX_REQUIRED", "BLOCKED"])]
  | releaseCandidateManifest =>
      [("schema_version", .ofType .int), ("rc_id", .ofType .str), ("project_id", .ofType .str),
        ("version", .ofType .str), ("created_at_utc", .ofType .str),
        ("source_artifact", .nested sourceArtifactFields),
        ("build_artifacts", .items sourceArtifactFields), ("verification_records", .strings),
        ("review_closures", .strings), ("known_limitations", .strings),
        ("residual_risks", .strings), ("rollback_plan_path", .ofType .str),
        ("human_release_authorization", .nullable .str),
        ("status", .word ["RC_READY", "BLOCKED", "CLOSED"])]

/-- The field table of a contract. -/
def Contract.table (c : Contract) : FieldTable := .ofList c.rows

/-! ## Section 2: Conditions across the fields of one record -/

/-- The falsy values of a field that the checks test with `not`. -/
def Json.isFalsy : Json → Bool
  | .null => true
  | .bool b => !b
  | .int n => n = 0
  | .float repr => repr.val = "0.0" || repr.val = "-0.0"
  | .str s => s = ""
  | .arr items => items = []
  | .obj members => members = []

/-- `value == 0`. -/
def Json.isZero : Json → Bool
  | .int n => n = 0
  | .bool b => !b
  | .float repr => repr.val = "0.0" || repr.val = "-0.0"
  | _ => false

/-- `value in ({}, [])`. -/
def Json.isEmptyCollection (value : Json) : Bool := value = .obj [] || value = .arr []

/-- A list or a dictionary: it cannot be put into a set or looked up in one. -/
def Json.isUnhashable : Json → Bool
  | .arr _ | .obj _ => true
  | _ => false

/-- `value in (None, "")`. -/
def Json.isNoneOrEmpty (value : Json) : Bool := value = .null || value = .str ""

/-- `not isinstance(value, list) or not value`, negated. -/
def Json.isNonEmptyList (value : Json) : Bool :=
  match value with
  | .arr items => items ≠ []
  | _ => false

/-- `_validate_human_decision_request`. -/
def validateHumanDecisionRequest (data : Mapping) : List ValidationIssue :=
  match (data.get "options").asList with
  | none => []
  | some [] => [⟨"options", "expected at least 1 item"⟩]
  | some options =>
      match (data.get "recommended_option").asStr with
      | none => []
      | some recommended =>
          let ids := options.filterMap (fun item => (item.asMapping.map (·.get "id")).bind Json.asStr)
          issueUnless (ids.Nodup) "options" "duplicate option id"
            ++ issueUnless (ids.contains recommended) "recommended_option"
              [.text "expected one of option ids ",
                .reprTuple ((ids.dedup.mergeSort (· ≤ ·)).map Json.str), .text ", got ",
                .repr (.str recommended)]

/-- `_validate_verification_record`. -/
def validateVerificationRecord (data : Mapping) : List ValidationIssue :=
  if data.get "recommendation" ≠ .str "VERIFIED" then []
  else
    issueUnless (data.get "checks").isNonEmptyList "checks"
        "required when recommendation is VERIFIED"
      ++ issueUnless (data.get "requirements_checked").isNonEmptyList "requirements_checked"
        "required when recommendation is VERIFIED"
      ++ (enumeratePaths "checks" ((data.get "checks").asList.getD [])).flatMap (fun entry =>
        match entry.2.asMapping with
        | some check =>
            issueUnless (check.get "exit_code").isZero (joinPath entry.1 "exit_code")
              "must be 0 when recommendation is VERIFIED"
        | none => [])
      ++ issueUnless (data.get "failed_requirements").isFalsy "failed_requirements"
        "must be empty when recommendation is VERIFIED"

/-- `_validate_agent_result`. -/
def validateAgentResult (data : Mapping) : List ValidationIssue :=
  let status := data.get "status"
  let blocker := data.get "blocker"
  issueUnless (!(status = .str "DONE" && !blocker.isNoneOrEmpty)) "blocker"
      "must be empty when status is DONE"
    ++ issueUnless (!(status = .str "BLOCKED" && blocker.isNoneOrEmpty)) "blocker"
      "required when status is BLOCKED"

/-- `_validate_review_finding`. -/
def validateReviewFinding (data : Mapping) : List ValidationIssue :=
  let status := data.get "status"
  let settled := status = .str "VERIFIED" || status = .str "CLOSED"
  issueUnless (!(status = .str "CLOSED" && data.get "disposition" = .str "UNTRIAGED")) "disposition"
      "must not be UNTRIAGED when status is CLOSED"
    ++ issueUnless (!(settled && (data.get "evidence_paths").isFalsy)) "evidence_paths"
      "required when status is VERIFIED or CLOSED"
    ++ issueUnless (!(settled && (data.get "verification_required").isFalsy))
      "verification_required" "required when status is VERIFIED or CLOSED"

/-- `_validate_release_candidate_manifest`. -/
def validateReleaseCandidateManifestFields (data : Mapping) : List ValidationIssue :=
  if data.get "status" ≠ .str "RC_READY" then []
  else ["verification_records", "review_closures"].flatMap (fun fieldName =>
    issueUnless (data.get fieldName).isNonEmptyList fieldName "required when status is RC_READY")

/-! ## Section 3: The policy evaluation result -/

/-- Whether each element of a list already stands before it. -/
def repeatedBefore {α : Type} [DecidableEq α] : List α → List α → List (α × Bool)
  | _, [] => []
  | seen, a :: rest => (a, seen.contains a) :: repeatedBefore (a :: seen) rest

/-- `_validate_policy_result_list_vocab`. -/
def validatePolicyResultListVocab (result : Mapping) (fieldName : String)
    (vocabulary : List String) (enforceOrder : Bool) : List ValidationIssue :=
  match (result.get fieldName).asList with
  | none => []
  | some values =>
      let path := "result." ++ fieldName
      let words := values.filterMap Json.asStr
      ((repeatedBefore [] values).zipIdx).flatMap (fun ((value, repeated), index) =>
        match value.asStr with
        | none => []
        | some word =>
            issueUnless (!repeated) (itemPath path index)
                "must not duplicate another set-like output value"
              ++ issueUnless (vocabulary.contains word) (itemPath path index)
                "must reference a declared policy vocabulary item")
        ++ issueUnless
          (!enforceOrder || values = (vocabulary.filter (words.contains ·)).map Json.str) path
          "must use canonical declaration order"

/-- `PROVENANCE_RE.match`; the `$` lets one newline follow. -/
def isProvenance (s : String) : Bool :=
  let source := s.toList.takeWhile (· ≠ ':')
  let field := s.toList.drop (source.length + 1)
  let field := if field.getLast? = some '\n' then field.dropLast else field
  let sourceChar := fun c : Char => c.isAlphanum || "_./-".toList.contains c
  let fieldChar := fun c : Char => c.isAlphanum || "_.[]-".toList.contains c
  source.length < s.toList.length && source.all sourceChar
    && ((".yaml".toList.isSuffixOf source && 5 < source.length)
      || (".yml".toList.isSuffixOf source && 4 < source.length))
    && field ≠ [] && field.all fieldChar

/-- `_provenance_order_group`. -/
def provenanceOrderGroup (value : Json) : Nat :=
  match value with
  | .str s =>
      let startsWith := fun pre : String => pre.toList.isPrefixOf s.toList
      if startsWith "config/risk_policy.yaml:" || startsWith "project_profiles/" then 0
      else if startsWith "config/human_decision_policy.yaml:" then 1
      else if startsWith "config/skill_routing.yaml:" then 2
      else if startsWith "config/model_routing.yaml:" then 3
      else if startsWith "config/workflow_policy.yaml:" then 4
      else 99
  | _ => 99

/-- The loop of `_validate_policy_result_provenance`; it stops at the first value out of order. -/
def validateProvenanceFrom (index : Nat) (previous : Option Json) (seen : List Json) :
    List Json → List ValidationIssue
  | [] => []
  | value :: rest =>
      match value.asStr with
      | none => validateProvenanceFrom (index + 1) (some value) seen rest
      | some word =>
          let path := itemPath "result.provenance" index
          issueUnless (!seen.contains value) path "must not duplicate another provenance path"
            ++ issueUnless (isProvenance word) path
              "must be a source path followed by a policy field path"
            ++ (if (previous.map provenanceOrderGroup).any (provenanceOrderGroup value < ·) then
                  [⟨"result.provenance", "must use canonical provenance order"⟩]
                else validateProvenanceFrom (index + 1) (some value) (value :: seen) rest)

/-- `_validate_policy_result_provenance`. -/
def validatePolicyResultProvenance (result : Mapping) : List ValidationIssue :=
  match (result.get "provenance").asList with
  | none => []
  | some values => validateProvenanceFrom 0 none [] values

/-- The issues of a failed evaluation: each has the code of the result and a path of its own. -/
def validateFailureIssues (errorCode : String) (index : Nat) (seen : List String) :
    List Json → List ValidationIssue
  | [] => []
  | item :: rest =>
      match item.asMapping with
      | none => validateFailureIssues errorCode (index + 1) seen rest
      | some issue =>
          let path := itemPath "result.issues" index
          issueUnless (issue.get "code" = .str errorCode) (joinPath path "code")
              "must match result.error_code"
            ++ (match (issue.get "path").asStr with
                | some issuePath =>
                    if isBlank issuePath then
                      ⟨joinPath path "path", "must be a non-empty path"⟩
                        :: validateFailureIssues errorCode (index + 1) seen rest
                    else if seen.contains issuePath then
                      ⟨joinPath path "path", "must not duplicate another issue path"⟩
                        :: validateFailureIssues errorCode (index + 1) seen rest
                    else validateFailureIssues errorCode (index + 1) (issuePath :: seen) rest
                | none =>
                    ⟨joinPath path "path", "must be a non-empty path"⟩
                      :: validateFailureIssues errorCode (index + 1) seen rest)

/-- The fields that a failed evaluation leaves empty. -/
def executableFields : List String :=
  ["required_human_triggers", "required_skills", "model_roles", "mandatory_gates",
    "legal_transitions", "authorized_transitions", "provenance"]

/-- The conditions on a failed evaluation. -/
def validateFailClosed (result : Mapping) : List ValidationIssue :=
  let whenFailed : Text := "required when fail_closed is true"
  issueUnless (result.get "risk_level" = .str "R3") "result.risk_level"
      "must be R3 when fail_closed is true"
    ++ issueUnless (result.get "human_gate" = .bool true) "result.human_gate"
      "must be true when fail_closed is true"
    ++ issueUnless (result.get "decision_emitted" = .bool false) "result.decision_emitted"
      "must be false when fail_closed is true"
    ++ executableFields.flatMap (fun fieldName =>
      issueUnless (result.get fieldName).isEmptyCollection ("result." ++ fieldName)
        "must be empty when fail_closed is true")
    ++ (match (result.get "error_code").asStr with
        | none => [⟨"result.error_code", whenFailed⟩]
        | some code =>
            if isBlank code then [⟨"result.error_code", whenFailed⟩]
            else issueUnless (policyErrorCodes.contains code) "result.error_code"
              "must be a registered policy error code")
    ++ (match result.get "issues", (result.get "error_code").asStr with
        | .arr (item :: rest), some code => validateFailureIssues code 0 [] (item :: rest)
        | .arr (_ :: _), none => []
        | _, _ => [⟨"result.issues", whenFailed⟩])

/-- The conditions on an evaluation that did not fail. -/
def validateNotFailClosed (result : Mapping) : List ValidationIssue :=
  issueUnless (result.get "decision_emitted" = .bool true) "result.decision_emitted"
      "must be true when fail_closed is false"
    ++ issueUnless (result.get "error_code" = .null) "result.error_code"
      "must be null when fail_closed is false"
    ++ issueUnless (result.get "issues" = .arr [] || result.get "issues" = .null) "result.issues"
      "must be empty when fail_closed is false"
    ++ issueUnless
      (!(result.get "risk_level" = .str "R3" && result.get "human_gate" ≠ .bool true))
      "result.human_gate" "must be true when risk_level is R3"
    ++ issueUnless
      (!((result.get "required_human_triggers").isNonEmptyList
        && result.get "human_gate" ≠ .bool true))
      "result.human_gate" "must be true when required_human_triggers is non-empty"

/-- The model roles of a result. -/
def validateModelRoles (result : Mapping) : List ValidationIssue :=
  match (result.get "model_roles").asMapping with
  | none => []
  | some modelRoles => modelRoles.entries.flatMap (fun entry =>
      let path := "result.model_roles." ++ entry.1
      issueUnless (policyModelActors.contains entry.1) path "must reference a declared model actor"
        ++ (match entry.2.asStr with
            | some roleId =>
                issueUnless (policyModelRoleIds.contains roleId) path
                  "must reference a declared model role"
            | none => []))

/-- Every target of a list belongs to a set; a list or a mapping cannot be looked up in one. -/
def validateTargets (targets : List Json) (allowed : List String) (message : Text) :
    Outcome (List ValidationIssue) :=
  match targets.find? Json.isUnhashable with
  | some target => .error (.interpreter "TypeError" [.text "unhashable type: ", .text target.typeName])
  | none => .ok ((enumeratePaths "result.authorized_transitions" targets).flatMap (fun entry =>
      issueUnless ((allowed.map Json.str).contains entry.2) entry.1 message))

/-- `_validate_policy_evaluation_result`. -/
def validatePolicyEvaluationResult (data : Mapping) : Outcome (List ValidationIssue) :=
  match (data.get "result").asMapping with
  | none => .ok []
  | some result => do
      let failClosed := result.get "fail_closed" = .bool true
      let authorized := (result.get "authorized_transitions").asList
      let legal := (result.get "legal_transitions").asList
      let notLegal ← match legal, authorized with
        | some legal, some authorized =>
            validateTargets authorized (legal.filterMap Json.asStr)
              "must also be present in legal_transitions"
        | _, _ => .ok []
      let notGated ← match authorized with
        | some authorized =>
            if result.get "human_gate" = .bool true then
              validateTargets authorized ["WAITING_HUMAN", "ABANDONED"]
                "human-gated results may authorize only WAITING_HUMAN or ABANDONED"
            else .ok []
        | none => .ok []
      return issueUnless (!(data.get "policy_bundle_digest" = .null && !failClosed))
            "policy_bundle_digest"
            "required unless evaluation failed before a usable policy bundle existed"
          ++ (if failClosed then validateFailClosed result else validateNotFailClosed result)
          ++ validatePolicyResultListVocab result "required_human_triggers" humanDecisionTriggers true
          ++ validatePolicyResultListVocab result "required_skills" policySkillIds true
          ++ validatePolicyResultListVocab result "mandatory_gates" policyGateIds true
          ++ validatePolicyResultListVocab result "legal_transitions" taskStates false
          ++ validatePolicyResultListVocab result "authorized_transitions" taskStates false
          ++ validatePolicyResultProvenance result
          ++ validateModelRoles result
          ++ notLegal ++ notGated

/-! ## Section 4: The contract check -/

/-- The conditions of a contract that its field table does not express. -/
def Contract.conditions (c : Contract) (data : Mapping) : Outcome (List ValidationIssue) :=
  match c with
  | .humanDecisionRequest => .ok (validateHumanDecisionRequest data)
  | .verificationRecord => .ok (validateVerificationRecord data)
  | .agentResult => .ok (validateAgentResult data)
  | .reviewFinding => .ok (validateReviewFinding data)
  | .releaseCandidateManifest => .ok (validateReleaseCandidateManifestFields data)
  | .policyEvaluationResult => validatePolicyEvaluationResult data
  | _ => .ok []

/-- `_validate_mapping`. An unsupported version number never gets here. -/
def validateMapping (c : Contract) (data : Mapping) : Outcome (List ValidationIssue) := do
  let version := data.get "schema_version"
  let conditions ← c.conditions data
  return (if version.asInt.isSome then []
      else [⟨"schema_version", ["expected int, got ", version.typeName].map Piece.text⟩])
    ++ validateFields "" data c.table ++ conditions

/-- `validate_contract(contract_name, data, mode="runtime")`: every contract has version 1. -/
def validateContract (c : Contract) (data : Json) : Outcome Unit :=
  match data.asMapping with
  | none => .error (.contractValidation c.name [⟨"$", "expected mapping"⟩])
  | some data =>
      match data.get "schema_version" with
      | .int version =>
          if version = 1 then check data else .error (.unsupportedContractVersion c.name version)
      | _ => check data
where
  check (data : Mapping) : Outcome Unit := do
    let issues ← validateMapping c data
    require (issues = []) (.contractValidation c.name issues)

/-! ## Section 5: What acceptance says -/

/-- **When a record is accepted.** -/
theorem validateContract_eq_ok_iff {c : Contract} {record : Json} {u : Unit} :
    validateContract c record = .ok u ↔
      ∃ data : Mapping, record = data.toJson ∧ data.get "schema_version" = .int 1 ∧
        validateFields "" data c.table = [] ∧ c.conditions data = .ok [] := by
  have hcheck : ∀ data : Mapping, validateContract.check c data = .ok u ↔
      ((data.get "schema_version").asInt.isSome = true ∧ validateFields "" data c.table = [] ∧
        c.conditions data = .ok []) := by
    intro data
    simp only [validateContract.check, validateMapping, bind_eq_ok, pure_eq_ok, require_eq_ok]
    constructor
    · rintro ⟨issues, ⟨conditions, hconditions, rfl⟩, hnil⟩
      simp only [List.append_eq_nil_iff, ite_eq_left_iff, List.cons_ne_nil, imp_false,
        Bool.not_eq_true, Bool.not_eq_false] at hnil
      obtain ⟨⟨hversion, hfields⟩, rfl⟩ := hnil
      exact ⟨hversion, hfields, hconditions⟩
    · rintro ⟨hversion, hfields, hconditions⟩
      exact ⟨_, ⟨_, hconditions, rfl⟩, by simp [hversion, hfields]⟩
  unfold validateContract
  cases hdata : record.asMapping with
  | none =>
      have hne : ∀ data : Mapping, record ≠ data.toJson := by
        rintro data rfl
        simp at hdata
      simp [hne]
  | some data =>
      obtain rfl := Mapping.asMapping_eq_some.mp hdata
      have huniq : (∃ data' : Mapping, data.toJson = data'.toJson ∧
          data'.get "schema_version" = .int 1 ∧ validateFields "" data' c.table = [] ∧
            c.conditions data' = .ok []) ↔
          (data.get "schema_version" = .int 1 ∧ validateFields "" data c.table = [] ∧
            c.conditions data = .ok []) := by
        constructor
        · rintro ⟨data', heq, h⟩
          rwa [Mapping.toJson_injective heq]
        · exact fun h => ⟨data, rfl, h⟩
      rw [huniq]
      dsimp only
      split
      next version hversion =>
        by_cases hone : version = 1
        · simp [hone, hversion, hcheck, Json.asInt]
        · simp [hone, hversion]
      next hversion =>
        rw [hcheck]
        have hnot : data.get "schema_version" ≠ .int 1 := fun h => hversion 1 h
        have hnone : (data.get "schema_version").asInt.isSome = false := by
          cases hv : data.get "schema_version" with
          | int n => exact absurd hv (hversion n)
          | _ => rfl
        simp [hnot, hnone]

/-- **Every field of an accepted record is what its table says.** -/
theorem get_of_validateContract {c : Contract} {data : Mapping} {u : Unit}
    (h : validateContract c data.toJson = .ok u) {row : String × FieldSpec}
    (hrow : row ∈ c.rows) : data.has row.1 = true ∧ row.2.Accepts (data.get row.1) := by
  obtain ⟨data', heq, _, hfields, _⟩ := validateContract_eq_ok_iff.mp h
  obtain rfl := Mapping.toJson_injective heq
  refine validateRows_eq_nil_get (List.append_eq_nil_iff.mp hfields).2 row ?_
  simpa [Contract.table] using hrow

/-- `record[key]` of a record that is known to be a mapping with that key. -/
def Json.field (record : Json) (key : String) : Json :=
  (record.asMapping.map (·.get key)).getD .null

@[simp] theorem Json.field_toJson (data : Mapping) (key : String) :
    data.toJson.field key = data.get key := by
  simp [Json.field]

/-- `record[name]` of a field whose contract makes it a string. -/
def Mapping.str (data : Mapping) (name : String) : String := ((data.get name).asStr).getD ""

/-- A string field of an accepted record holds a string. -/
theorem get_eq_str_of_accepts {data : Mapping} {name : String} {field : FieldSpec}
    (htype : field.expectedType = [.str]) (h : field.Accepts (data.get name)) :
    data.get name = .str (data.str name) := by
  have hmatch := h.type_ok
  rw [htype] at hmatch
  unfold Mapping.str
  cases hv : data.get name with
  | str s => rfl
  | _ => simp [hv, matchesExpectedType, PyType.accepts] at hmatch

end Acgps
