import Acgps.Policy.Evaluator

/-!
# The contracts of an evaluation

When the input of an evaluation meets its contract, and when its record does: a condition on the
context that is repeated, one on the digest, and one on the result.

## Main Definitions

* `PublicContext.Valid` - the context passes the rules on texts
* `ResultAccepted` - the result passes its own rules
* `reportIssues` - what is wrong with a failed result

## Key Theorems

* `evaluation_contract_iff` - **the contract is the three conditions**
* `input_contract_iff` - the contract of an input
* `failClosed_issues` - a failed result is only judged by the error that it reports
-/

namespace Acgps

open Checked

/-! ## Section 1: The context -/

/-- A template finds its own letters in the text. -/
theorem mem_of_matchesTemplate {digit : Char → Bool} {t : Char} (ht : t ≠ '#') :
    ∀ {template cs : List Char}, matchesTemplate digit template cs = true → t ∈ template → t ∈ cs
  | [], _, _, hmem => absurd hmem List.not_mem_nil
  | _ :: _, [], hmatch, _ => by simp [matchesTemplate] at hmatch
  | t' :: template, c :: cs, hmatch, hmem => by
      simp only [matchesTemplate, Bool.and_eq_true] at hmatch
      rcases List.mem_cons.mp hmem with rfl | hmem
      · have hfirst := hmatch.1
        rw [if_neg ht, decide_eq_true_eq] at hfirst
        exact hfirst ▸ List.mem_cons_self
      · exact List.mem_cons_of_mem _ (mem_of_matchesTemplate ht hmatch.2 hmem)

/-- A timestamp of the contracts is a plain text. -/
theorem plainText_of_isRfc3339Utc {s : String} (h : isRfc3339Utc s = true) : PlainText s := by
  simp only [isRfc3339Utc, Bool.and_eq_true, Bool.or_eq_true] at h
  have hmem : ∀ t, t ∈ [':', 'Z'] → t ∈ s.toList := by
    intro t ht
    have hword : t ≠ '#' ∧ t ∈ utcTemplate ∧ t ∈ utcMillisTemplate := by
      rcases List.mem_pair.mp ht with rfl | rfl
      · decide
      · decide
    rcases h.1 with hmatch | hmatch
    · exact mem_of_matchesTemplate hword.1 hmatch hword.2.1
    · exact mem_of_matchesTemplate hword.1 hmatch hword.2.2
  constructor
  · intro hplaceholder
    have hcolon : ∀ p ∈ templatePlaceholders, ':' ∉ p.toList := by
      simp only [← quickChars_eq]
      decide +kernel
    exact hcolon s hplaceholder (hmem ':' (by simp))
  · have hspace : isSpace 'Z' = false := by decide
    rw [isBlank, List.all_eq_false]
    exact ⟨'Z', hmem 'Z' (by simp), by simp [hspace]⟩

/-- The context passes the rules on texts. -/
structure PublicContext.Valid (context : PublicContext) : Prop where
  evaluationId : context.evaluationId ∉ templatePlaceholders
  projectId : PlainText context.projectId
  taskId : PlainText context.taskId
  createdAtUtc : isRfc3339Utc context.createdAtUtc = true

/-- The context of an evaluation. -/
def PolicyEvaluation.context (ev : PolicyEvaluation) : PublicContext :=
  ⟨ev.evaluationId, ev.projectId, ev.taskId, ev.createdAtUtc⟩

/-- The fields of the context pass their checks. -/
theorem context_fields_iff {context : PublicContext} : context.Valid ↔
    validateField "evaluation_id" (.str context.evaluationId) (.ofType .str) = [] ∧
    validateField "project_id" (.str context.projectId) (.ofType .str) = [] ∧
    validateField "task_id" (.str context.taskId) (.ofType .str) = [] ∧
    validateField "created_at_utc" (.str context.createdAtUtc) (.ofType .str) = [] := by
  have hplain : ∀ path ∈ ["evaluation_id", "project_id", "task_id", "created_at_utc"],
      isPlainField path = true := by decide +kernel
  have hrequired : isRequiredField "evaluation_id" = false ∧ isRequiredField "project_id" = true ∧
      isRequiredField "task_id" = true ∧ isRequiredField "created_at_utc" = true := by
    decide +kernel
  have htime : isTimestampField "evaluation_id" = false ∧ isTimestampField "project_id" = false ∧
      isTimestampField "task_id" = false ∧ isTimestampField "created_at_utc" = true := by
    decide +kernel
  rw [validateField_str, validateField_str, validateField_str, validateField_str,
    validateRuntimeSemantics_plain_iff (hplain _ (by simp)),
    validateRuntimeSemantics_plain_iff (hplain _ (by simp)),
    validateRuntimeSemantics_plain_iff (hplain _ (by simp)),
    validateRuntimeSemantics_plain_iff (hplain _ (by simp))]
  simp only [hrequired, htime, Bool.false_eq_true, false_implies, and_true, true_implies]
  constructor
  · intro h
    have hutc := plainText_of_isRfc3339Utc h.createdAtUtc
    exact ⟨h.evaluationId, ⟨h.projectId.noPlaceholder, h.projectId.notBlank⟩,
      ⟨h.taskId.noPlaceholder, h.taskId.notBlank⟩, hutc.noPlaceholder, hutc.notBlank,
      h.createdAtUtc⟩
  · rintro ⟨hid, ⟨hproject, hprojectText⟩, ⟨htask, htaskText⟩, _, _, hutc⟩
    exact ⟨hid, ⟨hproject, hprojectText⟩, ⟨htask, htaskText⟩, hutc⟩

/-! ## Section 2: The digest -/

/-- A digest passes its check iff it has the form of one. -/
theorem digest_field_iff {digest : Option String} :
    validateField "policy_bundle_digest" (Json.ofOption .str digest) (.nullable .str) = [] ↔
      ∀ d, digest = some d → isSha256 d = true := by
  have hname : isWord requiredTextFields (semanticFieldName "policy_bundle_digest") = false ∧
      endsWith "_at_utc" (semanticFieldName "policy_bundle_digest") = false ∧
      endsWith "_digest" (semanticFieldName "policy_bundle_digest") = true ∧
      isAbsolutePathSemanticPath "policy_bundle_digest" = false ∧
      isPathSemanticPath "policy_bundle_digest" = false := by
    decide +kernel
  have hplaceholder : ∀ p ∈ templatePlaceholders, isSha256 p = false := by decide +kernel
  cases digest with
  | none => simp [Json.ofOption, validateField, FieldSpec.nullable, matchesExpectedType,
      PyType.accepts, validateRuntimeSemantics, validateAllowed, FieldTable.isTable]
  | some d =>
      have hword : isSha256 d = true → d ∉ templatePlaceholders := by
        intro hsha hmem
        rw [hplaceholder d hmem] at hsha
        cases hsha
      simp only [Json.ofOption, validateField, FieldSpec.nullable, matchesExpectedType,
        PyType.accepts, validateRuntimeSemantics, validateAllowed, FieldTable.isTable, hname]
      simpa using hword

/-! ## Section 3: The result -/

/-- The result passes its own rules, beside a digest or none. -/
structure ResultAccepted (digest : Option String) (result : PolicyResult) : Prop where
  fields : validateField "result" result.toMapping.toJson
    (.nested policyEvaluationResultFields) = []
  conditions : ∀ ev : PolicyEvaluation, ev.policyBundleDigest = digest → ev.result = result →
    validatePolicyEvaluationResult ev.toMapping = .ok []

/-- The fields of a result. -/
theorem PolicyResult.toMapping_get (r : PolicyResult) :
    r.toMapping.get "decision_emitted" = .bool r.decisionEmitted ∧
    r.toMapping.get "risk_level" = .str r.riskLevel.name ∧
    r.toMapping.get "human_gate" = .bool r.humanGate ∧
    r.toMapping.get "required_human_triggers" = Json.strs r.requiredHumanTriggers ∧
    r.toMapping.get "required_skills" = Json.strs r.requiredSkills ∧
    r.toMapping.get "model_roles"
      = (Mapping.ofPairs (r.modelRoles.map (fun e => (e.1, .str e.2)))).toJson ∧
    r.toMapping.get "mandatory_gates" = Json.strs r.mandatoryGates ∧
    r.toMapping.get "legal_transitions" = .arr (r.legalTransitions.map TaskState.toJson) ∧
    r.toMapping.get "authorized_transitions"
      = .arr (r.authorizedTransitions.map TaskState.toJson) ∧
    r.toMapping.get "provenance" = Json.strs r.provenance ∧
    r.toMapping.get "fail_closed" = .bool r.failClosed ∧
    r.toMapping.get "error_code" = Json.ofOption .str r.errorCode ∧
    r.toMapping.get "issues" = .arr (r.issues.map PolicyIssue.toJson) := by
  simp [PolicyResult.toMapping, Mapping.get, Mapping.lookup]

/-- The issues of a result are those of the fields that hold texts. -/
theorem result_fields_eq (r : PolicyResult) :
    validateField "result" r.toMapping.toJson (.nested policyEvaluationResultFields)
      = validateField "result.required_human_triggers" (Json.strs r.requiredHumanTriggers) .strings
        ++ validateField "result.required_skills" (Json.strs r.requiredSkills) .strings
        ++ validateField "result.model_roles"
          (Mapping.ofPairs (r.modelRoles.map (fun e => (e.1, .str e.2)))).toJson .stringMap
        ++ validateField "result.mandatory_gates" (Json.strs r.mandatoryGates) .strings
        ++ validateField "result.legal_transitions" (.arr (r.legalTransitions.map TaskState.toJson))
          .strings
        ++ validateField "result.authorized_transitions"
          (.arr (r.authorizedTransitions.map TaskState.toJson)) .strings
        ++ validateField "result.provenance" (Json.strs r.provenance) .strings
        ++ validateField "result.error_code" (Json.ofOption .str r.errorCode) (.nullable .str)
        ++ validateField "result.issues" (.arr (r.issues.map PolicyIssue.toJson))
          (.items policyEvaluationIssueFields) := by
  have hkeys : r.toMapping.keys = ["authorized_transitions", "decision_emitted", "error_code",
      "fail_closed", "human_gate", "issues", "legal_transitions", "mandatory_gates", "model_roles",
      "provenance", "required_human_triggers", "required_skills", "risk_level"] := rfl
  have hnames : ∀ key ∈ r.toMapping.keys, key ∈ policyEvaluationResultFields.map Prod.fst := by
    rw [hkeys]
    decide
  have hunexpected : unexpectedFields "result" r.toMapping
      (.ofList policyEvaluationResultFields) = [] := by
    rw [unexpectedFields, FieldTable.toList_ofList, List.map_eq_nil_iff, List.filter_eq_nil_iff]
    simpa using hnames
  have hhas : ∀ name ∈ policyEvaluationResultFields.map Prod.fst, r.toMapping.has name = true := by
    intro name hname
    rw [Mapping.has_eq_true_iff, hkeys]
    revert name
    decide
  have hbool : ∀ path b, validateField path (.bool b) (.ofType .bool) = [] := fun _ _ => rfl
  have hlevel : ∀ level : RiskLevel,
      validateField "result.risk_level" (.str level.name) (.word riskLevels) = [] := by
    intro level
    cases level <;> decide +kernel
  have hjoin : joinPath "result" "risk_level" = "result.risk_level" ∧
      joinPath "result" "required_human_triggers" = "result.required_human_triggers" ∧
      joinPath "result" "required_skills" = "result.required_skills" ∧
      joinPath "result" "model_roles" = "result.model_roles" ∧
      joinPath "result" "mandatory_gates" = "result.mandatory_gates" ∧
      joinPath "result" "legal_transitions" = "result.legal_transitions" ∧
      joinPath "result" "authorized_transitions" = "result.authorized_transitions" ∧
      joinPath "result" "provenance" = "result.provenance" ∧
      joinPath "result" "error_code" = "result.error_code" ∧
      joinPath "result" "issues" = "result.issues" := by decide +kernel
  rw [validateField_nested (by simp [policyEvaluationResultFields]), validateFields, hunexpected,
    List.nil_append, validateRows_ofList]
  have hrows : policyEvaluationResultFields.flatMap (fun row => if r.toMapping.has row.1 = true then
      validateField (joinPath "result" row.1) (r.toMapping.get row.1) row.2
      else [⟨joinPath "result" row.1, "missing required field"⟩])
      = policyEvaluationResultFields.flatMap (fun row =>
        validateField (joinPath "result" row.1) (r.toMapping.get row.1) row.2) := by
    apply List.flatMap_congr
    intro row hrow
    rw [if_pos (hhas _ (List.mem_map_of_mem hrow))]
  rw [hrows]
  simp only [policyEvaluationResultFields, List.flatMap_cons, List.flatMap_nil, PolicyResult.toMapping_get]
  -- the lemma of the library is proved by computation, which would unfold the field checks
  have hnil : ∀ issues : List ValidationIssue, [] ++ issues = issues := List.nil_append
  simp only [hjoin, hbool, hlevel, hnil, List.append_nil, List.append_assoc]
/-- The conditions on a result look at the digest and the result only. -/
theorem validatePolicyEvaluationResult_congr {data data' : Mapping}
    (hresult : data.get "result" = data'.get "result")
    (hdigest : data.get "policy_bundle_digest" = data'.get "policy_bundle_digest") :
    validatePolicyEvaluationResult data = validatePolicyEvaluationResult data' := by
  rw [validatePolicyEvaluationResult, validatePolicyEvaluationResult, hresult, hdigest]

/-- **The contract of an evaluation** is a condition on its context, one on its digest and one on
its result. -/
theorem evaluation_contract_iff {ev : PolicyEvaluation} :
    validateContract .policyEvaluationResult ev.toMapping.toJson = .ok () ↔
      ev.context.Valid ∧ (∀ d, ev.policyBundleDigest = some d → isSha256 d = true) ∧
        ResultAccepted ev.policyBundleDigest ev.result := by
  have hkeys : ∀ key ∈ ev.toMapping.keys, key ∈ Contract.policyEvaluationResult.rows.map Prod.fst := by
    show ∀ key ∈ ["created_at_utc", "evaluation_id", "policy_bundle_digest", "project_id",
      "result", "schema_version", "task_id"], key ∈ Contract.policyEvaluationResult.rows.map Prod.fst
    decide
  have hversion : validateField "schema_version" (.int 1) (.ofType .int) = [] := rfl
  have hrows : validateFields "" ev.toMapping Contract.policyEvaluationResult.table = [] ↔
      ev.context.Valid ∧ (∀ d, ev.policyBundleDigest = some d → isSha256 d = true) ∧
        validateField "result" ev.result.toMapping.toJson
          (.nested policyEvaluationResultFields) = [] := by
    rw [Contract.table, validateFields_eq_nil_iff, context_fields_iff, ← digest_field_iff]
    simp only [Contract.rows, List.forall_mem_cons, List.not_mem_nil, false_implies, implies_true,
      and_true]
    constructor
    · rintro ⟨_, _, ⟨_, hid⟩, ⟨_, hproject⟩, ⟨_, htask⟩, ⟨_, hdigest⟩, ⟨_, hresult⟩, _, hutc⟩
      exact ⟨⟨hid, hproject, htask, hutc⟩, hdigest, hresult⟩
    · rintro ⟨⟨hid, hproject, htask, hutc⟩, hdigest, hresult⟩
      exact ⟨hkeys, ⟨rfl, hversion⟩, ⟨rfl, hid⟩, ⟨rfl, hproject⟩, ⟨rfl, htask⟩, ⟨rfl, hdigest⟩,
        ⟨rfl, hresult⟩, rfl, hutc⟩
  rw [validateContract_eq_ok_iff]
  constructor
  · rintro ⟨data, heq, _, hfields, hconditions⟩
    obtain rfl := Mapping.toJson_injective heq
    obtain ⟨hcontext, hdigest, hresult⟩ := hrows.mp hfields
    refine ⟨hcontext, hdigest, hresult, fun ev' hdigest' hresult' => ?_⟩
    rw [← hconditions]
    apply validatePolicyEvaluationResult_congr
    · show ev'.result.toMapping.toJson = ev.result.toMapping.toJson
      rw [hresult']
    · show Json.ofOption .str ev'.policyBundleDigest = Json.ofOption .str ev.policyBundleDigest
      rw [hdigest']
  · rintro ⟨hcontext, hdigest, hresult⟩
    exact ⟨_, rfl, rfl, hrows.mpr ⟨hcontext, hdigest, hresult.fields⟩,
      hresult.conditions ev rfl rfl⟩

/-! ## Section 4: Failed results -/

/-- What is wrong with the error that a failed result reports. -/
def reportIssues (path message : String) : List ValidationIssue :=
  validateRuntimeSemantics "result.issues[0].path" (.str path)
    ++ validateRuntimeSemantics "result.issues[0].message" (.str message)
    ++ (if isBlank path then [⟨"result.issues[0].path", "must be a non-empty path"⟩] else [])

/-- The issue of a failed result as a mapping. -/
def PolicyIssue.toMapping (issue : PolicyIssue) : Mapping where
  entries := [("code", .str issue.code), ("message", .str issue.message), ("path", .str issue.path)]
  sorted := by
    show ["code", "message", "path"].Pairwise (· < ·)
    decide +kernel

/-- The fields of a reported issue. -/
theorem issue_fields (issue : PolicyIssue) (hcode : issue.code ∈ policyErrorCodes) :
    validateField "result.issues" (.arr [issue.toJson]) (.items policyEvaluationIssueFields)
      = validateRuntimeSemantics "result.issues[0].path" (.str issue.path)
        ++ validateRuntimeSemantics "result.issues[0].message" (.str issue.message) := by
  have hcodes : ∀ code ∈ policyErrorCodes,
      validateRuntimeSemantics "result.issues[0].code" (.str code) = [] := by decide +kernel
  have hunexpected : unexpectedFields "result.issues[0]" issue.toMapping
      (.ofList policyEvaluationIssueFields) = [] := rfl
  have hpath : itemPath "result.issues" 0 = "result.issues[0]" := by decide +kernel
  have hrows : validateRows "result.issues[0]" issue.toMapping
      (.ofList policyEvaluationIssueFields)
      = validateRuntimeSemantics "result.issues[0].path" (.str issue.path)
        ++ validateRuntimeSemantics "result.issues[0].message" (.str issue.message) := by
    rw [validateRows_ofList]
    show validateField (joinPath "result.issues[0]" "code") (.str issue.code) (.ofType .str)
      ++ (validateField (joinPath "result.issues[0]" "path") (.str issue.path) (.ofType .str)
        ++ (validateField (joinPath "result.issues[0]" "message") (.str issue.message) (.ofType .str)
          ++ [])) = _
    rw [validateField_str, validateField_str, validateField_str, List.append_nil]
    have hfirst : joinPath "result.issues[0]" "code" = "result.issues[0].code" := by decide +kernel
    have hsecond : joinPath "result.issues[0]" "path" = "result.issues[0].path" := by
      decide +kernel
    have hthird : joinPath "result.issues[0]" "message" = "result.issues[0].message" := by
      decide +kernel
    rw [hfirst, hsecond, hthird, hcodes _ hcode, List.nil_append]
  have hmapping : issue.toJson.asMapping = some issue.toMapping :=
    Mapping.asMapping_eq_some.mpr rfl
  have hempty : FieldTable.nil.isTable = false := rfl
  have htable : (FieldTable.ofList policyEvaluationIssueFields).isTable = true := rfl
  simp only [FieldSpec.items, validateField, matchesExpectedType, PyType.accepts, List.any_cons,
    List.any_nil, Bool.or_false, if_true, hempty, htable, enumeratePaths, Json.asList,
    Option.getD_some, List.zipIdx_cons, List.zipIdx_nil, List.map_cons, List.map_nil,
    List.flatMap_cons, List.flatMap_nil, hpath, hmapping, hunexpected, hrows]
  simp [validateRuntimeSemantics, validateAllowed]

section Failed

variable [Platform]

/-- The issue that a failed result reports. -/
def reportedIssue (error : PolicyError) : PolicyIssue :=
  ⟨if policyErrorCodes.contains error.code then error.code else "POLICY_MALFORMED", error.path,
    error.message.render⟩

theorem reportedIssue_code (error : PolicyError) : (reportedIssue error).code ∈ policyErrorCodes := by
  unfold reportedIssue
  dsimp only
  split
  next h => simpa using h
  next => decide

/-- The fields of a failed result. -/
theorem failClosed_fields (error : PolicyError) :
    validateField "result" (failClosedResult error).toMapping.toJson
      (.nested policyEvaluationResultFields)
      = validateRuntimeSemantics "result.issues[0].path" (.str error.path)
        ++ validateRuntimeSemantics "result.issues[0].message" (.str error.message.render) := by
  have hcodes : ∀ code ∈ policyErrorCodes,
      validateField "result.error_code" (.str code) (.nullable .str) = [] := by
    decide +kernel
  have hreported := issue_fields (reportedIssue error) (reportedIssue_code error)
  have hempty : ∀ path, validateField path (.arr []) .strings = [] := fun _ => rfl
  have hroles : ∀ path, validateField path (Mapping.ofPairs []).toJson .stringMap = [] :=
    fun _ => rfl
  rw [result_fields_eq]
  show validateField _ (.arr []) .strings ++ validateField _ (.arr []) .strings
    ++ validateField _ (Mapping.ofPairs []).toJson .stringMap
    ++ validateField _ (.arr []) .strings ++ validateField _ (.arr []) .strings
    ++ validateField _ (.arr []) .strings ++ validateField _ (.arr []) .strings
    ++ validateField _ (.str (reportedIssue error).code) (.nullable .str)
    ++ validateField _ (.arr [(reportedIssue error).toJson]) (.items policyEvaluationIssueFields) = _
  rw [hempty, hempty, hempty, hempty, hempty, hempty, hroles, hcodes _ (reportedIssue_code error),
    hreported]
  simp only [List.nil_append]
  rfl

/-- A failed result is as it has to be, but for a blank path. -/
theorem validateFailClosed_eq (error : PolicyError) :
    validateFailClosed (failClosedResult error).toMapping = if isBlank error.path then
      [⟨"result.issues[0].path", "must be a non-empty path"⟩] else [] := by
  let r := (failClosedResult error).toMapping
  have hcode := reportedIssue_code error
  have hblank : ∀ code ∈ policyErrorCodes, isBlank code = false := by decide +kernel
  have hget : r.get "error_code" = .str (reportedIssue error).code := rfl
  have hissues : r.get "issues" = .arr [(reportedIssue error).toJson] := rfl
  have hmapping : (reportedIssue error).toJson.asMapping = some (reportedIssue error).toMapping :=
    Mapping.asMapping_eq_some.mpr rfl
  have hissueCode : (reportedIssue error).toMapping.get "code"
      = .str (reportedIssue error).code := rfl
  have hissuePath : (reportedIssue error).toMapping.get "path" = .str error.path := rfl
  have hpath : joinPath (itemPath "result.issues" 0) "path" = "result.issues[0].path" := by
    decide +kernel
  have hreport : validateFailureIssues (reportedIssue error).code 0 [] [(reportedIssue error).toJson]
      = if isBlank error.path then
          [⟨"result.issues[0].path", "must be a non-empty path"⟩] else [] := by
    simp only [validateFailureIssues, hmapping, hissueCode, hissuePath, Json.asStr, hpath]
    cases isBlank error.path <;> simp
  have hlevel : r.get "risk_level" = .str "R3" := rfl
  have hgate : r.get "human_gate" = .bool true := rfl
  have hemitted : r.get "decision_emitted" = .bool false := rfl
  have hfields : executableFields.flatMap (fun fieldName =>
      issueUnless (r.get fieldName).isEmptyCollection ("result." ++ fieldName)
        "must be empty when fail_closed is true") = [] := by
    rw [List.flatMap_eq_nil_iff]
    simp only [executableFields, List.forall_mem_cons, List.not_mem_nil, false_implies,
      implies_true, and_true, issueUnless_eq_nil]
    exact ⟨rfl, rfl, rfl, rfl, rfl, rfl, rfl⟩
  have hregistered : policyErrorCodes.contains (reportedIssue error).code = true := by
    simpa using hcode
  show validateFailClosed r = _
  simp only [validateFailClosed, hlevel, hgate, hemitted, hfields, hget, hissues, Json.asStr,
    hblank _ hcode, hregistered, hreport]
  simp [issueUnless]

/-- The conditions on a failed result. -/
theorem failClosed_conditions {ev : PolicyEvaluation} {error : PolicyError}
    (hresult : ev.result = failClosedResult error) :
    validatePolicyEvaluationResult ev.toMapping = .ok (if isBlank error.path then
      [⟨"result.issues[0].path", "must be a non-empty path"⟩] else []) := by
  let r := (failClosedResult error).toMapping
  have hget : ev.toMapping.get "result" = r.toJson := by
    show ev.result.toMapping.toJson = _
    rw [hresult]
  have hfailed : r.get "fail_closed" = .bool true := rfl
  have hgate : r.get "human_gate" = .bool true := rfl
  have hlegal : r.get "legal_transitions" = .arr [] := rfl
  have hauthorized : r.get "authorized_transitions" = .arr [] := rfl
  have htargets : ∀ allowed message, validateTargets [] allowed message = .ok [] :=
    fun _ _ => rfl
  have hlists : validatePolicyResultListVocab r "required_human_triggers" humanDecisionTriggers true
      = [] ∧ validatePolicyResultListVocab r "required_skills" policySkillIds true = [] ∧
      validatePolicyResultListVocab r "mandatory_gates" policyGateIds true = [] ∧
      validatePolicyResultListVocab r "legal_transitions" taskStates false = [] ∧
      validatePolicyResultListVocab r "authorized_transitions" taskStates false = [] :=
    ⟨rfl, rfl, rfl, rfl, rfl⟩
  have hprovenance : validatePolicyResultProvenance r = [] := rfl
  have hroles : validateModelRoles r = [] := rfl
  simp only [validatePolicyEvaluationResult, hget, Mapping.asMapping_toJson, hlegal, hauthorized,
    Json.asList, htargets, hgate, hfailed, bind, Except.bind, pure, Except.pure, hlists,
    hprovenance, hroles]
  simp [issueUnless, r, validateFailClosed_eq]

/-- **A failed result is only judged by the error that it reports.** -/
theorem failClosed_issues {ev : PolicyEvaluation} {error : PolicyError}
    (hcontext : ev.context.Valid)
    (hdigest : ∀ d, ev.policyBundleDigest = some d → isSha256 d = true)
    (hresult : ev.result = failClosedResult error) :
    validateMapping .policyEvaluationResult ev.toMapping
      = .ok (reportIssues error.path error.message.render) := by
  have hvalid := context_fields_iff.mp hcontext
  dsimp only [PolicyEvaluation.context] at hvalid
  obtain ⟨hid, hproject, htask, hutc⟩ := hvalid
  have hversion : validateField "schema_version" (.int 1) (.ofType .int) = [] := rfl
  have hunexpected : unexpectedFields "" ev.toMapping Contract.policyEvaluationResult.table = [] :=
    rfl
  have hfields : validateFields "" ev.toMapping Contract.policyEvaluationResult.table
      = validateRuntimeSemantics "result.issues[0].path" (.str error.path)
        ++ validateRuntimeSemantics "result.issues[0].message" (.str error.message.render) := by
    rw [validateFields, hunexpected, List.nil_append, Contract.table, validateRows_ofList]
    show validateField "schema_version" (.int 1) (.ofType .int)
      ++ (validateField "evaluation_id" (.str ev.evaluationId) (.ofType .str)
      ++ (validateField "project_id" (.str ev.projectId) (.ofType .str)
      ++ (validateField "task_id" (.str ev.taskId) (.ofType .str)
      ++ (validateField "policy_bundle_digest" (Json.ofOption .str ev.policyBundleDigest)
        (.nullable .str)
      ++ (validateField "result" ev.result.toMapping.toJson (.nested policyEvaluationResultFields)
      ++ (validateField "created_at_utc" (.str ev.createdAtUtc) (.ofType .str) ++ [])))))) = _
    rw [hversion, hid, hproject, htask, digest_field_iff.mpr hdigest, hresult, failClosed_fields,
      hutc]
    simp
  have hget : ev.toMapping.get "schema_version" = .int 1 := rfl
  simp only [validateMapping, Contract.conditions, failClosed_conditions hresult, hfields, hget,
    bind, Except.bind, pure, Except.pure, Json.asInt, Option.isSome_some, if_true,
    List.nil_append, reportIssues]

end Failed

/-! ## Section 5: The wrapper -/

/-- The messages of the rules on texts. -/
def runtimeMessages : List String :=
  ["template placeholder is not valid at runtime", "must not be empty",
    "expected RFC 3339 UTC timestamp", "expected lowercase SHA-256 hex digest",
    "expected normalized absolute Windows path", "expected safe relative path",
    "must be a non-empty path"]

theorem mem_issueUnless {ok : Bool} {path : String} {message : Text} {issue : ValidationIssue}
    (h : issue ∈ issueUnless ok path message) : issue = ⟨path, message⟩ := by
  unfold issueUnless at h
  split at h
  · exact absurd h List.not_mem_nil
  · exact List.mem_singleton.mp h

/-- What the rules on texts report. -/
theorem mem_validateRuntimeSemantics {path s : String} {issue : ValidationIssue}
    (h : issue ∈ validateRuntimeSemantics path (.str s)) :
    ∃ message ∈ runtimeMessages, issue = ⟨path, [.text message]⟩ := by
  simp only [validateRuntimeSemantics, List.mem_append] at h
  rcases h with (((h | h) | h) | h) | h
  · exact ⟨_, by simp [runtimeMessages], mem_issueUnless h⟩
  · exact ⟨_, by simp [runtimeMessages], mem_issueUnless h⟩
  · exact ⟨_, by simp [runtimeMessages], mem_issueUnless h⟩
  · exact ⟨_, by simp [runtimeMessages], mem_issueUnless h⟩
  · split at h
    · exact ⟨_, by simp [runtimeMessages], mem_issueUnless h⟩
    · split at h
      · exact ⟨_, by simp [runtimeMessages], mem_issueUnless h⟩
      · exact absurd h List.not_mem_nil

/-- What is wrong with a report is itself reported without issues. -/
theorem reportIssues_settled {path message : String} {issue : ValidationIssue}
    (h : issue ∈ reportIssues path message) : ∃ text, issue.message = [.text text] ∧
      reportIssues issue.path text = [] := by
  have hsettled : ∀ path ∈ ["result.issues[0].path", "result.issues[0].message"],
      ∀ text ∈ runtimeMessages, reportIssues path text = [] := by decide +kernel
  simp only [reportIssues, List.mem_append] at h
  rcases h with (h | h) | h
  · obtain ⟨text, htext, rfl⟩ := mem_validateRuntimeSemantics h
    exact ⟨text, rfl, hsettled _ (by simp) _ htext⟩
  · obtain ⟨text, htext, rfl⟩ := mem_validateRuntimeSemantics h
    exact ⟨text, rfl, hsettled _ (by simp) _ htext⟩
  · split at h
    · obtain rfl := List.mem_singleton.mp h
      exact ⟨_, rfl, hsettled _ (by simp) _ (by simp [runtimeMessages])⟩
    · exact absurd h List.not_mem_nil

section Wrapper

variable [Platform]

/-- A message of one piece of text is that text. -/
theorem render_text (text : String) : Text.render [.text text] = text := by
  simp [Text.render, Piece.render, String.join]

/-- The check of a failed result, inside a valid context. -/
theorem failClosed_contract {ev : PolicyEvaluation} {error : PolicyError}
    (hcontext : ev.context.Valid)
    (hdigest : ∀ d, ev.policyBundleDigest = some d → isSha256 d = true)
    (hresult : ev.result = failClosedResult error) :
    validateContract .policyEvaluationResult ev.toMapping.toJson
      = if reportIssues error.path error.message.render = [] then .ok ()
        else .error (.contractValidation Contract.policyEvaluationResult.name
          (reportIssues error.path error.message.render)) := by
  have hversion : ev.toMapping.get "schema_version" = .int 1 := rfl
  rw [validateContract, Mapping.asMapping_toJson]
  simp only [hversion, if_true, validateContract.check, failClosed_issues hcontext hdigest hresult,
    bind, Except.bind, require]

omit [Platform] in
/-- A result in a context. -/
def PublicContext.evaluation (context : PublicContext) (r : PolicyResult)
    (digest : Option String) : PolicyEvaluation :=
  ⟨context.evaluationId, context.projectId, context.taskId, digest, r, context.createdAtUtc⟩

/-- A result that passes is wrapped as it is. -/
theorem wrapPublicResult_of_ok {context : PublicContext} {r : PolicyResult}
    {digest : Option String} (h : validateContract .policyEvaluationResult
      (context.evaluation r digest).toMapping.toJson = .ok ()) :
    wrapPublicResult context r digest = context.evaluation r digest := by
  unfold PublicContext.evaluation at h ⊢
  unfold wrapPublicResult
  dsimp only
  rw [h]
  rfl

/-- A result that does not pass is replaced by the report of its first issue. -/
theorem wrapPublicResult_of_error {context : PublicContext} {r : PolicyResult}
    {digest : Option String} {name : String} {issue : ValidationIssue}
    {rest : List ValidationIssue} (h : validateContract .policyEvaluationResult
      (context.evaluation r digest).toMapping.toJson
        = .error (.contractValidation name (issue :: rest))) :
    wrapPublicResult context r digest
      = context.evaluation (failClosedResult ⟨"POLICY_MALFORMED", issue.path, issue.message⟩)
        digest := by
  unfold PublicContext.evaluation at h ⊢
  unfold wrapPublicResult
  dsimp only
  rw [h]
  rfl

/-- **A wrapped result meets the contract** inside a valid context, if it is a failed one or has
passed its own rules. -/
theorem wrapPublicResult_contract {context : PublicContext} {r : PolicyResult}
    {digest : Option String} (hcontext : context.Valid)
    (hdigest : ∀ d, digest = some d → isSha256 d = true)
    (hresult : ResultAccepted digest r ∨ ∃ error, r = failClosedResult error) :
    validateContract .policyEvaluationResult
      (wrapPublicResult context r digest).toMapping.toJson = .ok () := by
  have hvalid : ∀ r, (context.evaluation r digest).context.Valid := fun _ => hcontext
  rcases hresult with haccepted | ⟨error, rfl⟩
  · have hpassed := evaluation_contract_iff.mpr ⟨hvalid r, hdigest, haccepted⟩
    rw [wrapPublicResult_of_ok hpassed, hpassed]
  · have hfirst := failClosed_contract (hvalid (failClosedResult error)) hdigest rfl
    cases hissues : reportIssues error.path error.message.render with
    | nil =>
        rw [hissues, if_pos rfl] at hfirst
        rw [wrapPublicResult_of_ok hfirst, hfirst]
    | cons issue rest =>
        obtain ⟨text, hmessage, hsettled⟩ :=
          reportIssues_settled (hissues ▸ List.mem_cons_self : issue ∈ _)
        rw [hissues, if_neg (List.cons_ne_nil _ _)] at hfirst
        have hsecond := failClosed_contract
          (hvalid (failClosedResult ⟨"POLICY_MALFORMED", issue.path, issue.message⟩)) hdigest rfl
        rw [wrapPublicResult_of_error hfirst, hsecond, hmessage, render_text, hsettled, if_pos rfl]

end Wrapper

/-! ## Section 6: The input -/

/-- The texts of an input pass the rules: no template placeholder among them, and every attribute
what the field of its name takes. -/
structure EvaluationInput.TextsAllowed (i : EvaluationInput) : Prop where
  riskTriggers : ∀ trigger ∈ i.riskTriggers, trigger ∉ templatePlaceholders
  humanTriggers : ∀ trigger ∈ i.humanTriggers, trigger ∉ templatePlaceholders
  profile : ∀ profileId, i.projectProfileId = some profileId → profileId ∉ templatePlaceholders
  attributes : ∀ attr ∈ i.taskAttributes.entries,
    validateRuntimeSemantics (joinPath "input.task_attributes" attr.1) (.str attr.2) = []

/-- The fields of an input. -/
theorem input_fields_iff {i : EvaluationInput} :
    validateField "input" i.toMapping.toJson (.nested policyEvaluationInputFields) = [] ↔
      i.TextsAllowed := by
  have hkeys : ∀ key ∈ i.toMapping.keys, key ∈ policyEvaluationInputFields.map Prod.fst := by
    show ∀ key ∈ ["current_state", "human_triggers", "project_profile_id", "risk_triggers",
      "task_attributes"], key ∈ policyEvaluationInputFields.map Prod.fst
    decide
  have hstate : ∀ s : TaskState,
      validateField (joinPath "input" "current_state") s.toJson (.word taskStates) = [] := by
    have hword : ∀ s ∈ TaskState.all,
        validateField (joinPath "input" "current_state") s.toJson (.word taskStates) = [] := by
      decide +kernel
    exact fun s => hword s (TaskState.mem_all s)
  have hlists : isPlainList (joinPath "input" "risk_triggers") = true ∧
      isPlainList (joinPath "input" "human_triggers") = true := by decide +kernel
  have hprofile : ∀ profile : Option String,
      validateField (joinPath "input" "project_profile_id") (Json.ofOption .str profile)
        (.nullable .str) = [] ↔
      ∀ profileId, profile = some profileId → profileId ∉ templatePlaceholders := by
    have hplain : isPlainField (joinPath "input" "project_profile_id") = true ∧
        isRequiredField (joinPath "input" "project_profile_id") = false ∧
        isTimestampField (joinPath "input" "project_profile_id") = false := by decide +kernel
    intro profile
    cases profile with
    | none => simp [Json.ofOption, validateField, FieldSpec.nullable, matchesExpectedType,
        PyType.accepts, validateRuntimeSemantics, validateAllowed, FieldTable.isTable]
    | some profileId =>
        have heq : validateField (joinPath "input" "project_profile_id") (.str profileId)
            (.nullable .str)
            = validateRuntimeSemantics (joinPath "input" "project_profile_id") (.str profileId) := by
          simp [validateField, FieldSpec.nullable, matchesExpectedType, PyType.accepts,
            validateAllowed, FieldTable.isTable]
        rw [Json.ofOption_some, heq, validateRuntimeSemantics_plain_iff hplain.1, hplain.2.1,
          hplain.2.2]
        simp
  have hattributes : validateField (joinPath "input" "task_attributes")
      i.taskAttributes.toMapping.toJson .stringMap = [] ↔ ∀ attr ∈ i.taskAttributes.entries,
        validateRuntimeSemantics (joinPath "input.task_attributes" attr.1) (.str attr.2) = [] := by
    have hjoin : joinPath "input" "task_attributes" = "input.task_attributes" := by decide +kernel
    rw [hjoin, validateField_stringMap_iff]
    constructor
    · intro hall attr hattr
      simpa [validateTyped, matchesExpectedType, PyType.accepts] using
        hall (attr.1, .str attr.2) (List.mem_map_of_mem hattr)
    · intro hall entry hentry
      obtain ⟨attr, hattr, rfl⟩ := List.mem_map.mp hentry
      simpa [validateTyped, matchesExpectedType, PyType.accepts] using hall attr hattr
  rw [validateField_nested (by simp [policyEvaluationInputFields]), validateFields_eq_nil_iff]
  simp only [policyEvaluationInputFields, List.forall_mem_cons, List.not_mem_nil, false_implies,
    implies_true, and_true]
  constructor
  · rintro ⟨_, _, ⟨_, hrisk⟩, ⟨_, hhuman⟩, ⟨_, hattrs⟩, _, hprof⟩
    exact ⟨(validateField_strings_iff hlists.1).mp hrisk,
      (validateField_strings_iff hlists.2).mp hhuman, (hprofile _).mp hprof, hattributes.mp hattrs⟩
  · intro h
    exact ⟨hkeys, ⟨rfl, hstate _⟩,
      ⟨rfl, (validateField_strings_iff hlists.1).mpr h.riskTriggers⟩,
      ⟨rfl, (validateField_strings_iff hlists.2).mpr h.humanTriggers⟩,
      ⟨rfl, hattributes.mpr h.attributes⟩, rfl, (hprofile _).mpr h.profile⟩

/-- **The contract of an input** is a condition on its context and one on its texts. -/
theorem input_contract_iff {context : PublicContext} {i : EvaluationInput} :
    validateContract .policyEvaluationInput (context.wrap i).toJson = .ok () ↔
      context.Valid ∧ i.TextsAllowed := by
  have hkeys : ∀ key ∈ (context.wrap i).keys,
      key ∈ Contract.policyEvaluationInput.rows.map Prod.fst := by
    show ∀ key ∈ ["created_at_utc", "evaluation_id", "input", "project_id", "schema_version",
      "task_id"], key ∈ Contract.policyEvaluationInput.rows.map Prod.fst
    decide
  have hversion : validateField "schema_version" (.int 1) (.ofType .int) = [] := rfl
  have hrows : validateFields "" (context.wrap i) Contract.policyEvaluationInput.table = [] ↔
      context.Valid ∧ i.TextsAllowed := by
    rw [Contract.table, validateFields_eq_nil_iff, context_fields_iff, ← input_fields_iff]
    simp only [Contract.rows, List.forall_mem_cons, List.not_mem_nil, false_implies, implies_true,
      and_true]
    constructor
    · rintro ⟨_, _, ⟨_, hid⟩, ⟨_, hproject⟩, ⟨_, htask⟩, ⟨_, hinput⟩, _, hutc⟩
      exact ⟨⟨hid, hproject, htask, hutc⟩, hinput⟩
    · rintro ⟨⟨hid, hproject, htask, hutc⟩, hinput⟩
      exact ⟨hkeys, ⟨rfl, hversion⟩, ⟨rfl, hid⟩, ⟨rfl, hproject⟩, ⟨rfl, htask⟩, ⟨rfl, hinput⟩,
        rfl, hutc⟩
  rw [validateContract_eq_ok_iff, ← hrows]
  constructor
  · rintro ⟨data, heq, _, hfields, _⟩
    exact (Mapping.toJson_injective heq) ▸ hfields
  · exact fun hfields => ⟨_, rfl, rfl, hfields, rfl⟩

end Acgps
