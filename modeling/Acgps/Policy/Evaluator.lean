import Acgps.Contracts.Completeness
import Acgps.Policy.Evaluation

/-!
# Evaluation of any record

`evaluate_policy` on any record, under a bundle that was loaded or could not be loaded.

## Main Definitions

* `prevalidateRecord` - `_prevalidate_input`, which gives the normalised input
* `evaluateRecord` - `evaluate_policy`
* `InputCarrier` - the three ways in which a record carries an input

## Key Theorems

* `prevalidateRecord_eq_ok_iff` - **which records are normalised, and to what**
* `evaluateRecord_toMapping` - the evaluation of an engine's request is a case of this one
-/

namespace Acgps

open Checked

/-! ## Section 1: The wrapper -/

/-- `INPUT_FIELDS`. -/
def inputFields : List String :=
  ["current_state", "risk_triggers", "human_triggers", "task_attributes", "project_profile_id"]

/-- `WRAPPER_FIELDS`. -/
def wrapperFields : List String := ["schema_version", "input"]

/-- `PUBLIC_INPUT_WRAPPER_FIELDS - WRAPPER_FIELDS`. -/
def publicContextFields : List String := ["evaluation_id", "project_id", "task_id", "created_at_utc"]

/-- `_looks_like_public_input`. -/
def looksLikePublicInput (record : Mapping) : Bool := publicContextFields.any (record.has ·)

/-- `_public_input_context` of a record that looks like a public input. -/
def contextOf (record : Mapping) : PublicContext :=
  let text := fun name => ((record.get name).asStr).getD "UNKNOWN"
  ⟨text "evaluation_id", text "project_id", text "task_id",
    publicTimestamp (((record.get "created_at_utc").asStr).getD "")⟩

/-- `_public_input_context`. -/
def publicInputContext (record : Json) : Option PublicContext :=
  (record.asMapping.filter looksLikePublicInput).map contextOf

section Evaluator

variable [Platform]

/-- `_normalize_input`. -/
def normalizeRecord (record : Json) : Except PolicyError Mapping := do
  let record ← expect record.asMapping
    ⟨"POLICY_TYPE_ERROR", "input", "PolicyEvaluationInput must be a mapping"⟩
  if looksLikePublicInput record then
    policyContract (validateContract .policyEvaluationInput record.toJson) inputContractError
    expect (record.get "input").asMapping (failedClosed "TypeError")
  else if record.has "schema_version" || record.has "input" then
    forM record.keys (fun name => require (name ∈ wrapperFields)
      ⟨"POLICY_UNKNOWN_FIELD", name,
        [.text "unknown PolicyEvaluationInput wrapper field ", .text name]⟩)
    let version ← expect (record.get "schema_version").asInt
      ⟨"POLICY_TYPE_ERROR", "schema_version", "schema_version must be an integer"⟩
    require (version = 1) ⟨"POLICY_UNSUPPORTED_VERSION", "schema_version",
      "unsupported PolicyEvaluationInput schema version"⟩
    expect (record.get "input").asMapping ⟨"POLICY_TYPE_ERROR", "input", "input must be a mapping"⟩
  else return record

/-! ## Section 2: The fields -/

omit [Platform] in
/-- The checks on one list of triggers; `singular` is the field name without its last letter. -/
def readTriggers (fieldName singular : String) (value : Json) :
    Except PolicyError (List String) := do
  let path := "input." ++ fieldName
  let items ← expect value.asList
    ⟨"POLICY_TYPE_ERROR", path, [.text fieldName, .text " must be a list"]⟩
  let triggers ← items.zipIdx.mapM (fun (item, index) => expect item.asStr
    ⟨"POLICY_TYPE_ERROR", itemPath path index, [.text singular, .text " must be a string"]⟩)
  rejectDuplicate fieldName singular triggers
  return triggers

omit [Platform] in
/-- One turn of the loop of `_validate_task_attributes`, with its check on the types. -/
def readTaskAttribute (vocabulary : List (String × AttributeVocabulary)) (entry : String × Json) :
    Except PolicyError Unit := do
  let word ← expect entry.2.asStr ⟨"POLICY_TYPE_ERROR", "input.task_attributes." ++ entry.1,
    "task attribute keys and values must be strings"⟩
  validateTaskAttribute vocabulary (entry.1, word)

omit [Platform] in
/-- `_validate_task_attributes`, with the attributes. -/
def readTaskAttributes (vocabulary : List (String × AttributeVocabulary)) (value : Json) :
    Except PolicyError TaskAttributes := do
  let attributes ← expect value.asMapping
    ⟨"POLICY_TYPE_ERROR", "input.task_attributes", "task_attributes must be a mapping"⟩
  forM attributes.entries (readTaskAttribute vocabulary)
  return .ofMapping attributes

omit [Platform] in
/-- The check on the profile of an input. -/
def readProjectProfileId (B : PolicyBundle) (value : Json) :
    Except PolicyError (Option String) := do
  match value with
  | .null => return none
  | .str profileId =>
      require ((B.projectProfiles.lookup profileId).isSome = true)
        ⟨"POLICY_UNKNOWN_ID", "input.project_profile_id",
          [.text "unknown project_profile_id ", .text profileId]⟩
      return some profileId
  | _ => throw ⟨"POLICY_TYPE_ERROR", "input.project_profile_id",
      "project_profile_id must be a string or null"⟩

omit [Platform] in
/-- The checks on the fields of an input. -/
def readInput (B : PolicyBundle) (data : Mapping) : Except PolicyError EvaluationInput := do
  forM data.keys (fun name => require (name ∈ inputFields)
    ⟨"POLICY_UNKNOWN_FIELD", "input." ++ name,
      [.text "unknown PolicyEvaluationInput field ", .text name]⟩)
  forM inputFields (fun name => require (data.has name = true)
    ⟨"POLICY_TYPE_ERROR", "input." ++ name, [.text name, .text " is required"]⟩)
  let word ← expect (data.get "current_state").asStr
    ⟨"POLICY_TYPE_ERROR", "input.current_state", "current_state must be a string"⟩
  let currentState ← expect ((TaskState.ofName word).filter (· ∈ B.taskStates))
    ⟨"POLICY_UNKNOWN_ID", "input.current_state",
      [.text "unknown current_state ", .text word]⟩
  let riskTriggers ← readTriggers "risk_triggers" "risk_trigger" (data.get "risk_triggers")
  let humanTriggers ← readTriggers "human_triggers" "human_trigger" (data.get "human_triggers")
  let taskAttributes ← readTaskAttributes B.routingFeatures.taskAttributes
    (data.get "task_attributes")
  forM humanTriggers.zipIdx (fun (trigger, index) => require (trigger ∈ B.humanTriggers)
    ⟨"POLICY_UNKNOWN_ID", itemPath "input.human_triggers" index,
      [.text "unknown human trigger ", .text trigger]⟩)
  let projectProfileId ← readProjectProfileId B (data.get "project_profile_id")
  return ⟨currentState, riskTriggers, humanTriggers, taskAttributes, projectProfileId⟩

/-- `_prevalidate_input`. -/
def prevalidateRecord (B : PolicyBundle) (record : Json) : Except PolicyError EvaluationInput := do
  let data ← normalizeRecord record
  readInput B data

/-! ## Section 3: The evaluation -/

/-- The decision on a normalised input, with the check of its record. -/
def decideInput (B : PolicyBundle) (i : EvaluationInput) : Except PolicyError PolicyResult := do
  let result ← evaluateNormalized B i
  validatePolicyResultContract B result
  return result

/-- The body of the `try` of `evaluate_policy`. -/
def decideRecord (bundle : Except PolicyError PolicyBundle) (record : Json) :
    Except PolicyError PolicyResult := do
  let B ← bundle
  let i ← prevalidateRecord B record
  decideInput B i

/-- What `evaluate_policy` returns: the result, in a wrapper if the record has one. -/
inductive PolicyAnswer where
  | bare (result : PolicyResult)
  | wrapped (evaluation : PolicyEvaluation)

omit [Platform] in
/-- The result of an answer. -/
def PolicyAnswer.result : PolicyAnswer → PolicyResult
  | bare result => result
  | wrapped evaluation => evaluation.result

/-- `evaluate_policy`. -/
def evaluateRecord (bundle : Except PolicyError PolicyBundle) (record : Json) : PolicyAnswer :=
  let result := resultOf (decideRecord bundle record)
  match publicInputContext record with
  | some context => .wrapped (wrapPublicResult context result (bundle.toOption.map (·.digest)))
  | none => .bare result

/-! ## Section 4: Carriers -/

/-- The ways in which a record carries an input: as it is, under a version number, or as a public
input. -/
inductive InputCarrier where
  | bare
  | versioned
  | published (context : PublicContext)

/-- The record that carries an input. -/
def InputCarrier.toMapping (carrier : InputCarrier) (i : EvaluationInput) : Mapping :=
  match carrier with
  | bare => i.toMapping
  | versioned =>
      ⟨[("input", i.toMapping.toJson), ("schema_version", .int 1)], by
        show ["input", "schema_version"].Pairwise (· < ·)
        decide +kernel⟩
  | published context => context.wrap i

omit [Platform] in
theorem TaskAttributes.toMapping_injective : Function.Injective TaskAttributes.toMapping :=
  Function.LeftInverse.injective TaskAttributes.ofMapping_toMapping

omit [Platform] in
/-- A mapping of fields determines the input. -/
theorem EvaluationInput.toMapping_injective : Function.Injective EvaluationInput.toMapping := by
  intro i i' h
  have hget : ∀ name, i.toMapping.get name = i'.toMapping.get name := fun name => by rw [h]
  have hstrs : Function.Injective Json.strs := by
    intro l l' hl
    exact List.map_injective_iff.mpr (fun _ _ h => Json.str.inj h) (Json.arr.inj hl)
  have hstate : i.currentState.toJson = i'.currentState.toJson := hget "current_state"
  have hrisk : Json.strs i.riskTriggers = Json.strs i'.riskTriggers := hget "risk_triggers"
  have hhuman : Json.strs i.humanTriggers = Json.strs i'.humanTriggers := hget "human_triggers"
  have hattributes : i.taskAttributes.toMapping.toJson = i'.taskAttributes.toMapping.toJson :=
    hget "task_attributes"
  have hprofile : Json.ofOption .str i.projectProfileId = Json.ofOption .str i'.projectProfileId :=
    hget "project_profile_id"
  obtain ⟨state, risk, human, attributes, profile⟩ := i
  obtain ⟨state', risk', human', attributes', profile'⟩ := i'
  obtain rfl := TaskState.name_injective (Json.str.inj hstate)
  obtain rfl := hstrs hrisk
  obtain rfl := hstrs hhuman
  obtain rfl := TaskAttributes.toMapping_injective (Mapping.toJson_injective hattributes)
  cases profile <;> cases profile' <;> simp_all [Json.ofOption]

omit [Platform] in
/-- A record determines the input and how it is carried. -/
theorem InputCarrier.toMapping_injective {carrier carrier' : InputCarrier} {i i' : EvaluationInput}
    (h : carrier.toMapping i = carrier'.toMapping i') : carrier = carrier' ∧ i = i' := by
  have hget : ∀ name, (carrier.toMapping i).get name = (carrier'.toMapping i').get name :=
    fun name => by rw [h]
  cases carrier with
  | bare =>
      cases carrier' with
      | bare => exact ⟨rfl, EvaluationInput.toMapping_injective h⟩
      | versioned => exact nomatch (hget "schema_version" : Json.null = .int 1)
      | published context => exact nomatch (hget "schema_version" : Json.null = .int 1)
  | versioned =>
      cases carrier' with
      | bare => exact nomatch (hget "schema_version" : Json.int 1 = .null)
      | versioned =>
          have hinput : i.toMapping.toJson = i'.toMapping.toJson := hget "input"
          exact ⟨rfl, EvaluationInput.toMapping_injective (Mapping.toJson_injective hinput)⟩
      | published context =>
          exact nomatch (hget "task_id" : Json.null = .str context.taskId)
  | published context =>
      cases carrier' with
      | bare => exact nomatch (hget "schema_version" : Json.int 1 = .null)
      | versioned => exact nomatch (hget "task_id" : Json.str context.taskId = .null)
      | published context' =>
          have hinput : i.toMapping.toJson = i'.toMapping.toJson := hget "input"
          have hid : Json.str context.evaluationId = .str context'.evaluationId :=
            hget "evaluation_id"
          have hproject : Json.str context.projectId = .str context'.projectId := hget "project_id"
          have htask : Json.str context.taskId = .str context'.taskId := hget "task_id"
          have hutc : Json.str context.createdAtUtc = .str context'.createdAtUtc :=
            hget "created_at_utc"
          obtain ⟨evaluationId, projectId, taskId, createdAtUtc⟩ := context
          obtain ⟨evaluationId', projectId', taskId', createdAtUtc'⟩ := context'
          simp only [Json.str.injEq] at hid hproject htask hutc
          subst hid hproject htask hutc
          exact ⟨rfl, EvaluationInput.toMapping_injective (Mapping.toJson_injective hinput)⟩

/-- The carrier is a public input that meets its contract, or none at all. -/
def InputCarrier.Admits (carrier : InputCarrier) (i : EvaluationInput) : Prop :=
  ∀ context, carrier = published context →
    validateContract .policyEvaluationInput (context.wrap i).toJson = .ok ()

/-- The input uses what the bundle declares; the risk triggers are left to the evaluation. -/
structure EvaluationInput.Known (B : PolicyBundle) (i : EvaluationInput) : Prop where
  state : i.currentState ∈ B.taskStates
  riskTriggers : i.riskTriggers.Nodup
  humanTriggers : i.humanTriggers.Nodup
  attributes : ∀ attr ∈ i.taskAttributes.entries, ∃ entry,
    B.routingFeatures.taskAttributes.lookup attr.1 = some entry ∧ attr.2 ∈ entry.allowedValues
  declared : ∀ trigger ∈ i.humanTriggers, trigger ∈ B.humanTriggers
  profile : ∀ profileId, i.projectProfileId = some profileId →
    (B.projectProfiles.lookup profileId).isSome = true

/-! ## Section 5: What is normalised -/

omit [Platform] in
theorem rejectDuplicate_eq_ok_iff {fieldName singular : String} {values : List String} {u : Unit} :
    rejectDuplicate fieldName singular values = .ok u ↔ values.Nodup := by
  have hrepeated := @repeatedBefore_eq_false_iff String _ values []
  simp only [List.not_mem_nil, not_false_eq_true, implies_true, and_true] at hrepeated
  rw [← hrepeated]
  unfold rejectDuplicate
  cases hfind : ((repeatedBefore [] values).zipIdx).find? (fun entry => entry.1.2) with
  | none =>
      rw [List.find?_eq_none] at hfind
      refine iff_of_true rfl (fun entry hentry => ?_)
      obtain ⟨index, hlt, rfl⟩ := List.mem_iff_getElem.mp hentry
      have hnot := hfind ((repeatedBefore [] values)[index], index)
        (List.mk_mem_zipIdx_iff_getElem?.mpr (by simp))
      simpa using hnot
  | some found =>
      obtain ⟨⟨value, repeated⟩, index⟩ := found
      have hmem := List.fst_mem_of_mem_zipIdx (List.mem_of_find?_eq_some hfind)
      have htrue := List.find?_some hfind
      refine iff_of_false (fun h => nomatch h) (fun hall => ?_)
      have hfalse := hall _ hmem
      simp_all

omit [Platform] in
theorem readTriggers_eq_ok_iff {fieldName singular : String} {value : Json}
    {triggers : List String} :
    readTriggers fieldName singular value = .ok triggers ↔
      value = Json.strs triggers ∧ triggers.Nodup := by
  have hitems : ∀ (items : List Json) (words : List String),
      List.Forall₂ (fun item word => item.1 = Json.str word) items.zipIdx words ↔
        items = words.map Json.str := by
    intro items words
    rw [forall₂_zipIdx_iff (fun item word => item = Json.str word), ← List.forall₂_eq_eq_eq,
      List.forall₂_map_right_iff]
  simp only [readTriggers, bind_eq_ok, expect_eq_ok, pure_eq_ok, rejectDuplicate_eq_ok_iff,
    mapM_eq_ok_iff, Json.asStr_eq_some, hitems, Json.asList_eq_some, Json.strs]
  constructor
  · rintro ⟨items, rfl, words, rfl, _, hnodup, rfl⟩
    exact ⟨rfl, hnodup⟩
  · rintro ⟨rfl, hnodup⟩
    exact ⟨_, rfl, _, rfl, (), hnodup, rfl⟩

omit [Platform] in
theorem validateTaskAttribute_eq_ok_iff {vocabulary : List (String × AttributeVocabulary)}
    {attr : String × String} {u : Unit} : validateTaskAttribute vocabulary attr = .ok u ↔
      ∃ entry, vocabulary.lookup attr.1 = some entry ∧ attr.2 ∈ entry.allowedValues := by
  simp [validateTaskAttribute]

omit [Platform] in
theorem readTaskAttributes_eq_ok_iff {vocabulary : List (String × AttributeVocabulary)}
    {value : Json} {attributes : TaskAttributes} :
    readTaskAttributes vocabulary value = .ok attributes ↔
      value = attributes.toMapping.toJson ∧ ∀ attr ∈ attributes.entries, ∃ entry,
        vocabulary.lookup attr.1 = some entry ∧ attr.2 ∈ entry.allowedValues := by
  simp only [readTaskAttributes, readTaskAttribute, bind_eq_ok, expect_eq_ok, pure_eq_ok, forM_eq_ok_iff,
    Json.asStr_eq_some, validateTaskAttribute_eq_ok_iff, Mapping.asMapping_eq_some]
  constructor
  · rintro ⟨data, rfl, _, hall, rfl⟩
    have hdata := TaskAttributes.toMapping_ofMapping
      (fun e he => ⟨_, (hall e he).choose_spec.1⟩)
    refine ⟨by rw [hdata], fun attr hattr => ?_⟩
    have hmem : (attr.1, Json.str attr.2) ∈ data.entries := by
      rw [← hdata]
      exact List.mem_map_of_mem hattr
    obtain ⟨word, hword, hknown⟩ := hall _ hmem
    cases hword
    exact hknown
  · rintro ⟨rfl, hall⟩
    refine ⟨_, rfl, (), ?_, TaskAttributes.ofMapping_toMapping attributes⟩
    intro e he
    obtain ⟨attr, hattr, rfl⟩ := List.mem_map.mp he
    exact ⟨_, rfl, hall attr hattr⟩

omit [Platform] in
theorem readProjectProfileId_eq_ok_iff {B : PolicyBundle} {value : Json}
    {profile : Option String} : readProjectProfileId B value = .ok profile ↔
      value = Json.ofOption .str profile ∧ ∀ profileId, profile = some profileId →
        (B.projectProfiles.lookup profileId).isSome = true := by
  cases value with
  | null => cases profile <;> simp [readProjectProfileId, Json.ofOption]
  | str profileId =>
      cases profile with
      | none => simp [readProjectProfileId, Json.ofOption]
      | some other =>
          simp only [readProjectProfileId, bind_eq_ok, require_eq_ok, pure_eq_ok, Option.some.injEq,
            Json.ofOption, Json.str.injEq, forall_eq']
          constructor
          · rintro ⟨_, hknown, rfl⟩
            exact ⟨rfl, hknown⟩
          · rintro ⟨rfl, hknown⟩
            exact ⟨(), hknown, rfl⟩
  | _ => cases profile <;> simp [readProjectProfileId, Json.ofOption]

omit [Platform] in
/-- A mapping is the one of an input iff its keys are the fields and its values those of the input. -/
theorem eq_toMapping_iff {data : Mapping} {i : EvaluationInput} : data = i.toMapping ↔
    ((∀ name ∈ data.keys, name ∈ inputFields) ∧ ∀ name ∈ inputFields, data.has name = true) ∧
      data.get "current_state" = i.currentState.toJson ∧
      data.get "risk_triggers" = Json.strs i.riskTriggers ∧
      data.get "human_triggers" = Json.strs i.humanTriggers ∧
      data.get "task_attributes" = i.taskAttributes.toMapping.toJson ∧
      data.get "project_profile_id" = Json.ofOption .str i.projectProfileId := by
  constructor
  · rintro rfl
    have hkeys : i.toMapping.keys = ["current_state", "human_triggers", "project_profile_id",
      "risk_triggers", "task_attributes"] := rfl
    refine ⟨⟨?_, ?_⟩, rfl, rfl, rfl, rfl, rfl⟩
    · rw [hkeys]
      decide
    · intro name hname
      rw [Mapping.has_eq_true_iff, hkeys]
      revert name
      decide
  · rintro ⟨⟨hknown, hhas⟩, hstate, hrisk, hhuman, hattributes, hprofile⟩
    have hkeys : data.keys = ["current_state", "human_triggers", "project_profile_id",
        "risk_triggers", "task_attributes"] := by
      apply Mapping.keys_eq_of_mem_iff (by decide +kernel)
      have hsame : ∀ name, name ∈ inputFields ↔ name ∈ ["current_state", "human_triggers",
          "project_profile_id", "risk_triggers", "task_attributes"] := by
        intro name
        simp only [inputFields, List.mem_cons, List.not_mem_nil, or_false]
        tauto
      intro name
      rw [← hsame]
      exact ⟨hknown name, fun hname => Mapping.has_eq_true_iff.mp (hhas name hname)⟩
    have hentries := data.entries_eq_map_get
    rw [hkeys] at hentries
    simp only [List.map_cons, List.map_nil, hstate, hrisk, hhuman, hattributes, hprofile] at hentries
    obtain ⟨entries, sorted⟩ := data
    subst hentries
    rfl

omit [Platform] in
/-- **Which fields are read, and as what.** -/
theorem readInput_eq_ok_iff {B : PolicyBundle} {data : Mapping} {i : EvaluationInput} :
    readInput B data = .ok i ↔ data = i.toMapping ∧ i.Known B := by
  rw [eq_toMapping_iff]
  simp only [readInput, bind_eq_ok, forM_eq_ok_iff, require_eq_ok, expect_eq_ok,
    Option.filter_eq_some_iff, TaskState.ofName_eq_some_iff, decide_eq_true_eq,
    readTriggers_eq_ok_iff, readTaskAttributes_eq_ok_iff, readProjectProfileId_eq_ok_iff,
    forall_mem_zipIdx_iff (· ∈ B.humanTriggers), Json.asStr_eq_some, pure_eq_ok]
  constructor
  · rintro ⟨_, hknown, _, hhas, word, hword, state, ⟨rfl, hstate⟩, risk, ⟨hrisk, hriskNodup⟩, human,
      ⟨hhuman, hhumanNodup⟩, attributes, ⟨hattributes, hattributesKnown⟩, _, hdeclared, profile,
      ⟨hprofile, hprofileKnown⟩, rfl⟩
    exact ⟨⟨⟨hknown, hhas⟩, hword, hrisk, hhuman, hattributes, hprofile⟩,
      ⟨hstate, hriskNodup, hhumanNodup, hattributesKnown, hdeclared, hprofileKnown⟩⟩
  · rintro ⟨⟨⟨hknown, hhas⟩, hword, hrisk, hhuman, hattributes, hprofile⟩, hi⟩
    exact ⟨(), hknown, (), hhas, _, hword, _, ⟨rfl, hi.state⟩, _, ⟨hrisk, hi.riskTriggers⟩, _,
      ⟨hhuman, hi.humanTriggers⟩, _, ⟨hattributes, hi.attributes⟩, (), hi.declared, _,
      ⟨hprofile, hi.profile⟩, rfl⟩

omit [Platform] in
/-- A public input that meets its contract has its fields, and no others. -/
theorem eq_wrap_of_contract {record data : Mapping}
    (hcontract : validateContract .policyEvaluationInput record.toJson = .ok ())
    (hinput : record.get "input" = data.toJson) {i : EvaluationInput} (hdata : data = i.toMapping) :
    ∃ context : PublicContext, record = context.wrap i := by
  obtain ⟨record', heq, hversion, hfields, -⟩ := validateContract_eq_ok_iff.mp hcontract
  obtain rfl := Mapping.toJson_injective heq
  have hget : ∀ name ∈ ["evaluation_id", "project_id", "task_id", "created_at_utc"],
      record.get name = .str (record.str name) := by
    intro name hname
    have hrow : (name, FieldSpec.ofType .str) ∈ Contract.policyEvaluationInput.rows := by
      revert name
      simp [Contract.rows]
    exact get_eq_str_of_accepts rfl (get_of_validateContract hcontract hrow).2
  have hkeys : record.keys = ["created_at_utc", "evaluation_id", "input", "project_id",
      "schema_version", "task_id"] := by
    apply Mapping.keys_eq_of_mem_iff (by decide +kernel)
    intro name
    constructor
    · intro hname
      have hrow := keys_of_validateFields_eq_nil hfields name hname
      revert hrow
      simp only [Contract.table, FieldTable.toList_ofList, Contract.rows, List.map_cons,
        List.map_nil, List.mem_cons, List.not_mem_nil, or_false]
      tauto
    · intro hname
      have hrow : ∃ field, (name, field) ∈ Contract.policyEvaluationInput.rows := by
        revert name
        simp [Contract.rows]
      obtain ⟨field, hrow⟩ := hrow
      exact Mapping.has_eq_true_iff.mp (get_of_validateContract hcontract hrow).1
  refine ⟨⟨record.str "evaluation_id", record.str "project_id", record.str "task_id",
    record.str "created_at_utc"⟩, ?_⟩
  have hentries := record.entries_eq_map_get
  rw [hkeys] at hentries
  simp only [List.map_cons, List.map_nil, hget "evaluation_id" (by simp),
    hget "project_id" (by simp), hget "task_id" (by simp), hget "created_at_utc" (by simp), hinput,
    hdata, hversion] at hentries
  obtain ⟨entries, sorted⟩ := record
  exact Mapping.mk.injEq .. |>.mpr hentries

omit [Platform] in
/-- A record under a version number has nothing but the input beside it. -/
theorem eq_versioned {record data : Mapping} (hkeys : ∀ name ∈ record.keys, name ∈ wrapperFields)
    (hversion : record.get "schema_version" = .int 1) (hinput : record.get "input" = data.toJson)
    {i : EvaluationInput} (hdata : data = i.toMapping) :
    record = InputCarrier.versioned.toMapping i := by
  have hhas : ∀ name, record.get name ≠ .null → name ∈ record.keys := by
    intro name hname
    by_contra hnot
    exact hname (Mapping.get_of_not_mem_keys hnot)
  have hsame : record.keys = ["input", "schema_version"] := by
    apply Mapping.keys_eq_of_mem_iff (by decide +kernel)
    intro name
    constructor
    · intro hname
      have hfields := hkeys name hname
      simp only [wrapperFields, List.mem_cons, List.not_mem_nil, or_false] at hfields ⊢
      exact hfields.symm
    · intro hname
      simp only [List.mem_cons, List.not_mem_nil, or_false] at hname
      rcases hname with rfl | rfl
      · exact hhas _ (by simp [hinput])
      · exact hhas _ (by simp [hversion])
  have hentries := record.entries_eq_map_get
  rw [hsame] at hentries
  simp only [List.map_cons, List.map_nil, hinput, hversion, hdata] at hentries
  obtain ⟨entries, sorted⟩ := record
  exact Mapping.mk.injEq .. |>.mpr hentries

/-- **Which records are normalised, and to what.** -/
theorem prevalidateRecord_eq_ok_iff {B : PolicyBundle} {record : Json} {i : EvaluationInput} :
    prevalidateRecord B record = .ok i ↔
      ∃ carrier : InputCarrier, record = (carrier.toMapping i).toJson ∧ carrier.Admits i ∧
        i.Known B := by
  simp only [prevalidateRecord, bind_eq_ok, readInput_eq_ok_iff, normalizeRecord, expect_eq_ok,
    Mapping.asMapping_eq_some]
  constructor
  · rintro ⟨data, ⟨record, rfl, hnormal⟩, hdata, hknown⟩
    split at hnormal
    next hpublic =>
      simp only [bind_eq_ok, policyContract_eq_ok, expect_eq_ok, Mapping.asMapping_eq_some]
        at hnormal
      obtain ⟨_, hcontract, hinput⟩ := hnormal
      obtain ⟨context, rfl⟩ := eq_wrap_of_contract hcontract hinput hdata
      refine ⟨.published context, rfl, ?_, hknown⟩
      rintro context' ⟨⟩
      exact hcontract
    next hpublic =>
      split at hnormal
      next hversioned =>
        simp only [bind_eq_ok, forM_eq_ok_iff, require_eq_ok, expect_eq_ok, Json.asInt_eq_some,
          Mapping.asMapping_eq_some] at hnormal
        obtain ⟨_, hkeys, version, hversion, _, rfl, hinput⟩ := hnormal
        obtain rfl := eq_versioned hkeys hversion hinput hdata
        refine ⟨.versioned, rfl, ?_, hknown⟩
        intro context hcarrier
        cases hcarrier
      next hbare =>
        obtain rfl := pure_eq_ok.mp hnormal
        subst hdata
        refine ⟨.bare, rfl, ?_, hknown⟩
        intro context hcarrier
        cases hcarrier
  · rintro ⟨carrier, rfl, hadmits, hknown⟩
    refine ⟨i.toMapping, ⟨_, rfl, ?_⟩, rfl, hknown⟩
    cases carrier with
    | bare =>
        have hpublic : looksLikePublicInput (InputCarrier.bare.toMapping i) = false := rfl
        have hversioned : ((InputCarrier.bare.toMapping i).has "schema_version"
            || (InputCarrier.bare.toMapping i).has "input") = false := rfl
        rw [if_neg (by simp [hpublic]), if_neg (by simp [hversioned])]
        rfl
    | versioned =>
        have hpublic : looksLikePublicInput (InputCarrier.versioned.toMapping i) = false := rfl
        have hversioned : ((InputCarrier.versioned.toMapping i).has "schema_version"
            || (InputCarrier.versioned.toMapping i).has "input") = true := rfl
        rw [if_neg (by simp [hpublic]), if_pos hversioned]
        simp only [bind_eq_ok, forM_eq_ok_iff, require_eq_ok, expect_eq_ok, Json.asInt_eq_some,
          Mapping.asMapping_eq_some]
        refine ⟨(), ?_, 1, rfl, (), rfl, rfl⟩
        show ∀ name ∈ ["input", "schema_version"], name ∈ wrapperFields
        decide
    | published context =>
        have hpublic : looksLikePublicInput ((InputCarrier.published context).toMapping i) = true := rfl
        rw [if_pos hpublic]
        simp only [bind_eq_ok, policyContract_eq_ok, expect_eq_ok, Mapping.asMapping_eq_some]
        exact ⟨(), hadmits context rfl, rfl⟩

/-! ## Section 6: The requests of the engine -/

omit [Platform] in
/-- A printed list of triggers is read back. -/
theorem readTriggers_strs (fieldName singular : String) (triggers : List String) :
    readTriggers fieldName singular (Json.strs triggers)
      = rejectDuplicate fieldName singular triggers >>= fun _ => pure triggers := by
  have hitems : (triggers.map Json.str).zipIdx.mapM (fun (item, index) => expect item.asStr
      (⟨"POLICY_TYPE_ERROR", itemPath ("input." ++ fieldName) index,
        [.text singular, .text " must be a string"]⟩ : PolicyError)) = .ok triggers := by
    rw [mapM_eq_ok_iff]
    simp only [expect_eq_ok, Json.asStr_eq_some]
    rw [forall₂_zipIdx_iff (fun item word => item = Json.str word), List.forall₂_map_left_iff,
      List.forall₂_same]
    exact fun _ _ => rfl
  exact congrArg (· >>= fun words => rejectDuplicate fieldName singular words >>= fun _ => pure words)
    hitems

omit [Platform] in
/-- Printed attributes are read back. -/
theorem readTaskAttributes_toMapping (vocabulary : List (String × AttributeVocabulary))
    (attributes : TaskAttributes) :
    readTaskAttributes vocabulary attributes.toMapping.toJson
      = validateTaskAttributes vocabulary attributes >>= fun _ => pure attributes := by
  have hitems : forM attributes.toMapping.entries (readTaskAttribute vocabulary)
      = validateTaskAttributes vocabulary attributes := by
    obtain ⟨entries, sorted⟩ := attributes
    simp only [TaskAttributes.toMapping, validateTaskAttributes]
    clear sorted
    induction entries with
    | nil => rfl
    | cons attr entries ih =>
        rw [List.map_cons, List.forM_cons, List.forM_cons, ih]
        rfl
  have hread : readTaskAttributes vocabulary attributes.toMapping.toJson
      = forM attributes.toMapping.entries (readTaskAttribute vocabulary)
        >>= fun _ => pure (.ofMapping attributes.toMapping) := by
    rw [readTaskAttributes, Mapping.asMapping_toJson, expect_some_bind]
  rw [hread, hitems, TaskAttributes.ofMapping_toMapping]

/-- A request is normalised to its input. -/
theorem prevalidateRecord_toMapping (B : PolicyBundle) (i : PolicyInput) :
    prevalidateRecord B i.toMapping.toJson
      = prevalidateInput B i >>= fun _ => pure i.input := by
  have hpublic : looksLikePublicInput i.toMapping = true := rfl
  have hnormal : normalizeRecord i.toMapping.toJson
      = normalizeInput i >>= fun _ => pure i.input.toMapping := by
    have hinput : i.toMapping.get "input" = i.input.toMapping.toJson := rfl
    rw [normalizeRecord, Mapping.asMapping_toJson, expect_some_bind, if_pos hpublic, hinput,
      Mapping.asMapping_toJson]
    rfl
  have hfields : forM i.input.toMapping.keys (fun name => require (name ∈ inputFields)
      (⟨"POLICY_UNKNOWN_FIELD", "input." ++ name,
        [.text "unknown PolicyEvaluationInput field ", .text name]⟩ : PolicyError)) = .ok () := rfl
  have hpresent : forM inputFields (fun name => require (i.input.toMapping.has name = true)
      (⟨"POLICY_TYPE_ERROR", "input." ++ name, [.text name, .text " is required"]⟩ :
        PolicyError)) = .ok () := rfl
  have hstate : (TaskState.ofName i.currentState.name) = some i.currentState :=
    TaskState.ofName_eq_some_iff.mpr rfl
  have hread : readInput B i.input.toMapping = (do
      require (i.currentState ∈ B.taskStates) ⟨"POLICY_UNKNOWN_ID", "input.current_state",
        [.text "unknown current_state ", .text i.currentState.name]⟩
      rejectDuplicate "risk_triggers" "risk_trigger" i.riskTriggers
      rejectDuplicate "human_triggers" "human_trigger" i.humanTriggers
      validateTaskAttributes B.routingFeatures.taskAttributes i.input.taskAttributes
      forM i.humanTriggers.zipIdx (fun (trigger, index) => require (trigger ∈ B.humanTriggers)
        ⟨"POLICY_UNKNOWN_ID", itemPath "input.human_triggers" index,
          [.text "unknown human trigger ", .text trigger]⟩)
      require ((B.projectProfiles.lookup i.projectProfileId).isSome = true)
        ⟨"POLICY_UNKNOWN_ID", "input.project_profile_id",
          [.text "unknown project_profile_id ", .text i.projectProfileId]⟩
      return i.input) := by
    have hstep : readInput B i.input.toMapping = (do
        let currentState ← expect ((TaskState.ofName i.currentState.name).filter (· ∈ B.taskStates))
          ⟨"POLICY_UNKNOWN_ID", "input.current_state",
            [.text "unknown current_state ", .text i.currentState.name]⟩
        let riskTriggers ← readTriggers "risk_triggers" "risk_trigger" (Json.strs i.riskTriggers)
        let humanTriggers ← readTriggers "human_triggers" "human_trigger"
          (Json.strs i.humanTriggers)
        let taskAttributes ← readTaskAttributes B.routingFeatures.taskAttributes
          i.input.taskAttributes.toMapping.toJson
        forM humanTriggers.zipIdx (fun (trigger, index) => require (trigger ∈ B.humanTriggers)
          ⟨"POLICY_UNKNOWN_ID", itemPath "input.human_triggers" index,
            [.text "unknown human trigger ", .text trigger]⟩)
        let projectProfileId ← readProjectProfileId B (.str i.projectProfileId)
        return ⟨currentState, riskTriggers, humanTriggers, taskAttributes, projectProfileId⟩) := rfl
    rw [hstep, hstate, readTriggers_strs, readTriggers_strs, readTaskAttributes_toMapping]
    by_cases hmem : i.currentState ∈ B.taskStates
    · rw [Option.filter_some, if_pos (by simpa using hmem), expect_some_bind,
        require_of hmem]
      simp only [readProjectProfileId, bind_assoc, pure_bind]
      rfl
    · rw [Option.filter_some, if_neg (by simpa using hmem), expect_none_bind,
        require_of_not hmem]
      rfl
  rw [prevalidateRecord, hnormal, prevalidateInput]
  simp only [bind_assoc, pure_bind, hread]

/-- The evaluation of a request of the engine. -/
theorem evaluateRecord_toMapping (B : PolicyBundle) (i : PolicyInput) :
    evaluateRecord (.ok B) i.toMapping.toJson = .wrapped (evaluatePolicy B i) := by
  have hcontext : publicInputContext i.toMapping.toJson = some i.context.answered := by
    rw [publicInputContext, Mapping.asMapping_toJson]
    rfl
  have hdecide : decideRecord (.ok B) i.toMapping.toJson = decidePolicy B i := by
    show (prevalidateRecord B i.toMapping.toJson >>= fun i => decideInput B i) = _
    rw [prevalidateRecord_toMapping, bind_assoc]
    rfl
  rw [evaluateRecord, hcontext, hdecide]
  rfl

end Evaluator

end Acgps
