import Acgps.Contracts.Vocabulary

/-!
# Contract specifications and the field walk

A contract is a table of field specifications. The walk visits every field of the table, collects
the issues it finds and never stops at the first one.

## Main Definitions

* `FieldSpec` - the expected type of a field, its allowed values and its nested tables
* `validateFields` - `_validate_fields`, which is also the field walk of `_validate_mapping`

## Key Theorems

* `validateRows_eq_nil_get` - no issue means that every field of the table is present, of its
  type and among its allowed values
-/

namespace Acgps

/-! ## Section 1: Specifications -/

/-- The types a specification names. -/
inductive PyType where
  | int
  | str
  | bool
  | dict
  | list
  | none
  deriving DecidableEq

/-- `__name__` of a type. -/
def PyType.name : PyType → String
  | int => "int"
  | str => "str"
  | bool => "bool"
  | dict => "dict"
  | list => "list"
  | none => "NoneType"

/-- `isinstance` for one type; a bool does not count as an int. -/
def PyType.accepts : PyType → Json → Bool
  | int, .int _ => true
  | str, .str _ => true
  | bool, .bool _ => true
  | dict, v => v.asMapping.isSome
  | list, .arr _ => true
  | none, .null => true
  | _, _ => false

/-- `_matches_expected_type`, with a tuple of types as a list. -/
def matchesExpectedType (value : Json) (expected : List PyType) : Bool :=
  expected.any (fun t => t.accepts value)

/-- `_type_name`. -/
def typeName (expected : List PyType) : String :=
  " or ".intercalate (expected.map PyType.name)

mutual

/-- The specification of a field. Every field of every table is required and may be empty, so the
two flags that say otherwise are left out. -/
inductive FieldSpec where
  | mk (expectedType : List PyType) (allowedValues : Option (List Json))
      (fields itemFields : FieldTable) (itemType mapValueType : Option (List PyType))

/-- A table of fields; the empty one stands for no table. -/
inductive FieldTable where
  | nil
  | cons (name : String) (field : FieldSpec) (rest : FieldTable)

end

namespace FieldTable

/-- A table from its rows. -/
def ofList : List (String × FieldSpec) → FieldTable
  | [] => nil
  | (name, field) :: rest => cons name field (ofList rest)

/-- The rows of a table. -/
def toList : FieldTable → List (String × FieldSpec)
  | nil => []
  | cons name field rest => (name, field) :: rest.toList

@[simp] theorem toList_ofList (rows : List (String × FieldSpec)) : (ofList rows).toList = rows := by
  induction rows with
  | nil => rfl
  | cons row rows ih =>
      obtain ⟨name, field⟩ := row
      simp [ofList, toList, ih]

/-- There is a table. -/
def isTable : FieldTable → Bool
  | nil => false
  | cons _ _ _ => true

end FieldTable

namespace FieldSpec

/-- A field of one type. -/
def ofType (t : PyType) : FieldSpec := .mk [t] none .nil .nil none none

/-- A field that may be null. -/
def nullable (t : PyType) : FieldSpec := .mk [t, .none] none .nil .nil none none

/-- A string of a closed word list. -/
def word (allowed : List String) : FieldSpec :=
  .mk [.str] (some (allowed.map .str)) .nil .nil none none

/-- A field of some types that takes the listed values only. -/
def oneOf (types : List PyType) (allowed : List Json) : FieldSpec :=
  .mk types (some allowed) .nil .nil none none

/-- A list of strings. -/
def strings : FieldSpec := .mk [.list] none .nil .nil (some [.str]) none

/-- A list of mappings with a table of their own. -/
def items (rows : List (String × FieldSpec)) : FieldSpec :=
  .mk [.list] none .nil (.ofList rows) none none

/-- A mapping with a table of its own. -/
def nested (rows : List (String × FieldSpec)) : FieldSpec :=
  .mk [.dict] none (.ofList rows) .nil none none

/-- A mapping from names to strings. -/
def stringMap : FieldSpec := .mk [.dict] none .nil .nil none (some [.str])

/-- `field.expected_type`. -/
def expectedType : FieldSpec → List PyType
  | .mk t _ _ _ _ _ => t

/-- `field.allowed_values`. -/
def allowedValues : FieldSpec → Option (List Json)
  | .mk _ allowed _ _ _ _ => allowed

/-- `field.item_type`. -/
def itemType : FieldSpec → Option (List PyType)
  | .mk _ _ _ _ t _ => t

end FieldSpec

/-! ## Section 2: Semantics of string fields -/

/-- `TEMPLATE_PLACEHOLDERS`. -/
def templatePlaceholders : List String :=
  ["AUTO", "COMMAND", "HASH", "OPTION_ID", "PACKET_ID", "PATH", "PROJECT_ID", "REVIEW_ID", "ROLE",
    "STAGE", "TASK_ID", "VERSION"]

/-- `PATH_FIELDS`. -/
def pathFields : List String := ["path", "output_path", "rollback_plan_path"]

/-- `PATH_COLLECTION_FIELDS`. -/
def pathCollectionFields : List String :=
  ["evidence_paths", "required_files", "review_closures", "source_paths", "verification_records"]

/-- The fields whose text must not be blank. -/
def requiredTextFields : List String :=
  ["actor", "assessment_id", "baseline_hash", "business_context", "category", "command",
    "created_at_utc", "decision_id", "description", "event_id", "event_type", "finding_id",
    "impact", "name", "objective", "output_path", "packet_id", "path", "profile_id", "project_id",
    "project_name", "project_type", "question", "rationale", "rc_id", "recommendation",
    "recommendation_rationale", "requested_by", "requested_outcome", "resolved_at_utc",
    "resolved_by", "result_summary", "review_id", "rollback_plan_path", "selected_option",
    "sha256", "summary", "task_id", "title", "updated_at_utc", "verification_id",
    "verified_at_utc", "version"]

/-- `re.sub(r"\[\d+\]$", "", part)`. -/
def dropIndex (part : List Char) : List Char :=
  match part.reverse with
  | ']' :: rest =>
      let digits := rest.takeWhile isDecimal
      match rest.drop digits.length with
      | '[' :: name => if digits = [] then part else name.reverse
      | _ => part
  | _ => part

/-- `_semantic_path_parts`. -/
def semanticPathParts (path : String) : List (List Char) :=
  (path.toList.splitOn '.').map dropIndex

/-- `_semantic_field_name`. -/
def semanticFieldName (path : String) : List Char :=
  (semanticPathParts path).getLastD []

/-- `part in words`. -/
def isWord (words : List String) (part : List Char) : Bool :=
  words.contains (String.ofList part)

/-- `field_name.endswith(suffix)`. -/
def endsWith (suffix : String) (part : List Char) : Bool :=
  suffix.toList.isSuffixOf part

/-- `_is_absolute_path_semantic_path`. -/
def isAbsolutePathSemanticPath (path : String) : Bool :=
  let parts := semanticPathParts path
  let last := (parts.drop (parts.length - 2))
  2 ≤ parts.length
    && (last = ["executor".toList, "path".toList] || last = ["clone_before".toList, "path".toList])

/-- `_is_path_semantic_path`. -/
def isPathSemanticPath (path : String) : Bool :=
  isWord pathFields (semanticFieldName path)
    || (semanticPathParts path).any (isWord pathCollectionFields)

/-- The issue list of a single condition. -/
def issueUnless (ok : Bool) (path : String) (message : Text) : List ValidationIssue :=
  if ok then [] else [⟨path, message⟩]

@[simp] theorem issueUnless_eq_nil {ok : Bool} {path : String} {message : Text} :
    issueUnless ok path message = [] ↔ ok = true := by
  simp [issueUnless]

/-- `_validate_runtime_semantics`, in runtime mode. -/
def validateRuntimeSemantics (path : String) (value : Json) : List ValidationIssue :=
  match value with
  | .str s =>
      let fieldName := semanticFieldName path
      issueUnless (!templatePlaceholders.contains s) path
          "template placeholder is not valid at runtime"
        ++ issueUnless (!(isWord requiredTextFields fieldName && isBlank s)) path
          "must not be empty"
        ++ issueUnless (!endsWith "_at_utc" fieldName || isRfc3339Utc s) path
          "expected RFC 3339 UTC timestamp"
        ++ issueUnless
          (!(isWord ["sha256", "baseline_hash"] fieldName || endsWith "_sha256" fieldName
            || endsWith "_digest" fieldName) || isSha256 s) path
          "expected lowercase SHA-256 hex digest"
        ++ (if isAbsolutePathSemanticPath path then
              issueUnless (isWindowsAbsolutePath s) path "expected normalized absolute Windows path"
            else if isPathSemanticPath path then
              issueUnless (isSafeRelativePath s) path "expected safe relative path"
            else [])
  | _ => []

/-! ## Section 3: The field walk -/

/-- The message for a value of the wrong type. -/
def typeMessage (expected : List PyType) (value : Json) : Text :=
  ["expected ", typeName expected, ", got ", value.typeName].map Piece.text

/-- A value against the type of its list item or map entry. -/
def validateTyped (expected : List PyType) (path : String) (value : Json) :
    List ValidationIssue :=
  if matchesExpectedType value expected then validateRuntimeSemantics path value
  else [⟨path, typeMessage expected value⟩]

/-- The items of a list with their paths. -/
def enumeratePaths (path : String) (items : List Json) : List (String × Json) :=
  (items.zipIdx).map (fun (item, index) => (itemPath path index, item))

/-- The allowed values of a field against its value. -/
def validateAllowed (allowed : Option (List Json)) (path : String) (value : Json) :
    List ValidationIssue :=
  match allowed with
  | none => []
  | some values =>
      issueUnless (values.contains value) path
        [.text "expected one of ", .reprTuple values, .text ", got ", .repr value]

/-- The keys of a mapping that no row of its table names. -/
def unexpectedFields (path : String) (data : Mapping) (table : FieldTable) :
    List ValidationIssue :=
  (data.keys.filter (fun key => !(table.toList.map Prod.fst).contains key)).map
    (fun key => ⟨joinPath path key, "unexpected field"⟩)

mutual

/-- The checks on the value of one field. -/
def validateField (path : String) (value : Json) : FieldSpec → List ValidationIssue
  | .mk expectedType allowedValues fields itemFields itemType mapValueType =>
      if matchesExpectedType value expectedType then
        validateRuntimeSemantics path value
          ++ validateAllowed allowedValues path value
          ++ (if fields.isTable then
                match value.asMapping with
                | some data => unexpectedFields path data fields ++ validateRows path data fields
                | none => []
              else [])
          ++ (if itemFields.isTable then
                (enumeratePaths path (value.asList.getD [])).flatMap (fun entry =>
                  match entry.2.asMapping with
                  | some data =>
                      unexpectedFields entry.1 data itemFields
                        ++ validateRows entry.1 data itemFields
                  | none => [⟨entry.1, "expected mapping"⟩])
              else [])
          ++ (match itemType with
              | some t =>
                  (enumeratePaths path (value.asList.getD [])).flatMap
                    (fun entry => validateTyped t entry.1 entry.2)
              | none => [])
          ++ (match mapValueType, value.asMapping with
              | some t, some data =>
                  data.entries.flatMap (fun entry => validateTyped t (joinPath path entry.1) entry.2)
              | _, _ => [])
      else [⟨path, typeMessage expectedType value⟩]

/-- The rows of a table, in declaration order. -/
def validateRows (path : String) (data : Mapping) : FieldTable → List ValidationIssue
  | .nil => []
  | .cons name field rest =>
      (if data.has name then validateField (joinPath path name) (data.get name) field
        else [⟨joinPath path name, "missing required field"⟩])
      ++ validateRows path data rest

end

/-- `_validate_fields`: the unexpected keys, then every row of the table. -/
def validateFields (path : String) (data : Mapping) (table : FieldTable) : List ValidationIssue :=
  unexpectedFields path data table ++ validateRows path data table

/-! ## Section 4: What an empty issue list says -/

/-- A value that a field specification lets through has its type and is one of its values. -/
structure FieldSpec.Accepts (field : FieldSpec) (value : Json) : Prop where
  type_ok : matchesExpectedType value field.expectedType = true
  value_ok : ∀ values, field.allowedValues = some values → value ∈ values
  items_ok : ∀ expected items, field.itemType = some expected → value = .arr items →
    ∀ item ∈ items, matchesExpectedType item expected = true

private theorem validateTyped_eq_nil {expected : List PyType} {path : String} {value : Json}
    (h : validateTyped expected path value = []) : matchesExpectedType value expected = true := by
  by_contra hne
  simp [validateTyped, hne] at h

/-- A field without issues holds a value its specification accepts. -/
theorem accepts_of_validateField_eq_nil {path : String} {value : Json} {field : FieldSpec}
    (h : validateField path value field = []) : field.Accepts value := by
  obtain ⟨expectedType, allowedValues, fields, itemFields, itemType, mapValueType⟩ := field
  by_cases htype : matchesExpectedType value expectedType = true
  · simp only [validateField, htype, if_true, List.append_eq_nil_iff] at h
    obtain ⟨⟨⟨⟨⟨_, hallowed⟩, _⟩, _⟩, hitems⟩, _⟩ := h
    refine ⟨htype, ?_, ?_⟩
    · rintro values rfl
      simpa [validateAllowed] using hallowed
    · rintro expected items rfl rfl item hmem
      simp only [Json.asList, Option.getD_some, List.flatMap_eq_nil_iff, enumeratePaths,
        List.mem_map, forall_exists_index, and_imp, Prod.forall] at hitems
      obtain ⟨index, hlt, rfl⟩ := List.mem_iff_getElem.mp hmem
      exact validateTyped_eq_nil
        (hitems _ _ items[index] index (List.mk_mem_zipIdx_iff_getElem?.mpr (by simp)) rfl)
  · simp [validateField, htype] at h

/-- **A table walk without issues finds every field of the table.** -/
theorem validateRows_eq_nil_get {path : String} {data : Mapping} {table : FieldTable}
    (h : validateRows path data table = []) :
    ∀ row ∈ table.toList, data.has row.1 = true ∧ row.2.Accepts (data.get row.1) := by
  match table with
  | .nil => simp [FieldTable.toList]
  | .cons name field rest =>
      simp only [validateRows, List.append_eq_nil_iff] at h
      obtain ⟨hfield, hrest⟩ := h
      intro row hrow
      rcases List.mem_cons.mp hrow with rfl | hmem
      · by_cases hhas : data.has name = true
        · simp only [hhas, if_true] at hfield
          exact ⟨hhas, accepts_of_validateField_eq_nil hfield⟩
        · simp [hhas] at hfield
      · exact validateRows_eq_nil_get hrest row hmem

end Acgps
