import Acgps.Policy.Evaluation

/-!
# Policy documents

The parsed policy files and the checks that the validators of the loader share. A dictionary keeps
the order of its text here, because the declarations of a policy are read in this order.

## Main Definitions

* `Document` - a dictionary of a policy file
* `Json.canonical` - a value with the members of every dictionary in key order
* `requireExactFields`, `requireStringList` - the checks on a dictionary and on a set-like list

## Key Theorems

* `requireStringList_eq_ok_iff` - a set-like list is a list of different texts, none of them empty
-/

namespace Acgps

open Checked

/-! ## Section 1: Dictionaries -/

/-- A dictionary of a policy file, in the order of its text; the reader of the files rejects a
repeated key. -/
abbrev Document := List (String × Json)

/-- `isinstance(value, dict)`, with the members. -/
def Json.asDocument : Json → Option Document
  | .obj members => some members
  | _ => none

@[simp] theorem Json.asDocument_eq_some {v : Json} {doc : Document} :
    v.asDocument = some doc ↔ v = .obj doc := by
  cases v <;> simp [asDocument]

/-- `doc.get(key)`. -/
def docGet (doc : Document) (key : String) : Json := (doc.lookup key).getD .null

/-- `key in doc`. -/
def docHas (doc : Document) (key : String) : Bool := (doc.map Prod.fst).contains key

mutual

/-- The members of every dictionary in key order. -/
def Json.canonical : Json → Json
  | .null => .null
  | .bool b => .bool b
  | .int n => .int n
  | .float repr => .float repr
  | .str s => .str s
  | .arr items => .arr (canonicalItems items)
  | .obj members => (Mapping.ofPairs (canonicalMembers members)).toJson

/-- The items of a list, each in key order. -/
def Json.canonicalItems : List Json → List Json
  | [] => []
  | v :: rest => v.canonical :: canonicalItems rest

/-- The members of a dictionary, each in key order. -/
def Json.canonicalMembers : List (String × Json) → List (String × Json)
  | [] => []
  | (k, v) :: rest => (k, v.canonical) :: canonicalMembers rest

end

/-! ## Section 2: Fields -/

/-- An error for the first of the names that are in the way, in alphabetical order. -/
def refuseFirst (names : List String) (error : String → PolicyError) : Except PolicyError Unit :=
  match names.min? with
  | some name => .error (error name)
  | none => .ok ()

/-- `_require_exact_fields`; the optional fields are the allowed ones that may be missing. -/
def requireExactFields (doc : Document) (required optional : List String) (logicalPath : String) :
    Except PolicyError Unit := do
  refuseFirst (required.filter (fun name => !docHas doc name)) (fun name =>
    ⟨"POLICY_TYPE_ERROR", logicalPath ++ ":" ++ name, [.text name, .text " missing required field"]⟩)
  refuseFirst ((doc.map Prod.fst).filter (fun name => !(required ++ optional).contains name))
    (fun name => ⟨"POLICY_UNKNOWN_FIELD", logicalPath ++ ":" ++ name,
      [.text "unexpected policy field ", .text name]⟩)

/-- `_require_policy_id`. -/
def requirePolicyId (doc : Document) (logicalPath policyId : String) : Except PolicyError Unit := do
  let given ← expect ((docGet doc "policy_id").asStr.filter (· ≠ ""))
    ⟨"POLICY_TYPE_ERROR", logicalPath ++ ":policy_id", "policy_id must be a non-empty string"⟩
  require (given = policyId)
    ⟨"POLICY_UNKNOWN_ID", logicalPath ++ ":policy_id", "unknown policy_id"⟩

/-- `_require_mapping`. -/
def requirePolicyMapping (value : Json) (path : String) : Except PolicyError Document :=
  expect value.asDocument ⟨"POLICY_TYPE_ERROR", path, "expected mapping"⟩

/-- A boolean field. -/
def requireBool (value : Json) (path : String) (message : Text) : Except PolicyError Bool :=
  match value with
  | .bool b => .ok b
  | _ => .error ⟨"POLICY_TYPE_ERROR", path, message⟩

/-- A text that is not empty. -/
def requireText (value : Json) (path : String) (message : Text) : Except PolicyError String :=
  expect (value.asStr.filter (· ≠ "")) ⟨"POLICY_TYPE_ERROR", path, message⟩

/-- `value in container`: only hashable values are looked up in a dictionary, and only texts in a
text. -/
def declares (container value : Json) : Except PolicyError Bool :=
  match container, value with
  | .obj members, .str key => .ok (docHas members key)
  | .obj _, value => if value.isUnhashable then .error (failedClosed "TypeError") else .ok false
  | .arr items, value => .ok (items.contains value)
  | .str s, .str part => .ok (s.toList.tails.any (fun rest => part.toList.isPrefixOf rest))
  | _, _ => .error (failedClosed "TypeError")

/-- A dictionary has the given keys, and no others; a missing one is reported before an extra
one. -/
def requireSameKeys (doc : Document) (keys : List String) (missing extra : String → PolicyError) :
    Except PolicyError Unit := do
  refuseFirst (keys.filter (fun key => !docHas doc key)) missing
  refuseFirst ((doc.map Prod.fst).filter (fun key => !keys.contains key)) extra

/-! ## Section 3: Set-like lists -/

/-- `_duplicate_item`; an item that cannot be hashed stops the search. -/
def rejectRepeated (error : Nat → PolicyError) (seen : List Json) (index : Nat) :
    List Json → Except PolicyError Unit
  | [] => .ok ()
  | item :: rest => do
      require (item.isUnhashable = false) (failedClosed "TypeError")
      require (item ∉ seen) (error index)
      rejectRepeated error (item :: seen) (index + 1) rest

/-- `_require_string_list`. -/
def requireStringList (value : Json) (path : String) : Except PolicyError (List String) := do
  let items ← expect value.asList ⟨"POLICY_TYPE_ERROR", path, "expected list of strings"⟩
  rejectRepeated (fun index => ⟨"POLICY_DUPLICATE_SET_MEMBER", itemPath path index,
    "duplicate set-like policy value"⟩) [] 0 items
  items.zipIdx.mapM (fun (item, index) => expect (item.asStr.filter (· ≠ ""))
    ⟨"POLICY_TYPE_ERROR", itemPath path index, "expected non-empty string"⟩)

/-- Every word of a list is a known one. -/
def requireKnown (words : List String) (known : List String) (path : String) (message : Text) :
    Except PolicyError Unit :=
  forM words.zipIdx (fun (word, index) =>
    require (word ∈ known) ⟨"POLICY_UNKNOWN_ID", itemPath path index, message⟩)

/-! ## Section 4: What the checks say -/

theorem rejectRepeated_eq_ok_iff {error : Nat → PolicyError} {u : Unit} :
    ∀ {items seen : List Json} {index : Nat}, rejectRepeated error seen index items = .ok u ↔
      (∀ item ∈ items, item.isUnhashable = false) ∧ items.Nodup ∧ ∀ item ∈ items, item ∉ seen
  | [], _, _ => by simp [rejectRepeated]
  | item :: rest, seen, index => by
      simp only [rejectRepeated, bind_eq_ok, require_eq_ok, exists_const, rejectRepeated_eq_ok_iff,
        List.nodup_cons]
      rw [List.forall_mem_cons, List.forall_mem_cons]
      simp only [List.mem_cons, not_or]
      constructor
      · rintro ⟨hhash, hnew, hhashes, hnodup, hrest⟩
        exact ⟨⟨hhash, hhashes⟩, ⟨fun hmem => (hrest item hmem).1 rfl, hnodup⟩, hnew,
          fun other hother => (hrest other hother).2⟩
      · rintro ⟨⟨hhash, hhashes⟩, ⟨hnot, hnodup⟩, hnew, hrest⟩
        exact ⟨hhash, hnew, hhashes, hnodup,
          fun other hother => ⟨fun heq => hnot (heq ▸ hother), hrest other hother⟩⟩

/-- **A set-like list** is a list of different texts, none of them empty. -/
theorem requireStringList_eq_ok_iff {value : Json} {path : String} {words : List String} :
    requireStringList value path = .ok words ↔
      value = Json.strs words ∧ words.Nodup ∧ "" ∉ words := by
  have hitems : ∀ items : List Json,
      List.Forall₂ (fun item word => item.1 = Json.str word ∧ word ≠ "") items.zipIdx words ↔
        items = words.map Json.str ∧ "" ∉ words := by
    intro items
    rw [forall₂_zipIdx_iff (fun item word => item = Json.str word ∧ word ≠ "")]
    induction words generalizing items with
    | nil => simp
    | cons word words ih =>
        rw [List.forall₂_cons_right_iff, List.map_cons, List.mem_cons, not_or]
        constructor
        · rintro ⟨item, rest, ⟨rfl, hword⟩, hrest, rfl⟩
          obtain ⟨rfl, hwords⟩ := (ih rest).mp hrest
          exact ⟨rfl, Ne.symm hword, hwords⟩
        · rintro ⟨rfl, hword, hwords⟩
          exact ⟨_, _, ⟨rfl, Ne.symm hword⟩, (ih _).mpr ⟨rfl, hwords⟩, rfl⟩
  simp only [requireStringList, bind_eq_ok, expect_eq_ok, Json.asList_eq_some,
    rejectRepeated_eq_ok_iff, mapM_eq_ok_iff, Option.filter_eq_some_iff, Json.asStr_eq_some,
    decide_eq_true_eq, hitems, List.not_mem_nil, not_false_eq_true, implies_true, and_true,
    exists_const, Json.strs]
  constructor
  · rintro ⟨items, rfl, ⟨_, hnodup⟩, rfl, hempty⟩
    exact ⟨rfl, hnodup.of_map _, hempty⟩
  · rintro ⟨rfl, hnodup, hempty⟩
    refine ⟨_, rfl, ⟨?_, hnodup.map (fun _ _ h => Json.str.inj h)⟩, rfl, hempty⟩
    intro item hitem
    obtain ⟨word, -, rfl⟩ := List.mem_map.mp hitem
    rfl

theorem requireKnown_eq_ok_iff {words known : List String} {path : String} {message : Text}
    {u : Unit} : requireKnown words known path message = .ok u ↔ ∀ word ∈ words, word ∈ known := by
  simp only [requireKnown, forM_eq_ok_iff, require_eq_ok]
  exact forall_mem_zipIdx_iff (· ∈ known)

theorem refuseFirst_eq_ok_iff {names : List String} {error : String → PolicyError} {u : Unit} :
    refuseFirst names error = .ok u ↔ names = [] := by
  rw [← List.min?_eq_none_iff, refuseFirst]
  cases names.min? <;> simp

theorem requireSameKeys_eq_ok_iff {doc : Document} {keys : List String}
    {missing extra : String → PolicyError} {u : Unit} :
    requireSameKeys doc keys missing extra = .ok u ↔
      (∀ key ∈ keys, key ∈ doc.map Prod.fst) ∧ ∀ key ∈ doc.map Prod.fst, key ∈ keys := by
  simp only [requireSameKeys, bind_eq_ok, refuseFirst_eq_ok_iff, exists_const,
    List.filter_eq_nil_iff, docHas]
  simp

end Acgps
