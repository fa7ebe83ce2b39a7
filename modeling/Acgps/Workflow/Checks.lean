import Acgps.Contracts.Records

/-!
# The elementary record checks

The checks of `workflow_contracts` on single values. A check that succeeds returns the value it
looked at in the type that carries what was checked, so that no later step tests it again.

## Main Definitions

* `Check` - a check that reports an invalid outcome, or raises
* `validateExactMapping`, `requireSafeId`, `requireSha`, `requirePositiveInt`, `requireMember`,
  `validateUtc` - the checks of the source, under its codes, paths and messages

## Key Theorems

* `validateExactMapping_eq_ok_iff` - the keys of an accepted mapping are the allowed ones
* one `_eq_ok_iff` lemma for each check
-/

namespace Acgps

open Checked

/-- The digest of a value: SHA-256 of its canonical text, in lowercase hexadecimal. -/
class Digest where
  canonicalSha : Json → String

export Digest (canonicalSha)

/-! ## Section 1: Outcomes -/

/-- `WORKFLOW_ERROR_CODES`. -/
def workflowErrorCodes : List String :=
  ["WORKFLOW_INVALID_INPUT", "WORKFLOW_UNKNOWN_STATE", "WORKFLOW_ILLEGAL_TRANSITION",
    "WORKFLOW_POLICY_RESULT_INVALID", "WORKFLOW_HUMAN_GATE_REQUIRED", "WORKFLOW_EVIDENCE_MISSING",
    "WORKFLOW_EVIDENCE_HASH_MISMATCH", "WORKFLOW_AUDIT_CORRUPT", "WORKFLOW_STATE_CORRUPT",
    "WORKFLOW_IDEMPOTENCY_CONFLICT", "WORKFLOW_CONCURRENT_WRITE",
    "WORKFLOW_UNSUPPORTED_SCHEMA_VERSION", "WORKFLOW_TASK_ALREADY_EXISTS",
    "WORKFLOW_DECISION_BINDING_INVALID", "WORKFLOW_TRANSACTION_INCOMPLETE",
    "WORKFLOW_COORDINATED_REWRITE_OUT_OF_SCOPE"]

/-- How a validator ends without accepting: it returns an invalid outcome, or an exception of
something it called goes through it. -/
inductive Rejection where
  | invalid (issue : WorkflowIssue)
  | raised (failure : Failure)
  deriving DecidableEq

/-- A validator's run. -/
abbrev Check (α : Type) := Except Rejection α

/-- `invalid_outcome`: an unregistered code becomes the general one. -/
def invalidOutcome (code path : String) (message : Text) : Rejection :=
  .invalid ⟨if workflowErrorCodes.contains code then code else "WORKFLOW_INVALID_INPUT",
    path, message⟩

/-- `_with_code`. -/
def withCode {α : Type} (code : String) (x : Check α) : Check α :=
  mapError (fun rejection => match rejection with
    | .invalid issue => invalidOutcome code issue.path issue.message
    | .raised failure => .raised failure) x

@[simp] theorem withCode_eq_ok {α : Type} {code : String} {x : Check α} {a : α} :
    withCode code x = .ok a ↔ x = .ok a := by
  simp [withCode]

/-- An exception of a called module, seen by the caller. -/
def raising {α : Type} (x : Outcome α) : Check α := mapError .raised x

@[simp] theorem raising_eq_ok {α : Type} {x : Outcome α} {a : α} :
    raising x = .ok a ↔ x = .ok a := by
  simp [raising]

/-- `except ContractValidationError`: the handler answers, any other exception goes on. -/
def catchContract (x : Outcome Unit) (handler : String → List ValidationIssue → Rejection) :
    Check Unit :=
  mapError (fun failure => match failure with
    | .contractValidation contractName issues => handler contractName issues
    | other => .raised other) x

@[simp] theorem catchContract_eq_ok {x : Outcome Unit}
    {handler : String → List ValidationIssue → Rejection} {u : Unit} :
    catchContract x handler = .ok u ↔ x = .ok u := by
  simp [catchContract]

/-! ## Section 2: Mappings -/

/-- `isinstance(record, dict)`. -/
def requireMapping (record : Json) (rejection : Rejection) : Check Mapping :=
  expect record.asMapping rejection

@[simp] theorem requireMapping_eq_ok {record : Json} {rejection : Rejection} {data : Mapping} :
    requireMapping record rejection = .ok data ↔ record = data.toJson := by
  simp [requireMapping]

/-- `_validate_exact_mapping`. The sets of the source have no order; the first unknown key is
looked for in key order and the first missing one in the order of the list. -/
def validateExactMapping (record : Mapping) (allowed : List String) (label pre : String) :
    Check Unit :=
  match record.keys.find? (fun key => key ∉ allowed) with
  | some key =>
      .error (invalidOutcome "WORKFLOW_INVALID_INPUT" (joinPath pre key)
        [.text "unknown field in ", .text label])
  | none =>
      match allowed.find? (fun key => key ∉ record.keys) with
      | some key =>
          .error (invalidOutcome "WORKFLOW_INVALID_INPUT" (joinPath pre key)
            [.text "missing required field in ", .text label])
      | none => .ok ()

/-- **The keys of an accepted mapping are the allowed ones.** -/
theorem validateExactMapping_eq_ok_iff {record : Mapping} {allowed : List String}
    {label pre : String} {u : Unit} (hallowed : allowed.Pairwise (· < ·)) :
    validateExactMapping record allowed label pre = .ok u ↔ record.keys = allowed := by
  unfold validateExactMapping
  constructor
  · intro h
    split at h
    · simp at h
    next hunknown =>
      split at h
      · simp at h
      next hmissing =>
        refine Mapping.keys_eq_of_mem_iff hallowed (fun key => ⟨fun hkey => ?_, fun hkey => ?_⟩)
        · simpa using List.find?_eq_none.mp hunknown key hkey
        · simpa using List.find?_eq_none.mp hmissing key hkey
  · rintro rfl
    have hnone : record.keys.find? (fun key => key ∉ record.keys) = none := by
      simp
    simp only [hnone]

/-! ## Section 3: Scalars -/

/-- A string that passes a test, in the type that says so. -/
def Json.asTested (test : String → Bool) (value : Json) : Option { s : String // test s = true } :=
  value.asStr.bind (fun s => if h : test s = true then some ⟨s, h⟩ else none)

@[simp] theorem Json.asTested_eq_some {test : String → Bool} {value : Json}
    {s : { s : String // test s = true }} : value.asTested test = some s ↔ value = .str s.val := by
  obtain ⟨s, hs⟩ := s
  cases value with
  | str t =>
      by_cases ht : test t = true
      · simp [Json.asTested, Json.asStr, ht]
      · have hne : t ≠ s := by
          rintro rfl
          exact ht hs
        simp [Json.asTested, Json.asStr, ht, hne]
  | _ => simp [Json.asTested, Json.asStr]

/-- A positive integer. -/
abbrev PosNat := { n : Nat // 1 ≤ n }

/-- A safe relative POSIX path. -/
abbrev SafePath := { s : String // isSafeRelativePath s = true }

/-- `_validate_schema_version`. -/
def validateSchemaVersion (value : Json) (path : String) : Check Unit := do
  let version ← expect value.asInt
    (invalidOutcome "WORKFLOW_INVALID_INPUT" path "schema_version must be an integer")
  require (version = 1)
    (invalidOutcome "WORKFLOW_UNSUPPORTED_SCHEMA_VERSION" path "unsupported schema version")

@[simp] theorem validateSchemaVersion_eq_ok {value : Json} {path : String} {u : Unit} :
    validateSchemaVersion value path = .ok u ↔ value = .int 1 := by
  simp [validateSchemaVersion]

/-- `_require_non_empty_string`. -/
def requireNonEmptyString (value : Json) (path : String) : Check { s : String // s ≠ "" } :=
  expect (value.asStr.bind (fun s => if h : s ≠ "" then some ⟨s, h⟩ else none))
    (invalidOutcome "WORKFLOW_INVALID_INPUT" path "must be a non-empty string")

@[simp] theorem requireNonEmptyString_eq_ok {value : Json} {path : String}
    {s : { s : String // s ≠ "" }} :
    requireNonEmptyString value path = .ok s ↔ value = .str s.val := by
  obtain ⟨s, hs⟩ := s
  rw [requireNonEmptyString, expect_eq_ok]
  cases value with
  | str t =>
      by_cases ht : t = ""
      · subst ht
        simp [Json.asStr, hs.symm]
      · simp [Json.asStr, ht]
  | _ => simp [Json.asStr]

/-- `_require_safe_id`. -/
def requireSafeId (value : Json) (path : String) : Check SafeId :=
  expect (value.asTested isSafeId)
    (invalidOutcome "WORKFLOW_INVALID_INPUT" path "must be a safe non-empty identifier")

@[simp] theorem requireSafeId_eq_ok {value : Json} {path : String} {id : SafeId} :
    requireSafeId value path = .ok id ↔ value = .str id.val := by
  simp [requireSafeId]

/-- `_require_sha`. -/
def requireSha (value : Json) (path : String) : Check Sha256Hex :=
  expect (value.asTested isSha256)
    (invalidOutcome "WORKFLOW_INVALID_INPUT" path "must be a lowercase SHA-256 hex string")

@[simp] theorem requireSha_eq_ok {value : Json} {path : String} {sha : Sha256Hex} :
    requireSha value path = .ok sha ↔ value = .str sha.val := by
  simp [requireSha]

/-- `_require_bool`, and the test `type(value) is bool` that other checks make themselves. -/
def Json.asBool : Json → Option Bool
  | .bool b => some b
  | _ => none

@[simp] theorem Json.asBool_eq_some {value : Json} {b : Bool} :
    value.asBool = some b ↔ value = .bool b := by
  cases value <;> simp [Json.asBool]

/-- `_require_non_negative_int`. -/
def requireNonNegativeInt (value : Json) (path : String) : Check Nat :=
  expect (value.asInt.bind Int.toNat?)
    (invalidOutcome "WORKFLOW_INVALID_INPUT" path "must be a non-negative integer")

@[simp] theorem requireNonNegativeInt_eq_ok {value : Json} {path : String} {n : Nat} :
    requireNonNegativeInt value path = .ok n ↔ value = .int n := by
  simp [requireNonNegativeInt, Option.bind_eq_some_iff, Int.mem_toNat?]

/-- `_require_positive_int`. -/
def requirePositiveInt (value : Json) (path : String) : Check PosNat :=
  expect ((value.asInt.bind Int.toNat?).bind (fun n => if h : 1 ≤ n then some ⟨n, h⟩ else none))
    (invalidOutcome "WORKFLOW_INVALID_INPUT" path "must be a positive integer")

@[simp] theorem requirePositiveInt_eq_ok {value : Json} {path : String} {n : PosNat} :
    requirePositiveInt value path = .ok n ↔ value = .int n.val := by
  obtain ⟨n, hn⟩ := n
  simp only [requirePositiveInt, expect_eq_ok, Option.bind_eq_some_iff, Json.asInt_eq_some,
    Int.mem_toNat?, Option.dite_none_right_eq_some, Option.some.injEq, Subtype.mk.injEq]
  constructor
  · rintro ⟨m, ⟨k, rfl, rfl⟩, _, rfl⟩
    rfl
  · rintro rfl
    exact ⟨n, ⟨n, rfl, rfl⟩, hn, rfl⟩

/-- `_require_member`: a word of a vocabulary, read as what it names. -/
def requireMember {α : Type} (ofName : String → Option α) (value : Json) (path code : String) :
    Check α :=
  expect (value.asStr.bind ofName) (invalidOutcome code path "unknown or invalid value")

theorem requireMember_eq_ok {α : Type} {ofName : String → Option α} (name : α → String)
    (hname : ∀ word a, ofName word = some a ↔ word = name a) {value : Json} {path code : String}
    {a : α} : requireMember ofName value path code = .ok a ↔ value = .str (name a) := by
  simp only [requireMember, expect_eq_ok, Option.bind_eq_some_iff, Json.asStr_eq_some, hname]
  constructor
  · rintro ⟨_, rfl, rfl⟩
    rfl
  · rintro rfl
    exact ⟨_, rfl, rfl⟩

@[simp] theorem requireMember_taskState {value : Json} {path code : String} {s : TaskState} :
    requireMember TaskState.ofName value path code = .ok s ↔ value = s.toJson :=
  requireMember_eq_ok _ (fun _ _ => TaskState.ofName_eq_some_iff)

@[simp] theorem requireMember_actor {value : Json} {path code : String} {a : Actor} :
    requireMember Actor.ofName value path code = .ok a ↔ value = a.toJson :=
  requireMember_eq_ok _ (fun _ _ => Actor.ofName_eq_some_iff)

@[simp] theorem requireMember_eventType {value : Json} {path code : String} {t : EventType} :
    requireMember EventType.ofName value path code = .ok t ↔ value = t.toJson :=
  requireMember_eq_ok _ (fun _ _ => EventType.ofName_eq_some_iff)

/-- A word of a word list, as itself. -/
def wordOf (words : List String) (word : String) : Option { s : String // s ∈ words } :=
  if h : word ∈ words then some ⟨word, h⟩ else none

@[simp] theorem requireMember_wordOf {words : List String} {value : Json} {path code : String}
    {word : { s : String // s ∈ words }} :
    requireMember (wordOf words) value path code = .ok word ↔ value = .str word.val := by
  refine requireMember_eq_ok Subtype.val (fun s w => ?_)
  obtain ⟨w, hw⟩ := w
  by_cases hs : s ∈ words
  · simp [wordOf, hs]
  · have hne : s ≠ w := by
      rintro rfl
      exact hs hw
    simp [wordOf, hs, hne]

/-- `_validate_utc`: the form, the instant, and the canonical spelling of its digits. -/
def validateUtc (value : Json) (path : String) : Check Utc := do
  let s ← expect (value.asStr.filter (fun s => matchesTemplate isDecimal utcTemplate s.toList))
    (invalidOutcome "WORKFLOW_INVALID_INPUT" path "must be an RFC3339 UTC timestamp")
  require ((strptimeUtc s.toList).isSome = true)
    (invalidOutcome "WORKFLOW_INVALID_INPUT" path "must be a valid RFC3339 UTC timestamp")
  expect (value.asTested isUtc)
    (invalidOutcome "WORKFLOW_INVALID_INPUT" path "must be a canonical RFC3339 UTC timestamp")

@[simp] theorem validateUtc_eq_ok {value : Json} {path : String} {t : Utc} :
    validateUtc value path = .ok t ↔ value = .str t.val := by
  simp only [validateUtc, bind_eq_ok, expect_eq_ok, require_eq_ok, Json.asTested_eq_some,
    Option.filter_eq_some_iff, Json.asStr_eq_some]
  constructor
  · rintro ⟨_, _, _, _, h⟩
    exact h
  · rintro rfl
    have ht := t.property
    simp only [isUtc, Bool.and_eq_true] at ht
    exact ⟨t.val, ⟨rfl, matchesTemplate_mono (fun _ => isDecimal_of_isDigit) ht.1⟩, (), ht.2, rfl⟩

/-- `_validate_optional_utc` and the other checks of a value that may be null. -/
def optionally {α : Type} (check : Json → Check α) (value : Json) : Check (Option α) :=
  if value = .null then .ok none else some <$> check value

theorem optionally_eq_ok {α : Type} {check : Json → Check α} {toJson : α → Json}
    (hcheck : ∀ value a, check value = .ok a ↔ value = toJson a)
    (hnull : ∀ a, toJson a ≠ .null) {value : Json} {a : Option α} :
    optionally check value = .ok a ↔ value = Json.ofOption toJson a := by
  by_cases hvalue : value = .null
  · cases a with
    | none => simp [optionally, hvalue]
    | some a => simp [optionally, hvalue, (hnull a).symm]
  · cases a with
    | none => simp [optionally, hvalue]
    | some a => simp [optionally, hvalue, hcheck]

/-- An optional timestamp field. -/
theorem optionally_validateUtc_eq_ok {path : String} {value : Json} {t : Option Utc} :
    optionally (validateUtc · path) value = .ok t ↔
      value = Json.ofOption (fun t : Utc => .str t.val) t :=
  optionally_eq_ok (fun _ _ => validateUtc_eq_ok) (by simp)

end Acgps
