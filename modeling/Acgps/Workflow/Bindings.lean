import Acgps.Workflow.Checks

/-!
# Bindings of evidence, policy evaluations and human decisions

The three kinds of records that a transition binds. Each is read from its mapping by the validator
of the source and printed back by `toJson`.

## Main Definitions

* `TaggedSource` - a record given by a path or embedded
* `EvidenceBinding`, `PolicyEvaluationBinding`, `DecisionResolutionBinding`
* `validateEvidenceBinding`, `validatePolicyEvaluationBinding`,
  `validateHumanDecisionResolutionBinding`

## Key Theorems

* one `_eq_ok_iff` theorem for each validator: it accepts exactly the printed valid bindings, and
  returns the binding that was printed
-/

namespace Acgps

open Checked

variable [Digest]

/-! ## Section 1: Tagged sources -/

/-- A record that is not `None`. -/
abbrev Embedded := { record : Json // record ≠ .null }

/-- Where a bound record is: in a file, or in the binding itself. -/
inductive TaggedSource where
  | path (path : SafePath)
  | embedded (record : Embedded)

namespace TaggedSource

/-- The value of `source`. -/
def sourceJson : TaggedSource → Json
  | path _ => .str "path"
  | embedded _ => .str "embedded"

/-- The value of `path`. -/
def pathJson : TaggedSource → Json
  | path p => .str p.val
  | embedded _ => .null

/-- The value of `embedded_record`. -/
def recordJson : TaggedSource → Json
  | path _ => .null
  | embedded record => record.val

/-- The value of the hash field of a source that has one. -/
def hashJson : TaggedSource → Json
  | path _ => .null
  | embedded record => .str (canonicalSha record.val)

/-- The digest of an embedded record has the form of a digest. -/
def HashFormed : TaggedSource → Prop
  | path _ => True
  | embedded record => isSha256 (canonicalSha record.val) = true

end TaggedSource

/-- `_validate_tagged_source` on `source: path`. -/
def validatePathSource (data : Mapping) (hashField : Option String) (pre : String) :
    Check TaggedSource := do
  let path ← expect ((data.get "path").asTested isSafeRelativePath)
    (invalidOutcome "WORKFLOW_INVALID_INPUT" (joinPath pre "path")
      "path must be safe relative POSIX path")
  require (data.get "embedded_record" = .null)
    (invalidOutcome "WORKFLOW_INVALID_INPUT" (joinPath pre "embedded_record")
      "embedded_record must be null for path source")
  match hashField with
  | none => .ok (.path path)
  | some field => do
      require (data.get field = .null)
        (invalidOutcome "WORKFLOW_INVALID_INPUT" (joinPath pre field)
          [.text field, .text " must be null for path source"])
      .ok (.path path)

/-- `_validate_tagged_source` on `source: embedded`. -/
def validateEmbeddedSource (data : Mapping) (hashField : Option String) (pre : String) :
    Check TaggedSource := do
  require (data.get "path" = .null)
    (invalidOutcome "WORKFLOW_INVALID_INPUT" (joinPath pre "path")
      "path must be null for embedded source")
  let record ← expect
    (if h : data.get "embedded_record" ≠ .null then some ⟨data.get "embedded_record", h⟩ else none)
    (invalidOutcome "WORKFLOW_INVALID_INPUT" (joinPath pre "embedded_record")
      "embedded_record is required for embedded source")
  match hashField with
  | none => .ok (.embedded record)
  | some field => do
      let sha ← requireSha (data.get field) (joinPath pre field)
      require (canonicalSha record.val = sha.val)
        (invalidOutcome "WORKFLOW_EVIDENCE_HASH_MISMATCH" (joinPath pre field)
          [.text field, .text " does not match embedded_record"])
      .ok (.embedded record)

/-- `_validate_tagged_source`. A list or a mapping cannot be looked up in the set of sources. -/
def validateTaggedSource (data : Mapping) (hashField : Option String) (pre : String) :
    Check TaggedSource := do
  let source := data.get "source"
  require (source.isUnhashable = false)
    (.raised (.interpreter "TypeError" [.text "unhashable type: ", .text source.typeName]))
  if source = .str "path" then validatePathSource data hashField pre
  else if source = .str "embedded" then validateEmbeddedSource data hashField pre
  else
    .error (invalidOutcome "WORKFLOW_INVALID_INPUT" (joinPath pre "source")
      "source must be path or embedded")

omit [Digest] in
private theorem validatePathSource_eq_ok {data : Mapping} {hashField : Option String}
    {pre : String} {s : TaggedSource} :
    validatePathSource data hashField pre = .ok s ↔
      ∃ path, s = .path path ∧ data.get "path" = .str path.val ∧
        data.get "embedded_record" = .null ∧ ∀ field ∈ hashField, data.get field = .null := by
  cases hashField with
  | none =>
      simp only [validatePathSource, bind_eq_ok, expect_eq_ok, Json.asTested_eq_some,
        require_eq_ok, Except.ok.injEq]
      constructor
      · rintro ⟨path, hpath, _, hrecord, rfl⟩
        exact ⟨path, rfl, hpath, hrecord, by simp⟩
      · rintro ⟨path, rfl, hpath, hrecord, _⟩
        exact ⟨path, hpath, (), hrecord, rfl⟩
  | some field =>
      simp only [validatePathSource, bind_eq_ok, expect_eq_ok, Json.asTested_eq_some,
        require_eq_ok, Except.ok.injEq, Option.mem_def, Option.some.injEq, forall_eq']
      constructor
      · rintro ⟨path, hpath, _, hrecord, _, hhash, rfl⟩
        exact ⟨path, rfl, hpath, hrecord, hhash⟩
      · rintro ⟨path, rfl, hpath, hrecord, hhash⟩
        exact ⟨path, hpath, (), hrecord, (), hhash, rfl⟩

private theorem validateEmbeddedSource_eq_ok {data : Mapping} {hashField : Option String}
    {pre : String} {s : TaggedSource} :
    validateEmbeddedSource data hashField pre = .ok s ↔
      ∃ record : Embedded, s = .embedded record ∧ data.get "path" = .null ∧
        data.get "embedded_record" = record.val ∧
        ∀ field ∈ hashField, data.get field = .str (canonicalSha record.val) ∧
          isSha256 (canonicalSha record.val) = true := by
  have hrecord : ∀ record : Embedded,
      (if h : data.get "embedded_record" ≠ .null then
        some (⟨data.get "embedded_record", h⟩ : Embedded) else none) = some record ↔
      data.get "embedded_record" = record.val := by
    rintro ⟨record, hne⟩
    by_cases h : data.get "embedded_record" = .null
    · simp [h, hne.symm]
    · simp [h]
  cases hashField with
  | none =>
      simp only [validateEmbeddedSource, bind_eq_ok, expect_eq_ok, require_eq_ok,
        Except.ok.injEq, hrecord]
      constructor
      · rintro ⟨_, hpath, record, hrec, rfl⟩
        exact ⟨record, rfl, hpath, hrec, by simp⟩
      · rintro ⟨record, rfl, hpath, hrec, _⟩
        exact ⟨(), hpath, record, hrec, rfl⟩
  | some field =>
      simp only [validateEmbeddedSource, bind_eq_ok, expect_eq_ok, require_eq_ok,
        Except.ok.injEq, hrecord, requireSha_eq_ok, Option.mem_def, Option.some.injEq, forall_eq']
      constructor
      · rintro ⟨_, hpath, record, hrec, sha, hsha, _, heq, rfl⟩
        exact ⟨record, rfl, hpath, hrec, by rw [hsha, heq], by rw [heq]; exact sha.property⟩
      · rintro ⟨record, rfl, hpath, hrec, hsha, hformed⟩
        exact ⟨(), hpath, record, hrec, ⟨_, hformed⟩, hsha, (), rfl, rfl⟩

/-- What the four fields of a tagged source say. -/
theorem validateTaggedSource_eq_ok {data : Mapping} {hashField : Option String} {pre : String}
    {s : TaggedSource} :
    validateTaggedSource data hashField pre = .ok s ↔
      data.get "source" = s.sourceJson ∧ data.get "path" = s.pathJson ∧
        data.get "embedded_record" = s.recordJson ∧
        ∀ field ∈ hashField, data.get field = s.hashJson ∧ s.HashFormed := by
  by_cases hpath : data.get "source" = .str "path"
  · simp only [validateTaggedSource, hpath, Json.isUnhashable, bind_eq_ok, require_eq_ok, if_true,
      exists_const, true_and, validatePathSource_eq_ok]
    cases s with
    | path p => simp [TaggedSource.sourceJson, TaggedSource.pathJson, TaggedSource.recordJson,
        TaggedSource.hashJson, TaggedSource.HashFormed]
    | embedded record => simp [TaggedSource.sourceJson]
  · by_cases hembedded : data.get "source" = .str "embedded"
    · simp only [validateTaggedSource, hembedded, Json.isUnhashable, bind_eq_ok, require_eq_ok,
        if_true, exists_const, true_and, validateEmbeddedSource_eq_ok, Json.str.injEq,
        String.reduceEq, if_false]
      cases s with
      | path p => simp [TaggedSource.sourceJson]
      | embedded record => simp [TaggedSource.sourceJson, TaggedSource.pathJson,
          TaggedSource.recordJson, TaggedSource.hashJson, TaggedSource.HashFormed]
    · cases s with
      | path p => simp [validateTaggedSource, hpath, hembedded, TaggedSource.sourceJson]
      | embedded record => simp [validateTaggedSource, hpath, hembedded, TaggedSource.sourceJson]

/-! ## Section 2: Evidence -/

/-- A piece of evidence that an event binds. -/
structure EvidenceBinding where
  bindingId : SafeId
  evidenceKind : { s : String // s ≠ "" }
  source : TaggedSource
  contentSha256 : Sha256Hex
  sizeBytes : Nat
  createdAtUtc : Option Utc

/-- `EVIDENCE_BINDING_FIELDS`. -/
def evidenceBindingFields : List String :=
  ["binding_id", "content_sha256", "created_at_utc", "embedded_record", "embedded_sha256",
    "evidence_kind", "path", "schema_version", "size_bytes", "source"]

omit [Digest] in
theorem evidenceBindingFields_sorted : evidenceBindingFields.Pairwise (· < ·) := by
  decide +kernel

namespace EvidenceBinding

/-- The binding as a mapping. -/
def toMapping (e : EvidenceBinding) : Mapping where
  entries :=
    [("binding_id", .str e.bindingId.val), ("content_sha256", .str e.contentSha256.val),
      ("created_at_utc", Json.ofOption (fun t : Utc => .str t.val) e.createdAtUtc),
      ("embedded_record", e.source.recordJson), ("embedded_sha256", e.source.hashJson),
      ("evidence_kind", .str e.evidenceKind.val), ("path", e.source.pathJson),
      ("schema_version", .int 1), ("size_bytes", .int e.sizeBytes),
      ("source", e.source.sourceJson)]
  sorted := evidenceBindingFields_sorted

/-- The binding as a value. -/
def toJson (e : EvidenceBinding) : Json := e.toMapping.toJson

/-- The digests and the size of an embedded record are those of the record. -/
def Valid (e : EvidenceBinding) : Prop :=
  match e.source with
  | .path _ => True
  | .embedded record =>
      canonicalSha record.val = e.contentSha256.val ∧ record.val.dumps.length = e.sizeBytes

end EvidenceBinding

/-- The size and the digest that a binding states for an embedded record. -/
def validateEmbeddedContent (source : TaggedSource) (contentSha256 : Sha256Hex) (sizeBytes : Nat)
    (pre : String) : Check Unit :=
  match source with
  | .path _ => .ok ()
  | .embedded record => do
      require (canonicalSha record.val = contentSha256.val)
        (invalidOutcome "WORKFLOW_EVIDENCE_HASH_MISMATCH" (joinPath pre "content_sha256")
          "content_sha256 does not match embedded evidence bytes")
      require (record.val.dumps.length = sizeBytes)
        (invalidOutcome "WORKFLOW_EVIDENCE_HASH_MISMATCH" (joinPath pre "size_bytes")
          "size_bytes does not match embedded evidence bytes")

/-- `validate_evidence_binding`. -/
def validateEvidenceBinding (record : Json) (pre : String) : Check EvidenceBinding := do
  let data ← requireMapping record
    (invalidOutcome "WORKFLOW_INVALID_INPUT" (if pre = "" then "$" else pre)
      "evidence binding must be a mapping")
  validateExactMapping data evidenceBindingFields "evidence binding" pre
  validateSchemaVersion (data.get "schema_version") (joinPath pre "schema_version")
  let bindingId ← requireSafeId (data.get "binding_id") (joinPath pre "binding_id")
  let evidenceKind ← requireNonEmptyString (data.get "evidence_kind") (joinPath pre "evidence_kind")
  let contentSha256 ← requireSha (data.get "content_sha256") (joinPath pre "content_sha256")
  let sizeBytes ← requireNonNegativeInt (data.get "size_bytes") (joinPath pre "size_bytes")
  let createdAtUtc ← optionally (validateUtc · (joinPath pre "created_at_utc"))
    (data.get "created_at_utc")
  let source ← validateTaggedSource data (some "embedded_sha256") pre
  validateEmbeddedContent source contentSha256 sizeBytes pre
  return ⟨bindingId, evidenceKind, source, contentSha256, sizeBytes, createdAtUtc⟩

/-- **The evidence validator accepts the printed valid bindings.** -/
theorem validateEvidenceBinding_eq_ok_iff {record : Json} {pre : String} {e : EvidenceBinding} :
    validateEvidenceBinding record pre = .ok e ↔ record = e.toJson ∧ e.Valid := by
  simp only [validateEvidenceBinding, bind_eq_ok, requireMapping_eq_ok,
    validateExactMapping_eq_ok_iff evidenceBindingFields_sorted, validateSchemaVersion_eq_ok,
    requireSafeId_eq_ok, requireNonEmptyString_eq_ok, requireSha_eq_ok,
    requireNonNegativeInt_eq_ok, optionally_validateUtc_eq_ok, validateTaggedSource_eq_ok,
    pure_eq_ok]
  constructor
  · rintro ⟨data, rfl, _, hkeys, _, hversion, id, hid, kind, hkind, sha, hsha, size, hsize, t, ht,
      source, ⟨hsource, hpath, hrecord, hhash⟩, _, hcontent, rfl⟩
    refine ⟨?_, ?_⟩
    · rw [Mapping.toJson, Mapping.entries_eq_map_get, hkeys]
      simp [evidenceBindingFields, EvidenceBinding.toJson, EvidenceBinding.toMapping,
        Mapping.toJson, hid, hsha, ht, hrecord, (hhash _ rfl).1, hkind, hpath, hversion, hsize,
        hsource]
    · cases source with
      | path p => trivial
      | embedded r =>
          simp only [validateEmbeddedContent, bind_eq_ok, require_eq_ok] at hcontent
          obtain ⟨_, hdigest, hlength⟩ := hcontent
          exact ⟨hdigest, hlength⟩
  · rintro ⟨rfl, hvalid⟩
    refine ⟨e.toMapping, rfl, (), rfl, (), rfl, e.bindingId, rfl, e.evidenceKind, rfl,
      e.contentSha256, rfl, e.sizeBytes, rfl, e.createdAtUtc, rfl, e.source,
      ⟨rfl, rfl, rfl, ?_⟩, (), ?_, rfl⟩
    · intro field hfield
      obtain rfl := Option.mem_some_iff.mp hfield
      refine ⟨rfl, ?_⟩
      cases hs : e.source with
      | path p => trivial
      | embedded r =>
          simp only [EvidenceBinding.Valid, hs] at hvalid
          rw [TaggedSource.HashFormed, hvalid.1]
          exact e.contentSha256.property
    · cases hs : e.source with
      | path p => rfl
      | embedded r =>
          simp only [EvidenceBinding.Valid, hs] at hvalid
          simp [validateEmbeddedContent, hvalid.1, hvalid.2]

/-- `_validate_evidence_binding_list`: the identities already seen are refused. -/
def validateEvidenceBindingsFrom (path : String) (index : Nat) (seen : List String) :
    List Json → Check (List EvidenceBinding)
  | [] => .ok []
  | binding :: rest => do
      let evidence ← validateEvidenceBinding binding (itemPath path index)
      require (evidence.bindingId.val ∉ seen)
        (invalidOutcome "WORKFLOW_INVALID_INPUT" (joinPath (itemPath path index) "binding_id")
          "duplicate evidence binding_id")
      let others ← validateEvidenceBindingsFrom path (index + 1) (evidence.bindingId.val :: seen) rest
      return evidence :: others

/-- Evidence bindings with identities of their own, each valid. -/
structure EvidenceListValid (bindings : List EvidenceBinding) : Prop where
  valid : ∀ e ∈ bindings, e.Valid
  nodup : (bindings.map (fun e => e.bindingId.val)).Nodup

private theorem validateEvidenceBindingsFrom_eq_ok {path : String} {index : Nat}
    {seen : List String} {records : List Json} {bindings : List EvidenceBinding} :
    validateEvidenceBindingsFrom path index seen records = .ok bindings ↔
      records = bindings.map EvidenceBinding.toJson ∧ EvidenceListValid bindings ∧
        ∀ e ∈ bindings, e.bindingId.val ∉ seen := by
  induction records generalizing index seen bindings with
  | nil =>
      simp only [validateEvidenceBindingsFrom, Except.ok.injEq]
      constructor
      · rintro rfl
        exact ⟨rfl, ⟨by simp, by simp⟩, by simp⟩
      · rintro ⟨h, _, _⟩
        exact (List.map_eq_nil_iff.mp h.symm).symm
  | cons record records ih =>
      simp only [validateEvidenceBindingsFrom, bind_eq_ok, require_eq_ok, pure_eq_ok, ih,
        validateEvidenceBinding_eq_ok_iff]
      constructor
      · rintro ⟨e, ⟨rfl, he⟩, _, hseen, others, ⟨rfl, hothers, hfresh⟩, rfl⟩
        refine ⟨rfl, ⟨List.forall_mem_cons.mpr ⟨he, hothers.valid⟩, ?_⟩, ?_⟩
        · rw [List.map_cons, List.nodup_cons]
          refine ⟨fun hmem => ?_, hothers.nodup⟩
          obtain ⟨e', he', heq⟩ := List.mem_map.mp hmem
          exact hfresh e' he' (heq ▸ List.mem_cons_self)
        · refine List.forall_mem_cons.mpr ⟨hseen, fun e' he' hmem => ?_⟩
          exact hfresh e' he' (List.mem_cons_of_mem _ hmem)
      · rintro ⟨hmap, hvalid, hseen⟩
        cases bindings with
        | nil => simp at hmap
        | cons e others =>
            simp only [List.map_cons, List.cons.injEq] at hmap
            obtain ⟨rfl, rfl⟩ := hmap
            have hnodup := hvalid.nodup
            rw [List.map_cons, List.nodup_cons] at hnodup
            refine ⟨e, ⟨rfl, hvalid.valid e List.mem_cons_self⟩, (), hseen e List.mem_cons_self,
              others, ⟨rfl, ⟨fun e' he' => hvalid.valid e' (List.mem_cons_of_mem _ he'), hnodup.2⟩,
                fun e' he' hmem => ?_⟩, rfl⟩
            rcases List.mem_cons.mp hmem with heq | hmem
            · exact hnodup.1 (List.mem_map.mpr ⟨e', he', heq⟩)
            · exact hseen e' (List.mem_cons_of_mem _ he') hmem

/-- `_validate_evidence_binding_list`. -/
def validateEvidenceBindingList (records : Json) (path : String) : Check (List EvidenceBinding) := do
  let items ← expect records.asList
    (invalidOutcome "WORKFLOW_INVALID_INPUT" path "evidence bindings must be a list")
  validateEvidenceBindingsFrom path 0 [] items

/-- Evidence bindings as a value. -/
def evidenceListJson (bindings : List EvidenceBinding) : Json :=
  .arr (bindings.map EvidenceBinding.toJson)

theorem validateEvidenceBindingList_eq_ok {records : Json} {path : String}
    {bindings : List EvidenceBinding} :
    validateEvidenceBindingList records path = .ok bindings ↔
      records = evidenceListJson bindings ∧ EvidenceListValid bindings := by
  simp only [validateEvidenceBindingList, bind_eq_ok, expect_eq_ok, Json.asList_eq_some,
    validateEvidenceBindingsFrom_eq_ok, evidenceListJson]
  constructor
  · rintro ⟨_, rfl, rfl, hvalid, _⟩
    exact ⟨rfl, hvalid⟩
  · rintro ⟨rfl, hvalid⟩
    exact ⟨_, rfl, rfl, hvalid, by simp⟩

/-! ## Section 3: Policy evaluations -/

/-- The policy evaluation that an event binds. -/
structure PolicyEvaluationBinding where
  evaluationId : SafeId
  source : TaggedSource
  resultSha256 : Sha256Hex
  policyBundleDigest : Sha256Hex
  authorizedTransitions : List TaskState
  humanGate : Bool
  createdAtUtc : Option Utc

/-- `POLICY_BINDING_FIELDS`. -/
def policyBindingFields : List String :=
  ["authorized_transitions", "created_at_utc", "embedded_record", "evaluation_id", "human_gate",
    "path", "policy_bundle_digest", "result_sha256", "schema_version", "source"]

omit [Digest] in
theorem policyBindingFields_sorted : policyBindingFields.Pairwise (· < ·) := by
  decide +kernel

/-- States as a value. -/
def statesJson (states : List TaskState) : Json := .arr (states.map TaskState.toJson)

namespace PolicyEvaluationBinding

/-- The binding as a mapping. -/
def toMapping (p : PolicyEvaluationBinding) : Mapping where
  entries :=
    [("authorized_transitions", statesJson p.authorizedTransitions),
      ("created_at_utc", Json.ofOption (fun t : Utc => .str t.val) p.createdAtUtc),
      ("embedded_record", p.source.recordJson), ("evaluation_id", .str p.evaluationId.val),
      ("human_gate", .bool p.humanGate), ("path", p.source.pathJson),
      ("policy_bundle_digest", .str p.policyBundleDigest.val),
      ("result_sha256", .str p.resultSha256.val), ("schema_version", .int 1),
      ("source", p.source.sourceJson)]
  sorted := policyBindingFields_sorted

/-- The binding as a value. -/
def toJson (p : PolicyEvaluationBinding) : Json := p.toMapping.toJson

end PolicyEvaluationBinding

/-- `HUMAN_GATE_AUTHORIZED_TRANSITIONS`. -/
def humanGateAuthorizedTransitions : List TaskState := [.waitingHuman, .abandoned]

/-- A policy result that a binding embeds agrees with the binding. -/
structure PolicyRecordValid (p : PolicyEvaluationBinding) (record : Json) : Prop where
  contract : validateContract .policyEvaluationResult record = .ok ()
  digest : canonicalSha record = p.resultSha256.val
  evaluation_id : record.field "evaluation_id" = .str p.evaluationId.val
  policy_bundle_digest : record.field "policy_bundle_digest" = .str p.policyBundleDigest.val
  authorized_transitions :
    (record.field "result").field "authorized_transitions" = statesJson p.authorizedTransitions
  human_gate : (record.field "result").field "human_gate" = .bool p.humanGate

/-- What the validator checks across the fields of a policy binding. -/
structure PolicyEvaluationBinding.Valid (p : PolicyEvaluationBinding) : Prop where
  transitions_nodup : p.authorizedTransitions.Nodup
  human_gate : p.humanGate = true →
    ∀ s ∈ p.authorizedTransitions, s ∈ humanGateAuthorizedTransitions
  embedded : ∀ record, p.source = .embedded record → PolicyRecordValid p record.val

/-- The states of a list of words. -/
def stateList (value : Json) : Option (List TaskState) :=
  value.asList.bind (fun items => items.mapM (fun item => item.asStr.bind TaskState.ofName))

omit [Digest] in
@[simp] theorem stateList_eq_some {value : Json} {states : List TaskState} :
    stateList value = some states ↔ value = statesJson states := by
  have hitems : ∀ items : List Json,
      items.mapM (fun item => item.asStr.bind TaskState.ofName) = some states ↔
        items = states.map TaskState.toJson := by
    intro items
    induction items generalizing states with
    | nil => cases states <;> simp
    | cons item items ih =>
        simp only [List.mapM_cons, Option.bind_eq_bind, Option.bind_eq_some_iff,
          Json.asStr_eq_some, TaskState.ofName_eq_some_iff, Option.pure_def, Option.some.injEq, ih]
        constructor
        · rintro ⟨s, ⟨_, rfl, rfl⟩, ss, rfl, rfl⟩
          rfl
        · intro h
          cases states with
          | nil => simp at h
          | cons s ss =>
              simp only [List.map_cons, List.cons.injEq] at h
              exact ⟨s, ⟨s.name, h.1, rfl⟩, ss, h.2, rfl⟩
  simp only [stateList, Option.bind_eq_some_iff, Json.asList_eq_some, hitems, statesJson]
  constructor
  · rintro ⟨_, rfl, rfl⟩
    rfl
  · rintro rfl
    exact ⟨_, rfl, rfl⟩

/-- `_is_unique_state_list`; a list or a mapping cannot be put into a set. -/
def requireUniqueStateList (value : Json) (rejection : Rejection) : Check (List TaskState) := do
  match (value.asList.getD []).find? Json.isUnhashable with
  | some item =>
      .error (.raised (.interpreter "TypeError" [.text "unhashable type: ", .text item.typeName]))
  | none =>
      let states ← expect (stateList value) rejection
      require states.Nodup rejection
      return states

omit [Digest] in
@[simp] theorem requireUniqueStateList_eq_ok {value : Json} {rejection : Rejection}
    {states : List TaskState} :
    requireUniqueStateList value rejection = .ok states ↔
      value = statesJson states ∧ states.Nodup := by
  unfold requireUniqueStateList
  split
  next item hitem =>
    simp only [reduceCtorEq, false_iff, not_and]
    rintro rfl
    obtain ⟨s, _, rfl⟩ := List.mem_map.mp (List.mem_of_find?_eq_some hitem)
    have htrue := List.find?_some hitem
    simp [TaskState.toJson, Json.isUnhashable] at htrue
  next =>
    simp only [bind_eq_ok, expect_eq_ok, stateList_eq_some, require_eq_ok, pure_eq_ok]
    constructor
    · rintro ⟨_, rfl, _, hnodup, rfl⟩
      exact ⟨rfl, hnodup⟩
    · rintro ⟨rfl, hnodup⟩
      exact ⟨_, rfl, (), hnodup, rfl⟩

/-- The code of a policy binding that is not valid. -/
def policyResultInvalid (path : String) (message : Text) : Rejection :=
  invalidOutcome "WORKFLOW_POLICY_RESULT_INVALID" ("policy_evaluation_binding" ++ path) message

/-- The embedded policy result of a binding. -/
def validatePolicyRecord (p : PolicyEvaluationBinding) (embedded : Json) : Check Unit := do
  catchContract (validateContract .policyEvaluationResult embedded) (fun _ issues =>
    match issues with
    | issue :: _ => policyResultInvalid (".embedded_record." ++ issue.path) issue.message
    | [] => policyResultInvalid ".embedded_record.$" [])
  require (canonicalSha embedded = p.resultSha256.val)
    (policyResultInvalid ".result_sha256" "policy result hash mismatch")
  require (embedded.field "evaluation_id" = .str p.evaluationId.val)
    (policyResultInvalid ".embedded_record.evaluation_id"
      "embedded evaluation_id must match binding")
  require (embedded.field "policy_bundle_digest" = .str p.policyBundleDigest.val)
    (policyResultInvalid ".policy_bundle_digest"
      "policy_bundle_digest must equal embedded PolicyEvaluationResult.v1")
  require ((embedded.field "result").field "authorized_transitions"
      = statesJson p.authorizedTransitions)
    (policyResultInvalid ".authorized_transitions"
      "authorized transitions do not match embedded result")
  require ((embedded.field "result").field "human_gate" = .bool p.humanGate)
    (policyResultInvalid ".human_gate" "human_gate does not match embedded result")

/-- `validate_policy_evaluation_binding`. -/
def validatePolicyEvaluationBinding (record : Json) : Check PolicyEvaluationBinding := do
  let code := "WORKFLOW_POLICY_RESULT_INVALID"
  let pre := "policy_evaluation_binding"
  let data ← requireMapping record (policyResultInvalid "" "policy binding must be a mapping")
  withCode code (validateExactMapping data policyBindingFields "policy binding" pre)
  withCode code (validateSchemaVersion (data.get "schema_version") (joinPath pre "schema_version"))
  let evaluationId ← withCode code
    (requireSafeId (data.get "evaluation_id") (joinPath pre "evaluation_id"))
  let resultSha256 ← withCode code
    (requireSha (data.get "result_sha256") (joinPath pre "result_sha256"))
  let policyBundleDigest ← withCode code
    (requireSha (data.get "policy_bundle_digest") (joinPath pre "policy_bundle_digest"))
  let createdAtUtc ← withCode code
    (optionally (validateUtc · (joinPath pre "created_at_utc")) (data.get "created_at_utc"))
  let humanGate ← expect (data.get "human_gate").asBool
    (policyResultInvalid ".human_gate" "human_gate must be a boolean")
  let authorizedTransitions ← requireUniqueStateList (data.get "authorized_transitions")
    (policyResultInvalid ".authorized_transitions"
      "authorized_transitions must be unique declared states")
  require (humanGate = true → ∀ s ∈ authorizedTransitions, s ∈ humanGateAuthorizedTransitions)
    (policyResultInvalid ".authorized_transitions"
      "human-gated policy bindings may authorize only WAITING_HUMAN or ABANDONED")
  let source ← withCode code (validateTaggedSource data none pre)
  let binding := ⟨evaluationId, source, resultSha256, policyBundleDigest, authorizedTransitions,
    humanGate, createdAtUtc⟩
  match source with
  | .path _ => return binding
  | .embedded embedded => do
      validatePolicyRecord binding embedded.val
      return binding

private theorem validatePolicyRecord_eq_ok {p : PolicyEvaluationBinding} {embedded : Json}
    {u : Unit} : validatePolicyRecord p embedded = .ok u ↔ PolicyRecordValid p embedded := by
  simp only [validatePolicyRecord, bind_eq_ok, catchContract_eq_ok, require_eq_ok]
  constructor
  · rintro ⟨_, h1, _, h2, _, h3, _, h4, _, h5, h6⟩
    exact ⟨h1, h2, h3, h4, h5, h6⟩
  · rintro ⟨h1, h2, h3, h4, h5, h6⟩
    exact ⟨(), h1, (), h2, (), h3, (), h4, (), h5, h6⟩

/-- **The policy validator accepts the printed valid bindings.** -/
theorem validatePolicyEvaluationBinding_eq_ok_iff {record : Json} {p : PolicyEvaluationBinding} :
    validatePolicyEvaluationBinding record = .ok p ↔ record = p.toJson ∧ p.Valid := by
  simp only [validatePolicyEvaluationBinding, bind_eq_ok, requireMapping_eq_ok, withCode_eq_ok,
    validateExactMapping_eq_ok_iff policyBindingFields_sorted, validateSchemaVersion_eq_ok,
    requireSafeId_eq_ok, requireSha_eq_ok, optionally_validateUtc_eq_ok, expect_eq_ok,
    Json.asBool_eq_some, requireUniqueStateList_eq_ok, require_eq_ok, validateTaggedSource_eq_ok]
  constructor
  · rintro ⟨data, rfl, _, hkeys, _, hversion, id, hid, sha, hsha, digest, hdigest, t, ht, gate,
      hgate, states, ⟨hstates, hnodup⟩, _, hgated, source, ⟨hsource, hpath, hrecord, _⟩, hlast⟩
    have hbinding : p = ⟨id, source, sha, digest, states, gate, t⟩ ∧
        ∀ record, source = .embedded record →
          PolicyRecordValid ⟨id, source, sha, digest, states, gate, t⟩ record.val := by
      cases source with
      | path q =>
          simp only [pure_eq_ok] at hlast
          exact ⟨hlast.symm, by simp⟩
      | embedded r =>
          simp only [bind_eq_ok, pure_eq_ok, validatePolicyRecord_eq_ok] at hlast
          obtain ⟨_, hvalid, rfl⟩ := hlast
          refine ⟨rfl, fun record hrec => ?_⟩
          obtain rfl := TaggedSource.embedded.inj hrec
          exact hvalid
    obtain ⟨rfl, hembedded⟩ := hbinding
    refine ⟨?_, hnodup, hgated, hembedded⟩
    rw [Mapping.toJson, Mapping.entries_eq_map_get, hkeys]
    simp [policyBindingFields, PolicyEvaluationBinding.toJson, PolicyEvaluationBinding.toMapping,
      Mapping.toJson, hid, hsha, ht, hrecord, hdigest, hpath, hversion, hgate, hstates, hsource]
  · rintro ⟨rfl, hvalid⟩
    refine ⟨p.toMapping, rfl, (), rfl, (), rfl, p.evaluationId, rfl, p.resultSha256, rfl,
      p.policyBundleDigest, rfl, p.createdAtUtc, rfl, p.humanGate, rfl, p.authorizedTransitions,
      ⟨rfl, hvalid.transitions_nodup⟩, (), hvalid.human_gate, p.source,
      ⟨rfl, rfl, rfl, by simp⟩, ?_⟩
    obtain ⟨id, source, sha, digest, states, gate, t⟩ := p
    cases source with
    | path q => rfl
    | embedded r =>
        simp only [bind_eq_ok, validatePolicyRecord_eq_ok, pure_eq_ok, and_true, exists_const]
        exact hvalid.embedded r rfl

/-! ## Section 4: Human decisions -/

/-- The human-decision resolution that an event binds. -/
structure DecisionResolutionBinding where
  decisionId : SafeId
  projectId : SafeId
  taskId : SafeId
  authorizedTargetState : TaskState
  source : TaggedSource
  resolutionSha256 : Sha256Hex
  resolvedAtUtc : Utc

/-- `DECISION_BINDING_FIELDS`. -/
def decisionBindingFields : List String :=
  ["authorized_target_state", "decision_id", "embedded_record", "path", "project_id",
    "resolution_sha256", "resolved_at_utc", "schema_version", "source", "status", "task_id"]

omit [Digest] in
theorem decisionBindingFields_sorted : decisionBindingFields.Pairwise (· < ·) := by
  decide +kernel

namespace DecisionResolutionBinding

/-- The binding as a mapping. -/
def toMapping (d : DecisionResolutionBinding) : Mapping where
  entries :=
    [("authorized_target_state", d.authorizedTargetState.toJson),
      ("decision_id", .str d.decisionId.val), ("embedded_record", d.source.recordJson),
      ("path", d.source.pathJson), ("project_id", .str d.projectId.val),
      ("resolution_sha256", .str d.resolutionSha256.val),
      ("resolved_at_utc", .str d.resolvedAtUtc.val), ("schema_version", .int 1),
      ("source", d.source.sourceJson), ("status", .str "RESOLVED"),
      ("task_id", .str d.taskId.val)]
  sorted := decisionBindingFields_sorted

/-- The binding as a value. -/
def toJson (d : DecisionResolutionBinding) : Json := d.toMapping.toJson

end DecisionResolutionBinding

/-- An embedded resolution agrees with its binding. -/
structure ResolutionRecordValid (d : DecisionResolutionBinding) (record : Json) : Prop where
  contract : validateContract .humanDecisionResolution record = .ok ()
  decision_id : record.field "decision_id" = .str d.decisionId.val
  project_id : record.field "project_id" = .str d.projectId.val
  task_id : record.field "task_id" = .str d.taskId.val
  status : record.field "status" = .str "RESOLVED"
  resume_state : record.field "resume_state" = d.authorizedTargetState.toJson
  resolved_at_utc : record.field "resolved_at_utc" = .str d.resolvedAtUtc.val

/-- A decision binding embeds the resolution it names: a path would leave the digest of the
resolution empty, which the validator refuses. -/
def DecisionResolutionBinding.Valid (d : DecisionResolutionBinding) : Prop :=
  ∃ record : Embedded, d.source = .embedded record ∧
    canonicalSha record.val = d.resolutionSha256.val ∧ ResolutionRecordValid d record.val

/-- What a decision binding has to agree with; `none` is a check that is not asked for. -/
structure DecisionExpectation where
  targetState : Option TaskState
  projectId : Option SafeId
  taskId : Option SafeId

/-- Nothing is expected. -/
def DecisionExpectation.free : DecisionExpectation := ⟨none, none, none⟩

/-- A binding agrees with an expectation. -/
structure DecisionExpectation.Met (x : DecisionExpectation) (d : DecisionResolutionBinding) :
    Prop where
  targetState : ∀ s ∈ x.targetState, d.authorizedTargetState = s
  projectId : ∀ id ∈ x.projectId, d.projectId = id
  taskId : ∀ id ∈ x.taskId, d.taskId = id

/-- The code of a decision binding that is not valid. -/
def decisionBindingInvalid (path : String) (message : Text) : Rejection :=
  invalidOutcome "WORKFLOW_DECISION_BINDING_INVALID" path message

/-- The embedded resolution of a binding. -/
def validateResolutionRecord (d : DecisionResolutionBinding) (embedded : Json) : Check Unit := do
  let mismatch := fun (field : String) =>
    decisionBindingInvalid ("embedded_record." ++ field) [.text field, .text " mismatch"]
  catchContract (validateContract .humanDecisionResolution embedded) (fun contractName issues =>
    decisionBindingInvalid "embedded_record" (Failure.contractValidation contractName issues).str)
  require (embedded.field "decision_id" = .str d.decisionId.val) (mismatch "decision_id")
  require (embedded.field "project_id" = .str d.projectId.val) (mismatch "project_id")
  require (embedded.field "task_id" = .str d.taskId.val) (mismatch "task_id")
  require (embedded.field "status" = .str "RESOLVED") (mismatch "status")
  require (embedded.field "resume_state" = d.authorizedTargetState.toJson) (mismatch "resume_state")
  require (embedded.field "resolved_at_utc" = .str d.resolvedAtUtc.val) (mismatch "resolved_at_utc")

/-- `validate_human_decision_resolution_binding`. -/
def validateHumanDecisionResolutionBinding (record : Json) (expected : DecisionExpectation) :
    Check DecisionResolutionBinding := do
  let code := "WORKFLOW_DECISION_BINDING_INVALID"
  let data ← requireMapping record
    (decisionBindingInvalid "decision_resolution_binding" "decision binding must be a mapping")
  withCode code (validateExactMapping data decisionBindingFields "decision binding" "")
  withCode code (validateSchemaVersion (data.get "schema_version") "schema_version")
  let decisionId ← withCode code (requireSafeId (data.get "decision_id") "decision_id")
  let projectId ← withCode code (requireSafeId (data.get "project_id") "project_id")
  let taskId ← withCode code (requireSafeId (data.get "task_id") "task_id")
  let _ ← withCode code (requireMember (wordOf ["RESOLVED"]) (data.get "status") "status" code)
  let target ← withCode code (requireMember TaskState.ofName (data.get "authorized_target_state")
    "authorized_target_state" code)
  let resolutionSha256 ← withCode code
    (requireSha (data.get "resolution_sha256") "resolution_sha256")
  let resolvedAtUtc ← withCode code (validateUtc (data.get "resolved_at_utc") "resolved_at_utc")
  require (∀ s ∈ expected.targetState, target = s)
    (decisionBindingInvalid "authorized_target_state"
      "authorized target does not match requested transition target")
  require (∀ id ∈ expected.projectId, projectId = id)
    (decisionBindingInvalid "project_id" "decision project_id mismatch")
  require (∀ id ∈ expected.taskId, taskId = id)
    (decisionBindingInvalid "task_id" "decision task_id mismatch")
  let source ← withCode code (validateTaggedSource data (some "resolution_sha256") "")
  let binding := ⟨decisionId, projectId, taskId, target, source, resolutionSha256, resolvedAtUtc⟩
  match source with
  | .path _ => return binding
  | .embedded embedded => do
      validateResolutionRecord binding embedded.val
      return binding

omit [Digest] in
private theorem validateResolutionRecord_eq_ok {d : DecisionResolutionBinding} {embedded : Json}
    {u : Unit} :
    validateResolutionRecord d embedded = .ok u ↔ ResolutionRecordValid d embedded := by
  simp only [validateResolutionRecord, bind_eq_ok, catchContract_eq_ok, require_eq_ok]
  constructor
  · rintro ⟨_, h1, _, h2, _, h3, _, h4, _, h5, _, h6, h7⟩
    exact ⟨h1, h2, h3, h4, h5, h6, h7⟩
  · rintro ⟨h1, h2, h3, h4, h5, h6, h7⟩
    exact ⟨(), h1, (), h2, (), h3, (), h4, (), h5, (), h6, h7⟩

/-- **The decision validator accepts the printed valid bindings that meet the expectation.** -/
theorem validateHumanDecisionResolutionBinding_eq_ok_iff {record : Json}
    {expected : DecisionExpectation} {d : DecisionResolutionBinding} :
    validateHumanDecisionResolutionBinding record expected = .ok d ↔
      record = d.toJson ∧ d.Valid ∧ expected.Met d := by
  simp only [validateHumanDecisionResolutionBinding, bind_eq_ok, requireMapping_eq_ok,
    withCode_eq_ok, validateExactMapping_eq_ok_iff decisionBindingFields_sorted,
    validateSchemaVersion_eq_ok, requireSafeId_eq_ok, requireSha_eq_ok, requireMember_taskState,
    requireMember_wordOf, validateUtc_eq_ok, require_eq_ok, validateTaggedSource_eq_ok]
  constructor
  · rintro ⟨data, rfl, _, hkeys, _, hversion, id, hid, project, hproject, task, htask, status,
      hstatus, target, htarget, sha, hsha, t, ht, _, hs, _, hp, _, hk, source,
      ⟨hsource, hpath, hrecord, hhash⟩, hlast⟩
    have hresolved : status.val = "RESOLVED" := by simpa using status.property
    cases source with
    | path q =>
        have hnull := (hhash "resolution_sha256" rfl).1
        rw [hsha] at hnull
        simp [TaggedSource.hashJson] at hnull
    | embedded r =>
        simp only [bind_eq_ok, pure_eq_ok, validateResolutionRecord_eq_ok] at hlast
        obtain ⟨_, hvalid, rfl⟩ := hlast
        have hdigest := (hhash "resolution_sha256" rfl).1
        rw [hsha] at hdigest
        simp only [TaggedSource.hashJson, Json.str.injEq] at hdigest
        refine ⟨?_, ⟨r, rfl, hdigest.symm, hvalid⟩, hs, hp, hk⟩
        rw [Mapping.toJson, Mapping.entries_eq_map_get, hkeys]
        simp [decisionBindingFields, DecisionResolutionBinding.toJson,
          DecisionResolutionBinding.toMapping, Mapping.toJson, hid, hproject, htask, hstatus,
          hresolved, htarget, hsha, ht, hsource, hpath, hrecord, hversion]
  · rintro ⟨rfl, ⟨r, hr, hdigest, hvalid⟩, hmet⟩
    refine ⟨d.toMapping, rfl, (), rfl, (), rfl, d.decisionId, rfl, d.projectId, rfl, d.taskId, rfl,
      ⟨"RESOLVED", by simp⟩, rfl, d.authorizedTargetState, rfl, d.resolutionSha256, rfl,
      d.resolvedAtUtc, rfl, (), hmet.targetState, (), hmet.projectId, (), hmet.taskId, d.source,
      ⟨rfl, rfl, rfl, ?_⟩, ?_⟩
    · intro field hfield
      obtain rfl := Option.mem_some_iff.mp hfield
      rw [hr]
      refine ⟨?_, ?_⟩
      · change Json.str d.resolutionSha256.val = _
        rw [TaggedSource.hashJson, hdigest]
      · rw [TaggedSource.HashFormed, hdigest]
        exact d.resolutionSha256.property
    · obtain ⟨id, project, task, target, source, sha, t⟩ := d
      obtain rfl := hr
      simp only [bind_eq_ok, validateResolutionRecord_eq_ok, pure_eq_ok, and_true, exists_const]
      exact hvalid

omit [Digest] in
theorem DecisionExpectation.free_met (d : DecisionResolutionBinding) :
    DecisionExpectation.free.Met d :=
  ⟨by simp [DecisionExpectation.free], by simp [DecisionExpectation.free],
    by simp [DecisionExpectation.free]⟩

/-- A valid decision binding is determined by its value. -/
theorem DecisionResolutionBinding.eq_of_toJson_eq {a b : DecisionResolutionBinding}
    (ha : a.Valid) (hb : b.Valid) (h : a.toJson = b.toJson) : a = b := by
  have hok : ∀ {d : DecisionResolutionBinding}, d.Valid → d.toJson = b.toJson →
      validateHumanDecisionResolutionBinding b.toJson .free = .ok d := fun hd heq =>
    validateHumanDecisionResolutionBinding_eq_ok_iff.mpr ⟨heq.symm, hd, DecisionExpectation.free_met _⟩
  have heq := (hok ha h).symm.trans (hok hb rfl)
  exact Except.ok.inj heq

end Acgps
