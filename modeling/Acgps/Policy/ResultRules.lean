import Acgps.Policy.RecordContracts

/-!
# The rules for a decided result

`validate_contract` on a result that has not failed: the words of every list stand in the order of
their vocabulary, and the provenance is made of policy fields in the order of the policy files.

## Main Definitions

* `PolicyResult.Regular` - what every decision is by the way it is made
* `PolicyResult.Ordered` - what the contract asks beyond that

## Key Theorems

* `validatePolicyResultListVocab_iff` - the rule for one list
* `validateProvenanceFrom_iff` - the rule for the provenance
* `resultAccepted_iff` - **the contract of a regular result is its order**
-/

namespace Acgps

open Checked

/-! ## Section 1: Word lists -/

/-- A value stands among the values marked as repeated or not. -/
theorem exists_mem_repeatedBefore {α : Type} [DecidableEq α] {a : α} {l : List α} (h : a ∈ l) :
    ∀ seen : List α, ∃ repeated, (a, repeated) ∈ repeatedBefore seen l := by
  induction l with
  | nil => exact absurd h List.not_mem_nil
  | cons b l ih =>
      intro seen
      rcases List.mem_cons.mp h with rfl | hmem
      · exact ⟨_, List.mem_cons_self⟩
      · obtain ⟨repeated, hrest⟩ := ih hmem (b :: seen)
        exact ⟨repeated, List.mem_cons_of_mem _ hrest⟩

/-- **The rule for a list**: different words of the vocabulary, in its order if that is asked. -/
theorem validatePolicyResultListVocab_iff {result : Mapping} {fieldName : String}
    {vocabulary words : List String} {enforceOrder : Bool}
    (hget : result.get fieldName = Json.strs words) :
    validatePolicyResultListVocab result fieldName vocabulary enforceOrder = [] ↔
      words.Nodup ∧ (∀ s ∈ words, s ∈ vocabulary) ∧
        (enforceOrder = true → words = vocabulary.filter (· ∈ words)) := by
  constructor
  · intro h
    have hwords : (words.map Json.str).filterMap Json.asStr = words := by
      rw [List.filterMap_map]
      exact List.filterMap_some
    simp only [validatePolicyResultListVocab, hget, Json.strs, Json.asList, hwords,
      List.append_eq_nil_iff, List.flatMap_eq_nil_iff, issueUnless_eq_nil] at h
    obtain ⟨hitems, horder⟩ := h
    have hvalues : ∀ entry ∈ repeatedBefore [] (words.map Json.str), entry.2 = false ∧
        ∀ s, entry.1 = .str s → s ∈ vocabulary := by
      intro entry hentry
      obtain ⟨index, hlt, rfl⟩ := List.mem_iff_getElem.mp hentry
      have hitem := hitems ((repeatedBefore [] (words.map Json.str))[index], index)
        (List.mk_mem_zipIdx_iff_getElem?.mpr (by simp))
      have hmem := fst_mem_of_mem_repeatedBefore hentry
      obtain ⟨s, -, hs⟩ := List.mem_map.mp hmem
      simp only [← hs, Json.asStr, List.append_eq_nil_iff, issueUnless_eq_nil] at hitem
      refine ⟨by simpa using hitem.1, fun s' hs' => ?_⟩
      obtain rfl := Json.str.inj (hs.trans hs')
      simpa using hitem.2
    have hfresh : ∀ entry ∈ repeatedBefore [] (words.map Json.str), entry.2 = false :=
      fun entry hentry => (hvalues entry hentry).1
    obtain ⟨hnodup, -⟩ := repeatedBefore_eq_false_iff.mp hfresh
    refine ⟨hnodup.of_map, fun s hs => ?_, ?_⟩
    · have hvalue : Json.str s ∈ words.map Json.str := List.mem_map_of_mem hs
      obtain ⟨repeated, hmem⟩ := exists_mem_repeatedBefore hvalue []
      exact (hvalues _ hmem).2 s rfl
    · rintro rfl
      apply List.map_injective_iff.mpr (fun _ _ h => Json.str.inj h)
      simpa [List.contains_eq_mem] using horder
  · rintro ⟨hnodup, hsubset, horder⟩
    apply validatePolicyResultListVocab_eq_nil hget hnodup hsubset
    simpa [List.contains_eq_mem] using horder

/-- The words stand in the order of the vocabulary. -/
def InOrder (vocabulary words : List String) : Prop := words = vocabulary.filter (· ∈ words)

instance (vocabulary words : List String) : Decidable (InOrder vocabulary words) :=
  inferInstanceAs (Decidable (_ = _))

/-- The rule for a list in order. -/
theorem validatePolicyResultListVocab_ordered_iff {result : Mapping} {fieldName : String}
    {vocabulary words : List String} (hvocabulary : vocabulary.Nodup)
    (hget : result.get fieldName = Json.strs words) :
    validatePolicyResultListVocab result fieldName vocabulary true = [] ↔
      InOrder vocabulary words := by
  rw [validatePolicyResultListVocab_iff hget]
  constructor
  · exact fun h => h.2.2 rfl
  · intro h
    refine ⟨?_, fun s hs => ?_, fun _ => h⟩
    · rw [h]
      exact hvocabulary.filter _
    · rw [h] at hs
      exact (List.mem_filter.mp hs).1

theorem InOrder.subset {vocabulary words : List String} (h : InOrder vocabulary words) :
    ∀ s ∈ words, s ∈ vocabulary := by
  intro s hs
  rw [h] at hs
  exact (List.mem_filter.mp hs).1

/-- The names of different states are different words of the vocabulary. -/
theorem states_vocab {result : Mapping} {fieldName : String} {states : List TaskState}
    (hget : result.get fieldName = .arr (states.map TaskState.toJson)) (hnodup : states.Nodup) :
    validatePolicyResultListVocab result fieldName taskStates false = [] := by
  have hstrs : result.get fieldName = Json.strs (states.map TaskState.name) := by
    rw [hget, Json.strs, List.map_map]
    rfl
  apply (validatePolicyResultListVocab_iff hstrs).mpr
  refine ⟨hnodup.map TaskState.name_injective, fun word hword => ?_,
    fun h => absurd h Bool.false_ne_true⟩
  obtain ⟨s, -, rfl⟩ := List.mem_map.mp hword
  exact List.mem_map_of_mem (TaskState.mem_all s)

/-! ## Section 2: Provenance -/

/-- The place of a policy file among the files, by a field of it. -/
def policyGroup (word : String) : Nat := provenanceOrderGroup (.str word)

/-- The provenance is made of different policy fields in the order of the policy files. -/
structure ProvenanceOrdered (words : List String) : Prop where
  nodup : words.Nodup
  order : words.Pairwise (fun a b => policyGroup a ≤ policyGroup b)
  fields : ∀ word ∈ words, isProvenance word = true

/-- **The rule for the provenance**, behind what was seen. -/
theorem validateProvenanceFrom_iff {words : List String} : ∀ {index : Nat}
    {before : Option String} {seen : List Json},
    validateProvenanceFrom index (before.map Json.str) seen (words.map Json.str) = [] ↔
      ProvenanceOrdered words ∧ (∀ b ∈ before, ∀ word ∈ words, policyGroup b ≤ policyGroup word) ∧
        ∀ word ∈ words, Json.str word ∉ seen := by
  induction words with
  | nil =>
      intro index before seen
      have hempty : ∀ {p : String → Prop}, ∀ word ∈ ([] : List String), p word := by
        intro p word hword
        cases hword
      exact iff_of_true rfl ⟨⟨.nil, .nil, hempty⟩, fun _ _ => hempty, hempty⟩
  | cons word rest ih =>
      intro index before seen
      have hbefore : ((before.map Json.str).map provenanceOrderGroup).any
          (provenanceOrderGroup (.str word) < ·) = true ↔
          ∃ b ∈ before, policyGroup word < policyGroup b := by
        cases before with
        | none => simp
        | some b => simp [policyGroup]
      have hrest := @ih (index + 1) (some word) (.str word :: seen)
      rw [Option.map_some] at hrest
      rw [List.map_cons, validateProvenanceFrom]
      simp only [Json.asStr, List.append_eq_nil_iff, issueUnless_eq_nil, hbefore,
        Bool.not_eq_true', List.contains_eq_mem, decide_eq_false_iff_not]
      by_cases hlate : ∃ b ∈ before, policyGroup word < policyGroup b
      · rw [if_pos hlate]
        refine iff_of_false (fun h => List.cons_ne_nil _ _ h.2) (fun h => ?_)
        obtain ⟨b, hb, hlt⟩ := hlate
        exact absurd (h.2.1 b hb word List.mem_cons_self) (Nat.not_le.mpr hlt)
      · rw [if_neg hlate, hrest]
        have hle : ∀ b ∈ before, policyGroup b ≤ policyGroup word := fun b hb =>
          Nat.not_lt.mp (fun hlt => hlate ⟨b, hb, hlt⟩)
        constructor
        · rintro ⟨⟨hfresh, hfield⟩, hordered, hfirst, hseen⟩
          have hnotin : word ∉ rest := fun hmem => (hseen word hmem) List.mem_cons_self
          refine ⟨⟨List.nodup_cons.mpr ⟨hnotin, hordered.nodup⟩,
            List.pairwise_cons.mpr ⟨hfirst word rfl, hordered.order⟩,
            List.forall_mem_cons.mpr ⟨hfield, hordered.fields⟩⟩, ?_, ?_⟩
          · intro b hb
            refine List.forall_mem_cons.mpr ⟨hle b hb, fun w hw => ?_⟩
            exact (hle b hb).trans (hfirst word rfl w hw)
          · refine List.forall_mem_cons.mpr ⟨hfresh, fun w hw hmem => ?_⟩
            exact hseen w hw (List.mem_cons_of_mem _ hmem)
        · rintro ⟨⟨hnodup, horder, hfields⟩, -, hseen⟩
          obtain ⟨hnotin, hnodup⟩ := List.nodup_cons.mp hnodup
          obtain ⟨hfirst, horder⟩ := List.pairwise_cons.mp horder
          obtain ⟨hfield, hfields⟩ := List.forall_mem_cons.mp hfields
          obtain ⟨hfresh, hseen⟩ := List.forall_mem_cons.mp hseen
          refine ⟨⟨hfresh, hfield⟩, ⟨hnodup, horder, hfields⟩, ?_, fun w hw hmem => ?_⟩
          · intro b hb w hw
            obtain rfl := Option.some.inj hb
            exact hfirst w hw
          · rcases List.mem_cons.mp hmem with heq | hmem
            · exact hnotin (Json.str.inj heq ▸ hw)
            · exact hseen w hw hmem

/-- A policy field is no template placeholder. -/
theorem noPlaceholder_of_isProvenance {word : String} (h : isProvenance word = true) :
    word ∉ templatePlaceholders := by
  have hplaceholder : ∀ p ∈ templatePlaceholders, isProvenance p = false := by decide +kernel
  intro hmem
  rw [hplaceholder word hmem] at h
  cases h

/-- A character of a policy field. -/
def isFieldChar (c : Char) : Bool := c.isAlphanum || "_.[]-".toList.contains c

/-- A policy field with more characters behind it is a policy field. -/
theorem isProvenance_append {field word : String} (hfield : isProvenance field = true)
    (hline : field.toList.getLast? ≠ some '\n') (hword : word.toList.all isFieldChar = true) :
    isProvenance (field ++ word) = true := by
  simp only [isProvenance, Bool.and_eq_true, decide_eq_true_eq] at hfield
  obtain ⟨⟨⟨⟨hlength, hsource⟩, hyaml⟩, hne⟩, hchars⟩ := hfield
  have htake : (field ++ word).toList.takeWhile (fun c => decide (c ≠ ':'))
      = field.toList.takeWhile (fun c => decide (c ≠ ':')) := by
    rw [String.toList_append, List.takeWhile_append, if_neg (by omega)]
  have hdrop : (field ++ word).toList.drop
      ((field.toList.takeWhile (fun c => decide (c ≠ ':'))).length + 1)
      = field.toList.drop ((field.toList.takeWhile (fun c => decide (c ≠ ':'))).length + 1)
        ++ word.toList := by
    rw [String.toList_append, List.drop_append_of_le_length (by omega)]
  have hlast : (field.toList.drop
      ((field.toList.takeWhile (fun c => decide (c ≠ ':'))).length + 1)).getLast? ≠ some '\n' := by
    intro h
    apply hline
    rw [List.getLast?_drop] at h
    split at h
    · cases h
    · exact h
  rw [if_neg hlast] at hne hchars
  have hnotLine : ((field.toList.drop
      ((field.toList.takeWhile (fun c => decide (c ≠ ':'))).length + 1)) ++ word.toList).getLast?
        ≠ some '\n' := by
    intro h
    have hmem := List.mem_of_getLast? h
    have hall : isFieldChar '\n' = true := by
      rcases List.mem_append.mp hmem with hmem | hmem
      · exact List.all_eq_true.mp hchars _ hmem
      · exact List.all_eq_true.mp hword _ hmem
    exact absurd hall (by decide)
  simp only [isProvenance, htake, hdrop, if_neg hnotLine, Bool.and_eq_true, decide_eq_true_eq]
  refine ⟨⟨⟨⟨?_, hsource⟩, hyaml⟩, ?_⟩, ?_⟩
  · rw [String.toList_append, List.length_append]
    omega
  · exact List.append_ne_nil_of_left_ne_nil hne _
  · rw [List.all_append, hchars, Bool.true_and]
    exact hword
/-! ## Section 3: Regular results -/

/-- What every decision is by the way it is made. -/
structure PolicyResult.Regular (r : PolicyResult) : Prop where
  decided : r.decisionEmitted = true ∧ r.failClosed = false ∧ r.errorCode = none ∧ r.issues = []
  gated : r.riskLevel = .r3 ∨ r.requiredHumanTriggers ≠ [] → r.humanGate = true
  legal : r.legalTransitions.Nodup
  authorized : r.authorizedTransitions.Sublist r.legalTransitions
  behindGate : r.humanGate = true → ∀ target ∈ r.authorizedTransitions,
    target ∈ humanGateAuthorizedTransitions
  roles : ∀ entry ∈ r.modelRoles, entry.1 ∈ policyModelActors ∧ entry.2 ∈ policyModelRoleIds

/-- What the contract asks of a regular result: names and orders. -/
structure PolicyResult.Ordered (r : PolicyResult) : Prop where
  triggers : InOrder humanDecisionTriggers r.requiredHumanTriggers
  skills : InOrder policySkillIds r.requiredSkills
  gates : InOrder policyGateIds r.mandatoryGates
  provenance : ProvenanceOrdered r.provenance

/-- Targets that are all among the allowed ones. -/
theorem validateTargets_eq_nil {targets : List TaskState} {allowed : List String} {message : Text}
    (h : ∀ t ∈ targets, t.name ∈ allowed) :
    validateTargets (targets.map TaskState.toJson) allowed message = .ok [] := by
  have hfind : (targets.map TaskState.toJson).find? Json.isUnhashable = none := by
    rw [List.find?_eq_none]
    intro value hvalue
    obtain ⟨t, -, rfl⟩ := List.mem_map.mp hvalue
    simp [TaskState.toJson, Json.isUnhashable]
  rw [validateTargets, hfind]
  simp only [Except.ok.injEq, List.flatMap_eq_nil_iff, issueUnless_eq_nil, List.contains_eq_mem,
    decide_eq_true_eq]
  intro entry hentry
  obtain ⟨⟨value, i⟩, hmem, rfl⟩ := List.mem_map.mp hentry
  obtain ⟨t, ht, rfl⟩ := List.mem_map.mp (List.fst_mem_of_mem_zipIdx hmem)
  exact List.mem_map_of_mem (h t ht)

/-- The roles of a regular result. -/
theorem PolicyResult.Regular.modelRoles {r : PolicyResult} (h : r.Regular) :
    validateModelRoles r.toMapping = [] := by
  have hget := (PolicyResult.toMapping_get r).2.2.2.2.2.1
  rw [validateModelRoles, hget, Mapping.asMapping_toJson]
  simp only [List.flatMap_eq_nil_iff]
  intro entry hentry
  obtain ⟨role, hrole, rfl⟩ := List.mem_map.mp (Mapping.mem_entries_ofPairs hentry)
  obtain ⟨hactor, hid⟩ := h.roles role hrole
  simp [Json.asStr, hactor, hid]

/-- A regular result is open. -/
theorem PolicyResult.Regular.notFailClosed {r : PolicyResult} (h : r.Regular) :
    validateNotFailClosed r.toMapping = [] := by
  obtain ⟨hemitted, hlevel, hgate, htriggers, -, -, -, -, -, -, -, hcode, hissues⟩ :=
    PolicyResult.toMapping_get r
  obtain ⟨hdecided, -, hnone, hempty⟩ := h.decided
  have hr3 : r.riskLevel.name = "R3" → r.humanGate = true := by
    intro hname
    apply h.gated
    left
    revert hname
    cases r.riskLevel <;> decide
  have hraised : (Json.strs r.requiredHumanTriggers).isNonEmptyList = true →
      r.humanGate = true := by
    intro hlist
    apply h.gated
    right
    intro hnil
    rw [hnil] at hlist
    cases hlist
  simp only [validateNotFailClosed, hemitted, hlevel, hgate, htriggers, hcode, hissues, hdecided,
    hnone, hempty]
  cases hhuman : r.humanGate with
  | true => simp
  | false =>
      rw [hhuman] at hr3 hraised
      have hnotR3 : ¬ r.riskLevel.name = "R3" := fun h => nomatch hr3 h
      have hnotRaised : (Json.strs r.requiredHumanTriggers).isNonEmptyList = false :=
        Bool.eq_false_iff.mpr (fun h => nomatch hraised h)
      simp [hnotR3, hnotRaised]

/-- **The conditions on a regular result** come down to its lists. -/
theorem PolicyResult.Regular.conditions {r : PolicyResult} (h : r.Regular) {ev : PolicyEvaluation}
    (hresult : ev.result = r) (hdigest : ev.policyBundleDigest ≠ none) :
    validatePolicyEvaluationResult ev.toMapping = .ok
      (validatePolicyResultListVocab r.toMapping "required_human_triggers" humanDecisionTriggers true
        ++ validatePolicyResultListVocab r.toMapping "required_skills" policySkillIds true
        ++ validatePolicyResultListVocab r.toMapping "mandatory_gates" policyGateIds true
        ++ validatePolicyResultProvenance r.toMapping) := by
  obtain ⟨-, -, hgate, -, -, -, -, hlegal, hauthorized, -, hfailed, -, -⟩ :=
    PolicyResult.toMapping_get r
  have hget : ev.toMapping.get "result" = r.toMapping.toJson := by
    show ev.result.toMapping.toJson = _
    rw [hresult]
  have hdigestGet : ev.toMapping.get "policy_bundle_digest" ≠ .null := by
    obtain ⟨d, hd⟩ := Option.ne_none_iff_exists'.mp hdigest
    show Json.ofOption .str ev.policyBundleDigest ≠ .null
    rw [hd]
    exact Json.noConfusion
  have hnotLegal : validateTargets (r.authorizedTransitions.map TaskState.toJson)
      ((r.legalTransitions.map TaskState.toJson).filterMap Json.asStr)
      "must also be present in legal_transitions" = .ok [] := by
    apply validateTargets_eq_nil
    intro t ht
    rw [List.filterMap_map]
    exact List.mem_filterMap.mpr ⟨t, h.authorized.subset ht, rfl⟩
  have hnotGated : r.humanGate = true →
      validateTargets (r.authorizedTransitions.map TaskState.toJson) ["WAITING_HUMAN", "ABANDONED"]
      "human-gated results may authorize only WAITING_HUMAN or ABANDONED" = .ok [] := by
    intro hhuman
    apply validateTargets_eq_nil
    intro t ht
    have hmem := h.behindGate hhuman t ht
    simp only [humanGateAuthorizedTransitions, List.mem_cons, List.not_mem_nil, or_false] at hmem
    rcases hmem with rfl | rfl <;> simp [TaskState.name]
  have hlegalVocab := states_vocab hlegal h.legal
  have hauthorizedVocab := states_vocab hauthorized (h.legal.sublist h.authorized)
  have hopen := h.notFailClosed
  have hroles := h.modelRoles
  have hfalse := h.decided.2.1
  simp only [validatePolicyEvaluationResult, hget, Mapping.asMapping_toJson, hlegal, hauthorized,
    Json.asList, hnotLegal, hgate, hfailed, hfalse, bind, Except.bind, pure, Except.pure, hopen,
    hroles, hlegalVocab, hauthorizedVocab]
  cases hhuman : r.humanGate with
  | false => simp [hdigestGet]
  | true => simp [hdigestGet, hnotGated hhuman]

/-- The fields of a regular result that is in order are of their types. -/
theorem PolicyResult.Ordered.fields {r : PolicyResult} (h : r.Ordered) (hregular : r.Regular) :
    validateField "result" r.toMapping.toJson (.nested policyEvaluationResultFields) = [] := by
  have hlists : isPlainList "result.required_human_triggers" = true ∧
      isPlainList "result.required_skills" = true ∧ isPlainList "result.mandatory_gates" = true ∧
      isPlainList "result.legal_transitions" = true ∧
      isPlainList "result.authorized_transitions" = true ∧
      isPlainList "result.provenance" = true := by decide +kernel
  have hwords : ∀ vocabulary ∈ [humanDecisionTriggers, policySkillIds, policyGateIds, taskStates],
      ∀ word ∈ vocabulary, word ∉ templatePlaceholders := by decide +kernel
  have hlist : ∀ path, isPlainList path = true → ∀ vocabulary ∈
      [humanDecisionTriggers, policySkillIds, policyGateIds, taskStates], ∀ words : List String,
      (∀ word ∈ words, word ∈ vocabulary) → validateField path (Json.strs words) .strings = [] :=
    fun path hpath vocabulary hvocabulary words hsubset =>
      (validateField_strings_iff hpath).mpr
        (fun word hword => hwords vocabulary hvocabulary word (hsubset word hword))
  have hstates : ∀ path, isPlainList path = true → ∀ states : List TaskState,
      validateField path (.arr (states.map TaskState.toJson)) .strings = [] := by
    intro path hpath states
    have hstrs : Json.arr (states.map TaskState.toJson)
        = Json.strs (states.map TaskState.name) := by
      rw [Json.strs, List.map_map]
      rfl
    rw [hstrs]
    apply hlist path hpath taskStates (by simp)
    intro word hword
    obtain ⟨s, -, rfl⟩ := List.mem_map.mp hword
    exact List.mem_map_of_mem (TaskState.mem_all s)
  have hroles : validateField "result.model_roles"
      (Mapping.ofPairs (r.modelRoles.map (fun e => (e.1, .str e.2)))).toJson .stringMap = [] := by
    have hvalues : ∀ actor ∈ policyModelActors, ∀ role ∈ policyModelRoleIds,
        validateTyped [.str] (joinPath "result.model_roles" actor) (.str role) = [] := by
      decide +kernel
    rw [validateField_stringMap_iff]
    intro entry hentry
    obtain ⟨role, hrole, rfl⟩ := List.mem_map.mp (Mapping.mem_entries_ofPairs hentry)
    obtain ⟨hactor, hid⟩ := hregular.roles role hrole
    exact hvalues _ hactor _ hid
  have hprovenance : validateField "result.provenance" (Json.strs r.provenance) .strings = [] :=
    (validateField_strings_iff hlists.2.2.2.2.2).mpr
      (fun word hword => noPlaceholder_of_isProvenance (h.provenance.fields word hword))
  have hcode : validateField "result.error_code" (Json.ofOption .str none) (.nullable .str) = [] :=
    rfl
  have hissues : validateField "result.issues" (.arr (([] : List PolicyIssue).map
      PolicyIssue.toJson)) (.items policyEvaluationIssueFields) = [] := rfl
  rw [result_fields_eq, hlist _ hlists.1 _ (by simp) _ h.triggers.subset,
    hlist _ hlists.2.1 _ (by simp) _ h.skills.subset, hroles,
    hlist _ hlists.2.2.1 _ (by simp) _ h.gates.subset, hstates _ hlists.2.2.2.1,
    hstates _ hlists.2.2.2.2.1, hprovenance, hregular.decided.2.2.1, hregular.decided.2.2.2, hcode,
    hissues]
  rfl

/-- **The contract of a regular result is its order.** -/
theorem resultAccepted_iff {r : PolicyResult} (hregular : r.Regular) {digest : String} :
    ResultAccepted (some digest) r ↔ r.Ordered := by
  obtain ⟨-, -, -, htriggers, hskills, -, hgates, -, -, hprovenance, -, -, -⟩ :=
    PolicyResult.toMapping_get r
  have hvocabularies : humanDecisionTriggers.Nodup ∧ policySkillIds.Nodup ∧ policyGateIds.Nodup := by
    decide +kernel
  have htriggersIff := validatePolicyResultListVocab_ordered_iff hvocabularies.1 htriggers
  have hskillsIff := validatePolicyResultListVocab_ordered_iff hvocabularies.2.1 hskills
  have hgatesIff := validatePolicyResultListVocab_ordered_iff hvocabularies.2.2 hgates
  have hprovenanceIff : validatePolicyResultProvenance r.toMapping = [] ↔
      ProvenanceOrdered r.provenance := by
    rw [validatePolicyResultProvenance, hprovenance]
    have hfrom := @validateProvenanceFrom_iff r.provenance 0 none []
    rw [Option.map_none] at hfrom
    refine hfrom.trans ⟨fun h => h.1, fun h => ⟨h, nofun, fun _ _ => List.not_mem_nil⟩⟩
  have hconditions : ∀ ev : PolicyEvaluation, ev.policyBundleDigest = some digest →
      ev.result = r → (validatePolicyEvaluationResult ev.toMapping = .ok [] ↔ r.Ordered) := by
    intro ev hdigest hresult
    have hsome : ev.policyBundleDigest ≠ none := by
      rw [hdigest]
      exact Option.some_ne_none digest
    rw [hregular.conditions hresult hsome, Except.ok.injEq]
    simp only [List.append_eq_nil_iff, htriggersIff, hskillsIff, hgatesIff, hprovenanceIff]
    constructor
    · rintro ⟨⟨⟨ht, hs⟩, hg⟩, hp⟩
      exact ⟨ht, hs, hg, hp⟩
    · intro h
      exact ⟨⟨⟨h.triggers, h.skills⟩, h.gates⟩, h.provenance⟩
  constructor
  · intro haccepted
    exact (hconditions ⟨"", "", "", some digest, r, ""⟩ rfl rfl).mp
      (haccepted.conditions _ rfl rfl)
  · intro hordered
    exact ⟨hordered.fields hregular,
      fun ev hdigest hresult => (hconditions ev hdigest hresult).mpr hordered⟩

end Acgps
