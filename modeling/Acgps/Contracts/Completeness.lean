import Acgps.Contracts.Records

/-!
# Records that meet their contract

What is enough for a field to pass the checks on its text, whatever the text is.

## Main Definitions

* `isPlainField`, `isTimestampField` - the fields for which there is no rule on paths and digests
* `PlainText` - a text that stands for something

## Key Theorems

* `validateField_plain` - **a plain field takes every plain text**
* `validateField_timestamp` - a field for a timestamp takes every timestamp
* `semanticPathParts_itemPath` - the items of a list are checked like the list
* `validateField_strings_iff` - a plain list takes every list of texts without placeholders
-/

namespace Acgps

/-! ## Section 1: Texts -/

/-- The text is no placeholder of a template, and not blank. -/
structure PlainText (s : String) : Prop where
  noPlaceholder : s ∉ templatePlaceholders
  notBlank : isBlank s = false

/-- A text that starts with a digit or a small letter is plain. -/
theorem plainText_of_head {s : String} {c : Char} (hhead : s.toList.head? = some c)
    (hchar : c.isDigit = true ∨ c.isLower = true) : PlainText s := by
  have hspace : isSpace c = false := by
    have hcode : 48 ≤ c.toNat ∧ c.toNat ≤ 57 ∨ 97 ≤ c.toNat ∧ c.toNat ≤ 122 := by
      rcases hchar with h | h
      · simp only [Char.isDigit, Bool.and_eq_true, decide_eq_true_eq, UInt32.le_iff_toNat_le] at h
        exact .inl h
      · have hrange : (decide (c.val ≥ 'a'.val) && decide (c.val ≤ 'z'.val)) = true := h
        simp only [Bool.and_eq_true, decide_eq_true_eq, ge_iff_le, UInt32.le_iff_toNat_le] at hrange
        exact .inr hrange
    simp only [isSpace, List.contains_eq_mem, List.mem_cons, List.not_mem_nil, or_false,
      decide_eq_false_iff_not]
    omega
  refine ⟨fun hmem => ?_, ?_⟩
  · have hall : templatePlaceholders.all (fun p =>
        p.toList.head?.all (fun d => !d.isDigit && !d.isLower)) = true := by decide +kernel
    have hfirst := List.all_eq_true.mp hall s hmem
    rw [hhead, Option.all_some, Bool.and_eq_true, Bool.not_eq_true', Bool.not_eq_true'] at hfirst
    obtain ⟨hdigit, hlower⟩ := hfirst
    simp [hdigit, hlower] at hchar
  · unfold isBlank
    cases hlist : s.toList with
    | nil => simp [hlist] at hhead
    | cons d rest =>
        rw [hlist, List.head?_cons, Option.some.injEq] at hhead
        rw [List.all_cons, hhead, hspace, Bool.false_and]

/-- A timestamp in whole seconds is one for the contracts. -/
theorem isRfc3339Utc_of_isUtc {s : String} (h : isUtc s = true) : isRfc3339Utc s = true := by
  simp only [isUtc, isRfc3339Utc, Bool.and_eq_true, Bool.or_eq_true] at h ⊢
  exact ⟨.inl (matchesTemplate_mono (fun _ => isDecimal_of_isDigit) h.1), h.2⟩

/-- A timestamp in whole seconds is a plain text. -/
theorem plainText_of_isUtc {s : String} (h : isUtc s = true) : PlainText s := by
  simp only [isUtc, Bool.and_eq_true] at h
  have htemplate : utcTemplate = '#' :: utcTemplate.tail := by decide
  have hmatch := h.1
  rw [htemplate] at hmatch
  cases hlist : s.toList with
  | nil => simp [hlist, matchesTemplate] at hmatch
  | cons c rest =>
      rw [hlist] at hmatch
      simp only [matchesTemplate, if_true, Bool.and_eq_true] at hmatch
      apply plainText_of_head (by rw [hlist, List.head?_cons])
      exact .inl hmatch.1

/-! ## Section 2: Fields -/

/-- The field takes no digest and no path. -/
def isPlainField (path : String) : Bool :=
  let fieldName := semanticFieldName path
  !(isWord ["sha256", "baseline_hash"] fieldName || endsWith "_sha256" fieldName
      || endsWith "_digest" fieldName)
    && !isAbsolutePathSemanticPath path && !isPathSemanticPath path

/-- The field takes a timestamp. -/
def isTimestampField (path : String) : Bool := endsWith "_at_utc" (semanticFieldName path)

/-- The field must not be blank. -/
def isRequiredField (path : String) : Bool := isWord requiredTextFields (semanticFieldName path)

/-- **When a plain field takes a text.** -/
theorem validateRuntimeSemantics_plain_iff {path s : String} (hplain : isPlainField path = true) :
    validateRuntimeSemantics path (.str s) = [] ↔ s ∉ templatePlaceholders ∧
      (isRequiredField path = true → isBlank s = false) ∧
      (isTimestampField path = true → isRfc3339Utc s = true) := by
  simp only [isPlainField, Bool.and_eq_true, Bool.not_eq_true'] at hplain
  obtain ⟨⟨hdigest, habsolute⟩, hpath⟩ := hplain
  have hlast : (if isAbsolutePathSemanticPath path then
        issueUnless (isWindowsAbsolutePath s) path "expected normalized absolute Windows path"
      else if isPathSemanticPath path then
        issueUnless (isSafeRelativePath s) path "expected safe relative path"
      else []) = [] := by
    rw [habsolute, hpath]
    rfl
  simp only [validateRuntimeSemantics, List.append_eq_nil_iff, issueUnless_eq_nil, hlast, hdigest,
    isRequiredField, isTimestampField]
  generalize isWord requiredTextFields (semanticFieldName path) = required
  generalize endsWith "_at_utc" (semanticFieldName path) = timestamp
  cases required <;> cases timestamp <;> simp [and_assoc]

/-- A plain field takes every plain text, and the timestamps only if it is a field for one. -/
theorem validateRuntimeSemantics_plain {path s : String} (hplain : isPlainField path = true)
    (htext : PlainText s) (htime : isTimestampField path = true → isRfc3339Utc s = true) :
    validateRuntimeSemantics path (.str s) = [] :=
  (validateRuntimeSemantics_plain_iff hplain).mpr
    ⟨htext.noPlaceholder, fun _ => htext.notBlank, htime⟩

/-- A string in a field for strings is checked for its text only. -/
theorem validateField_str (path s : String) :
    validateField path (.str s) (.ofType .str) = validateRuntimeSemantics path (.str s) := by
  simp [validateField, FieldSpec.ofType, matchesExpectedType, PyType.accepts, validateAllowed,
    FieldTable.isTable]

/-- **A plain field takes every plain text.** -/
theorem validateField_plain {path s : String} (hplain : isPlainField path = true)
    (hother : isTimestampField path = false) (htext : PlainText s) :
    validateField path (.str s) (.ofType .str) = [] := by
  rw [validateField_str]
  apply validateRuntimeSemantics_plain hplain htext
  simp [hother]

/-- **A field for a timestamp takes every timestamp.** -/
theorem validateField_timestamp {path s : String} (hplain : isPlainField path = true)
    (hutc : isUtc s = true) : validateField path (.str s) (.ofType .str) = [] := by
  rw [validateField_str]
  exact validateRuntimeSemantics_plain hplain (plainText_of_isUtc hutc)
    (fun _ => isRfc3339Utc_of_isUtc hutc)

/-! ## Section 3: Tables -/

/-- The issues of a table walk, row by row. -/
theorem validateRows_ofList (path : String) (data : Mapping) :
    ∀ rows : List (String × FieldSpec), validateRows path data (.ofList rows)
      = rows.flatMap (fun row => if data.has row.1 = true then
          validateField (joinPath path row.1) (data.get row.1) row.2
        else [⟨joinPath path row.1, "missing required field"⟩])
  | [] => rfl
  | (name, field) :: rest => by
      rw [FieldTable.ofList, validateRows, validateRows_ofList path data rest, List.flatMap_cons]

/-- A table walk without issues, row by row. -/
theorem validateRows_eq_nil_iff {path : String} {data : Mapping} :
    ∀ {rows : List (String × FieldSpec)}, validateRows path data (.ofList rows) = [] ↔
      ∀ row ∈ rows, data.has row.1 = true ∧
        validateField (joinPath path row.1) (data.get row.1) row.2 = []
  | [] => by simp [FieldTable.ofList, validateRows]
  | (name, field) :: rest => by
      rw [FieldTable.ofList, validateRows, List.append_eq_nil_iff, validateRows_eq_nil_iff,
        List.forall_mem_cons]
      refine and_congr_left (fun _ => ?_)
      by_cases hhas : data.has name = true <;> simp [hhas]

/-- A mapping whose keys are the rows of its table, each with a value that its row takes. -/
theorem validateFields_eq_nil_iff {path : String} {data : Mapping}
    {rows : List (String × FieldSpec)} : validateFields path data (.ofList rows) = [] ↔
      (∀ key ∈ data.keys, key ∈ rows.map Prod.fst) ∧
        ∀ row ∈ rows, data.has row.1 = true ∧
          validateField (joinPath path row.1) (data.get row.1) row.2 = [] := by
  rw [validateFields, List.append_eq_nil_iff, validateRows_eq_nil_iff, unexpectedFields,
    FieldTable.toList_ofList, List.map_eq_nil_iff, List.filter_eq_nil_iff]
  simp

theorem validateFields_eq_nil {path : String} {data : Mapping} {rows : List (String × FieldSpec)}
    (hkeys : ∀ key ∈ data.keys, key ∈ rows.map Prod.fst)
    (hrows : ∀ row ∈ rows, data.has row.1 = true ∧
      validateField (joinPath path row.1) (data.get row.1) row.2 = []) :
    validateFields path data (.ofList rows) = [] :=
  validateFields_eq_nil_iff.mpr ⟨hkeys, hrows⟩

/-- A mapping without issues has no other keys than the rows of its table. -/
theorem keys_of_validateFields_eq_nil {path : String} {data : Mapping} {table : FieldTable}
    (h : validateFields path data table = []) :
    ∀ key ∈ data.keys, key ∈ table.toList.map Prod.fst := by
  rw [validateFields, List.append_eq_nil_iff, unexpectedFields, List.map_eq_nil_iff,
    List.filter_eq_nil_iff] at h
  simpa using h.1

/-- The issues of a mapping with a table of its own are those of its fields. -/
theorem validateField_nested {path : String} {data : Mapping} {rows : List (String × FieldSpec)}
    (hrows : rows ≠ []) :
    validateField path data.toJson (.nested rows) = validateFields path data (.ofList rows) := by
  have htype : matchesExpectedType data.toJson [.dict] = true := by
    simp [matchesExpectedType, PyType.accepts]
  have htable : (FieldTable.ofList rows).isTable = true := by
    cases rows with
    | nil => exact absurd rfl hrows
    | cons row rows => rfl
  have hempty : FieldTable.nil.isTable = false := rfl
  simp only [FieldSpec.nested, validateField, htype, if_true, htable, Mapping.asMapping_toJson,
    hempty]
  simp [validateRuntimeSemantics, validateAllowed, Mapping.toJson, validateFields]

/-! ## Section 4: Lists -/

/-- A text without separators behind another one goes to the last part. -/
theorem splitOn_append_of_not_mem {a : Char} {r : List Char} (hr : a ∉ r) (l : List Char) :
    (l ++ r).splitOn a = (l.splitOn a).dropLast ++ [(l.splitOn a).getLastD [] ++ r] := by
  have hnone : ∀ r : List Char, a ∉ r → r.splitOn a = [r] := by
    intro r
    induction r with
    | nil => intro _; rfl
    | cons c r ih =>
        intro hr
        rw [List.mem_cons, not_or] at hr
        have hne : (c == a) = false := beq_eq_false_iff_ne.mpr (Ne.symm hr.1)
        have hrest : List.splitOnP (· == a) r = [r] := ih hr.2
        rw [List.splitOn, List.splitOnP_cons_eq_if_modifyHead, if_neg (by simp [hne]), hrest]
        rfl
  induction l with
  | nil => simpa using hnone r hr
  | cons c l ih =>
      have hne : List.splitOnP (· == a) l ≠ [] := List.splitOnP_ne_nil _ _
      simp only [List.splitOn, List.cons_append, List.splitOnP_cons_eq_if_modifyHead] at ih ⊢
      rw [ih]
      cases hparts : List.splitOnP (· == a) l with
      | nil => exact absurd hparts hne
      | cons part parts =>
          by_cases hc : (c == a) = true
          · simp [hc]
          · cases parts with
            | nil => simp [hc]
            | cons part' parts => simp [hc]

/-- The index of an item is dropped again. -/
theorem dropIndex_append {name digits : List Char} (hdigits : digits ≠ [])
    (hall : digits.all isDecimal = true) : dropIndex (name ++ '[' :: digits ++ [']']) = name := by
  have hopen : isDecimal '[' = false := by decide
  have htake : (digits.reverse ++ '[' :: name.reverse).takeWhile isDecimal = digits.reverse := by
    rw [List.takeWhile_append_of_pos (by simpa using hall), List.takeWhile_cons]
    simp [hopen]
  have hreverse : (name ++ '[' :: digits ++ [']']).reverse
      = ']' :: (digits.reverse ++ '[' :: name.reverse) := by
    simp
  unfold dropIndex
  rw [hreverse]
  simp only [htake, List.drop_left, if_neg (mt List.reverse_eq_nil_iff.mp hdigits),
    List.reverse_reverse]

/-- The last part of the path has no index. -/
def isUnindexed (path : String) : Bool :=
  let part := (path.toList.splitOn '.').getLastD []
  dropIndex part = part

/-- The items of a list have the parts of the list. -/
theorem semanticPathParts_itemPath {path : String} (h : isUnindexed path = true) (i : Nat) :
    semanticPathParts (itemPath path i) = semanticPathParts path := by
  have hdigit : ∀ c ∈ Nat.toDigits 10 i, c.isDigit = true := fun c hc =>
    Nat.isDigit_of_mem_toDigits (by decide) (by decide) hc
  have hlist : (itemPath path i).toList
      = path.toList ++ ('[' :: Nat.toDigits 10 i ++ [']']) := by
    simp [itemPath]
  have hdot : '.' ∉ '[' :: Nat.toDigits 10 i ++ [']'] := by
    intro hmem
    simp only [List.cons_append, List.mem_cons, List.mem_append, List.not_mem_nil, or_false] at hmem
    rcases hmem with hmem | hmem | hmem
    · cases hmem
    · exact absurd (hdigit _ hmem) (by decide)
    · cases hmem
  have hparts : path.toList.splitOn '.' ≠ [] := List.splitOnP_ne_nil _ _
  have hindex : dropIndex ((path.toList.splitOn '.').getLastD [] ++ ('[' :: Nat.toDigits 10 i ++ [']']))
      = dropIndex ((path.toList.splitOn '.').getLastD []) := by
    rw [show dropIndex ((path.toList.splitOn '.').getLastD [])
      = (path.toList.splitOn '.').getLastD [] from of_decide_eq_true h, ← List.append_assoc]
    apply dropIndex_append Nat.toDigits_ne_nil
    rw [List.all_eq_true]
    exact fun c hc => isDecimal_of_isDigit (hdigit c hc)
  rw [semanticPathParts, hlist, splitOn_append_of_not_mem hdot, List.map_append, List.map_singleton,
    hindex, ← List.map_singleton, ← List.map_append, semanticPathParts]
  congr 1
  rw [List.getLastD_eq_getLast?, List.getLast?_eq_some_getLast hparts]
  exact List.dropLast_append_getLast hparts

theorem isPlainField_itemPath {path : String} (h : isUnindexed path = true) (i : Nat) :
    isPlainField (itemPath path i) = isPlainField path := by
  simp only [isPlainField, semanticFieldName, isAbsolutePathSemanticPath, isPathSemanticPath,
    semanticPathParts_itemPath h]

theorem isTimestampField_itemPath {path : String} (h : isUnindexed path = true) (i : Nat) :
    isTimestampField (itemPath path i) = isTimestampField path := by
  simp only [isTimestampField, semanticFieldName, semanticPathParts_itemPath h]

theorem isRequiredField_itemPath {path : String} (h : isUnindexed path = true) (i : Nat) :
    isRequiredField (itemPath path i) = isRequiredField path := by
  simp only [isRequiredField, semanticFieldName, semanticPathParts_itemPath h]

/-- A list field for which there is no rule but the one on placeholders. -/
def isPlainList (path : String) : Bool :=
  isPlainField path && !isTimestampField path && !isRequiredField path && isUnindexed path

/-- **A plain list takes every list of texts without placeholders.** -/
theorem validateField_strings_iff {path : String} (hplain : isPlainList path = true)
    {words : List String} : validateField path (Json.strs words) .strings = [] ↔
      ∀ s ∈ words, s ∉ templatePlaceholders := by
  simp only [isPlainList, Bool.and_eq_true, Bool.not_eq_true'] at hplain
  obtain ⟨⟨⟨hfield, htime⟩, hrequired⟩, hindex⟩ := hplain
  have hitem : ∀ (i : Nat) (s : String), validateTyped [.str] (itemPath path i) (.str s) = [] ↔
      s ∉ templatePlaceholders := by
    intro i s
    simp only [validateTyped, matchesExpectedType, PyType.accepts, List.any_cons, List.any_nil,
      Bool.or_false, if_true]
    rw [validateRuntimeSemantics_plain_iff (by rw [isPlainField_itemPath hindex, hfield]),
      isRequiredField_itemPath hindex, isTimestampField_itemPath hindex, hrequired, htime]
    simp
  have hlist : validateField path (Json.strs words) .strings
      = (enumeratePaths path (words.map Json.str)).flatMap
        (fun entry => validateTyped [.str] entry.1 entry.2) := by
    simp [validateField, FieldSpec.strings, matchesExpectedType, PyType.accepts, validateAllowed,
      FieldTable.isTable, validateRuntimeSemantics, Json.strs, Json.asList]
  rw [hlist, List.flatMap_eq_nil_iff]
  constructor
  · intro hall s hs
    obtain ⟨i, hi, rfl⟩ := List.mem_iff_getElem.mp hs
    refine (hitem i _).mp (hall (itemPath path i, .str words[i]) ?_)
    exact List.mem_map.mpr ⟨(.str words[i], i), List.mk_mem_zipIdx_iff_getElem?.mpr (by simp), rfl⟩
  · intro hall entry hentry
    obtain ⟨⟨value, i⟩, hmem, rfl⟩ := List.mem_map.mp hentry
    obtain ⟨s, hs, rfl⟩ := List.mem_map.mp (List.fst_mem_of_mem_zipIdx hmem)
    exact (hitem i s).mpr (hall s hs)

/-- A mapping of texts takes every text that the field of its key takes. -/
theorem validateField_stringMap_iff {path : String} {data : Mapping} :
    validateField path data.toJson .stringMap = [] ↔
      ∀ entry ∈ data.entries, validateTyped [.str] (joinPath path entry.1) entry.2 = [] := by
  have htype : matchesExpectedType data.toJson [.dict] = true := by
    simp [matchesExpectedType, PyType.accepts]
  simp only [validateField, FieldSpec.stringMap, htype, if_true, Mapping.asMapping_toJson]
  simp [validateRuntimeSemantics, validateAllowed, FieldTable.isTable, Mapping.toJson]

/-! ## Section 5: Word lists -/

/-- A list repeats nothing iff it has no repetitions. -/
theorem repeatedBefore_eq_false_iff {α : Type} [DecidableEq α] {l : List α} : ∀ {seen : List α},
    (∀ entry ∈ repeatedBefore seen l, entry.2 = false) ↔ l.Nodup ∧ ∀ a ∈ l, a ∉ seen := by
  induction l with
  | nil => simp [repeatedBefore]
  | cons a l ih =>
      intro seen
      rw [repeatedBefore, List.forall_mem_cons, ih, List.nodup_cons, List.forall_mem_cons]
      simp only [List.contains_eq_mem, decide_eq_false_iff_not, List.mem_cons, not_or]
      constructor
      · rintro ⟨ha, hnodup, hrest⟩
        exact ⟨⟨fun hmem => (hrest a hmem).1 rfl, hnodup⟩, ha, fun b hb => (hrest b hb).2⟩
      · rintro ⟨⟨hnot, hnodup⟩, ha, hrest⟩
        exact ⟨ha, hnodup, fun b hb => ⟨fun heq => hnot (heq ▸ hb), hrest b hb⟩⟩

theorem fst_mem_of_mem_repeatedBefore {α : Type} [DecidableEq α] {l : List α} :
    ∀ {seen : List α} {entry : α × Bool}, entry ∈ repeatedBefore seen l → entry.1 ∈ l := by
  induction l with
  | nil => simp [repeatedBefore]
  | cons a l ih =>
      intro seen entry hentry
      rcases List.mem_cons.mp hentry with rfl | hmem
      · exact List.mem_cons_self
      · exact List.mem_cons_of_mem _ (ih hmem)

/-- A list of different words of a vocabulary, in its order if that is asked for. -/
theorem validatePolicyResultListVocab_eq_nil {result : Mapping} {fieldName : String}
    {vocabulary words : List String} {enforceOrder : Bool}
    (hget : result.get fieldName = Json.strs words) (hnodup : words.Nodup)
    (hsubset : ∀ s ∈ words, s ∈ vocabulary)
    (horder : enforceOrder = true → words = vocabulary.filter (words.contains ·)) :
    validatePolicyResultListVocab result fieldName vocabulary enforceOrder = [] := by
  have hwords : (words.map Json.str).filterMap Json.asStr = words := by
    rw [List.filterMap_map]
    exact List.filterMap_some
  have hjson : (words.map Json.str).Nodup :=
    hnodup.map (fun _ _ h => Json.str.inj h)
  simp only [validatePolicyResultListVocab, hget, Json.strs, Json.asList, hwords,
    List.append_eq_nil_iff, List.flatMap_eq_nil_iff]
  refine ⟨fun entry hentry => ?_, ?_⟩
  · obtain ⟨⟨value, repeated⟩, index⟩ := entry
    have hmem := List.fst_mem_of_mem_zipIdx hentry
    obtain ⟨s, hs, rfl⟩ := List.mem_map.mp (fst_mem_of_mem_repeatedBefore hmem)
    have hfirst : repeated = false :=
      repeatedBefore_eq_false_iff.mpr ⟨hjson, by simp⟩ (Json.str s, repeated) hmem
    simp [Json.asStr, hfirst, hsubset s hs]
  · cases enforceOrder with
    | false => simp
    | true =>
        rw [issueUnless_eq_nil, ← horder rfl]
        simp

end Acgps
