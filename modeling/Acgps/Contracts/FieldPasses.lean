import Acgps.Contracts.Completeness

/-!
# Field passes: a record that keeps its field table

`validateFields` walks a record with the path of each value as a text, and reads the parts of that
path off the text again for every rule. A record that has issues nowhere can be walked with the
parts themselves.

## Main Definitions

* `textPasses` - the rules on a text, from the parts of its path
* `tablePasses` - the field walk, as a yes or no
* `contractPasses` - the check of a contract, as a yes or no

## Main Results

* `validateRuntimeSemantics_str_iff` - the rules on a text depend on the parts of its path only
* `validateFields_eq_nil_of_passes` - a record that passes has no issues
* `validateContract_of_passes` - and its contract accepts it
-/

namespace Acgps

open Checked

/-! ## Section 1: The rules on a text -/

/-- `part in words`. -/
def isWordOf (words : List String) (part : List Char) : Bool :=
  words.any (fun word => quickChars word = part)

theorem isWord_eq (words : List String) (part : List Char) :
    isWord words part = isWordOf words part := by
  rw [isWord, isWordOf, List.contains_eq_any_beq]
  congr 1
  funext word
  rw [quickChars_eq, Bool.eq_iff_iff, beq_iff_eq, decide_eq_true_eq]
  constructor
  · rintro rfl
    exact String.toList_ofList
  · rintro rfl
    exact String.ofList_toList

/-- `RFC 3339` in UTC, read off the characters. -/
def isUtcChars (chars : List Char) : Bool :=
  (matchesTemplate isDecimal utcTemplate chars || matchesTemplate isDecimal utcMillisTemplate chars)
    && (strptimeUtc chars).isSome

/-- The text keeps the rules of a field whose path has these parts. -/
def textPasses (parts : List (List Char)) (s : String) : Bool :=
  let name := parts.getLastD []
  let chars := quickChars s
  let lastTwo := parts.drop (parts.length - 2)
  !templatePlaceholders.contains s
    && (!isWordOf requiredTextFields name || !chars.all isSpace)
    && (!endsWith "_at_utc" name || isUtcChars chars)
    && (!(isWordOf ["sha256", "baseline_hash"] name || endsWith "_sha256" name
        || endsWith "_digest" name) || (chars.length = 64 && chars.all isLowerHex))
    && (if 2 ≤ parts.length && (lastTwo = ["executor".toList, "path".toList]
          || lastTwo = ["clone_before".toList, "path".toList]) then isWindowsAbsolutePath s
        else !(isWordOf pathFields name || parts.any (isWordOf pathCollectionFields))
          || isSafeRelativePath s)

/-- **The rules on a text depend on the parts of its path only.** -/
theorem validateRuntimeSemantics_str_iff {path s : String} :
    validateRuntimeSemantics path (.str s) = [] ↔
      textPasses (semanticPathParts path) s = true := by
  have hwords : ∀ words, isWord words = isWordOf words := fun words => funext (isWord_eq words)
  have hlast : (if isAbsolutePathSemanticPath path then
        issueUnless (isWindowsAbsolutePath s) path "expected normalized absolute Windows path"
      else if isPathSemanticPath path then
        issueUnless (isSafeRelativePath s) path "expected safe relative path"
      else []) = [] ↔ (if isAbsolutePathSemanticPath path then isWindowsAbsolutePath s
        else !isPathSemanticPath path || isSafeRelativePath s) = true := by
    split
    · rw [issueUnless_eq_nil]
    · cases isPathSemanticPath path <;> simp
  rw [validateRuntimeSemantics]
  simp only [List.append_eq_nil_iff, issueUnless_eq_nil, hlast]
  rw [textPasses]
  simp only [isAbsolutePathSemanticPath, isPathSemanticPath, semanticFieldName, isBlank, isSha256,
    isRfc3339Utc, isUtcChars, hwords, quickChars_eq, Bool.and_eq_true, Bool.not_and, and_assoc]

/-- The value has one of the types, and a text keeps the rules. -/
def valuePasses (parts : List (List Char)) (expected : List PyType) (value : Json) : Bool :=
  matchesExpectedType value expected
    && match value with
      | .str s => textPasses parts s
      | _ => true

theorem validateTyped_eq_nil_of_passes {expected : List PyType} {path : String} {value : Json}
    (h : valuePasses (semanticPathParts path) expected value = true) :
    validateTyped expected path value = [] := by
  unfold valuePasses at h
  rw [Bool.and_eq_true] at h
  rw [validateTyped, if_pos h.1]
  cases value with
  | str s => exact validateRuntimeSemantics_str_iff.mpr h.2
  | _ => rfl

/-! ## Section 2: Names -/

/-- The name is one part, without an index. -/
def isFieldName (name : String) : Bool :=
  let chars := quickChars name
  !chars.contains '.' && dropIndex chars = chars && !chars.isEmpty

/-- The parts of a path that a field stands under; a table at the top has none. -/
def StandsUnder (path : String) (parts : List (List Char)) : Prop :=
  (path = "" ∧ parts = []) ∨ (path ≠ "" ∧ semanticPathParts path = parts)

/-- The path of a field under its table. -/
theorem parts_of_joinPath {path name : String} {parts : List (List Char)}
    (h : StandsUnder path parts) (hname : isFieldName name = true) :
    joinPath path name ≠ "" ∧ isUnindexed (joinPath path name) = true ∧
      semanticPathParts (joinPath path name) = parts ++ [quickChars name] := by
  rw [isFieldName, quickChars_eq] at hname
  simp only [Bool.and_eq_true, Bool.not_eq_true', decide_eq_true_eq, List.isEmpty_eq_false_iff,
    and_assoc] at hname
  obtain ⟨hdot, hindex, hnonempty⟩ := hname
  have hmem : ∀ c ∈ name.toList, (c == '.') = false := by
    intro c hc
    rw [beq_eq_false_iff_ne]
    rintro rfl
    simp [hc] at hdot
  have hsplit : name.toList.splitOn '.' = [name.toList] := List.splitOnP_eq_singleton hmem
  have hne : name ≠ "" := by
    rintro rfl
    exact hnonempty String.toList_empty
  rw [quickChars_eq]
  rcases h with ⟨rfl, rfl⟩ | ⟨hpath, rfl⟩
  · rw [joinPath, if_pos rfl]
    refine ⟨hne, ?_, ?_⟩
    · rw [isUnindexed, hsplit]
      exact decide_eq_true hindex
    · rw [semanticPathParts, hsplit, List.map_singleton, hindex, List.nil_append]
  · rw [joinPath, if_neg hpath]
    have hjoin : (path ++ "." ++ name).toList.splitOn '.'
        = path.toList.splitOn '.' ++ [name.toList] := by
      have hlist : (path ++ "." ++ name).toList = path.toList ++ '.' :: name.toList := by simp
      rw [hlist, List.splitOn_eq_splitOnP, List.splitOnP_append_cons _ _ (by rfl),
        ← List.splitOn_eq_splitOnP, ← List.splitOn_eq_splitOnP, hsplit]
    refine ⟨?_, ?_, ?_⟩
    · intro hempty
      have hlength := congrArg (fun s : String => s.toList.length) hempty
      simp at hlength
    · rw [isUnindexed, hjoin, List.getLastD_concat]
      exact decide_eq_true hindex
    · rw [semanticPathParts, hjoin, List.map_append, List.map_singleton, hindex,
        ← semanticPathParts]

/-! ## Section 3: The field walk -/

theorem mem_keys_of_lookup {key : String} {value : Json} :
    ∀ {members : List (String × Json)}, Mapping.lookup key members = some value →
      key ∈ members.map Prod.fst
  | [], h => by simp [Mapping.lookup] at h
  | (name, _) :: rest, h => by
      rw [Mapping.lookup] at h
      split at h
      next heq => exact List.mem_cons.mpr (.inl heq.symm)
      next => exact List.mem_cons_of_mem _ (mem_keys_of_lookup h)

/-- Every key is the name of a row. -/
def keysPass (members : List (String × Json)) (table : FieldTable) : Bool :=
  members.all (fun member => (table.toList.map Prod.fst).contains member.1)

theorem unexpectedFields_eq_nil_of_passes {path : String} {data : Mapping} {table : FieldTable}
    (h : keysPass data.entries table = true) : unexpectedFields path data table = [] := by
  rw [unexpectedFields, List.map_eq_nil_iff, List.filter_eq_nil_iff]
  intro key hkey
  obtain ⟨member, hmember, rfl⟩ := List.mem_map.mp hkey
  rw [List.all_eq_true.mp h member hmember]
  exact Bool.false_ne_true

mutual

/-- The value has a type of the field, and keeps its rules. Where the values of a map are typed only
the empty map passes: the others are left to `validateField`. -/
def fieldPasses (parts : List (List Char)) (value : Json) : FieldSpec → Bool
  | .mk expectedType allowedValues fields itemFields itemType mapValueType =>
      valuePasses parts expectedType value
        && allowedValues.all (fun values => values.contains value)
        && (!fields.isTable || value.asMapping.all (fun data =>
              keysPass data.entries fields && tablePasses parts data.entries fields))
        && (!itemFields.isTable || (value.asList.getD []).all (fun item =>
              item.asMapping.any (fun data =>
                keysPass data.entries itemFields && tablePasses parts data.entries itemFields)))
        && itemType.all (fun t => (value.asList.getD []).all (valuePasses parts t))
        && (mapValueType.isNone || value.asMapping.all (fun data => data.entries.isEmpty))

/-- Every row of the table has its member, with a value that passes. -/
def tablePasses (parts : List (List Char)) (members : List (String × Json)) : FieldTable → Bool
  | .nil => true
  | .cons name field rest =>
      isFieldName name
        && (Mapping.lookup name members).any
          (fun value => fieldPasses (parts ++ [quickChars name]) value field)
        && tablePasses parts members rest

end

theorem mem_enumeratePaths {path : String} {items : List Json} {entry : String × Json}
    (h : entry ∈ enumeratePaths path items) :
    ∃ i, entry.1 = itemPath path i ∧ entry.2 ∈ items := by
  obtain ⟨⟨item, i⟩, hmem, rfl⟩ := List.mem_map.mp h
  exact ⟨i, rfl, List.fst_mem_of_mem_zipIdx hmem⟩

theorem itemPath_ne_empty (path : String) (i : Nat) : itemPath path i ≠ "" := by
  intro hempty
  have hlength := congrArg (fun s : String => s.toList.length) hempty
  simp [itemPath] at hlength

mutual

/-- The step of a field. -/
theorem validateField_eq_nil_of_passes {path : String} (hne : path ≠ "")
    (hindex : isUnindexed path = true) {value : Json} :
    ∀ {field : FieldSpec}, fieldPasses (semanticPathParts path) value field = true →
      validateField path value field = []
  | .mk expectedType allowedValues fields itemFields itemType mapValueType => by
      intro h
      rw [fieldPasses] at h
      simp only [Bool.and_eq_true, and_assoc] at h
      obtain ⟨hvalue, hallowed, hfields, hitems, hitemType, hmap⟩ := h
      have htyped := validateTyped_eq_nil_of_passes hvalue
      have htype : matchesExpectedType value expectedType = true := by
        by_contra hother
        simp [validateTyped, hother] at htyped
      rw [validateTyped, if_pos htype] at htyped
      have hallowedIssues : validateAllowed allowedValues path value = [] := by
        cases allowedValues with
        | none => rfl
        | some values => exact issueUnless_eq_nil.mpr hallowed
      unfold validateField
      rw [if_pos htype, htyped, hallowedIssues]
      simp only [List.nil_append, List.append_eq_nil_iff]
      refine ⟨⟨⟨?_, ?_⟩, ?_⟩, ?_⟩
      -- The table of a mapping, the tables of its items, the types of its items, the types of its
      -- entries.
      · split
        next htable =>
          cases hmapping : value.asMapping with
          | none => rfl
          | some data =>
              rw [htable, hmapping] at hfields
              simp only [Bool.not_true, Bool.false_or, Option.all_some, Bool.and_eq_true] at hfields
              simp only
              rw [unexpectedFields_eq_nil_of_passes hfields.1,
                validateRows_eq_nil_of_passes (.inr ⟨hne, rfl⟩) hfields.2, List.nil_append]
        next => rfl
      · split
        next htable =>
          rw [List.flatMap_eq_nil_iff]
          intro entry hentry
          obtain ⟨i, hpath, hmem⟩ := mem_enumeratePaths hentry
          rw [htable] at hitems
          simp only [Bool.not_true, Bool.false_or, List.all_eq_true] at hitems
          obtain ⟨data, hmapping, hdata⟩ := (Option.any_eq_true _ _).mp (hitems _ hmem)
          obtain ⟨hkeys, hrows⟩ := Bool.and_eq_true_iff.mp hdata
          rw [hmapping, hpath]
          simp only
          rw [unexpectedFields_eq_nil_of_passes hkeys, validateRows_eq_nil_of_passes
            (.inr ⟨itemPath_ne_empty path i, semanticPathParts_itemPath hindex i⟩) hrows,
            List.nil_append]
        next => rfl
      · cases itemType with
        | none => rfl
        | some t =>
            simp only [List.flatMap_eq_nil_iff]
            intro entry hentry
            obtain ⟨i, hpath, hmem⟩ := mem_enumeratePaths hentry
            rw [hpath]
            refine validateTyped_eq_nil_of_passes ?_
            rw [semanticPathParts_itemPath hindex]
            exact List.all_eq_true.mp hitemType _ hmem
      · cases mapValueType with
        | none => rfl
        | some t =>
            cases hmapping : value.asMapping with
            | none => rfl
            | some data =>
                rw [hmapping] at hmap
                simp only [Option.isNone_some, Bool.false_or, Option.all_some,
                  List.isEmpty_iff] at hmap
                simp only [hmap, List.flatMap_nil]

/-- The walk of a table. -/
theorem validateRows_eq_nil_of_passes {path : String} {parts : List (List Char)}
    (hpath : StandsUnder path parts) {data : Mapping} :
    ∀ {table : FieldTable}, tablePasses parts data.entries table = true →
      validateRows path data table = []
  | .nil, _ => rfl
  | .cons name field rest, h => by
      rw [tablePasses] at h
      simp only [Bool.and_eq_true, and_assoc] at h
      obtain ⟨hname, hfield, hrest⟩ := h
      obtain ⟨value, hlookup, hpasses⟩ := (Option.any_eq_true _ _).mp hfield
      obtain ⟨hne, hindex, hparts⟩ := parts_of_joinPath hpath hname
      have hget : data.get name = value := by rw [Mapping.get, hlookup, Option.getD_some]
      have hhas : data.has name = true :=
        Mapping.has_eq_true_iff.mpr (mem_keys_of_lookup hlookup)
      rw [← hparts] at hpasses
      rw [validateRows, if_pos hhas, hget, validateField_eq_nil_of_passes hne hindex hpasses,
        validateRows_eq_nil_of_passes hpath hrest, List.nil_append]

end

/-- **A record that passes has no issues.** -/
theorem validateFields_eq_nil_of_passes {data : Mapping} {table : FieldTable}
    (hkeys : keysPass data.entries table = true)
    (hrows : tablePasses [] data.entries table = true) : validateFields "" data table = [] := by
  rw [validateFields, unexpectedFields_eq_nil_of_passes hkeys,
    validateRows_eq_nil_of_passes (.inl ⟨rfl, rfl⟩) hrows, List.nil_append]

/-! ## Section 4: Contracts -/

/-- The record keeps the field table of a contract, and no condition fails. -/
def contractPasses (c : Contract) (record : Json) : Bool :=
  record.asMapping.any (fun data =>
    data.get "schema_version" = .int 1 && keysPass data.entries c.table
      && tablePasses [] data.entries c.table && (c.conditions data).toOption = some [])

/-- **A record that passes is accepted.** -/
theorem validateContract_of_passes {c : Contract} {record : Json}
    (h : contractPasses c record = true) : validateContract c record = .ok () := by
  obtain ⟨data, hdata, hpasses⟩ := (Option.any_eq_true _ _).mp h
  simp only [Bool.and_eq_true, decide_eq_true_eq, and_assoc] at hpasses
  obtain ⟨hversion, hkeys, hrows, hconditions⟩ := hpasses
  exact validateContract_eq_ok_iff.mpr ⟨data, Mapping.asMapping_eq_some.mp hdata, hversion,
    validateFields_eq_nil_of_passes hkeys hrows, eq_ok_of_toOption hconditions⟩

end Acgps
