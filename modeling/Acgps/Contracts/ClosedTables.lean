import Acgps.Contracts.Completeness
import Acgps.Data.PyEq

/-!
# Closed tables

A table is closed when every mapping and every list that its fields take has a table or an item
type of its own. What a closed table accepts is made of nothing but its names, texts, integers,
truth values and `None`, however deep it is nested.

## Main Definitions

* `Json.isPlain` - a value without floats, whose keys are of a kind
* `FieldSpec.isClosed`, `FieldTable.isClosed` - nothing is left open at any depth

## Key Theorems

* `plain_of_validateField` - **a field of a closed table takes plain values only**
* `Json.alike_of_isPlain` - a plain value is `==` to values that it is equal to
-/

namespace Acgps

/-! ## Section 1: Plain values -/

namespace Json

mutual

/-- A value without floats, whose mappings repeat no key and have keys of a kind. -/
def isPlain (ok : String → Bool) : Json → Bool
  | .float _ => false
  | .arr items => isPlainItems ok items
  | .obj members => decide (members.map Prod.fst).Nodup && isPlainMembers ok members
  | _ => true

/-- The items of a list are plain. -/
def isPlainItems (ok : String → Bool) : List Json → Bool
  | [] => true
  | item :: rest => isPlain ok item && isPlainItems ok rest

/-- The keys of a mapping are of the kind, and its values are plain. -/
def isPlainMembers (ok : String → Bool) : List (String × Json) → Bool
  | [] => true
  | (key, value) :: rest => ok key && isPlain ok value && isPlainMembers ok rest

end

theorem isPlainItems_iff {ok : String → Bool} {items : List Json} :
    isPlainItems ok items = true ↔ ∀ item ∈ items, item.isPlain ok = true := by
  induction items with
  | nil => simp [isPlainItems]
  | cons item rest ih => simp [isPlainItems, ih]

theorem isPlainMembers_iff {ok : String → Bool} {members : List (String × Json)} :
    isPlainMembers ok members = true ↔
      ∀ member ∈ members, ok member.1 = true ∧ member.2.isPlain ok = true := by
  induction members with
  | nil => simp [isPlainMembers]
  | cons member rest ih =>
      obtain ⟨key, value⟩ := member
      simp [isPlainMembers, ih, and_assoc]

mutual

/-- A plain value has no floats. -/
theorem alike_of_isPlain {ok : String → Bool} : ∀ {v : Json}, v.isPlain ok = true →
    v.alike v = true
  | .null, _ | .bool _, _ | .int _, _ | .str _, _ => rfl
  | .float _, h => by simp [isPlain] at h
  | .arr items, h => by
      rw [isPlain] at h
      exact alikeItems_of_isPlain h
  | .obj members, h => by
      rw [isPlain, Bool.and_eq_true] at h
      exact alikeMembers_of_isPlain h.2

theorem alikeItems_of_isPlain {ok : String → Bool} : ∀ {items : List Json},
    isPlainItems ok items = true → alikeItems items items = true
  | [], _ => rfl
  | item :: rest, h => by
      obtain ⟨hitem, hrest⟩ := Bool.and_eq_true_iff.mp h
      exact Bool.and_eq_true_iff.mpr ⟨alike_of_isPlain hitem, alikeItems_of_isPlain hrest⟩

theorem alikeMembers_of_isPlain {ok : String → Bool} : ∀ {members : List (String × Json)},
    isPlainMembers ok members = true → alikeMembers members members = true
  | [], _ => rfl
  | (key, value) :: rest, h => by
      obtain ⟨hmember, hrest⟩ := Bool.and_eq_true_iff.mp h
      exact Bool.and_eq_true_iff.mpr ⟨alike_of_isPlain (Bool.and_eq_true_iff.mp hmember).2,
        alikeMembers_of_isPlain hrest⟩

end

end Json

/-- A mapping is plain when its values are, and its keys are of the kind. -/
theorem Mapping.isPlain_of_entries {ok : String → Bool} {data : Mapping}
    (h : ∀ key ∈ data.keys, ok key = true ∧ (data.get key).isPlain ok = true) :
    data.toJson.isPlain ok = true := by
  rw [toJson, Json.isPlain, Bool.and_eq_true]
  refine ⟨decide_eq_true data.keys_nodup, Json.isPlainMembers_iff.mpr ?_⟩
  rw [data.entries_eq_map_get]
  intro member hmember
  obtain ⟨key, hkey, rfl⟩ := List.mem_map.mp hmember
  exact h key hkey

/-! ## Section 2: Closed tables -/

/-- A type without parts. -/
def PyType.isScalar : PyType → Bool
  | .dict | .list => false
  | _ => true

mutual

/-- A mapping that the field takes has a closed table, and a list has items without parts or with
a closed table. -/
def FieldSpec.isClosed (ok : String → Bool) : FieldSpec → Bool
  | .mk types _ fields itemFields itemType _ =>
      (!types.contains .dict || (fields.isTable && fields.isClosed ok))
        && (!types.contains .list || itemType.any (·.all PyType.isScalar)
          || (itemFields.isTable && itemFields.isClosed ok))

/-- The names of the table are of a kind, and its fields are closed. -/
def FieldTable.isClosed (ok : String → Bool) : FieldTable → Bool
  | .nil => true
  | .cons name field rest => ok name && field.isClosed ok && rest.isClosed ok

end

/-- A value of a type without parts is plain. -/
theorem isPlain_of_scalar {ok : String → Bool} {v : Json} {t : PyType} (h : t.accepts v = true)
    (hscalar : t.isScalar = true) : v.isPlain ok = true := by
  cases t with
  | dict => cases hscalar
  | list => cases hscalar
  | int | str | bool | none =>
      cases v <;> first | rfl | simp [PyType.accepts] at h

/-- A mapping without other keys than those of its table is plain when its fields are. -/
theorem isPlain_of_table {ok : String → Bool} {path : String} {data : Mapping} {table : FieldTable}
    (hkeys : unexpectedFields path data table = [])
    (hrows : ∀ name ∈ table.toList.map Prod.fst,
      ok name = true ∧ (data.get name).isPlain ok = true) :
    data.toJson.isPlain ok = true := by
  apply Mapping.isPlain_of_entries
  intro key hkey
  rw [unexpectedFields, List.map_eq_nil_iff, List.filter_eq_nil_iff] at hkeys
  exact hrows key (by simpa using hkeys key hkey)

/-- The issues of a list are those of its items. -/
theorem forall_mem_of_enumeratePaths {path : String} {items : List Json}
    {check : String × Json → List ValidationIssue}
    (h : (enumeratePaths path items).flatMap check = []) :
    ∀ item ∈ items, ∃ itemPath, check (itemPath, item) = [] := by
  intro item hitem
  obtain ⟨index, hindex, rfl⟩ := List.mem_iff_getElem.mp hitem
  refine ⟨itemPath path index, List.flatMap_eq_nil_iff.mp h _ ?_⟩
  exact List.mem_map.mpr ⟨(items[index], index),
    List.mk_mem_zipIdx_iff_getElem?.mpr (by simp), rfl⟩

mutual

/-- **A field of a closed table takes plain values only.** -/
theorem plain_of_validateField {ok : String → Bool} {path : String} {v : Json} :
    ∀ {field : FieldSpec}, field.isClosed ok = true → validateField path v field = [] →
      v.isPlain ok = true
  | .mk types allowed fields itemFields itemType mapValueType, hclosed, h => by
      simp only [FieldSpec.isClosed, Bool.and_eq_true, Bool.or_eq_true,
        Bool.not_eq_true'] at hclosed
      obtain ⟨hdict, hlist⟩ := hclosed
      by_cases htype : matchesExpectedType v types = true
      · simp only [validateField, htype, if_true, List.append_eq_nil_iff] at h
        obtain ⟨⟨⟨⟨⟨-, -⟩, hfields⟩, hitems⟩, htyped⟩, -⟩ := h
        obtain ⟨t, ht, haccepts⟩ := List.any_eq_true.mp htype
        cases t with
        | int | str | bool | none => exact isPlain_of_scalar haccepts rfl
        | dict =>
            obtain ⟨htable, hclosed⟩ := hdict.resolve_left (by simp [ht])
            obtain ⟨data, hdata⟩ := Option.isSome_iff_exists.mp haccepts
            simp only [htable, if_true, hdata, List.append_eq_nil_iff] at hfields
            obtain rfl := Mapping.asMapping_eq_some.mp hdata
            exact isPlain_of_table hfields.1 (plain_of_validateRows hclosed hfields.2)
        | list =>
            cases v with
            | arr items =>
                rw [Json.isPlain, Json.isPlainItems_iff]
                intro item hitem
                rcases (or_assoc.mp hlist).resolve_left (by simp [ht]) with
                  hscalars | ⟨htable, hclosed⟩
                · -- the items have types without parts
                  obtain ⟨expected, hexpected, hall⟩ := (Option.any_eq_true _ _).mp hscalars
                  simp only [hexpected, Json.asList, Option.getD_some] at htyped
                  obtain ⟨itemPath, hitems⟩ := forall_mem_of_enumeratePaths htyped item hitem
                  by_cases hmatch : matchesExpectedType item expected = true
                  · obtain ⟨t, ht, haccepts⟩ := List.any_eq_true.mp hmatch
                    exact isPlain_of_scalar haccepts (List.all_eq_true.mp hall t ht)
                  · simp [validateTyped, hmatch] at hitems
                · -- the items are mappings of a closed table
                  simp only [htable, if_true, Json.asList, Option.getD_some] at hitems
                  obtain ⟨itemPath, hitems⟩ := forall_mem_of_enumeratePaths hitems item hitem
                  split at hitems
                  next data hdata =>
                    rw [List.append_eq_nil_iff] at hitems
                    obtain rfl := Mapping.asMapping_eq_some.mp hdata
                    exact isPlain_of_table hitems.1 (plain_of_validateRows hclosed hitems.2)
                  next => cases hitems
            | _ => simp [PyType.accepts] at haccepts
      · simp [validateField, htype] at h

/-- The fields of a closed table are plain. -/
theorem plain_of_validateRows {ok : String → Bool} {path : String} {data : Mapping} :
    ∀ {table : FieldTable}, table.isClosed ok = true → validateRows path data table = [] →
      ∀ name ∈ table.toList.map Prod.fst, ok name = true ∧ (data.get name).isPlain ok = true
  | .nil, _, _ => by simp [FieldTable.toList]
  | .cons name field rest, hclosed, h => by
      simp only [FieldTable.isClosed, Bool.and_eq_true] at hclosed
      obtain ⟨⟨hname, hfield⟩, hrest⟩ := hclosed
      simp only [validateRows, List.append_eq_nil_iff] at h
      obtain ⟨hrow, hrows⟩ := h
      intro other hother
      simp only [FieldTable.toList, List.map_cons, List.mem_cons] at hother
      rcases hother with rfl | hother
      · split at hrow
        · exact ⟨hname, plain_of_validateField hfield hrow⟩
        · cases hrow
      · exact plain_of_validateRows hrest hrows other hother

end

/-- **A mapping of a closed table is plain.** -/
theorem plain_of_validateFields {ok : String → Bool} {path : String} {data : Mapping}
    {table : FieldTable} (hclosed : table.isClosed ok = true)
    (h : validateFields path data table = []) : data.toJson.isPlain ok = true := by
  rw [validateFields, List.append_eq_nil_iff] at h
  exact isPlain_of_table h.1 (plain_of_validateRows hclosed h.2)

end Acgps
