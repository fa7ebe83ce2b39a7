import Acgps.Data.TextBytes

/-!
# JSON values and their canonical text

The values the control store, the decision queue and the evidence files carry.

## Main Definitions

* `Json` - a value as the Python standard library reads and writes it
* `Json.dumps` - the text of `json.dumps(sort_keys=True, separators=(",", ":"), ensure_ascii=True)`
* `Mapping` - an object whose keys are strictly increasing, so that it is determined by its entries
* `jsonNestingDepth` - the bracket depth of a text, with strings skipped

## Key Theorems

* `Mapping.entries_eq_map_get` - a mapping is the list of its looked-up values
* `Mapping.keys_eq_of_mem_iff` - the keys of a mapping are determined by which keys it has
-/

namespace Acgps

/-! ## Section 1: Values -/

/-- A character of the text of a float, of an infinity or of a NaN. -/
def isFloatChar (c : Char) : Bool := c.isAlphanum || c = '.' || c = '-' || c = '+'

/-- The text Python prints for a float. -/
abbrev FloatText := { s : String // s.toList.all isFloatChar = true }

/-- A JSON value. An object lists its members in key order, the order in which the canonical
text prints them; a float is kept as the text Python prints for it. -/
inductive Json where
  | null
  | bool (b : Bool)
  | int (n : Int)
  | float (repr : FloatText)
  | str (s : String)
  | arr (items : List Json)
  | obj (members : List (String × Json))

namespace Json

instance : Inhabited Json := ⟨.null⟩

mutual

/-- Equality of two values, decided along their structure. -/
def decEq : (a b : Json) → Decidable (a = b)
  | .null, .null => .isTrue rfl
  | .bool a, .bool b => decidable_of_iff (a = b) (by simp)
  | .int a, .int b => decidable_of_iff (a = b) (by simp)
  | .float a, .float b => decidable_of_iff (a = b) (by simp)
  | .str a, .str b => decidable_of_iff (a = b) (by simp)
  | .arr a, .arr b =>
      match decEqItems a b with
      | .isTrue h => .isTrue (by rw [h])
      | .isFalse h => .isFalse (fun hab => h (by injection hab))
  | .obj a, .obj b =>
      match decEqMembers a b with
      | .isTrue h => .isTrue (by rw [h])
      | .isFalse h => .isFalse (fun hab => h (by injection hab))
  | .null, .bool _ | .null, .int _ | .null, .float _ | .null, .str _ | .null, .arr _
  | .null, .obj _ | .bool _, .null | .bool _, .int _ | .bool _, .float _ | .bool _, .str _
  | .bool _, .arr _ | .bool _, .obj _ | .int _, .null | .int _, .bool _ | .int _, .float _
  | .int _, .str _ | .int _, .arr _ | .int _, .obj _ | .float _, .null | .float _, .bool _
  | .float _, .int _ | .float _, .str _ | .float _, .arr _ | .float _, .obj _ | .str _, .null
  | .str _, .bool _ | .str _, .int _ | .str _, .float _ | .str _, .arr _ | .str _, .obj _
  | .arr _, .null | .arr _, .bool _ | .arr _, .int _ | .arr _, .float _ | .arr _, .str _
  | .arr _, .obj _ | .obj _, .null | .obj _, .bool _ | .obj _, .int _ | .obj _, .float _
  | .obj _, .str _ | .obj _, .arr _ => .isFalse (fun h => nomatch h)

/-- Equality of two item lists. -/
def decEqItems : (a b : List Json) → Decidable (a = b)
  | [], [] => .isTrue rfl
  | [], _ :: _ | _ :: _, [] => .isFalse (fun h => nomatch h)
  | a :: as, b :: bs =>
      match decEq a b with
      | .isFalse h => .isFalse (fun hab => h (by injection hab))
      | .isTrue h =>
          match decEqItems as bs with
          | .isTrue hs => .isTrue (by rw [h, hs])
          | .isFalse hs => .isFalse (fun hab => hs (by injection hab))

/-- Equality of two member lists. -/
def decEqMembers : (a b : List (String × Json)) → Decidable (a = b)
  | [], [] => .isTrue rfl
  | [], _ :: _ | _ :: _, [] => .isFalse (fun h => nomatch h)
  | (k, a) :: as, (l, b) :: bs =>
      if hk : k = l then
        match decEq a b with
        | .isFalse h => .isFalse (fun hab => h (by injection hab with hp; injection hp))
        | .isTrue h =>
            match decEqMembers as bs with
            | .isTrue hs => .isTrue (by rw [hk, h, hs])
            | .isFalse hs => .isFalse (fun hab => hs (by injection hab))
      else .isFalse (fun hab => hk (by injection hab with hp; injection hp))

end

instance : DecidableEq Json := decEq

/-- `isinstance(value, str)`, with the string itself. -/
def asStr : Json → Option String
  | .str s => some s
  | _ => none

/-- `type(value) is int`, with the integer itself (a bool is not one). -/
def asInt : Json → Option Int
  | .int n => some n
  | _ => none

/-- `isinstance(value, list)`, with the items. -/
def asList : Json → Option (List Json)
  | .arr items => some items
  | _ => none

@[simp] theorem asStr_eq_some {v : Json} {s : String} : v.asStr = some s ↔ v = .str s := by
  cases v <;> simp [asStr]

@[simp] theorem asInt_eq_some {v : Json} {n : Int} : v.asInt = some n ↔ v = .int n := by
  cases v <;> simp [asInt]

@[simp] theorem asList_eq_some {v : Json} {items : List Json} :
    v.asList = some items ↔ v = .arr items := by
  cases v <;> simp [asList]

/-- The list of strings as a JSON array. -/
def strs (values : List String) : Json :=
  .arr (values.map .str)

/-- An optional string: `None` prints as `null`. -/
def ofOption {α : Type} (f : α → Json) : Option α → Json
  | none => .null
  | some a => f a

@[simp] theorem ofOption_none {α : Type} (f : α → Json) : ofOption f none = .null := rfl

@[simp] theorem ofOption_some {α : Type} (f : α → Json) (a : α) : ofOption f (some a) = f a := rfl

end Json

/-! ## Section 2: Mappings -/

/-- The entries of a Python dictionary: keys strictly increasing, hence without repetition. -/
structure Mapping where
  entries : List (String × Json)
  sorted : (entries.map Prod.fst).Pairwise (· < ·)

instance : DecidableEq Mapping := fun a b =>
  decidable_of_iff (a.entries = b.entries) (by cases a; cases b; simp)

/-- `isinstance(value, dict)`, with the entries. -/
def Json.asMapping : Json → Option Mapping
  | .obj members =>
      if h : (members.map Prod.fst).Pairwise (· < ·) then some ⟨members, h⟩ else none
  | _ => none

namespace Mapping

/-- The mapping as a value. -/
def toJson (m : Mapping) : Json := .obj m.entries

/-- `set(record)`, in key order. -/
def keys (m : Mapping) : List String := m.entries.map Prod.fst

/-- The value under a key in an entry list, `None` when the key is missing. -/
def lookup (key : String) : List (String × Json) → Option Json
  | [] => none
  | (k, v) :: rest => if k = key then some v else lookup key rest

/-- `record.get(key)`. -/
def get (m : Mapping) (key : String) : Json := (lookup key m.entries).getD .null

/-- `key in record`. -/
def has (m : Mapping) (key : String) : Bool := m.keys.contains key

theorem toJson_injective : Function.Injective toJson := by
  rintro ⟨a, ha⟩ ⟨b, hb⟩ h
  simp only [toJson, Json.obj.injEq] at h
  subst h
  rfl

@[simp] theorem toJson_ne_null (m : Mapping) : m.toJson ≠ .null := by
  simp [toJson]

@[simp] theorem asMapping_eq_some {v : Json} {m : Mapping} :
    v.asMapping = some m ↔ v = m.toJson := by
  constructor
  · intro h
    cases v with
    | obj members =>
        simp only [Json.asMapping, Option.dite_none_right_eq_some, Option.some.injEq] at h
        obtain ⟨_, rfl⟩ := h
        rfl
    | _ => simp [Json.asMapping] at h
  · rintro rfl
    exact dif_pos m.sorted

@[simp] theorem asMapping_toJson (m : Mapping) : m.toJson.asMapping = some m := by simp

theorem keys_nodup (m : Mapping) : m.keys.Nodup :=
  m.sorted.imp (fun h => ne_of_lt h)

private theorem lookup_eq_some_of_mem {key : String} {v : Json} :
    ∀ {l : List (String × Json)}, (l.map Prod.fst).Nodup → (key, v) ∈ l → lookup key l = some v
  | [], _, h => by simp at h
  | (k, w) :: rest, hnd, h => by
      simp only [List.map_cons, List.nodup_cons] at hnd
      rcases List.mem_cons.mp h with heq | hmem
      · obtain ⟨rfl, rfl⟩ := Prod.mk.inj heq
        simp [lookup]
      · have hne : k ≠ key := by
          rintro rfl
          exact hnd.1 (List.mem_map.mpr ⟨_, hmem, rfl⟩)
        simpa [lookup, hne] using lookup_eq_some_of_mem hnd.2 hmem

/-- **A mapping with known keys is the list of its looked-up values.** -/
theorem entries_eq_map_get (m : Mapping) : m.entries = m.keys.map (fun k => (k, m.get k)) := by
  rw [keys, List.map_map]
  refine (List.map_id m.entries).symm.trans (List.map_congr_left ?_)
  rintro ⟨k, v⟩ hmem
  simp [get, lookup_eq_some_of_mem m.keys_nodup hmem]

/-- A key that a mapping does not have has no value. -/
theorem get_of_not_mem_keys {m : Mapping} {key : String} (h : key ∉ m.keys) : m.get key = .null := by
  have hlookup : ∀ l : List (String × Json), key ∉ l.map Prod.fst → lookup key l = none := by
    intro l
    induction l with
    | nil => intro _; rfl
    | cons entry l ih =>
        intro hnot
        rw [List.map_cons, List.mem_cons, not_or] at hnot
        rw [lookup, if_neg (Ne.symm hnot.1), ih hnot.2]
  rw [get, hlookup m.entries h, Option.getD_none]

theorem has_eq_true_iff {m : Mapping} {key : String} : m.has key = true ↔ key ∈ m.keys := by
  simp [has]

/-- Two strictly sorted key lists with the same members are equal. -/
theorem keys_eq_of_mem_iff {m : Mapping} {allowed : List String}
    (hallowed : allowed.Pairwise (· < ·)) (h : ∀ k, k ∈ m.keys ↔ k ∈ allowed) :
    m.keys = allowed := by
  refine List.Perm.eq_of_pairwise (fun a b _ _ (hab : a < b) (hba : b < a) => ?_)
    m.sorted hallowed ((List.perm_ext_iff_of_nodup m.keys_nodup ?_).mpr h)
  · exact absurd hba (lt_asymm hab)
  · exact hallowed.imp (fun h => ne_of_lt h)

/-- `dict(record, key=value)` for a key the record has. -/
def set (m : Mapping) (key : String) (value : Json) : Mapping where
  entries := m.entries.map (fun e => if e.1 = key then (e.1, value) else e)
  sorted := by
    have h : (m.entries.map (fun e => if e.1 = key then (e.1, value) else e)).map Prod.fst
        = m.entries.map Prod.fst := by
      rw [List.map_map]
      refine List.map_congr_left (fun e _ => ?_)
      by_cases he : e.1 = key <;> simp [he]
    rw [h]
    exact m.sorted

/-- The other values stay. -/
theorem get_set_of_ne (m : Mapping) {key field : String} (value : Json) (h : field ≠ key) :
    (m.set key value).get field = m.get field := by
  have hlookup : ∀ entries : List (String × Json),
      lookup field (entries.map (fun e => if e.1 = key then (e.1, value) else e))
        = lookup field entries := by
    intro entries
    induction entries with
    | nil => rfl
    | cons entry rest ih =>
        by_cases hkey : entry.1 = key
        · have hne : entry.1 ≠ field := fun hfield => h (hfield.symm.trans hkey)
          rw [List.map_cons, if_pos hkey, lookup, if_neg hne, ih, lookup, if_neg hne]
        · rw [List.map_cons, if_neg hkey, lookup, lookup, ih]
  rw [get, get, set, hlookup]

/-- The entries of a dictionary after `record[key] = value`, in key order. -/
def putEntry (key : String) (value : Json) : List (String × Json) → List (String × Json)
  | [] => [(key, value)]
  | (k, v) :: rest =>
      if key < k then (key, value) :: (k, v) :: rest
      else if key = k then (key, value) :: rest
      else (k, v) :: putEntry key value rest

theorem mem_putEntry {key : String} {value : Json} {entry : String × Json}
    {l : List (String × Json)} (h : entry ∈ putEntry key value l) :
    entry = (key, value) ∨ entry ∈ l := by
  induction l with
  | nil => exact .inl (List.mem_singleton.mp h)
  | cons first rest ih =>
      obtain ⟨k, v⟩ := first
      unfold putEntry at h
      split at h
      · exact List.mem_cons.mp h
      split at h
      · exact (List.mem_cons.mp h).imp_right (List.mem_cons_of_mem _)
      · rcases List.mem_cons.mp h with rfl | hmem
        · exact .inr List.mem_cons_self
        · exact (ih hmem).imp_right (List.mem_cons_of_mem _)

private theorem putEntry_sorted {key : String} {value : Json} {l : List (String × Json)}
    (h : (l.map Prod.fst).Pairwise (· < ·)) :
    ((putEntry key value l).map Prod.fst).Pairwise (· < ·) := by
  induction l with
  | nil => simp [putEntry]
  | cons entry rest ih =>
      obtain ⟨k, v⟩ := entry
      have hk := (List.pairwise_cons.mp h).1
      have hrest := (List.pairwise_cons.mp h).2
      unfold putEntry
      split
      next hlt =>
        refine List.pairwise_cons.mpr ⟨fun k' hk' => ?_, h⟩
        rcases List.mem_cons.mp hk' with rfl | hmem
        · exact hlt
        · exact lt_trans hlt (hk k' hmem)
      next hnlt =>
        split
        next heq =>
          subst heq
          exact h
        next hne =>
          refine List.pairwise_cons.mpr ⟨fun k' hk' => ?_, ih hrest⟩
          obtain ⟨entry, hentry, rfl⟩ := List.mem_map.mp hk'
          rcases mem_putEntry hentry with rfl | hmem
          · exact lt_of_le_of_ne (not_lt.mp hnlt) (Ne.symm hne)
          · exact hk entry.1 (List.mem_map_of_mem hmem)

/-- No entry is out of order. -/
theorem sorted_nil : (([] : List (String × Json)).map Prod.fst).Pairwise (· < ·) :=
  List.Pairwise.nil

/-- `record[key] = value`. -/
def put (m : Mapping) (key : String) (value : Json) : Mapping :=
  ⟨putEntry key value m.entries, putEntry_sorted m.sorted⟩

/-- A dictionary built by assignments. -/
def ofPairs (pairs : List (String × Json)) : Mapping :=
  pairs.foldl (fun m pair => m.put pair.1 pair.2) ⟨[], List.Pairwise.nil⟩

/-- The entries of the dictionary were all assigned. -/
theorem mem_entries_ofPairs {pairs : List (String × Json)} {entry : String × Json}
    (h : entry ∈ (ofPairs pairs).entries) : entry ∈ pairs := by
  have hall : ∀ (pairs : List (String × Json)) (m : Mapping),
      entry ∈ (pairs.foldl (fun m pair => m.put pair.1 pair.2) m).entries →
        entry ∈ m.entries ∨ entry ∈ pairs := by
    intro pairs
    induction pairs with
    | nil => exact fun m hm => .inl hm
    | cons pair rest ih =>
        intro m hm
        rcases ih (m.put pair.1 pair.2) hm with hput | hrest
        · rcases mem_putEntry hput with rfl | hmem
          · exact .inr List.mem_cons_self
          · exact .inl hmem
        · exact .inr (List.mem_cons_of_mem _ hrest)
  exact (hall pairs _ h).resolve_left List.not_mem_nil

end Mapping

/-! ## Section 3: The canonical text -/

def hexDigit (n : Nat) : Char :=
  if n < 10 then Char.ofNat (48 + n) else Char.ofNat (87 + n)

/-- Four hexadecimal digits after a unicode escape. -/
def unicodeEscape (n : Nat) : List Char :=
  ['\\', 'u', hexDigit (n / 4096 % 16), hexDigit (n / 256 % 16), hexDigit (n / 16 % 16),
    hexDigit (n % 16)]

/-- One character inside a string literal under `ensure_ascii`; a character beyond the basic
plane prints as a surrogate pair. -/
def escapeChar (c : Char) : List Char :=
  if c = '"' then ['\\', '"']
  else if c = '\\' then ['\\', '\\']
  else if c = '\n' then ['\\', 'n']
  else if c = '\r' then ['\\', 'r']
  else if c = '\t' then ['\\', 't']
  else if c.toNat = 8 then ['\\', 'b']
  else if c.toNat = 12 then ['\\', 'f']
  else if 32 ≤ c.toNat ∧ c.toNat ≤ 126 then [c]
  else if c.toNat < 65536 then unicodeEscape c.toNat
  else
    unicodeEscape (55296 + (c.toNat - 65536) / 1024) ++
      unicodeEscape (56320 + (c.toNat - 65536) % 1024)

/-- A string literal. -/
def dumpsStr (s : String) : List Char :=
  '"' :: (s.toList.flatMap escapeChar ++ ['"'])

namespace Json

mutual

/-- The characters of `canonical_json_bytes(value)`: every one is ASCII, so they are its bytes. -/
def dumps : Json → List Char
  | .null => ['n', 'u', 'l', 'l']
  | .bool true => ['t', 'r', 'u', 'e']
  | .bool false => ['f', 'a', 'l', 's', 'e']
  | .int n => (toString n).toList
  | .float repr => repr.val.toList
  | .str s => dumpsStr s
  | .arr items => '[' :: (dumpsItems items ++ [']'])
  | .obj members => '\x7b' :: (dumpsMembers members ++ ['\x7d'])

/-- The items of an array, separated by commas. -/
def dumpsItems : List Json → List Char
  | [] => []
  | [v] => dumps v
  | v :: w :: rest => dumps v ++ ',' :: dumpsItems (w :: rest)

/-- The members of an object, separated by commas. -/
def dumpsMembers : List (String × Json) → List Char
  | [] => []
  | [(k, v)] => dumpsStr k ++ ':' :: dumps v
  | (k, v) :: w :: rest => dumpsStr k ++ ':' :: (dumps v ++ ',' :: dumpsMembers (w :: rest))

end

end Json

/-! ## Section 4: Nesting depth -/

/-- Where the scan of `_json_nesting_depth` stands. -/
structure DepthScan where
  depth : Nat
  maximum : Nat
  inString : Bool
  escaped : Bool

/-- One character of the scan. -/
def DepthScan.step (scan : DepthScan) (c : Char) : DepthScan :=
  if scan.inString then
    if scan.escaped then { scan with escaped := false }
    else if c = '\\' then { scan with escaped := true }
    else if c = '"' then { scan with inString := false }
    else scan
  else if c = '"' then { scan with inString := true }
  else if c = '[' ∨ c = '\x7b' then
    { scan with depth := scan.depth + 1, maximum := max scan.maximum (scan.depth + 1) }
  else if c = ']' ∨ c = '\x7d' then { scan with depth := scan.depth - 1 }
  else scan

/-- The deepest bracket nesting of a text. -/
def jsonNestingDepth (text : List Char) : Nat :=
  (text.foldl DepthScan.step ⟨0, 0, false, false⟩).maximum

end Acgps
