import Acgps.Data.Json
import Mathlib.Data.List.Basic

/-!
# The size and the depth of a canonical text

The store measures the text of a record: its bytes, and the deepest bracket nesting a scan of its
characters finds. Both can be read off the value.

## Main Definitions

* `Json.width` - a bound on the number of characters
* `Json.nesting` - how deep arrays and objects are nested

## Key Theorems

* `Json.length_dumps_le` - the width bounds the text
* `Json.jsonNestingDepth_dumps` - **the scan finds the nesting of the value**, whatever brackets
  its strings contain
-/

namespace Acgps

/-! ## Section 1: Sizes -/

/-- A bound on the characters of a string literal: an escape takes at most twelve. -/
def strWidth (s : String) : Nat := 12 * s.toList.length + 2

namespace Json

mutual

/-- A bound on the number of characters of the canonical text. -/
def width : Json → Nat
  | .null => 4
  | .bool _ => 5
  | .int n => (toString n).toList.length
  | .float repr => repr.val.toList.length
  | .str s => strWidth s
  | .arr items => widthItems items + 2
  | .obj members => widthMembers members + 2

/-- A bound for the items of an array. -/
def widthItems : List Json → Nat
  | [] => 0
  | v :: rest => width v + 1 + widthItems rest

/-- A bound for the members of an object. -/
def widthMembers : List (String × Json) → Nat
  | [] => 0
  | (k, v) :: rest => strWidth k + 1 + width v + 1 + widthMembers rest

end

/-! ## Section 2: Texts read off their bytes -/

mutual

/-- The width, with the texts read off their bytes. -/
def quickWidth : Json → Nat
  | .str s => 12 * (quickChars s).length + 2
  | .arr items => quickWidthItems items + 2
  | .obj members => quickWidthMembers members + 2
  | value => width value

/-- The items of an array. -/
def quickWidthItems : List Json → Nat
  | [] => 0
  | v :: rest => quickWidth v + 1 + quickWidthItems rest

/-- The members of an object. -/
def quickWidthMembers : List (String × Json) → Nat
  | [] => 0
  | (k, v) :: rest =>
      (12 * (quickChars k).length + 2) + 1 + quickWidth v + 1 + quickWidthMembers rest

end

mutual

theorem quickWidth_eq : ∀ v : Json, v.quickWidth = v.width
  | .str s => by rw [quickWidth, width, strWidth, quickChars_eq]
  | .arr items => by rw [quickWidth, width, quickWidthItems_eq items]
  | .obj members => by rw [quickWidth, width, quickWidthMembers_eq members]
  | .null => rfl
  | .bool _ => rfl
  | .int _ => rfl
  | .float _ => rfl

private theorem quickWidthItems_eq : ∀ items : List Json, quickWidthItems items = widthItems items
  | [] => rfl
  | v :: rest => by rw [quickWidthItems, widthItems, quickWidth_eq v, quickWidthItems_eq rest]

private theorem quickWidthMembers_eq : ∀ members : List (String × Json),
    quickWidthMembers members = widthMembers members
  | [] => rfl
  | (k, v) :: rest => by
      rw [quickWidthMembers, widthMembers, strWidth, quickChars_eq, quickWidth_eq v,
        quickWidthMembers_eq rest]

end

end Json

/-- A string literal, with the text read off its bytes. -/
def quickDumpsStr (s : String) : List Char :=
  '"' :: ((quickChars s).flatMap escapeChar ++ ['"'])

theorem quickDumpsStr_eq (s : String) : quickDumpsStr s = dumpsStr s := by
  rw [quickDumpsStr, dumpsStr, quickChars_eq]

namespace Json

mutual

/-- The canonical text, with the strings read off their bytes. -/
def quickDumps : Json → List Char
  | .str s => quickDumpsStr s
  | .arr items => '[' :: (quickDumpsItems items ++ [']'])
  | .obj members => '\x7b' :: (quickDumpsMembers members ++ ['\x7d'])
  | value => dumps value

/-- The items of an array. -/
def quickDumpsItems : List Json → List Char
  | [] => []
  | [v] => quickDumps v
  | v :: w :: rest => quickDumps v ++ ',' :: quickDumpsItems (w :: rest)

/-- The members of an object. -/
def quickDumpsMembers : List (String × Json) → List Char
  | [] => []
  | [(k, v)] => quickDumpsStr k ++ ':' :: quickDumps v
  | (k, v) :: w :: rest =>
      quickDumpsStr k ++ ':' :: (quickDumps v ++ ',' :: quickDumpsMembers (w :: rest))

end

mutual

theorem quickDumps_eq : ∀ v : Json, v.quickDumps = v.dumps
  | .str s => by rw [quickDumps, dumps, quickDumpsStr_eq]
  | .arr items => by rw [quickDumps, dumps, quickDumpsItems_eq items]
  | .obj members => by rw [quickDumps, dumps, quickDumpsMembers_eq members]
  | .null => rfl
  | .bool _ => rfl
  | .int _ => rfl
  | .float _ => rfl

private theorem quickDumpsItems_eq : ∀ items : List Json, quickDumpsItems items = dumpsItems items
  | [] => rfl
  | [v] => by rw [quickDumpsItems, dumpsItems, quickDumps_eq v]
  | v :: w :: rest => by
      rw [quickDumpsItems, dumpsItems, quickDumps_eq v, quickDumpsItems_eq (w :: rest)]

private theorem quickDumpsMembers_eq : ∀ members : List (String × Json),
    quickDumpsMembers members = dumpsMembers members
  | [] => rfl
  | [(k, v)] => by rw [quickDumpsMembers, dumpsMembers, quickDumpsStr_eq, quickDumps_eq v]
  | (k, v) :: w :: rest => by
      rw [quickDumpsMembers, dumpsMembers, quickDumpsStr_eq, quickDumps_eq v,
        quickDumpsMembers_eq (w :: rest)]

end

end Json

/-! ## Section 3: The bound -/

/-- **The escape of a character, case by case.** -/
theorem escapeChar_cases (P : List Char → Prop) (c : Char)
    (hpair : ∀ b ∈ ['"', '\\', 'n', 'r', 't', 'b', 'f'], P ['\\', b])
    (hself : c ≠ '"' → c ≠ '\\' → c ≠ '\n' → c ≠ '\r' → P [c])
    (hunicode : ∀ n, P (unicodeEscape n))
    (hsurrogates : ∀ m n, P (unicodeEscape m ++ unicodeEscape n)) : P (escapeChar c) := by
  unfold escapeChar
  by_cases hquote : c = '"'
  · rw [if_pos hquote]
    exact hpair _ (by simp)
  by_cases hslash : c = '\\'
  · rw [if_neg hquote, if_pos hslash]
    exact hpair _ (by simp)
  by_cases hfeed : c = '\n'
  · rw [if_neg hquote, if_neg hslash, if_pos hfeed]
    exact hpair _ (by simp)
  by_cases hreturn : c = '\r'
  · rw [if_neg hquote, if_neg hslash, if_neg hfeed, if_pos hreturn]
    exact hpair _ (by simp)
  rw [if_neg hquote, if_neg hslash, if_neg hfeed, if_neg hreturn]
  split
  · exact hpair _ (by simp)
  split
  · exact hpair _ (by simp)
  split
  · exact hpair _ (by simp)
  split
  · exact hself hquote hslash hfeed hreturn
  split
  · exact hunicode _
  · exact hsurrogates _ _

private theorem length_escapeChar_le (c : Char) : (escapeChar c).length ≤ 12 := by
  apply escapeChar_cases (fun text => text.length ≤ 12)
  · intro b _
    exact Nat.le_of_ble_eq_true rfl
  · intro _ _ _ _
    exact Nat.le_of_ble_eq_true rfl
  · intro n
    simp [unicodeEscape]
  · intro m n
    simp [unicodeEscape]

theorem length_dumpsStr_le (s : String) : (dumpsStr s).length ≤ strWidth s := by
  have h : ∀ cs : List Char, (cs.flatMap escapeChar).length ≤ 12 * cs.length := by
    intro cs
    induction cs with
    | nil => simp
    | cons c rest ih =>
        have := length_escapeChar_le c
        simp only [List.flatMap_cons, List.length_append, List.length_cons]
        omega
  have := h s.toList
  simp only [dumpsStr, List.length_cons, List.length_append, List.length_nil, strWidth]
  omega

namespace Json

mutual

/-- **The width bounds the text.** -/
theorem length_dumps_le : ∀ v : Json, v.dumps.length ≤ v.width
  | .null => by simp [dumps, width]
  | .bool b => by cases b <;> simp [dumps, width]
  | .int n => by simp [dumps, width]
  | .float repr => by simp [dumps, width]
  | .str s => by simpa [dumps, width] using length_dumpsStr_le s
  | .arr items => by
      have := length_dumpsItems_le items
      simp only [dumps, width, List.length_cons, List.length_append, List.length_nil]
      omega
  | .obj members => by
      have := length_dumpsMembers_le members
      simp only [dumps, width, List.length_cons, List.length_append, List.length_nil]
      omega

private theorem length_dumpsItems_le : ∀ items : List Json,
    (dumpsItems items).length ≤ widthItems items
  | [] => by simp [dumpsItems]
  | [v] => by
      have := length_dumps_le v
      simp only [dumpsItems, widthItems]
      omega
  | v :: w :: rest => by
      have := length_dumps_le v
      have := length_dumpsItems_le (w :: rest)
      simp only [dumpsItems, widthItems, List.length_append, List.length_cons] at this ⊢
      omega

private theorem length_dumpsMembers_le : ∀ members : List (String × Json),
    (dumpsMembers members).length ≤ widthMembers members
  | [] => by simp [dumpsMembers]
  | [(k, v)] => by
      have := length_dumpsStr_le k
      have := length_dumps_le v
      simp only [dumpsMembers, widthMembers, List.length_append, List.length_cons]
      omega
  | (k, v) :: w :: rest => by
      have := length_dumpsStr_le k
      have := length_dumps_le v
      have := length_dumpsMembers_le (w :: rest)
      simp only [dumpsMembers, widthMembers, List.length_append, List.length_cons] at this ⊢
      omega

end

/-! ## Section 4: Depths -/

mutual

/-- How deep arrays and objects are nested. -/
def nesting : Json → Nat
  | .null | .bool _ | .int _ | .float _ | .str _ => 0
  | .arr items => nestingItems items + 1
  | .obj members => nestingMembers members + 1

/-- The deepest item of an array. -/
def nestingItems : List Json → Nat
  | [] => 0
  | v :: rest => max (nesting v) (nestingItems rest)

/-- The deepest member of an object. -/
def nestingMembers : List (String × Json) → Nat
  | [] => 0
  | (_, v) :: rest => max (nesting v) (nestingMembers rest)

end

end Json

/-- A scan outside of any string. -/
def DepthScan.at (depth maximum : Nat) : DepthScan := ⟨depth, maximum, false, false⟩

/-- A character that a scan outside of any string passes over. -/
def isScanNeutral (c : Char) : Bool :=
  !(['"', '[', ']', '\x7b', '\x7d'].contains c)

theorem scan_neutral {depth maximum : Nat} {cs : List Char}
    (h : ∀ c ∈ cs, isScanNeutral c = true) :
    cs.foldl DepthScan.step (.at depth maximum) = .at depth maximum := by
  induction cs with
  | nil => rfl
  | cons c rest ih =>
      have hc := h c (by simp)
      simp only [isScanNeutral, List.contains_eq_mem, List.mem_cons, List.not_mem_nil, or_false,
        Bool.not_eq_true', decide_eq_false_iff_not, not_or] at hc
      obtain ⟨hquote, hopen, hclose, hopen', hclose'⟩ := hc
      rw [List.foldl_cons]
      have hstep : DepthScan.step (.at depth maximum) c = .at depth maximum := by
        simp [DepthScan.step, DepthScan.at, hquote, hopen, hclose, hopen', hclose']
      rw [hstep]
      exact ih (fun c hc => h c (by simp [hc]))

private theorem hexDigit_ne {n : Nat} (hn : n < 16) : hexDigit n ≠ '"' ∧ hexDigit n ≠ '\\' := by
  revert n
  decide

/-- The escape of a character leaves the scan inside the string. -/
private theorem scan_escapeChar (depth maximum : Nat) (c : Char) :
    (escapeChar c).foldl DepthScan.step ⟨depth, maximum, true, false⟩
      = ⟨depth, maximum, true, false⟩ := by
  have hunicode : ∀ n, (unicodeEscape n).foldl DepthScan.step ⟨depth, maximum, true, false⟩
      = ⟨depth, maximum, true, false⟩ := by
    intro n
    have h1 := hexDigit_ne (n := n / 4096 % 16) (by omega)
    have h2 := hexDigit_ne (n := n / 256 % 16) (by omega)
    have h3 := hexDigit_ne (n := n / 16 % 16) (by omega)
    have h4 := hexDigit_ne (n := n % 16) (by omega)
    simp [unicodeEscape, DepthScan.step, h1, h2, h3, h4]
  apply escapeChar_cases (fun text => text.foldl DepthScan.step ⟨depth, maximum, true, false⟩
    = ⟨depth, maximum, true, false⟩)
  · intro b _
    simp [DepthScan.step]
  · intro hquote hslash _ _
    simp [DepthScan.step, hquote, hslash]
  · exact hunicode
  · intro m n
    rw [List.foldl_append, hunicode, hunicode]

/-- A string literal leaves the scan where it is. -/
private theorem scan_dumpsStr (depth maximum : Nat) (s : String) :
    (dumpsStr s).foldl DepthScan.step (.at depth maximum) = .at depth maximum := by
  have hinside : ∀ cs : List Char,
      (cs.flatMap escapeChar).foldl DepthScan.step ⟨depth, maximum, true, false⟩
        = ⟨depth, maximum, true, false⟩ := by
    intro cs
    induction cs with
    | nil => rfl
    | cons c rest ih => rw [List.flatMap_cons, List.foldl_append, scan_escapeChar, ih]
  have hopen : DepthScan.step (.at depth maximum) '"' = ⟨depth, maximum, true, false⟩ := by
    simp [DepthScan.step, DepthScan.at]
  rw [dumpsStr, List.foldl_cons, hopen, List.foldl_append, hinside]
  simp [DepthScan.step, DepthScan.at]

theorem neutral_of_isFloatChar {c : Char} (h : isFloatChar c = true) :
    isScanNeutral c = true := by
  by_contra hne
  simp only [isScanNeutral, List.contains_eq_mem, Bool.not_eq_true', decide_eq_false_iff_not,
    not_not] at hne
  have hall : ['"', '[', ']', '\x7b', '\x7d'].all (fun d => !isFloatChar d) = true := by decide
  have hfalse := List.all_eq_true.mp hall c hne
  simp [h] at hfalse

private theorem neutral_of_mem_toString {n : Int} {c : Char} (h : c ∈ (toString n).toList) :
    isScanNeutral c = true := by
  have hdigits : ∀ m : Nat, ∀ d ∈ (Nat.repr m).toList, isScanNeutral d = true := by
    intro m d hd
    rw [Nat.repr, String.toList_ofList] at hd
    have hdigit : d.isDigit = true := Nat.isDigit_of_mem_toDigits (by decide) (by decide) hd
    exact neutral_of_isFloatChar (by simp [isFloatChar, Char.isAlphanum, hdigit])
  cases n with
  | ofNat m => exact hdigits m c h
  | negSucc m =>
      change c ∈ ("-" ++ Nat.repr (m + 1)).toList at h
      rw [String.toList_append, List.mem_append] at h
      rcases h with hsign | hdigit
      · have : c = '-' := by simpa using hsign
        subst this
        decide
      · exact hdigits _ c hdigit

namespace Json

mutual

/-- Scanning a value raises the maximum to the depth of the value at that place. -/
private theorem scan_dumps : ∀ (v : Json) {depth maximum : Nat}, depth ≤ maximum →
    v.dumps.foldl DepthScan.step (.at depth maximum) = .at depth (max maximum (depth + v.nesting))
  | .null, depth, maximum, h => by
      simp only [nesting, Nat.add_zero, max_eq_left h]
      exact scan_neutral (List.all_eq_true.mp (by decide))
  | .bool b, depth, maximum, h => by
      simp only [nesting, Nat.add_zero, max_eq_left h]
      cases b <;> exact scan_neutral (List.all_eq_true.mp (by decide))
  | .int n, depth, maximum, h => by
      simp only [nesting, Nat.add_zero, max_eq_left h]
      exact scan_neutral (fun _ hc => neutral_of_mem_toString hc)
  | .float repr, depth, maximum, h => by
      simp only [nesting, Nat.add_zero, max_eq_left h]
      exact scan_neutral (fun c hc =>
        neutral_of_isFloatChar (List.all_eq_true.mp repr.property c hc))
  | .str s, depth, maximum, h => by
      simp only [nesting, Nat.add_zero, max_eq_left h]
      exact scan_dumpsStr depth maximum s
  | .arr items, depth, maximum, h => by
      have hopen : DepthScan.step (.at depth maximum) '['
          = .at (depth + 1) (max maximum (depth + 1)) := by simp [DepthScan.step, DepthScan.at]
      rw [dumps, List.foldl_cons, hopen, List.foldl_append, scan_dumpsItems items (by omega),
        nesting]
      simp only [DepthScan.step, DepthScan.at, List.foldl_cons, List.foldl_nil]
      simp
      omega
  | .obj members, depth, maximum, h => by
      have hopen : DepthScan.step (.at depth maximum) '\x7b'
          = .at (depth + 1) (max maximum (depth + 1)) := by simp [DepthScan.step, DepthScan.at]
      rw [dumps, List.foldl_cons, hopen, List.foldl_append, scan_dumpsMembers members (by omega),
        nesting]
      simp only [DepthScan.step, DepthScan.at, List.foldl_cons, List.foldl_nil]
      simp
      omega

private theorem scan_dumpsItems : ∀ (items : List Json) {depth maximum : Nat}, depth ≤ maximum →
    (dumpsItems items).foldl DepthScan.step (.at depth maximum)
      = .at depth (max maximum (depth + nestingItems items))
  | [], depth, maximum, h => by simp [dumpsItems, nestingItems, max_eq_left h]
  | [v], depth, maximum, h => by
      rw [dumpsItems, scan_dumps v h, nestingItems, nestingItems, Nat.max_zero]
  | v :: w :: rest, depth, maximum, h => by
      have hcomma : ∀ m, DepthScan.step (.at depth m) ',' = .at depth m := by
        simp [DepthScan.step, DepthScan.at]
      rw [dumpsItems, List.foldl_append, scan_dumps v h, List.foldl_cons, hcomma,
        scan_dumpsItems (w :: rest) (by omega)]
      have hmax : nestingItems (v :: w :: rest) = max v.nesting (nestingItems (w :: rest)) := rfl
      rw [hmax]
      congr 1
      omega

private theorem scan_dumpsMembers : ∀ (members : List (String × Json)) {depth maximum : Nat},
    depth ≤ maximum → (dumpsMembers members).foldl DepthScan.step (.at depth maximum)
      = .at depth (max maximum (depth + nestingMembers members))
  | [], depth, maximum, h => by simp [dumpsMembers, nestingMembers, max_eq_left h]
  | [(k, v)], depth, maximum, h => by
      have hcolon : ∀ m, DepthScan.step (.at depth m) ':' = .at depth m := by
        simp [DepthScan.step, DepthScan.at]
      rw [dumpsMembers, List.foldl_append, scan_dumpsStr, List.foldl_cons, hcolon, scan_dumps v h,
        nestingMembers, nestingMembers, Nat.max_zero]
  | (k, v) :: w :: rest, depth, maximum, h => by
      have hcolon : ∀ m, DepthScan.step (.at depth m) ':' = .at depth m := by
        simp [DepthScan.step, DepthScan.at]
      have hcomma : ∀ m, DepthScan.step (.at depth m) ',' = .at depth m := by
        simp [DepthScan.step, DepthScan.at]
      rw [dumpsMembers, List.foldl_append, scan_dumpsStr, List.foldl_cons, hcolon,
        List.foldl_append, scan_dumps v h, List.foldl_cons, hcomma,
        scan_dumpsMembers (w :: rest) (by omega)]
      have hmax : nestingMembers ((k, v) :: w :: rest)
          = max v.nesting (nestingMembers (w :: rest)) := rfl
      rw [hmax]
      congr 1
      omega

end

/-- **The scan finds the nesting of the value.** -/
theorem jsonNestingDepth_dumps (v : Json) : jsonNestingDepth v.dumps = v.nesting := by
  have h := scan_dumps v (Nat.le_refl 0)
  simp only [jsonNestingDepth]
  change (v.dumps.foldl DepthScan.step (.at 0 0)).maximum = v.nesting
  rw [h]
  simp [DepthScan.at]

end Json

end Acgps
