import Acgps.Data.JsonGrammar
import Acgps.Store.ControlStore

/-!
# The depth guard

The store measures the nesting of a text before it parses it, with a scan of its characters that
knows strings and escapes only. The scan sees the text as it is written: a member of an object
counts even where a later member of the same key replaces it.

## Main Definitions

* `PyJson.nesting` - how deep arrays and objects are nested
* `Crosses`, `Closes` - what a piece of text does to the scan

## Key Theorems

* `ReadsPart.scanned` - **the scan follows every derivation of the grammar**
* `depth_guard_shared` - the scan finds the nesting of the text as it is written, and the reader
  takes what the writer writes
-/

namespace Acgps

open Checked

/-! ## Section 1: Nesting -/

namespace PyJson

mutual

/-- How deep arrays and objects are nested. -/
def nesting : PyJson → Nat
  | .null | .bool _ | .int _ | .float _ | .str _ => 0
  | .arr items => nestingItems items + 1
  | .obj members => nestingMembers members + 1

/-- The deepest item of an array. -/
def nestingItems : List PyJson → Nat
  | [] => 0
  | item :: rest => max (nesting item) (nestingItems rest)

/-- The deepest member of an object. -/
def nestingMembers : List (PyStr × PyJson) → Nat
  | [] => 0
  | (_, value) :: rest => max (nesting value) (nestingMembers rest)

end

theorem nesting_of_isLeaf {v : PyJson} (h : v.isLeaf = true) : v.nesting = 0 := by
  cases v <;> first | rfl | cases h

theorem nestingMembers_le_iff {members : List (PyStr × PyJson)} {k : Nat} :
    nestingMembers members ≤ k ↔ ∀ member ∈ members, member.2.nesting ≤ k := by
  induction members with
  | nil => simp [nestingMembers]
  | cons member rest ih => simp [nestingMembers, ih]

/-- An assignment goes no deeper than the dictionary and the value. -/
private theorem nestingMembers_assign_le (members : List (PyStr × PyJson))
    (pair : PyStr × PyJson) :
    nestingMembers (assign members pair) ≤ max (nestingMembers members) pair.2.nesting := by
  rw [nestingMembers_le_iff]
  intro member hmember
  have hold : ∀ member ∈ members, member.2.nesting ≤ nestingMembers members :=
    nestingMembers_le_iff.mp le_rfl
  unfold assign at hmember
  split at hmember
  next hknown =>
    obtain ⟨old, holdmem, hnew⟩ := List.mem_map.mp hmember
    have := hold old holdmem
    split at hnew <;> subst hnew <;> omega
  next hnew =>
    rcases List.mem_append.mp hmember with hmem | hmem
    · have := hold member hmem
      omega
    · rw [List.mem_singleton.mp hmem]
      omega

private theorem nestingMembers_foldl_assign_le (pairs : List (PyStr × PyJson)) :
    ∀ members : List (PyStr × PyJson), nestingMembers (pairs.foldl assign members)
      ≤ max (nestingMembers members) (nestingMembers pairs) := by
  induction pairs with
  | nil => simp [nestingMembers]
  | cons pair rest ih =>
      intro members
      have hstep := nestingMembers_assign_le members pair
      have hrest := ih (assign members pair)
      have hpair : nestingMembers (pair :: rest) = max pair.2.nesting (nestingMembers rest) := rfl
      rw [List.foldl_cons]
      omega

mutual

/-- **A value is no deeper than its text.** -/
theorem nesting_denoted_le : ∀ v : PyJson, v.denoted.nesting ≤ v.nesting
  | .arr items => by
      have := nestingItems_denoted_le items
      simp only [denoted, nesting]
      omega
  | .obj members => by
      have hvalues := nestingMembers_denoted_le members
      have hassign := nestingMembers_foldl_assign_le (denotedMembers members) []
      have hempty : nestingMembers [] = 0 := rfl
      simp only [denoted, nesting]
      omega
  | .null | .bool _ | .int _ | .float _ | .str _ => le_rfl

private theorem nestingItems_denoted_le : ∀ items : List PyJson,
    nestingItems (denotedItems items) ≤ nestingItems items
  | [] => le_rfl
  | item :: rest => by
      have hitem := nesting_denoted_le item
      have hrest := nestingItems_denoted_le rest
      simp only [denotedItems, nestingItems]
      omega

private theorem nestingMembers_denoted_le : ∀ members : List (PyStr × PyJson),
    nestingMembers (denotedMembers members) ≤ nestingMembers members
  | [] => le_rfl
  | (_, value) :: rest => by
      have hvalue := nesting_denoted_le value
      have hrest := nestingMembers_denoted_le rest
      simp only [denotedMembers, nestingMembers]
      omega

end

end PyJson

/-! ## Section 2: Pieces of text under the scan -/

/-- The text up to `last` brings the scan back to its depth, after `deep` more levels at most. -/
def Crosses (text last : List Char) (deep : Nat) : Prop :=
  ∃ used, text = used ++ last ∧ ∀ depth maximum, depth ≤ maximum →
    used.foldl DepthScan.step (.at depth maximum) = .at depth (max maximum (depth + deep))

/-- The text up to `last` closes a level, after `deep` more levels at most. -/
def Closes (text last : List Char) (deep : Nat) : Prop :=
  ∃ used, text = used ++ last ∧ ∀ depth maximum, depth + 1 ≤ maximum →
    used.foldl DepthScan.step (.at (depth + 1) maximum)
      = .at depth (max maximum (depth + 1 + deep))

namespace Crosses

theorem neutral {text used last : List Char} (htext : text = used ++ last)
    (h : ∀ c ∈ used, isScanNeutral c = true) : Crosses text last 0 := by
  refine ⟨used, htext, fun depth maximum hle => ?_⟩
  rw [scan_neutral h, Nat.add_zero, max_eq_left hle]

theorem trans {a b c : List Char} {j k : Nat} (h : Crosses a b j) (h' : Crosses b c k) :
    Crosses a c (max j k) := by
  obtain ⟨used, rfl, hused⟩ := h
  obtain ⟨more, rfl, hmore⟩ := h'
  refine ⟨used ++ more, (List.append_assoc _ _ _).symm, fun depth maximum hle => ?_⟩
  rw [List.foldl_append, hused depth maximum hle, hmore depth _ (by omega)]
  congr 1
  omega

/-- Blanks do not move the scan. -/
theorem skipSpace (text : List Char) : Crosses text (Acgps.skipSpace text) 0 := by
  have hblank : ∀ c ∈ text.takeWhile isJsonSpace, isScanNeutral c = true := by
    intro c hc
    have hspace := List.mem_takeWhile_imp hc
    simp only [isJsonSpace, Bool.or_eq_true, decide_eq_true_eq] at hspace
    rcases hspace with ((rfl | rfl) | rfl) | rfl <;> decide
  exact neutral (List.takeWhile_append_dropWhile).symm hblank

/-- A piece of text, blanks, and a comma or a colon. -/
theorem separator {text rest next : List Char} {c : Char} {k : Nat} (h : Crosses text rest k)
    (hc : isScanNeutral c = true) (hskip : Acgps.skipSpace rest = c :: next) :
    Crosses text (Acgps.skipSpace next) k := by
  have hmark : Crosses (c :: next) next 0 := by
    apply neutral (List.singleton_append).symm
    simpa using hc
  have hblank := skipSpace rest
  rw [hskip] at hblank
  simpa using ((h.trans hblank).trans hmark).trans (skipSpace next)

theorem closes {a b c : List Char} {j k : Nat} (h : Crosses a b j) (h' : Closes b c k) :
    Closes a c (max j k) := by
  obtain ⟨used, rfl, hused⟩ := h
  obtain ⟨more, rfl, hmore⟩ := h'
  refine ⟨used ++ more, (List.append_assoc _ _ _).symm, fun depth maximum hle => ?_⟩
  rw [List.foldl_append, hused (depth + 1) maximum hle, hmore depth _ (by omega)]
  congr 1
  omega

end Crosses

namespace Closes

theorem bracket {c : Char} {last : List Char} (hc : c = ']' ∨ c = '\x7d') :
    Closes (c :: last) last 0 := by
  refine ⟨[c], rfl, fun depth maximum hle => ?_⟩
  rw [Nat.add_zero, max_eq_left hle]
  rcases hc with rfl | rfl <;> simp [DepthScan.step, DepthScan.at]

/-- A piece of text, blanks, and the bracket that closes the level. -/
theorem ofBracket {text rest last : List Char} {c : Char} {k : Nat} (h : Crosses text rest k)
    (hc : c = ']' ∨ c = '\x7d') (hskip : skipSpace rest = c :: last) : Closes text last k := by
  have hblank := Crosses.skipSpace rest
  rw [hskip] at hblank
  simpa using (h.trans hblank).closes (bracket hc)

/-- An opening bracket, blanks, and the text that closes the level. -/
theorem node {c : Char} {start last : List Char} {k : Nat} (hc : c = '[' ∨ c = '\x7b')
    (h : Closes (skipSpace start) last k) : Crosses (c :: start) last (k + 1) := by
  obtain ⟨used, rfl, hused⟩ := (Crosses.skipSpace start).closes h
  refine ⟨c :: used, rfl, fun depth maximum hle => ?_⟩
  have hopen : DepthScan.step (.at depth maximum) c
      = .at (depth + 1) (max maximum (depth + 1)) := by
    rcases hc with rfl | rfl <;> simp [DepthScan.step, DepthScan.at]
  rw [List.foldl_cons, hopen, hused depth _ (by omega)]
  congr 1
  omega

end Closes

/-! ## Section 3: Strings and numerals -/

/-- A hexadecimal digit neither ends a string nor escapes. -/
private theorem hexValue_plain {c : Char} {n : Nat} (h : hexValue c = some n) :
    c ≠ '"' ∧ c ≠ '\\' := by
  have hquote : hexValue '"' = none := by decide
  have hslash : hexValue '\\' = none := by decide
  constructor
  · rintro rfl
    rw [hquote] at h
    cases h
  · rintro rfl
    rw [hslash] at h
    cases h

private theorem hexUnit_plain {a b c d : Char} {unit : Nat} (h : hexUnit [a, b, c, d] = .ok unit) :
    ∀ x ∈ [a, b, c, d], x ≠ '"' ∧ x ≠ '\\' := by
  simp only [hexUnit, expect_eq_ok, Option.map_eq_some_iff, List.mapM_cons, List.mapM_nil,
    Option.bind_eq_bind, Option.bind_eq_some_iff] at h
  obtain ⟨_, ⟨_, ha, _, ⟨_, hb, _, ⟨_, hc, _, ⟨_, hd, _⟩, _⟩, _⟩, _⟩, _⟩ := h
  intro x hx
  simp only [List.mem_cons, List.not_mem_nil, or_false] at hx
  rcases hx with rfl | rfl | rfl | rfl
  · exact hexValue_plain ha
  · exact hexValue_plain hb
  · exact hexValue_plain hc
  · exact hexValue_plain hd

/-- The scan leaves a string literal where the scanner does, by induction along the scanner. -/
private theorem scan_units {text : List Char} : ∀ {units : List Nat} {last : Rest text},
    scanUnits text = .ok (units, last) → ∃ used, text = used ++ last.val ∧ ∀ depth maximum,
      used.foldl DepthScan.step ⟨depth, maximum, true, false⟩ = .at depth maximum := by
  induction text using scanUnits.induct with
  | case1 =>
      intro units last h
      cases h
  | case2 rest =>
      intro units last h
      cases h
      exact ⟨['"'], rfl, fun depth maximum => by simp [DepthScan.step, DepthScan.at]⟩
  | case3 a b c d rest ih =>
      intro units last h
      rw [scanUnits] at h
      simp only [bind_eq_ok, Prod.exists, Except.ok.injEq, Prod.mk.injEq] at h
      obtain ⟨unit, hunit, more, after, hmore, _, rfl⟩ := h
      obtain ⟨used, htext, hused⟩ := ih hmore
      have hplain := hexUnit_plain hunit
      simp only [List.forall_mem_cons, List.not_mem_nil, false_imp_iff, implies_true,
        and_true] at hplain
      refine ⟨'\\' :: 'u' :: a :: b :: c :: d :: used, by simp [Rest.of, htext], ?_⟩
      intro depth maximum
      simp [DepthScan.step, hplain, hused]
  | case4 c rest hne ih =>
      intro units last h
      rw [scanUnits.eq_4 c rest hne] at h
      simp only [bind_eq_ok, Prod.exists, Except.ok.injEq, Prod.mk.injEq] at h
      obtain ⟨unit, hunit, more, after, hmore, _, rfl⟩ := h
      obtain ⟨used, htext, hused⟩ := ih hmore
      refine ⟨'\\' :: c :: used, by simp [Rest.of, htext], ?_⟩
      intro depth maximum
      simp [DepthScan.step, hused]
  | case5 c rest hquote hunicode hslash ih =>
      intro units last h
      rw [scanUnits.eq_5 c rest hquote hunicode hslash] at h
      simp only [bind_eq_ok, require_eq_ok, exists_const, Prod.exists, Except.ok.injEq,
        Prod.mk.injEq] at h
      obtain ⟨_, more, after, hmore, _, rfl⟩ := h
      obtain ⟨used, htext, hused⟩ := ih hmore
      -- a backslash at the end of the text has nothing to escape, and the scan fails behind it
      have hplain : c ≠ '\\' := by
        rintro rfl
        cases rest with
        | nil => cases hmore
        | cons d more => exact hslash d more rfl rfl
      refine ⟨c :: used, by simp [Rest.of, htext], ?_⟩
      intro depth maximum
      simp [DepthScan.step, hplain, show c ≠ '"' from hquote, hused]

/-- A string literal leaves the scan where it was. -/
private theorem crosses_string {start : List Char} {s : PyStr} {last : Rest start}
    (h : scanString start = .ok (s, last)) : Crosses ('"' :: start) last.val 0 := by
  simp only [scanString, bind_eq_ok, Prod.exists, Except.ok.injEq, Prod.mk.injEq] at h
  obtain ⟨units, rest, hunits, _, rfl⟩ := h
  obtain ⟨used, htext, hused⟩ := scan_units hunits
  refine ⟨'"' :: used, congrArg (List.cons '"') htext, fun depth maximum hle => ?_⟩
  have hopen : DepthScan.step (.at depth maximum) '"' = ⟨depth, maximum, true, false⟩ := by
    simp [DepthScan.step, DepthScan.at]
  rw [List.foldl_cons, hopen, hused, Nat.add_zero, max_eq_left hle]

private theorem isFloatChar_of_isDigit {c : Char} (h : c.isDigit = true) :
    isFloatChar c = true := by
  simp [isFloatChar, Char.isAlphanum, h]

private theorem isFloatChar_of_mem_takeWhile {c : Char} {text : List Char}
    (h : c ∈ text.takeWhile Char.isDigit) : isFloatChar c = true :=
  isFloatChar_of_isDigit (List.mem_takeWhile_imp h)

private theorem scanInteger_append {text digits : List Char} {last : Rest text}
    (h : scanInteger text = some (digits, last)) :
    digits ++ last.val = text ∧ ∀ c ∈ digits, isFloatChar c = true := by
  unfold scanInteger at h
  split at h
  next rest =>
    cases h
    exact ⟨rfl, List.forall_mem_singleton.mpr (by decide)⟩
  next c rest hzero =>
    split at h
    next hdigit =>
      cases h
      refine ⟨?_, ?_⟩
      · rw [List.cons_append, List.takeWhile_append_dropWhile]
      · intro d hd
        rcases List.mem_cons.mp hd with rfl | hd
        · exact isFloatChar_of_isDigit hdigit
        · exact isFloatChar_of_mem_takeWhile hd
    next => cases h
  next => cases h

private theorem scanFraction_append (text : List Char) :
    (scanFraction text).1 ++ (scanFraction text).2 = text
      ∧ ∀ c ∈ (scanFraction text).1, isFloatChar c = true := by
  unfold scanFraction
  split
  next d rest =>
    split
    next hdigit =>
      refine ⟨?_, ?_⟩
      · simp [spanDigits]
      · intro c hc
        simp only [List.mem_cons, spanDigits] at hc
        rcases hc with rfl | rfl | hc
        · decide
        · exact isFloatChar_of_isDigit hdigit
        · exact isFloatChar_of_mem_takeWhile hc
    next => simp
  next => simp

private theorem scanExponent_append (text : List Char) :
    (scanExponent text).1 ++ (scanExponent text).2 = text
      ∧ ∀ c ∈ (scanExponent text).1, isFloatChar c = true := by
  unfold scanExponent
  split
  next e rest =>
    dsimp only
    split
    next hexponent =>
      obtain ⟨he, _, _⟩ := hexponent
      refine ⟨?_, ?_⟩
      · have hsign := List.prefix_iff_eq_append.mp
          (List.takeWhile_prefix (l := rest) (fun c => c = '+' || c = '-'))
        rw [List.cons_append, List.append_assoc, spanDigits,
          List.takeWhile_append_dropWhile]
        exact congrArg (List.cons e) hsign
      · intro c hc
        simp only [List.mem_cons, List.mem_append, spanDigits] at hc
        rcases hc with rfl | hc | hc
        · rcases he with rfl | rfl <;> decide
        · have hsign := List.mem_takeWhile_imp hc
          simp only [Bool.or_eq_true, decide_eq_true_eq] at hsign
          rcases hsign with rfl | rfl <;> decide
        · exact isFloatChar_of_mem_takeWhile hc
    next => simp
  next => simp

/-- A numeral leaves the scan where it was. -/
private theorem crosses_unsigned {negative : Bool} {text : List Char} {v : PyJson}
    {last : Rest text} (h : scanUnsigned negative text = .ok (v, last)) :
    Crosses text last.val 0 := by
  simp only [scanUnsigned, bind_eq_ok, expect_eq_ok, Prod.exists] at h
  obtain ⟨digits, rest, hdigits, h⟩ := h
  have hlast : last.val = (scanExponent (scanFraction rest.val).2).2 := by
    split at h
    · simp only [bind_eq_ok, Except.ok.injEq, Prod.mk.injEq] at h
      obtain ⟨_, _, _, rfl⟩ := h
      rfl
    · simp only [Except.ok.injEq, Prod.mk.injEq] at h
      obtain ⟨_, rfl⟩ := h
      rfl
  obtain ⟨hinteger, hdigit⟩ := scanInteger_append hdigits
  obtain ⟨hfraction, hpoint⟩ := scanFraction_append rest.val
  obtain ⟨hexponent, hmark⟩ := scanExponent_append (scanFraction rest.val).2
  have htext : text = (digits ++ ((scanFraction rest.val).1
      ++ (scanExponent (scanFraction rest.val).2).1)) ++ last.val := by
    rw [hlast, List.append_assoc, List.append_assoc, hexponent, hfraction, hinteger]
  refine Crosses.neutral htext fun c hc => neutral_of_isFloatChar ?_
  rcases List.mem_append.mp hc with hc | hc
  · exact hdigit c hc
  · rcases List.mem_append.mp hc with hc | hc
    · exact hpoint c hc
    · exact hmark c hc

/-- The names of the constants are neutral. -/
private theorem neutral_constants : ∀ entry ∈ constants, ∀ c ∈ entry.1,
    isScanNeutral c = true := by
  simp [constants, isScanNeutral]

/-- A constant or a numeral leaves the scan where it was. -/
private theorem crosses_leaf {text : List Char} {v : PyJson} {last : Rest text}
    (h : scanLeaf text = .ok (v, last)) : Crosses text last.val 0 := by
  unfold scanLeaf at h
  split at h
  next constant hconstant =>
    cases h
    obtain ⟨entry, hentry, _, htext⟩ := scanConstant_eq_some hconstant
    exact .neutral htext.symm (neutral_constants entry hentry)
  next =>
    unfold scanNumber at h
    split at h
    next tail found hnone =>
      simp only [bind_eq_ok, Prod.exists, Except.ok.injEq, Prod.mk.injEq] at h
      obtain ⟨w, after, hw, _, rfl⟩ := h
      have hsign : Crosses ('-' :: tail) tail 0 :=
        .neutral (List.singleton_append).symm (List.forall_mem_singleton.mpr (by decide))
      exact hsign.trans (crosses_unsigned hw)
    next => exact crosses_unsigned h

/-! ## Section 4: Derivations under the scan -/

/-- What a derivation does to the scan. -/
def JsonPart.Scanned (text last : List Char) : JsonPart → Prop
  | .value v => Crosses text last v.nesting
  | .items found => Closes text last (PyJson.nestingItems found)
  | .members found => Closes text last (PyJson.nestingMembers found)

/-- **The scan follows every derivation of the grammar**, by induction on the derivation. -/
theorem ReadsPart.scanned {text last : List Char} {part : JsonPart}
    (h : ReadsPart keepPairs text part last) : part.Scanned text last := by
  induction h with
  | str hs => exact crosses_string hs
  | leaf hhead hv =>
      have hflat := PyJson.nesting_of_isLeaf (isLeaf_of_scanLeaf hv)
      rw [JsonPart.Scanned, hflat]
      exact crosses_leaf hv
  | emptyArray hskip =>
      apply Closes.node (Or.inl rfl)
      rw [hskip]
      exact .bracket (Or.inl rfl)
  | array hskip hitems ih => exact Closes.node (Or.inl rfl) ih
  | emptyObject hskip hhook =>
      cases hhook
      apply Closes.node (Or.inr rfl)
      rw [hskip]
      exact .bracket (Or.inr rfl)
  | object hskip hmembers hhook ih =>
      cases hhook
      exact Closes.node (Or.inr rfl) ih
  | lastItem hv hskip ih =>
      rw [JsonPart.Scanned, PyJson.nestingItems, PyJson.nestingItems, Nat.max_zero]
      exact Closes.ofBracket ih (Or.inl rfl) hskip
  | item hv hskip hitems ihv ihitems =>
      have hhead := Crosses.separator ihv (by decide) hskip
      exact hhead.closes ihitems
  | lastMember hkey hcolon hv hskip ih =>
      have hname := (crosses_string hkey).separator (by decide) hcolon
      rw [JsonPart.Scanned, PyJson.nestingMembers, PyJson.nestingMembers, Nat.max_zero]
      simpa using Closes.ofBracket (hname.trans ih) (Or.inr rfl) hskip
  | member hkey hcolon hv hskip hmembers ihv ih =>
      have hname := (crosses_string hkey).separator (by decide) hcolon
      have hvalue := (hname.trans ihv).separator (by decide) hskip
      rw [JsonPart.Scanned, PyJson.nestingMembers]
      simpa using hvalue.closes ih

/-- A well-formed text has the nesting of what is written. -/
theorem jsonNestingDepth_of_decode {text : List Char} {written : PyJson}
    (h : decode keepPairs text = .ok written) : jsonNestingDepth text = written.nesting := by
  obtain ⟨_, last, hreads, hlast⟩ := decode_eq_ok_iff.mp h
  have hvalue : Crosses (skipSpace text) last written.nesting := hreads.scanned
  have hend := Crosses.skipSpace last
  rw [hlast] at hend
  obtain ⟨used, htext, hused⟩ := ((Crosses.skipSpace text).trans hvalue).trans hend
  rw [List.append_nil] at htext
  have hscan := hused 0 0 le_rfl
  change (text.foldl DepthScan.step (.at 0 0)).maximum = written.nesting
  rw [htext, hscan]
  simp [DepthScan.at]

/-! ## Section 5: The guard -/

section Guard

variable [Interpreter]

/-- A text that `json.loads` takes is well-formed, and its value is that of what is written. -/
theorem loads_eq_ok {text : List Char} {value : PyJson} (h : loads text = .ok value) :
    ∃ written, decode keepPairs text = .ok written ∧ value = written.denoted := by
  simp only [loads, bind_eq_ok, require_eq_ok, exists_const] at h
  exact decode_dictOfPairs_eq_ok_iff.mp h.2

/-- **The depth guard is shared by the writer and the reader, and exact on the text as it is
written**: the scan finds the nesting of every well-formed text, every member of every object
counted. The value that `json.loads` returns is no deeper, and as deep when no object repeats a
key. What the writer lets through, the reader takes, whatever codes their errors carry. -/
theorem depth_guard_shared :
    (∀ (text : List Char) (written : PyJson), decode keepPairs text = .ok written →
      jsonNestingDepth text = written.nesting) ∧
    (∀ (text : List Char) (value : PyJson), loads text = .ok value →
      value.nesting ≤ jsonNestingDepth text ∧
      ∃ written, decode keepPairs text = .ok written ∧ value = written.denoted ∧
        (written.KeysUnique → jsonNestingDepth text = value.nesting)) ∧
    (∀ (data : Mapping) (code path code' path' : String) (text : SqliteText),
      sqliteJsonText data.toJson code path = .ok text →
      loadsJsonMapping text code' path' = .ok data.toJson) := by
  refine ⟨fun text written => jsonNestingDepth_of_decode, ?_, ?_⟩
  · intro text value h
    obtain ⟨written, hwritten, rfl⟩ := loads_eq_ok h
    have hdepth := jsonNestingDepth_of_decode hwritten
    refine ⟨?_, written, hwritten, rfl, fun hunique => ?_⟩
    · rw [hdepth]
      exact PyJson.nesting_denoted_le written
    · rw [hdepth, PyJson.denoted_of_keysUnique hunique]
  · intro data code path code' path' text h
    obtain ⟨hfits, rfl⟩ := sqliteJsonText_eq_ok.mp h
    exact loadsJsonMapping_of_fits hfits

end Guard

/-- `{"a":[],"a":1}`. -/
def repeatedKeyText : List Char := "\x7b\"a\":[],\"a\":1\x7d".toList

/-- The list under the first member counts for the guard, and is gone from the value. -/
theorem depth_of_repeated_key :
    letI := smallestInterpreter
    ∃ value, loads repeatedKeyText = .ok value ∧ value.nesting = 1
      ∧ jsonNestingDepth repeatedKeyText = 2 := by
  let _ := smallestInterpreter
  have hnesting : (loads repeatedKeyText).toOption.map PyJson.nesting = some 1 := by
    decide +kernel
  have hdepth : jsonNestingDepth repeatedKeyText = 2 := by decide +kernel
  obtain ⟨value, hvalue, hone⟩ := Option.map_eq_some_iff.mp hnesting
  refine ⟨value, ?_, hone, hdepth⟩
  cases hloads : loads repeatedKeyText with
  | error e =>
      rw [hloads] at hvalue
      cases hvalue
  | ok found =>
      rw [hloads] at hvalue
      cases hvalue
      rfl

end Acgps
