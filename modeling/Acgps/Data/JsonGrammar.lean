import Acgps.Data.Loads

/-!
# The grammar under json.loads

The scanner of the standard library decides what a well-formed JSON text is. Its successful runs
are the derivations of a grammar, and a text has one reading as it is written: the objects of that
reading list every pair, where a dictionary keeps the last value of a key only.

## Main Definitions

* `ReadsPart` - the derivations: a text, the part that it starts with, and the remaining text
* `PyJson.denoted` - the value of a reading, with a dictionary for every object
* `PyJson.KeysUnique` - no object of a reading repeats a key

## Key Theorems

* `scanOnce_eq_ok_iff` - **the scanner finds exactly the derivations**
* `decode_dictOfPairs_eq_ok_iff` - `json.loads` returns the value of the text as written
-/

namespace Acgps

open Checked

/-! ## Section 1: Derivations -/

/-- What a text may start with: a value, the items of an array up to its bracket, or the members
of an object up to its brace. -/
inductive JsonPart where
  | value (v : PyJson)
  | items (items : List PyJson)
  | members (pairs : List (PyStr × PyJson))

/-- The constants and the numerals, in the order in which the scanner tries them. -/
def scanLeaf (text : List Char) : Except LoadsError (PyJson × Rest text) :=
  match scanConstant text with
  | some constant => .ok constant
  | none => scanNumber text

/-- A character that starts a string, an array or an object. -/
def opensNode (c : Char) : Bool := c = '"' || c = '[' || c = '\x7b'

/-- **A successful scan**, one constructor for each branch of the scanner that returns. -/
inductive ReadsPart (hook : List (PyStr × PyJson) → Except LoadsError PyJson) :
    List Char → JsonPart → List Char → Prop where
  | str {start : List Char} {s : PyStr} {last : Rest start} :
      scanString start = .ok (s, last) →
      ReadsPart hook ('"' :: start) (.value (.str s)) last.val
  | leaf {text : List Char} {v : PyJson} {last : Rest text} :
      (∀ c ∈ text.head?, opensNode c = false) → scanLeaf text = .ok (v, last) →
      ReadsPart hook text (.value v) last.val
  | emptyArray {start last : List Char} :
      skipSpace start = ']' :: last →
      ReadsPart hook ('[' :: start) (.value (.arr [])) last
  | array {start last : List Char} {items : List PyJson} :
      (∀ rest, skipSpace start ≠ ']' :: rest) →
      ReadsPart hook (skipSpace start) (.items items) last →
      ReadsPart hook ('[' :: start) (.value (.arr items)) last
  | emptyObject {start last : List Char} {v : PyJson} :
      skipSpace start = '\x7d' :: last → hook [] = .ok v →
      ReadsPart hook ('\x7b' :: start) (.value v) last
  | object {start last : List Char} {pairs : List (PyStr × PyJson)} {v : PyJson} :
      (∀ rest, skipSpace start ≠ '\x7d' :: rest) →
      ReadsPart hook (skipSpace start) (.members pairs) last → hook pairs = .ok v →
      ReadsPart hook ('\x7b' :: start) (.value v) last
  | lastItem {text rest last : List Char} {v : PyJson} :
      ReadsPart hook text (.value v) rest → skipSpace rest = ']' :: last →
      ReadsPart hook text (.items [v]) last
  | item {text rest next last : List Char} {v : PyJson} {items : List PyJson} :
      ReadsPart hook text (.value v) rest → skipSpace rest = ',' :: next →
      ReadsPart hook (skipSpace next) (.items items) last →
      ReadsPart hook text (.items (v :: items)) last
  | lastMember {start colon rest last : List Char} {key : PyStr} {after : Rest start}
      {v : PyJson} :
      scanString start = .ok (key, after) → skipSpace after.val = ':' :: colon →
      ReadsPart hook (skipSpace colon) (.value v) rest → skipSpace rest = '\x7d' :: last →
      ReadsPart hook ('"' :: start) (.members [(key, v)]) last
  | member {start colon rest next last : List Char} {key : PyStr} {after : Rest start}
      {v : PyJson} {pairs : List (PyStr × PyJson)} :
      scanString start = .ok (key, after) → skipSpace after.val = ':' :: colon →
      ReadsPart hook (skipSpace colon) (.value v) rest → skipSpace rest = ',' :: next →
      ReadsPart hook (skipSpace next) (.members pairs) last →
      ReadsPart hook ('"' :: start) (.members ((key, v) :: pairs)) last

section Scanner

variable {hook : List (PyStr × PyJson) → Except LoadsError PyJson}

/-- A scan of a value, given what shorter scans derive. -/
private theorem readsPart_of_scanOnce {text : List Char} {v : PyJson} {last : Rest text}
    (hitems : ∀ (shorter : List Char) (items : List PyJson) (rest : Rest shorter),
      shorter.length < text.length → scanItems hook shorter = .ok (items, rest) →
      ReadsPart hook shorter (.items items) rest.val)
    (hmembers : ∀ (shorter : List Char) (pairs : List (PyStr × PyJson)) (rest : Rest shorter),
      shorter.length < text.length → scanMembers hook shorter = .ok (pairs, rest) →
      ReadsPart hook shorter (.members pairs) rest.val)
    (h : scanOnce hook text = .ok (v, last)) : ReadsPart hook text (.value v) last.val := by
  rw [scanOnce.eq_def] at h
  split at h
  next start =>
    simp only [bind_eq_ok, Prod.exists, Except.ok.injEq, Prod.mk.injEq] at h
    obtain ⟨s, rest, hs, rfl, rfl⟩ := h
    exact .str hs
  next start =>
    dsimp only at h
    split at h
    next rest hskip =>
      simp only [Except.ok.injEq, Prod.mk.injEq] at h
      obtain ⟨rfl, rfl⟩ := h
      exact .emptyArray hskip
    next hskip =>
      simp only [bind_eq_ok, Prod.exists, Except.ok.injEq, Prod.mk.injEq] at h
      obtain ⟨items, rest, hrest, rfl, rfl⟩ := h
      exact .array hskip (hitems _ _ _ (Nat.lt_succ_of_le (length_skipSpace_le start)) hrest)
  next start =>
    dsimp only at h
    split at h
    next rest hskip =>
      simp only [bind_eq_ok, Except.ok.injEq, Prod.mk.injEq] at h
      obtain ⟨value, hhook, rfl, rfl⟩ := h
      exact .emptyObject hskip hhook
    next hskip =>
      simp only [bind_eq_ok, Prod.exists, Except.ok.injEq, Prod.mk.injEq] at h
      obtain ⟨pairs, rest, hrest, value, hhook, rfl, rfl⟩ := h
      exact .object hskip
        (hmembers _ _ _ (Nat.lt_succ_of_le (length_skipSpace_le start)) hrest) hhook
  next hquote hbracket hbrace =>
    refine .leaf ?_ h
    intro c hc
    obtain ⟨rest, rfl⟩ : ∃ rest, text = c :: rest := List.head?_eq_some_iff.mp hc
    have hne : c ≠ '"' ∧ c ≠ '[' ∧ c ≠ '\x7b' :=
      ⟨fun hc => hquote rest (by rw [hc]), fun hc => hbracket rest (by rw [hc]),
        fun hc => hbrace rest (by rw [hc])⟩
    simp [opensNode, hne]

/-- A scan of items, given what the scans of no longer texts derive. -/
private theorem readsPart_of_scanItems {text : List Char} {items : List PyJson} {last : Rest text}
    (hvalue : ∀ (v : PyJson) (rest : Rest text), scanOnce hook text = .ok (v, rest) →
      ReadsPart hook text (.value v) rest.val)
    (hitems : ∀ (shorter : List Char) (items : List PyJson) (rest : Rest shorter),
      shorter.length < text.length → scanItems hook shorter = .ok (items, rest) →
      ReadsPart hook shorter (.items items) rest.val)
    (h : scanItems hook text = .ok (items, last)) :
    ReadsPart hook text (.items items) last.val := by
  rw [scanItems.eq_def] at h
  simp only [bind_eq_ok, Prod.exists] at h
  obtain ⟨v, rest, hv, h⟩ := h
  have hread := hvalue v rest hv
  have hrest := rest.property
  have hlength := length_skipSpace_le rest.val
  split at h
  next after hskip =>
    simp only [Except.ok.injEq, Prod.mk.injEq] at h
    obtain ⟨rfl, rfl⟩ := h
    exact .lastItem hread hskip
  next next hskip =>
    simp only [bind_eq_ok, Prod.exists, Except.ok.injEq, Prod.mk.injEq] at h
    obtain ⟨more, after, hmore, rfl, rfl⟩ := h
    have hnext := length_skipSpace_le next
    rw [hskip, List.length_cons] at hlength
    exact .item hread hskip (hitems _ _ _ (by omega) hmore)
  next => exact absurd h (by simp)

/-- A scan of members, given what shorter scans derive. -/
private theorem readsPart_of_scanMembers {text : List Char} {pairs : List (PyStr × PyJson)}
    {last : Rest text}
    (hvalue : ∀ (shorter : List Char) (v : PyJson) (rest : Rest shorter),
      shorter.length < text.length → scanOnce hook shorter = .ok (v, rest) →
      ReadsPart hook shorter (.value v) rest.val)
    (hmembers : ∀ (shorter : List Char) (pairs : List (PyStr × PyJson)) (rest : Rest shorter),
      shorter.length < text.length → scanMembers hook shorter = .ok (pairs, rest) →
      ReadsPart hook shorter (.members pairs) rest.val)
    (h : scanMembers hook text = .ok (pairs, last)) :
    ReadsPart hook text (.members pairs) last.val := by
  rw [scanMembers.eq_def] at h
  split at h
  next start =>
    simp only [bind_eq_ok, Prod.exists] at h
    obtain ⟨key, after, hkey, h⟩ := h
    have hafter := after.property
    have hlength := length_skipSpace_le after.val
    split at h
    next colon hcolon =>
      simp only [bind_eq_ok, Prod.exists] at h
      obtain ⟨v, rest, hv, h⟩ := h
      have hstart := length_skipSpace_le colon
      have hrest := rest.property
      have hlength' := length_skipSpace_le rest.val
      rw [hcolon, List.length_cons] at hlength
      have hread := hvalue _ v rest (by rw [List.length_cons]; omega) hv
      split at h
      next close hskip =>
        simp only [Except.ok.injEq, Prod.mk.injEq] at h
        obtain ⟨rfl, rfl⟩ := h
        exact .lastMember hkey hcolon hread hskip
      next next hskip =>
        simp only [bind_eq_ok, Prod.exists, Except.ok.injEq, Prod.mk.injEq] at h
        obtain ⟨more, close, hmore, rfl, rfl⟩ := h
        have hnext := length_skipSpace_le next
        rw [hskip, List.length_cons] at hlength'
        exact .member hkey hcolon hread hskip
          (hmembers _ _ _ (by rw [List.length_cons]; omega) hmore)
      next => exact absurd h (by simp)
    next => exact absurd h (by simp)
  next => exact absurd h (by simp)

/-- **Every successful scan is a derivation**, by induction on the length of the text. -/
private theorem readsPart_of_scan : ∀ (n : Nat),
    (∀ (text : List Char) (v : PyJson) (rest : Rest text), text.length < n →
      scanOnce hook text = .ok (v, rest) → ReadsPart hook text (.value v) rest.val) ∧
    (∀ (text : List Char) (items : List PyJson) (rest : Rest text), text.length < n →
      scanItems hook text = .ok (items, rest) → ReadsPart hook text (.items items) rest.val) ∧
    (∀ (text : List Char) (pairs : List (PyStr × PyJson)) (rest : Rest text), text.length < n →
      scanMembers hook text = .ok (pairs, rest) → ReadsPart hook text (.members pairs) rest.val) := by
  intro n
  induction n with
  | zero => exact ⟨by simp, by simp, by simp⟩
  | succ n ih =>
      obtain ⟨hvalue, hitems, hmembers⟩ := ih
      have honce : ∀ (text : List Char) (v : PyJson) (rest : Rest text), text.length < n + 1 →
          scanOnce hook text = .ok (v, rest) → ReadsPart hook text (.value v) rest.val := by
        intro text v rest hn h
        exact readsPart_of_scanOnce
          (fun shorter items rest hlt => hitems shorter items rest (by omega))
          (fun shorter pairs rest hlt => hmembers shorter pairs rest (by omega)) h
      refine ⟨honce, ?_, ?_⟩
      · intro text items rest hn h
        exact readsPart_of_scanItems (fun v rest => honce text v rest hn)
          (fun shorter items rest hlt => hitems shorter items rest (by omega)) h
      · intro text pairs rest hn h
        exact readsPart_of_scanMembers
          (fun shorter v rest hlt => hvalue shorter v rest (by omega))
          (fun shorter pairs rest hlt => hmembers shorter pairs rest (by omega)) h

/-- What the scan of a part returns. -/
def JsonPart.ScansTo (hook : List (PyStr × PyJson) → Except LoadsError PyJson)
    (text : List Char) (part : JsonPart) (last : List Char) : Prop :=
  match part with
  | .value v => ∃ rest : Rest text, rest.val = last ∧ scanOnce hook text = .ok (v, rest)
  | .items found => ∃ rest : Rest text, rest.val = last ∧ scanItems hook text = .ok (found, rest)
  | .members found =>
      ∃ rest : Rest text, rest.val = last ∧ scanMembers hook text = .ok (found, rest)

/-- **Every derivation is what the scanner does**, by induction on the derivation. -/
theorem ReadsPart.scansTo {text last : List Char} {part : JsonPart}
    (h : ReadsPart hook text part last) : part.ScansTo hook text last := by
  induction h with
  | @str start s last hs =>
      refine ⟨last.of (Nat.le_succ _), rfl, ?_⟩
      rw [scanOnce]
      simp [hs]
  | @leaf text v last hhead hv =>
      refine ⟨last, rfl, ?_⟩
      rw [scanOnce.eq_def]
      split
      next start => exact absurd (hhead '"' rfl) (by decide)
      next start => exact absurd (hhead '[' rfl) (by decide)
      next start => exact absurd (hhead '\x7b' rfl) (by decide)
      next => exact hv
  | @emptyArray start last hskip =>
      have hlength := length_skipSpace_le start
      rw [hskip, List.length_cons] at hlength
      refine ⟨⟨last, by rw [List.length_cons]; omega⟩, rfl, ?_⟩
      rw [scanOnce]
      split
      next rest hrest =>
        simp only [hskip, List.cons.injEq, true_and] at hrest
        simp [hrest]
      next hne => exact absurd hskip (hne _)
  | @array start last items hskip hitems ih =>
      obtain ⟨rest, rfl, hrest⟩ := ih
      refine ⟨rest.of ((length_skipSpace_le start).trans (Nat.le_succ _)), rfl, ?_⟩
      rw [scanOnce]
      split
      next other hother => exact absurd hother (hskip other)
      next hne => simp [hrest]
  | @emptyObject start last v hskip hhook =>
      have hlength := length_skipSpace_le start
      rw [hskip, List.length_cons] at hlength
      refine ⟨⟨last, by rw [List.length_cons]; omega⟩, rfl, ?_⟩
      rw [scanOnce]
      split
      next rest hrest =>
        simp only [hskip, List.cons.injEq, true_and] at hrest
        simp [hrest, hhook]
      next hne => exact absurd hskip (hne _)
  | @object start last pairs v hskip hmembers hhook ih =>
      obtain ⟨rest, rfl, hrest⟩ := ih
      refine ⟨rest.of ((length_skipSpace_le start).trans (Nat.le_succ _)), rfl, ?_⟩
      rw [scanOnce]
      split
      next other hother => exact absurd hother (hskip other)
      next hne => simp [hrest, hhook]
  | @lastItem text rest last v hv hskip ih =>
      obtain ⟨rest, rfl, hrest⟩ := ih
      have hlength := length_skipSpace_le rest.val
      have hproperty := rest.property
      rw [hskip, List.length_cons] at hlength
      refine ⟨⟨last, by omega⟩, rfl, ?_⟩
      rw [scanItems, hrest]
      dsimp only [bind, Except.bind]
      split
      next other hother =>
        simp only [hskip, List.cons.injEq, true_and] at hother
        simp [hother]
      next other hother => simp [hskip] at hother
      next hne hcomma => exact absurd hskip (hne _)
  | @item text rest next last v items hv hskip hitems ihv ihitems =>
      obtain ⟨rest, rfl, hrest⟩ := ihv
      obtain ⟨after, rfl, hafter⟩ := ihitems
      have hlength := length_skipSpace_le rest.val
      have hnext := length_skipSpace_le next
      have hproperty := rest.property
      rw [hskip, List.length_cons] at hlength
      refine ⟨after.of (by omega), rfl, ?_⟩
      rw [scanItems, hrest]
      dsimp only [bind, Except.bind]
      split
      next other hother => simp [hskip] at hother
      next other hother =>
        simp only [hskip, List.cons.injEq, true_and] at hother
        subst hother
        simp [hafter]
      next hne hne' => exact absurd hskip (hne' _)
  | @lastMember start colon rest last key after v hkey hcolon hv hskip ih =>
      obtain ⟨rest, rfl, hrest⟩ := ih
      have hafter := after.property
      have hlength := length_skipSpace_le after.val
      have hstart := length_skipSpace_le colon
      have hproperty := rest.property
      have hlength' := length_skipSpace_le rest.val
      rw [hcolon, List.length_cons] at hlength
      rw [hskip, List.length_cons] at hlength'
      refine ⟨⟨last, by rw [List.length_cons]; omega⟩, rfl, ?_⟩
      rw [scanMembers, hkey]
      dsimp only [bind, Except.bind]
      split
      next other hother =>
        simp only [hcolon, List.cons.injEq, true_and] at hother
        subst hother
        simp only [hrest]
        split
        next close hclose =>
          simp only [hskip, List.cons.injEq, true_and] at hclose
          simp [hclose]
        next close hclose => simp [hskip] at hclose
        next hne hcomma => exact absurd hskip (hne _)
      next hne => exact absurd hcolon (hne _)
  | @member start colon rest next last key after v pairs hkey hcolon hv hskip hmembers ihv ih =>
      obtain ⟨rest, rfl, hrest⟩ := ihv
      obtain ⟨close, rfl, hclose⟩ := ih
      have hafter := after.property
      have hlength := length_skipSpace_le after.val
      have hstart := length_skipSpace_le colon
      have hproperty := rest.property
      have hlength' := length_skipSpace_le rest.val
      have hnext := length_skipSpace_le next
      rw [hcolon, List.length_cons] at hlength
      rw [hskip, List.length_cons] at hlength'
      refine ⟨close.of (by rw [List.length_cons]; omega), rfl, ?_⟩
      rw [scanMembers, hkey]
      dsimp only [bind, Except.bind]
      split
      next other hother =>
        simp only [hcolon, List.cons.injEq, true_and] at hother
        subst hother
        simp only [hrest]
        split
        next other hother => simp [hskip] at hother
        next other hother =>
          simp only [hskip, List.cons.injEq, true_and] at hother
          subst hother
          simp [hclose]
        next hne hne' => exact absurd hskip (hne' _)
      next hne => exact absurd hcolon (hne _)

/-- **The scanner finds exactly the derivations.** -/
theorem scanOnce_eq_ok_iff {text : List Char} {v : PyJson} {last : Rest text} :
    scanOnce hook text = .ok (v, last) ↔ ReadsPart hook text (.value v) last.val := by
  constructor
  · exact (readsPart_of_scan (text.length + 1)).1 text v last (Nat.lt_succ_self _)
  · intro h
    obtain ⟨rest, hrest, hscan⟩ := h.scansTo
    rwa [Subtype.ext hrest] at hscan

end Scanner

/-! ## Section 2: Texts as they are written -/

namespace PyJson

mutual

/-- The value of a reading: a dictionary for every object. -/
def denoted : PyJson → PyJson
  | .arr items => .arr (denotedItems items)
  | .obj members => .obj ((denotedMembers members).foldl assign [])
  | .null => .null
  | .bool b => .bool b
  | .int n => .int n
  | .float numeral => .float numeral
  | .str s => .str s

/-- The values of the items of an array. -/
def denotedItems : List PyJson → List PyJson
  | [] => []
  | item :: rest => denoted item :: denotedItems rest

/-- The pairs of an object, with the values of their readings. -/
def denotedMembers : List (PyStr × PyJson) → List (PyStr × PyJson)
  | [] => []
  | (key, value) :: rest => (key, denoted value) :: denotedMembers rest

end

mutual

/-- No object of a reading repeats a key. -/
def KeysUnique : PyJson → Prop
  | .arr items => KeysUniqueItems items
  | .obj members => (members.map Prod.fst).Nodup ∧ KeysUniqueMembers members
  | .null | .bool _ | .int _ | .float _ | .str _ => True

/-- No object among the items repeats a key. -/
def KeysUniqueItems : List PyJson → Prop
  | [] => True
  | item :: rest => KeysUnique item ∧ KeysUniqueItems rest

/-- No object among the values repeats a key. -/
def KeysUniqueMembers : List (PyStr × PyJson) → Prop
  | [] => True
  | (_, value) :: rest => KeysUnique value ∧ KeysUniqueMembers rest

end

/-- Assigning pairs with new and different keys appends them. -/
private theorem foldl_assign_of_nodup {pairs : List (PyStr × PyJson)} :
    ∀ {members : List (PyStr × PyJson)}, ((members ++ pairs).map Prod.fst).Nodup →
      pairs.foldl assign members = members ++ pairs := by
  induction pairs with
  | nil => simp
  | cons pair rest ih =>
      intro members hnodup
      have hnew : (members.map Prod.fst).contains pair.1 = false := by
        simp only [List.map_append, List.map_cons, List.nodup_append, List.mem_cons] at hnodup
        rw [List.contains_eq_mem, decide_eq_false_iff_not]
        intro hmem
        exact hnodup.2.2 _ hmem _ (Or.inl rfl) rfl
      rw [List.foldl_cons, assign, if_neg (by rw [hnew]; exact Bool.false_ne_true),
        ih (by simpa using hnodup), List.append_assoc, List.singleton_append]

mutual

/-- **A reading that repeats no key is its own value.** -/
theorem denoted_of_keysUnique : ∀ {v : PyJson}, v.KeysUnique → v.denoted = v
  | .arr items, h => by rw [denoted, denotedItems_of_keysUnique h]
  | .obj members, h => by
      rw [denoted, denotedMembers_of_keysUnique h.2, foldl_assign_of_nodup (by simpa using h.1),
        List.nil_append]
  | .null, _ | .bool _, _ | .int _, _ | .float _, _ | .str _, _ => rfl

private theorem denotedItems_of_keysUnique : ∀ {items : List PyJson},
    KeysUniqueItems items → denotedItems items = items
  | [], _ => rfl
  | _ :: _, h => by
      rw [denotedItems, denoted_of_keysUnique h.1, denotedItems_of_keysUnique h.2]

private theorem denotedMembers_of_keysUnique : ∀ {members : List (PyStr × PyJson)},
    KeysUniqueMembers members → denotedMembers members = members
  | [], _ => rfl
  | (_, _) :: _, h => by
      rw [denotedMembers, denoted_of_keysUnique h.1, denotedMembers_of_keysUnique h.2]

end

end PyJson

/-- The hook that keeps the pairs of an object as they are written. -/
def keepPairs (pairs : List (PyStr × PyJson)) : Except LoadsError PyJson := .ok (.obj pairs)

/-- The value of a part. -/
def JsonPart.denoted : JsonPart → JsonPart
  | .value v => .value v.denoted
  | .items found => .items (PyJson.denotedItems found)
  | .members found => .members (PyJson.denotedMembers found)

namespace JsonPart

theorem denoted_eq_value {written : JsonPart} {v : PyJson} (h : value v = written.denoted) :
    ∃ w, written = .value w ∧ v = w.denoted := by
  cases written with
  | value w => exact ⟨w, rfl, by cases h; rfl⟩
  | items found => cases h
  | members found => cases h

theorem denoted_eq_items {written : JsonPart} {list : List PyJson}
    (h : items list = written.denoted) :
    ∃ found, written = .items found ∧ list = PyJson.denotedItems found := by
  cases written with
  | value w => cases h
  | items found => exact ⟨found, rfl, by cases h; rfl⟩
  | members found => cases h

theorem denoted_eq_members {written : JsonPart} {pairs : List (PyStr × PyJson)}
    (h : members pairs = written.denoted) :
    ∃ found, written = .members found ∧ pairs = PyJson.denotedMembers found := by
  cases written with
  | value w => cases h
  | items found => cases h
  | members found => exact ⟨found, rfl, by cases h; rfl⟩

end JsonPart

/-- A value without parts that is not a string. -/
def PyJson.isLeaf : PyJson → Bool
  | .null | .bool _ | .int _ | .float _ => true
  | .str _ | .arr _ | .obj _ => false

theorem PyJson.denoted_of_isLeaf {v : PyJson} (h : v.isLeaf = true) : v.denoted = v := by
  cases v <;> first | rfl | cases h

/-- A numeral is an integer or a float. -/
theorem isLeaf_of_scanUnsigned {negative : Bool} {text : List Char} {v : PyJson}
    {last : Rest text} (h : scanUnsigned negative text = .ok (v, last)) : v.isLeaf = true := by
  simp only [scanUnsigned, bind_eq_ok, Prod.exists] at h
  obtain ⟨digits, rest, _, h⟩ := h
  split at h
  · simp only [bind_eq_ok, Except.ok.injEq, Prod.mk.injEq] at h
    obtain ⟨_, _, rfl, _⟩ := h
    rfl
  · simp only [Except.ok.injEq, Prod.mk.injEq] at h
    obtain ⟨rfl, _⟩ := h
    rfl

/-- The constants are leaves. -/
theorem isLeaf_of_constants : ∀ entry ∈ constants, entry.2.isLeaf = true := by
  simp [constants, PyJson.isLeaf]

/-- What `scanConstant` finds is an entry of the table, and the text goes on behind its name. -/
theorem scanConstant_eq_some {text : List Char} {v : PyJson} {last : Rest text}
    (h : scanConstant text = some (v, last)) :
    ∃ entry ∈ constants, entry.2 = v ∧ entry.1 ++ last.val = text := by
  obtain ⟨entry, hentry, hfound⟩ := List.exists_of_findSome?_eq_some h
  split at hfound
  next hname =>
    simp only [Option.some.injEq, Prod.mk.injEq] at hfound
    obtain ⟨rfl, rfl⟩ := hfound
    refine ⟨entry, hentry, rfl, ?_⟩
    exact List.prefix_iff_eq_append.mp (List.isPrefixOf_iff_prefix.mp hname.2.2)
  next => cases hfound

theorem isLeaf_of_scanLeaf {text : List Char} {v : PyJson} {last : Rest text}
    (h : scanLeaf text = .ok (v, last)) : v.isLeaf = true := by
  unfold scanLeaf at h
  split at h
  next constant hconstant =>
    cases h
    obtain ⟨entry, hentry, rfl, _⟩ := scanConstant_eq_some hconstant
    exact isLeaf_of_constants entry hentry
  next =>
    unfold scanNumber at h
    split at h
    next rest =>
      simp only [bind_eq_ok, Prod.exists, Except.ok.injEq, Prod.mk.injEq] at h
      obtain ⟨w, after, hw, rfl, _⟩ := h
      exact isLeaf_of_scanUnsigned hw
    next => exact isLeaf_of_scanUnsigned h

/-- A derivation of the text as it is written is one of its value. -/
theorem ReadsPart.denoted {text last : List Char} {part : JsonPart}
    (h : ReadsPart keepPairs text part last) : ReadsPart dictOfPairs text part.denoted last := by
  induction h with
  | str hs => exact .str hs
  | leaf hhead hv =>
      rw [JsonPart.denoted, PyJson.denoted_of_isLeaf (isLeaf_of_scanLeaf hv)]
      exact .leaf hhead hv
  | emptyArray hskip => exact .emptyArray hskip
  | array hskip hitems ih => exact .array hskip ih
  | emptyObject hskip hhook =>
      cases hhook
      exact .emptyObject hskip rfl
  | object hskip hmembers hhook ih =>
      cases hhook
      exact .object hskip ih rfl
  | lastItem hv hskip ih => exact .lastItem ih hskip
  | item hv hskip hitems ihv ihitems => exact .item ihv hskip ihitems
  | lastMember hkey hcolon hv hskip ih => exact .lastMember hkey hcolon ih hskip
  | member hkey hcolon hv hskip hmembers ihv ih => exact .member hkey hcolon ihv hskip ih

/-- Every derivation of a value is the value of the text as it is written. -/
theorem ReadsPart.exists_written {text last : List Char} {part : JsonPart}
    (h : ReadsPart dictOfPairs text part last) :
    ∃ written : JsonPart, ReadsPart keepPairs text written last ∧ part = written.denoted := by
  induction h with
  | str hs => exact ⟨_, .str hs, rfl⟩
  | leaf hhead hv =>
      refine ⟨_, .leaf hhead hv, ?_⟩
      rw [JsonPart.denoted, PyJson.denoted_of_isLeaf (isLeaf_of_scanLeaf hv)]
  | emptyArray hskip => exact ⟨_, .emptyArray hskip, rfl⟩
  | array hskip hitems ih =>
      obtain ⟨written, hwritten, hpart⟩ := ih
      obtain ⟨found, rfl, rfl⟩ := JsonPart.denoted_eq_items hpart
      exact ⟨_, .array hskip hwritten, rfl⟩
  | emptyObject hskip hhook =>
      cases hhook
      exact ⟨_, .emptyObject hskip rfl, rfl⟩
  | object hskip hmembers hhook ih =>
      obtain ⟨written, hwritten, hpart⟩ := ih
      obtain ⟨found, rfl, rfl⟩ := JsonPart.denoted_eq_members hpart
      cases hhook
      exact ⟨_, .object hskip hwritten rfl, rfl⟩
  | lastItem hv hskip ih =>
      obtain ⟨written, hwritten, hpart⟩ := ih
      obtain ⟨w, rfl, rfl⟩ := JsonPart.denoted_eq_value hpart
      exact ⟨_, .lastItem hwritten hskip, rfl⟩
  | item hv hskip hitems ihv ihitems =>
      obtain ⟨written, hwritten, hpart⟩ := ihv
      obtain ⟨w, rfl, rfl⟩ := JsonPart.denoted_eq_value hpart
      obtain ⟨more, hmore, hpart⟩ := ihitems
      obtain ⟨found, rfl, rfl⟩ := JsonPart.denoted_eq_items hpart
      exact ⟨_, .item hwritten hskip hmore, rfl⟩
  | lastMember hkey hcolon hv hskip ih =>
      obtain ⟨written, hwritten, hpart⟩ := ih
      obtain ⟨w, rfl, rfl⟩ := JsonPart.denoted_eq_value hpart
      exact ⟨_, .lastMember hkey hcolon hwritten hskip, rfl⟩
  | member hkey hcolon hv hskip hmembers ihv ih =>
      obtain ⟨written, hwritten, hpart⟩ := ihv
      obtain ⟨w, rfl, rfl⟩ := JsonPart.denoted_eq_value hpart
      obtain ⟨more, hmore, hpart⟩ := ih
      obtain ⟨found, rfl, rfl⟩ := JsonPart.denoted_eq_members hpart
      exact ⟨_, .member hkey hcolon hwritten hskip hmore, rfl⟩

/-! ## Section 3: Whole texts -/

/-- A whole text is blanks, a derivation of a value, and blanks. -/
theorem decode_eq_ok_iff {hook : List (PyStr × PyJson) → Except LoadsError PyJson}
    {text : List Char} {v : PyJson} :
    decode hook text = .ok v ↔
      text.head? ≠ some '\ufeff' ∧
        ∃ last, ReadsPart hook (skipSpace text) (.value v) last ∧ skipSpace last = [] := by
  simp only [decode, bind_eq_ok, require_eq_ok, exists_const, Prod.exists, Except.ok.injEq]
  refine and_congr_right (fun _ => ⟨?_, ?_⟩)
  · rintro ⟨w, last, hscan, hlast, rfl⟩
    exact ⟨last.val, scanOnce_eq_ok_iff.mp hscan, hlast⟩
  · rintro ⟨last, hreads, hlast⟩
    obtain ⟨rest, rfl, hscan⟩ := hreads.scansTo
    exact ⟨v, rest, hscan, hlast, rfl⟩

/-- **`json.loads` returns the value of the text as it is written.** -/
theorem decode_dictOfPairs_eq_ok_iff {text : List Char} {v : PyJson} :
    decode dictOfPairs text = .ok v ↔
      ∃ written, decode keepPairs text = .ok written ∧ v = written.denoted := by
  simp only [decode_eq_ok_iff]
  constructor
  · rintro ⟨hmark, last, hreads, hlast⟩
    obtain ⟨part, hwritten, hpart⟩ := hreads.exists_written
    obtain ⟨written, rfl, rfl⟩ := JsonPart.denoted_eq_value hpart
    exact ⟨written, ⟨hmark, last, hwritten, hlast⟩, rfl⟩
  · rintro ⟨written, ⟨hmark, last, hreads, hlast⟩, rfl⟩
    exact ⟨hmark, last, hreads.denoted, hlast⟩

end Acgps
