import Acgps.Data.Text
import Mathlib.Logic.Equiv.List
import Mathlib.Data.Nat.Pairing

/-!
# Numbering JSON values

The digest of the program is a parameter of the model. This file shows that parameters of the kind
the results ask for exist: an injective digest that gives chosen values a proper hexadecimal form.

## Main Definitions

* `Json.code` - a number for every value
* `tableSha` - a digest that numbers the values of a table in hexadecimal, and any other value by
  its code

## Key Theorems

* `Json.code_injective` - **different values have different numbers**
* `tableSha_injective` - so have their table digests
* `isSha256_tableSha` - the values of the table have well-formed digests
-/

namespace Acgps

/-! ## Section 1: Numbers -/

namespace Json

/-- The number of a string. -/
def strCode (s : String) : Nat := Encodable.encode (s.toList.map Char.toNat)

theorem strCode_injective : Function.Injective strCode := by
  intro a b h
  have hcodes : a.toList.map Char.toNat = b.toList.map Char.toNat := Encodable.encode_injective h
  have hchars : Function.Injective Char.toNat := by
    intro c d hcd
    exact Char.ext (UInt32.toNat_inj.mp hcd)
  exact String.toList_injective (List.map_injective_iff.mpr hchars hcodes)

mutual

/-- The number of a value: its constructor, paired with the numbers of its parts. -/
def code : Json → Nat
  | .null => Nat.pair 0 0
  | .bool b => Nat.pair 1 (Encodable.encode b)
  | .int n => Nat.pair 2 (Encodable.encode n)
  | .float repr => Nat.pair 3 (strCode repr.val)
  | .str s => Nat.pair 4 (strCode s)
  | .arr items => Nat.pair 5 (codeItems items)
  | .obj members => Nat.pair 6 (codeMembers members)

/-- The number of the items of an array. -/
def codeItems : List Json → Nat
  | [] => 0
  | v :: rest => Nat.pair (code v) (codeItems rest) + 1

/-- The number of the members of an object. -/
def codeMembers : List (String × Json) → Nat
  | [] => 0
  | (k, v) :: rest => Nat.pair (strCode k) (Nat.pair (code v) (codeMembers rest)) + 1

end

mutual

private theorem code_inj : ∀ {a b : Json}, a.code = b.code → a = b
  | .null, b, h => by
      cases b <;> simp [code, Nat.pair_eq_pair] at h
      rfl
  | .bool x, b, h => by
      cases b <;> simp [code, Nat.pair_eq_pair] at h
      rw [h]
  | .int x, b, h => by
      cases b <;> simp [code, Nat.pair_eq_pair] at h
      rw [h]
  | .float x, b, h => by
      cases b <;> simp [code, Nat.pair_eq_pair, strCode_injective.eq_iff] at h
      rw [Subtype.ext h]
  | .str x, b, h => by
      cases b <;> simp [code, Nat.pair_eq_pair, strCode_injective.eq_iff] at h
      rw [h]
  | .arr items, b, h => by
      cases b <;> simp [code, Nat.pair_eq_pair] at h
      rw [codeItems_inj h]
  | .obj members, b, h => by
      cases b <;> simp [code, Nat.pair_eq_pair] at h
      rw [codeMembers_inj h]

private theorem codeItems_inj : ∀ {a b : List Json}, codeItems a = codeItems b → a = b
  | [], b, h => by
      cases b <;> simp [codeItems] at h
      rfl
  | v :: rest, b, h => by
      cases b with
      | nil => simp [codeItems] at h
      | cons w more =>
          simp only [codeItems, Nat.add_right_cancel_iff, Nat.pair_eq_pair] at h
          rw [code_inj h.1, codeItems_inj h.2]

private theorem codeMembers_inj :
    ∀ {a b : List (String × Json)}, codeMembers a = codeMembers b → a = b
  | [], b, h => by
      cases b <;> simp [codeMembers] at h
      rfl
  | (k, v) :: rest, b, h => by
      cases b with
      | nil => simp [codeMembers] at h
      | cons w more =>
          obtain ⟨l, w⟩ := w
          simp only [codeMembers, Nat.add_right_cancel_iff, Nat.pair_eq_pair,
            strCode_injective.eq_iff] at h
          rw [h.1, code_inj h.2.1, codeMembers_inj h.2.2]

end

/-- **Different values have different numbers.** -/
theorem code_injective : Function.Injective code := fun _ _ => code_inj

end Json

/-! ## Section 2: Digests of a table -/

/-- A number up to 64 in unary, in the form of a SHA-256 digest. -/
def unarySha (n : Nat) : String :=
  String.ofList (List.replicate n '1' ++ List.replicate (64 - n) '0')

theorem isSha256_unarySha {n : Nat} (hn : n ≤ 64) : isSha256 (unarySha n) = true := by
  have hlength : n + (64 - n) = 64 := by omega
  have hone : isLowerHex '1' = true := by decide
  have hzero : isLowerHex '0' = true := by decide
  simp [isSha256, unarySha, hlength, hone, hzero]

theorem unarySha_injective {m n : Nat} (h : unarySha m = unarySha n) : m = n := by
  have hcount := congrArg (fun s : String => s.toList.count '1') h
  simpa [unarySha, List.count_replicate] using hcount

/-- A text that is not the digest of a table entry. -/
def codeText (n : Nat) : String := String.ofList (List.replicate (n + 1) 'x')

theorem codeText_injective {m n : Nat} (h : codeText m = codeText n) : m = n := by
  have hcount := congrArg (fun s : String => s.toList.length) h
  simpa [codeText] using hcount

theorem unarySha_ne_codeText (m n : Nat) : unarySha m ≠ codeText n := by
  intro h
  have hcount := congrArg (fun s : String => s.toList.count 'x') h
  simp [unarySha, codeText, List.count_replicate] at hcount

/-- The values of a table are digested to their positions, other values to their numbers. -/
def tableSha (table : List Json) (record : Json) : String :=
  if record ∈ table then unarySha (table.idxOf record) else codeText record.code

theorem tableSha_self (record : Json) (rest : List Json) :
    tableSha (record :: rest) record = unarySha 0 := by
  simp [tableSha]

/-- A value of a table without repetition is digested to its position. -/
theorem tableSha_getElem {table : List Json} (hnodup : table.Nodup) {i : Nat}
    (hi : i < table.length) : tableSha table table[i] = unarySha i := by
  rw [tableSha, if_pos (List.getElem_mem hi), hnodup.idxOf_getElem]

/-- **A table digest is injective.** -/
theorem tableSha_injective (table : List Json) : Function.Injective (tableSha table) := by
  intro a b h
  by_cases ha : a ∈ table <;> by_cases hb : b ∈ table <;> simp only [tableSha, ha, hb, if_true,
    if_false] at h
  · exact (List.idxOf_inj ha).mp (unarySha_injective h)
  · exact absurd h (unarySha_ne_codeText _ _)
  · exact absurd h.symm (unarySha_ne_codeText _ _)
  · exact Json.code_injective (codeText_injective h)

/-- The values of a table have well-formed digests. -/
theorem isSha256_tableSha {table : List Json} (hlength : table.length ≤ 64) {record : Json}
    (hmem : record ∈ table) : isSha256 (tableSha table record) = true := by
  rw [tableSha, if_pos hmem]
  exact isSha256_unarySha (by
    have := List.idxOf_lt_length_of_mem hmem
    omega)

end Acgps
