import Mathlib.Data.String.Basic
import Mathlib.Data.List.Sort
import Mathlib.Order.Basic

/-!
# Text bytes: texts that are read off their bytes

A text is stored as bytes, and its characters are decoded one after another. Where each byte of a
text is a character the bytes are read instead, which is how the keys of concrete records are
compared.

## Main Results

* `quickChars_eq` - the characters of a text, read off its bytes
* `charsBefore_quickChars_iff` - the order of texts, read off their bytes
-/

namespace Acgps

/-! ## Section 1: Characters -/

/-- The bytes of a text. -/
def textBytes (s : String) : List Nat := s.toByteArray.data.toList.map UInt8.toNat

/-- The bytes of a character. -/
def charBytes (c : Char) : List Nat := (String.utf8EncodeChar c).map UInt8.toNat

theorem textBytes_ofList (l : List Char) : textBytes (String.ofList l) = l.flatMap charBytes := by
  simp [textBytes, List.utf8Encode, List.map_flatMap]
  rfl

/-- The first of several bytes is a large one. -/
theorem charBytes_small {c : Char} (h : ∀ b ∈ charBytes c, b < 128) : c.val.toNat ≤ 127 := by
  by_contra hlarge
  unfold charBytes String.utf8EncodeChar at h
  simp only [if_neg hlarge] at h
  split at h
  · have hfirst := h _ (List.mem_map_of_mem List.mem_cons_self)
    rw [UInt8.toNat_ofNat'] at hfirst
    omega
  split at h
  · have hfirst := h _ (List.mem_map_of_mem List.mem_cons_self)
    rw [UInt8.toNat_ofNat'] at hfirst
    omega
  · have hfirst := h _ (List.mem_map_of_mem List.mem_cons_self)
    rw [UInt8.toNat_ofNat'] at hfirst
    omega

/-- A character of one byte is that byte. -/
theorem charBytes_map {c : Char} (h : ∀ b ∈ charBytes c, b < 128) :
    (charBytes c).map Char.ofNat = [c] := by
  have hsmall := charBytes_small h
  have hbyte : c.val.toNat % 2 ^ 8 = c.toNat := Nat.mod_eq_of_lt (by omega)
  unfold charBytes String.utf8EncodeChar
  simp only [if_pos hsmall, List.map_cons, List.map_nil, UInt8.toNat_ofNat', hbyte,
    Char.ofNat_toNat]

/-- The characters of a text, read off its bytes where each is a character. -/
@[irreducible] def quickChars (s : String) : List Char :=
  if (textBytes s).all (Nat.blt · 128) then (textBytes s).map Char.ofNat else s.toList

theorem quickChars_eq (s : String) : quickChars s = s.toList := by
  unfold quickChars
  split
  next h =>
    obtain ⟨l, rfl⟩ := s.exists_eq_ofList
    rw [textBytes_ofList] at h ⊢
    rw [String.toList_ofList]
    simp only [List.all_flatMap, List.all_eq_true, Nat.blt_eq] at h
    rw [List.map_flatMap]
    calc l.flatMap (fun c => (charBytes c).map Char.ofNat)
        = l.flatMap (fun c => [c]) := List.flatMap_congr (fun c hc => charBytes_map (h c hc))
      _ = l := List.flatMap_singleton' l
  next => rfl

/-! ## Section 2: Order -/

/-- The characters come first in the order of texts. -/
def charsBefore : List Char → List Char → Bool
  | _, [] => false
  | [], _ :: _ => true
  | a :: as, b :: bs => if a = b then charsBefore as bs else Nat.blt a.toNat b.toNat

theorem charsBefore_iff {a b : List Char} : charsBefore a b = true ↔ a < b := by
  induction a, b using charsBefore.induct with
  | case1 a => simp [charsBefore]
  | case2 b bs => simp [charsBefore]
  | case3 as b bs ih =>
      rw [charsBefore, if_pos rfl, ih, List.cons_lt_cons_iff]
      simp
  | case4 a as b bs hne =>
      rw [charsBefore, if_neg hne, Nat.blt_eq, List.cons_lt_cons_iff]
      simp [hne, Char.lt_def, UInt32.lt_iff_toNat_lt]

/-- **The order of texts is read off their bytes.** -/
theorem charsBefore_quickChars_iff {a b : String} :
    charsBefore (quickChars a) (quickChars b) = true ↔ a < b := by
  rw [quickChars_eq, quickChars_eq, charsBefore_iff, String.lt_iff_toList_lt]

instance decidableTextLt (a b : String) : Decidable (a < b) :=
  decidable_of_iff _ charsBefore_quickChars_iff

end Acgps
