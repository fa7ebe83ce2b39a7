import Acgps.Platform

/-!
# Equality across number types

`==` of the source takes `1`, `1.0` and `True` for equal. Where two values have numbers of one type
in the same places it is equality.

## Main Definitions

* `Json.alike` - no number of one value stands where the other has a number of another type

## Key Theorems

* `Json.eq_of_pyEq` - **values that are alike and `==` are equal**
* `Json.pyEq_self` - a value that is like itself, that is, has no float, is `==` to itself
-/

namespace Acgps

namespace Json

mutual

/-- The numbers of both values have the same types, and none is a float. -/
def alike : Json → Json → Bool
  | .float _, _ | _, .float _ | .bool _, .int _ | .int _, .bool _ => false
  | .arr items, .arr items' => alikeItems items items'
  | .obj members, .obj members' => alikeMembers members members'
  | _, _ => true

/-- The same for lists, as far as the shorter one goes. -/
def alikeItems : List Json → List Json → Bool
  | a :: as, b :: bs => alike a b && alikeItems as bs
  | _, _ => true

/-- The same for dictionaries. -/
def alikeMembers : List (String × Json) → List (String × Json) → Bool
  | (_, a) :: as, (_, b) :: bs => alike a b && alikeMembers as bs
  | _, _ => true

end

variable [Platform]

mutual

/-- **Values that are alike and `==` are equal.** -/
theorem eq_of_pyEq : ∀ {a b : Json}, a.pyEq b = true → a.alike b = true → a = b
  | .null, .null, _, _ => rfl
  | .bool _, .bool _, h, _ => by simpa [pyEq] using h
  | .int _, .int _, h, _ => by simpa [pyEq] using h
  | .str _, .str _, h, _ => by simpa [pyEq] using h
  | .arr _, .arr _, h, hl => by rw [eq_of_pyEqItems h hl]
  | .obj _, .obj _, h, hl => by rw [eq_of_pyEqMembers h hl]
  | .float _, _, _, hl => by simp [alike] at hl
  | .null, .bool _, h, _ | .null, .int _, h, _ | .null, .str _, h, _ | .null, .arr _, h, _
  | .null, .obj _, h, _ | .bool _, .null, h, _ | .bool _, .str _, h, _ | .bool _, .arr _, h, _
  | .bool _, .obj _, h, _ | .int _, .null, h, _ | .int _, .str _, h, _ | .int _, .arr _, h, _
  | .int _, .obj _, h, _ | .str _, .null, h, _ | .str _, .bool _, h, _ | .str _, .int _, h, _
  | .str _, .arr _, h, _ | .str _, .obj _, h, _ | .arr _, .null, h, _ | .arr _, .bool _, h, _
  | .arr _, .int _, h, _ | .arr _, .str _, h, _ | .arr _, .obj _, h, _ | .obj _, .null, h, _
  | .obj _, .bool _, h, _ | .obj _, .int _, h, _ | .obj _, .str _, h, _ | .obj _, .arr _, h, _ => by
      simp [pyEq] at h
  | .null, .float _, h, _ | .str _, .float _, h, _ | .arr _, .float _, h, _
  | .obj _, .float _, h, _ => by simp [pyEq] at h
  | .bool _, .float _, _, hl | .int _, .float _, _, hl | .bool _, .int _, _, hl
  | .int _, .bool _, _, hl => by simp [alike] at hl

theorem eq_of_pyEqItems : ∀ {a b : List Json}, pyEqItems a b = true → alikeItems a b = true →
    a = b
  | [], [], _, _ => rfl
  | _ :: _, _ :: _, h, hl => by
      obtain ⟨hhead, htail⟩ := Bool.and_eq_true_iff.mp h
      obtain ⟨lhead, ltail⟩ := Bool.and_eq_true_iff.mp hl
      rw [eq_of_pyEq hhead lhead, eq_of_pyEqItems htail ltail]
  | [], _ :: _, h, _ | _ :: _, [], h, _ => by simp [pyEqItems] at h

theorem eq_of_pyEqMembers : ∀ {a b : List (String × Json)}, pyEqMembers a b = true →
    alikeMembers a b = true → a = b
  | [], [], _, _ => rfl
  | (_, _) :: _, (_, _) :: _, h, hl => by
      obtain ⟨hkey, hrest⟩ := Bool.and_eq_true_iff.mp h
      obtain ⟨hhead, htail⟩ := Bool.and_eq_true_iff.mp hrest
      obtain ⟨lhead, ltail⟩ := Bool.and_eq_true_iff.mp hl
      rw [of_decide_eq_true hkey, eq_of_pyEq hhead lhead, eq_of_pyEqMembers htail ltail]
  | [], _ :: _, h, _ | _ :: _, [], h, _ => by simp [pyEqMembers] at h

end

mutual

/-- A value without floats is `==` to itself. -/
theorem pyEq_self : ∀ {a : Json}, a.alike a = true → a.pyEq a = true
  | .null, _ => rfl
  | .bool _, _ => by simp [pyEq]
  | .int _, _ => by simp [pyEq]
  | .str _, _ => by simp [pyEq]
  | .float _, h => by simp [alike] at h
  | .arr _, h => pyEqItems_self h
  | .obj _, h => pyEqMembers_self h

theorem pyEqItems_self : ∀ {a : List Json}, alikeItems a a = true → pyEqItems a a = true
  | [], _ => rfl
  | _ :: _, h => by
      obtain ⟨hhead, htail⟩ := Bool.and_eq_true_iff.mp h
      exact Bool.and_eq_true_iff.mpr ⟨pyEq_self hhead, pyEqItems_self htail⟩

theorem pyEqMembers_self : ∀ {a : List (String × Json)}, alikeMembers a a = true →
    pyEqMembers a a = true
  | [], _ => rfl
  | (_, _) :: _, h => by
      obtain ⟨hhead, htail⟩ := Bool.and_eq_true_iff.mp h
      exact Bool.and_eq_true_iff.mpr ⟨decide_eq_true rfl,
        Bool.and_eq_true_iff.mpr ⟨pyEq_self hhead, pyEqMembers_self htail⟩⟩

end

end Json

end Acgps
