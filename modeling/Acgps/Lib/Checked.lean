import Mathlib.Data.List.Forall2

/-!
# Checked computations

Computations in `Except ε` that a validator is made of, each with the one fact its callers need:
when it succeeds. A sequence of checks is then taken apart by rewriting with these lemmas, and a
record that meets all conditions is accepted by the same rewriting read backwards.

## Key Theorems

* `bind_eq_ok` - a sequence succeeds iff its first step does and its rest does
* `require_eq_ok`, `expect_eq_ok` - the two ways a check succeeds
* `mapM_eq_ok_iff` - a check of every list element
-/

namespace Checked

variable {ε ε' α β : Type}

/-! ## Section 1: Sequencing -/

@[simp] theorem bind_eq_ok {x : Except ε α} {f : α → Except ε β} {b : β} :
    (x >>= f) = .ok b ↔ ∃ a, x = .ok a ∧ f a = .ok b := by
  cases x with
  | error e => simp [bind, Except.bind]
  | ok a => simp [bind, Except.bind]

@[simp] theorem pure_eq_ok {a b : α} : (pure a : Except ε α) = .ok b ↔ a = b := by
  simp [pure, Except.pure]

@[simp] theorem throw_ne_ok {e : ε} {a : α} : (throw e : Except ε α) ≠ .ok a := by
  simp [throw, throwThe, MonadExceptOf.throw]

@[simp] theorem map_eq_ok {x : Except ε α} {f : α → β} {b : β} :
    (f <$> x) = .ok b ↔ ∃ a, x = .ok a ∧ f a = b := by
  cases x with
  | error e => simp [Functor.map, Except.map]
  | ok a => simp [Functor.map, Except.map]

/-- A computation is its result when that result can be computed. -/
theorem eq_ok_of_toOption {x : Except ε α} {a : α} (h : x.toOption = some a) : x = .ok a := by
  cases x with
  | error e => cases h
  | ok b => rw [Option.some.inj h]

/-- A computation that is seen to succeed has a result. -/
theorem exists_ok_of_isOk {x : Except ε α} (h : x.isOk = true) : ∃ a, x = .ok a := by
  cases x with
  | error e => cases h
  | ok a => exact ⟨a, rfl⟩

/-! ## Section 2: Single checks -/

/-- Fail with `e` unless `p` holds. -/
def require (p : Prop) [Decidable p] (e : ε) : Except ε Unit :=
  if p then .ok () else .error e

@[simp] theorem require_eq_ok {p : Prop} [Decidable p] {e : ε} {u : Unit} :
    require p e = .ok u ↔ p := by
  by_cases hp : p <;> simp [require, hp]

theorem require_of {p : Prop} [Decidable p] {e : ε} (hp : p) : require p e = .ok () :=
  require_eq_ok.mpr hp

theorem require_of_not {p : Prop} [Decidable p] {e : ε} (hp : ¬ p) :
    require p e = .error e := by
  simp [require, hp]

/-- Fail with `e` when there is no value. -/
def expect (x : Option α) (e : ε) : Except ε α :=
  match x with
  | some a => .ok a
  | none => .error e

@[simp] theorem expect_eq_ok {x : Option α} {e : ε} {a : α} :
    expect x e = .ok a ↔ x = some a := by
  cases x <;> simp [expect]

@[simp] theorem expect_some_bind {a : α} {e : ε} {f : α → Except ε β} :
    (expect (some a) e >>= f) = f a := rfl

@[simp] theorem expect_none_bind {e : ε} {f : α → Except ε β} :
    (expect none e >>= f) = .error e := rfl

/-- Run a check only when a condition holds. -/
def checkWhen (p : Prop) [Decidable p] (x : Except ε Unit) : Except ε Unit :=
  if p then x else .ok ()

@[simp] theorem checkWhen_eq_ok {p : Prop} [Decidable p] {x : Except ε Unit} {u : Unit} :
    checkWhen p x = .ok u ↔ (p → x = .ok ()) := by
  by_cases hp : p <;> simp [checkWhen, hp]

/-! ## Section 3: Changing the error -/

/-- The same check under another error. -/
def mapError (f : ε → ε') : Except ε α → Except ε' α
  | .ok a => .ok a
  | .error e => .error (f e)

@[simp] theorem mapError_eq_ok {f : ε → ε'} {x : Except ε α} {a : α} :
    mapError f x = .ok a ↔ x = .ok a := by
  cases x <;> simp [mapError]

/-! ## Section 4: Lists -/

/-- A check of every element of a list, in order. -/
theorem mapM_eq_ok_iff {f : α → Except ε β} {l : List α} {r : List β} :
    l.mapM f = .ok r ↔ List.Forall₂ (fun a b => f a = .ok b) l r := by
  induction l generalizing r with
  | nil =>
      rw [List.mapM_nil, pure_eq_ok, List.forall₂_nil_left_iff, eq_comm]
  | cons a l ih =>
      simp only [List.mapM_cons, bind_eq_ok, pure_eq_ok, List.forall₂_cons_left_iff]
      constructor
      · rintro ⟨b, hb, bs, hbs, rfl⟩
        exact ⟨b, bs, hb, ih.mp hbs, rfl⟩
      · rintro ⟨b, bs, hb, hbs, rfl⟩
        exact ⟨b, hb, bs, ih.mpr hbs, rfl⟩

/-- Every result of a list check is the result of an element. -/
theorem exists_of_mem_mapM {f : α → Except ε β} {l : List α} {r : List β} (h : l.mapM f = .ok r)
    {b : β} (hb : b ∈ r) : ∃ a ∈ l, f a = .ok b := by
  rw [mapM_eq_ok_iff] at h
  induction h with
  | nil => simp at hb
  | @cons a b' l r hab _ ih =>
      rcases List.mem_cons.mp hb with rfl | hmem
      · exact ⟨a, by simp, hab⟩
      · obtain ⟨a', ha', hf⟩ := ih hmem
        exact ⟨a', by simp [ha'], hf⟩

/-- A result belongs to an element. -/
theorem exists_of_mem_forall₂ {R : α → β → Prop} {l : List α} {r : List β}
    (h : List.Forall₂ R l r) {b : β} (hb : b ∈ r) : ∃ a ∈ l, R a b := by
  induction h with
  | nil => simp at hb
  | @cons a b' l r hab _ ih =>
      rcases List.mem_cons.mp hb with rfl | hb
      · exact ⟨a, List.mem_cons_self, hab⟩
      · obtain ⟨a', ha', hab'⟩ := ih hb
        exact ⟨a', List.mem_cons_of_mem _ ha', hab'⟩

/-- Related elements, one for each element of a list. -/
theorem exists_forall₂_of_forall {R : α → β → Prop} {l : List α} (h : ∀ a ∈ l, ∃ b, R a b) :
    ∃ r, List.Forall₂ R l r := by
  induction l with
  | nil => exact ⟨[], .nil⟩
  | cons a l ih =>
      obtain ⟨b, hb⟩ := h a List.mem_cons_self
      obtain ⟨r, hr⟩ := ih (fun a' ha' => h a' (List.mem_cons_of_mem _ ha'))
      exact ⟨b :: r, .cons hb hr⟩

/-- What is related to the pairs of related elements is related to the second of each pair. -/
theorem forall₂_of_zip {γ : Type} {R : α → β → Prop} {Q : α × β → γ → Prop} {l : List α}
    {m : List β} {r : List γ} (h : List.Forall₂ R l m) (h' : List.Forall₂ Q (l.zip m) r) :
    List.Forall₂ (fun b c => ∃ a, R a b ∧ Q (a, b) c) m r := by
  induction h generalizing r with
  | nil =>
      rw [List.zip_nil_left, List.forall₂_nil_left_iff] at h'
      rw [h']
      exact .nil
  | @cons a b l m hab _ ih =>
      rw [List.zip_cons_cons, List.forall₂_cons_left_iff] at h'
      obtain ⟨c, rest, hc, hrest, rfl⟩ := h'
      exact .cons ⟨a, hab, hc⟩ (ih hrest)

/-- Two lists that are both related to a third are related to each other. -/
theorem forall₂_join {γ : Type} {R : α → β → Prop} {Q : α → γ → Prop} {l : List α}
    {m : List β} {r : List γ} (h : List.Forall₂ R l m) (h' : List.Forall₂ Q l r) :
    List.Forall₂ (fun b c => ∃ a, R a b ∧ Q a c) m r := by
  induction h generalizing r with
  | nil =>
      rw [List.forall₂_nil_left_iff.mp h']
      exact .nil
  | @cons a b l m hab _ ih =>
      obtain ⟨c, rest, hc, hrest, rfl⟩ := List.forall₂_cons_left_iff.mp h'
      exact .cons ⟨a, hab, hc⟩ (ih hrest)

/-- What is read off the results is what is read off the elements. -/
theorem map_eq_of_forall₂ {γ : Type} {R : α → β → Prop} {f : α → γ} {g : β → γ} {l : List α}
    {r : List β} (h : List.Forall₂ R l r) (hsame : ∀ a b, R a b → g b = f a) :
    r.map g = l.map f := by
  induction h with
  | nil => rfl
  | cons hab _ ih => rw [List.map_cons, List.map_cons, hsame _ _ hab, ih]

/-- A list check succeeds iff the check of every element does. -/
theorem exists_mapM_eq_ok_iff {f : α → Except ε β} {l : List α} :
    (∃ r, l.mapM f = .ok r) ↔ ∀ a ∈ l, ∃ b, f a = .ok b := by
  simp only [mapM_eq_ok_iff]
  induction l with
  | nil => simp
  | cons a l ih =>
      simp only [List.forall₂_cons_left_iff, List.mem_cons, forall_eq_or_imp, ← ih]
      constructor
      · rintro ⟨_, b, bs, hb, hbs, rfl⟩
        exact ⟨⟨b, hb⟩, bs, hbs⟩
      · rintro ⟨⟨b, hb⟩, bs, hbs⟩
        exact ⟨b :: bs, b, bs, hb, hbs, rfl⟩

/-- A check of every element of a list, without results. -/
theorem forM_eq_ok_iff {f : α → Except ε Unit} {l : List α} {u : Unit} :
    forM l f = .ok u ↔ ∀ a ∈ l, f a = .ok () := by
  induction l with
  | nil => simp [pure, Except.pure]
  | cons a l ih =>
      simp only [List.forM_cons, bind_eq_ok, ih, List.mem_cons, forall_eq_or_imp]
      exact ⟨fun ⟨_, ha, hl⟩ => ⟨ha, hl⟩, fun ⟨ha, hl⟩ => ⟨(), ha, hl⟩⟩

/-- What relates the elements of a list to others does not depend on their indices. -/
theorem forall₂_zipIdx_iff (R : α → β → Prop) : ∀ (l : List α) {k : Nat} {r : List β},
    List.Forall₂ (fun a b => R a.1 b) (l.zipIdx k) r ↔ List.Forall₂ R l r
  | [], _, _ => by simp
  | a :: l, k, r => by
      simp only [List.zipIdx_cons, List.forall₂_cons_left_iff, forall₂_zipIdx_iff R l]

/-- What holds of the elements of a list does not depend on their indices. -/
theorem forall_mem_zipIdx_iff (P : α → Prop) {l : List α} :
    (∀ a ∈ l.zipIdx, P a.1) ↔ ∀ a ∈ l, P a := by
  constructor
  · intro hall a ha
    obtain ⟨i, hi, rfl⟩ := List.mem_iff_getElem.mp ha
    exact hall (l[i], i) (List.mk_mem_zipIdx_iff_getElem?.mpr (by simp))
  · rintro hall ⟨a, i⟩ hmem
    exact hall a (List.fst_mem_of_mem_zipIdx hmem)

/-- Checking every element of a list that a printer produced gives the elements back. -/
theorem mapM_map_eq_ok {f : α → Except ε β} {g : β → α} {l : List β}
    (h : ∀ b ∈ l, f (g b) = .ok b) : (l.map g).mapM f = .ok l := by
  rw [mapM_eq_ok_iff, List.forall₂_map_left_iff, List.forall₂_same]
  exact h

end Checked
