import Mathlib.Data.List.Induction
import Mathlib.Data.List.Nodup

/-!
# Hash chains

A list of records in which each record names the hash of the one before it. Nothing is assumed
about the records or the hashes; where two chains are compared, the hash is injective on the
records at hand.

## Main Definitions

* `LinkedFrom` - a list of records linked to a given starting hash
* `headHash` - the hash that the next record of a chain has to name

## Key Theorems

* `linkedFrom_append` - a chain is extended by a chain that starts at its head
* `linked_unique` - **a chain is determined by the hash of its last record**
* `successor_unique` - in one chain, two records that name the same predecessor are one record
-/

namespace HashChain

variable {ρ η : Type} (hash : ρ → η) (previous : ρ → Option η)

/-! ## Section 1: Links -/

/-- A list of records, the first of which names `start` and each other one the hash before it. -/
def LinkedFrom : Option η → List ρ → Prop
  | _, [] => True
  | start, r :: rest => previous r = start ∧ LinkedFrom (some (hash r)) rest

/-- The hash at the head of a chain that started from `start`. -/
def headHash (start : Option η) (chain : List ρ) : Option η :=
  match chain.getLast? with
  | none => start
  | some r => some (hash r)

@[simp] theorem linkedFrom_nil (start : Option η) : LinkedFrom hash previous start [] := trivial

@[simp] theorem linkedFrom_cons (start : Option η) (r : ρ) (rest : List ρ) :
    LinkedFrom hash previous start (r :: rest) ↔
      previous r = start ∧ LinkedFrom hash previous (some (hash r)) rest := Iff.rfl

@[simp] theorem headHash_nil (start : Option η) : headHash hash start [] = start := rfl

@[simp] theorem headHash_concat (start : Option η) (chain : List ρ) (r : ρ) :
    headHash hash start (chain ++ [r]) = some (hash r) := by
  simp [headHash]

theorem headHash_cons (start : Option η) (r : ρ) (rest : List ρ) :
    headHash hash start (r :: rest) = headHash hash (some (hash r)) rest := by
  cases rest using List.reverseRecOn with
  | nil => rfl
  | append_singleton rest x => rw [← List.cons_append, headHash_concat, headHash_concat]

/-- **A chain is extended by a chain that starts at its head.** -/
theorem linkedFrom_append (start : Option η) (a b : List ρ) :
    LinkedFrom hash previous start (a ++ b) ↔
      LinkedFrom hash previous start a ∧ LinkedFrom hash previous (headHash hash start a) b := by
  induction a generalizing start with
  | nil => simp
  | cons r rest ih =>
      simp only [List.cons_append, linkedFrom_cons, ih, headHash_cons, and_assoc]

theorem linkedFrom_concat (start : Option η) (chain : List ρ) (r : ρ) :
    LinkedFrom hash previous start (chain ++ [r]) ↔
      LinkedFrom hash previous start chain ∧ previous r = headHash hash start chain := by
  rw [linkedFrom_append]
  simp

/-- A chain that starts from a hash stays a chain under a naming that extends the given one. -/
theorem linkedFrom_of_extends {previous' : ρ → Option η}
    (h : ∀ r named, previous r = some named → previous' r = some named) {start : η}
    {chain : List ρ} (hlinked : LinkedFrom hash previous (some start) chain) :
    LinkedFrom hash previous' (some start) chain := by
  induction chain generalizing start with
  | nil => trivial
  | cons r rest ih => exact ⟨h r start hlinked.1, ih hlinked.2⟩

/-! ## Section 2: Determination -/

variable {hash previous}

/-- **A chain is determined by the hash of its last record**, when the hash is injective on the
records of the two chains. -/
theorem linked_unique {a b : List ρ} (ha : LinkedFrom hash previous none a)
    (hb : LinkedFrom hash previous none b)
    (hinj : ∀ x ∈ a, ∀ y ∈ b, hash x = hash y → x = y)
    (hhead : headHash hash none a = headHash hash none b) : a = b := by
  induction a using List.reverseRecOn generalizing b with
  | nil =>
      cases b using List.reverseRecOn with
      | nil => rfl
      | append_singleton b y => simp at hhead
  | append_singleton a x ih =>
      cases b using List.reverseRecOn with
      | nil => simp at hhead
      | append_singleton b y =>
          rw [linkedFrom_concat] at ha hb
          simp only [headHash_concat, Option.some.injEq] at hhead
          have hxy : x = y := hinj x (by simp) y (by simp) hhead
          subst hxy
          have hab : a = b := by
            refine ih ha.1 hb.1 (fun x hx y hy => hinj x (by simp [hx]) y (by simp [hy])) ?_
            rw [← ha.2, ← hb.2]
          rw [hab]

/-- In one chain, a record that names no predecessor comes first. -/
theorem eq_head_of_previous_none {chain : List ρ} {r : ρ}
    (h : LinkedFrom hash previous none chain) (hr : r ∈ chain) (hprev : previous r = none) :
    chain.head? = some r := by
  obtain ⟨a, b, rfl⟩ := List.append_of_mem hr
  rw [linkedFrom_append, linkedFrom_cons] at h
  cases a using List.reverseRecOn with
  | nil => rfl
  | append_singleton a x =>
      rw [headHash_concat, hprev] at h
      exact absurd h.2.1 (by simp)

/-- **In one chain, two records that name the same predecessor are one record.** -/
theorem successor_unique {chain : List ρ} (h : LinkedFrom hash previous none chain)
    (hnodup : (chain.map hash).Nodup) {r s : ρ} (hr : r ∈ chain) (hs : s ∈ chain)
    (hprev : previous r = previous s) : r = s := by
  -- the part of the chain before a record ends in the hash that the record names
  have hbefore : ∀ {x : ρ}, x ∈ chain → ∃ a b, chain = a ++ x :: b ∧
      previous x = headHash hash none a ∧ LinkedFrom hash previous none a := by
    intro x hx
    obtain ⟨a, b, hab⟩ := List.append_of_mem hx
    have hlink := h
    rw [hab, linkedFrom_append, linkedFrom_cons] at hlink
    exact ⟨a, b, hab, hlink.2.1, hlink.1⟩
  have hinj : ∀ x ∈ chain, ∀ y ∈ chain, hash x = hash y → x = y := fun x hx y hy =>
    List.inj_on_of_nodup_map hnodup hx hy
  obtain ⟨a, b, hab, hra, hla⟩ := hbefore hr
  obtain ⟨c, d, hcd, hsc, hlc⟩ := hbefore hs
  have hac : a = c := by
    refine linked_unique hla hlc (fun x hx y hy => hinj x ?_ y ?_) (by rw [← hra, ← hsc, hprev])
    · rw [hab]
      exact List.mem_append_left _ hx
    · rw [hcd]
      exact List.mem_append_left _ hy
  subst hac
  have heq := List.append_cancel_left (hab.symm.trans hcd)
  exact (List.cons.inj heq).1

end HashChain
