import Acgps.Lib.Checked
import Mathlib.Control.Basic

/-!
# Interleaved programs over a shared world

Programs whose reads and writes of a shared world are single atomic steps. Any number of them run
at once; between two steps of one program the others and the environment may take steps of their
own.

## Main Definitions

* `Query`, `Prog` - programs that only read, and programs that may also write
* `May S` - the results a program can have when each of its reads sees a world of `S`
* `Writes S` - the writes such a program can perform
* `Reaches` - the pools that a world and the programs running over it can evolve to

## Key Theorems

* `Query.may_bind`, `Prog.may_bind`, `Prog.writes_bind` - all three are compositional
* `Reaches.sound` - **rely and guarantee**: if every write a program can perform, after reading
  only worlds of the past, keeps an invariant, the invariant holds in every world reached
* `Reaches.call` - a call that runs without interruption is an interleaving too
-/

namespace Interleaving

open Checked

variable {W ε ε' α β C : Type}

/-! ## Section 1: Programs -/

/-- A program that only reads: it ends, or goes on with the world it is run in. -/
inductive Query (W ε α : Type) where
  | done (result : Except ε α)
  | ask (next : W → Query W ε α)

/-- A program that may also write; after a write it goes on with the world before it. -/
inductive Prog (W ε α : Type) where
  | done (result : Except ε α)
  | ask (next : W → Prog W ε α)
  | act (write : W → W) (next : W → Prog W ε α)

namespace Query

/-- A computation that reads nothing. -/
def lift (result : Except ε α) : Query W ε α := .done result

/-- One read. -/
def read (f : W → Except ε α) : Query W ε α := .ask (fun w => .done (f w))

/-- Run a program on the value of another. -/
def bind : Query W ε α → (α → Query W ε β) → Query W ε β
  | .done (.ok a), f => f a
  | .done (.error e), _ => .done (.error e)
  | .ask next, f => .ask (fun w => (next w).bind f)

/-- The same program under other errors. -/
def mapError (f : ε → ε') : Query W ε α → Query W ε' α
  | .done result => .done (Checked.mapError f result)
  | .ask next => .ask (fun w => (next w).mapError f)

/-- The result in a world that does not change. -/
def run : Query W ε α → W → Except ε α
  | .done result, _ => result
  | .ask next, w => (next w).run w

instance : Monad (Query W ε) where
  pure a := .done (.ok a)
  bind := Query.bind

theorem bind_pure (q : Query W ε α) : q.bind (fun a => .done (.ok a)) = q := by
  induction q with
  | done result => cases result <;> rfl
  | ask next ih =>
      show Query.ask _ = _
      exact congrArg Query.ask (funext ih)

theorem bind_assoc {γ : Type} (q : Query W ε α) (f : α → Query W ε β) (g : β → Query W ε γ) :
    (q.bind f).bind g = q.bind (fun a => (f a).bind g) := by
  induction q with
  | done result => cases result <;> rfl
  | ask next ih =>
      show Query.ask _ = Query.ask _
      exact congrArg Query.ask (funext ih)

instance : LawfulMonad (Query W ε) :=
  LawfulMonad.mk' _ (fun q => bind_pure q) (fun _ _ => rfl) (fun q f g => bind_assoc q f g)

end Query

namespace Prog

/-- A computation that neither reads nor writes. -/
def lift (result : Except ε α) : Prog W ε α := .done result

/-- A query as a program. -/
def query : Query W ε α → Prog W ε α
  | .done result => .done result
  | .ask next => .ask (fun w => query (next w))

/-- One atomic step that reads and writes. -/
def update (f : W → Except ε α × W) : Prog W ε α :=
  .act (fun w => (f w).2) (fun w => .done (f w).1)

/-- Run a program on the value of another. -/
def bind : Prog W ε α → (α → Prog W ε β) → Prog W ε β
  | .done (.ok a), f => f a
  | .done (.error e), _ => .done (.error e)
  | .ask next, f => .ask (fun w => (next w).bind f)
  | .act write next, f => .act write (fun w => (next w).bind f)

/-- The same program under other errors. -/
def mapError (f : ε → ε') : Prog W ε α → Prog W ε' α
  | .done result => .done (Checked.mapError f result)
  | .ask next => .ask (fun w => (next w).mapError f)
  | .act write next => .act write (fun w => (next w).mapError f)

/-- The result and the world after a run without interruption. -/
def run : Prog W ε α → W → Except ε α × W
  | .done result, w => (result, w)
  | .ask next, w => (next w).run w
  | .act write next, w => (next w).run (write w)

instance : Monad (Prog W ε) where
  pure a := .done (.ok a)
  bind := Prog.bind

end Prog

/-! ## Section 2: What a query can return -/

/-- The results a query can have when each read sees a world of `S`. -/
def Query.May (S : W → Prop) : Query W ε α → Except ε α → Prop
  | .done result, r => result = r
  | .ask next, r => ∃ w, S w ∧ (next w).May S r

namespace Query

variable {S : W → Prop}

@[simp] theorem may_lift {result r : Except ε α} :
    (lift result : Query W ε α).May S r ↔ result = r := Iff.rfl

@[simp] theorem may_read {f : W → Except ε α} {r : Except ε α} :
    (read f).May S r ↔ ∃ w, S w ∧ f w = r := Iff.rfl

@[simp] theorem may_pure {a b : α} :
    (pure a : Query W ε α).May S (.ok b) ↔ a = b := by
  show Except.ok a = Except.ok b ↔ a = b
  simp

/-- **A sequence can return what its rest can return on a value of its first part.** -/
@[simp] theorem may_bind {q : Query W ε α} {f : α → Query W ε β} {b : β} :
    (q >>= f).May S (.ok b) ↔ ∃ a, q.May S (.ok a) ∧ (f a).May S (.ok b) := by
  show (q.bind f).May S (.ok b) ↔ _
  induction q with
  | done result =>
      cases result with
      | ok a => simp [Query.bind, May]
      | error e => simp [Query.bind, May]
  | ask next ih =>
      simp only [Query.bind, May, ih]
      constructor
      · rintro ⟨w, hw, a, ha, hb⟩
        exact ⟨a, ⟨w, hw, ha⟩, hb⟩
      · rintro ⟨a, ⟨w, hw, ha⟩, hb⟩
        exact ⟨w, hw, a, ha, hb⟩

@[simp] theorem may_map {f : α → β} {q : Query W ε α} {b : β} :
    (f <$> q).May S (.ok b) ↔ ∃ a, q.May S (.ok a) ∧ f a = b := by
  rw [map_eq_pure_bind]
  simp only [may_bind, may_pure]

@[simp] theorem may_mapError {g : ε → ε'} {q : Query W ε α} {a : α} :
    (q.mapError g).May S (.ok a) ↔ q.May S (.ok a) := by
  induction q with
  | done result => simp [Query.mapError, May]
  | ask next ih => simp [Query.mapError, May, ih]

@[simp] theorem may_ite {p : Prop} [Decidable p] {q q' : Query W ε α} {r : Except ε α} :
    (if p then q else q').May S r ↔ if p then q.May S r else q'.May S r := by
  by_cases hp : p <;> simp [hp]

/-- Queries of every element of a list, in order. -/
theorem may_mapM {f : α → Query W ε β} {l : List α} {r : List β} :
    (l.mapM f).May S (.ok r) ↔ List.Forall₂ (fun a b => (f a).May S (.ok b)) l r := by
  induction l generalizing r with
  | nil =>
      rw [List.mapM_nil, may_pure, List.forall₂_nil_left_iff, eq_comm]
  | cons a l ih =>
      simp only [List.mapM_cons, may_bind, may_pure, ih, List.forall₂_cons_left_iff]
      constructor
      · rintro ⟨b, hb, bs, hbs, rfl⟩
        exact ⟨b, bs, hb, hbs, rfl⟩
      · rintro ⟨b, bs, hb, hbs, rfl⟩
        exact ⟨b, hb, bs, hbs, rfl⟩

/-- Queries of every element of a list, without results. -/
@[simp] theorem may_forM {f : α → Query W ε Unit} {l : List α} {u : Unit} :
    (forM l f).May S (.ok u) ↔ ∀ a ∈ l, (f a).May S (.ok ()) := by
  induction l with
  | nil => simp
  | cons a l ih =>
      simp only [List.forM_cons, may_bind, ih, List.mem_cons, forall_eq_or_imp]
      exact ⟨fun ⟨_, ha, hl⟩ => ⟨ha, hl⟩, fun ⟨ha, hl⟩ => ⟨(), ha, hl⟩⟩

theorem May.mono {S S' : W → Prop} (hS : ∀ w, S w → S' w) {q : Query W ε α} {r : Except ε α}
    (h : q.May S r) : q.May S' r := by
  induction q with
  | done result => exact h
  | ask next ih =>
      obtain ⟨w, hw, h⟩ := h
      exact ⟨w, hS w hw, ih w h⟩

/-- Two worlds that every read of a query sees alike. -/
def Agree (w w' : W) : Query W ε α → Prop
  | .done _ => True
  | .ask next => next w = next w' ∧ (next w).Agree w w'

theorem Agree.run_eq {w w' : W} {q : Query W ε α} (h : q.Agree w w') : q.run w = q.run w' := by
  induction q with
  | done result => rfl
  | ask next ih =>
      obtain ⟨hnext, hrest⟩ := h
      show (next w).run w = (next w').run w'
      rw [← hnext]
      exact ih w hrest

@[simp] theorem agree_lift {w w' : W} {result : Except ε α} :
    (lift result : Query W ε α).Agree w w' := trivial

@[simp] theorem agree_pure {w w' : W} {a : α} : (pure a : Query W ε α).Agree w w' := trivial

@[simp] theorem agree_read {w w' : W} {f : W → Except ε α} (h : f w = f w') :
    (read f).Agree w w' := ⟨congrArg Query.done h, trivial⟩

theorem agree_bind {w w' : W} {q : Query W ε α} {f : α → Query W ε β} (hq : q.Agree w w')
    (hf : ∀ a, (f a).Agree w w') : (q >>= f).Agree w w' := by
  show (q.bind f).Agree w w'
  induction q with
  | done result =>
      cases result with
      | ok a => exact hf a
      | error e => trivial
  | ask next ih =>
      obtain ⟨hnext, hrest⟩ := hq
      exact ⟨congrArg (·.bind f) hnext, ih w hrest⟩

theorem agree_mapError {w w' : W} {g : ε → ε'} {q : Query W ε α} (hq : q.Agree w w') :
    (q.mapError g).Agree w w' := by
  induction q with
  | done result => trivial
  | ask next ih =>
      obtain ⟨hnext, hrest⟩ := hq
      exact ⟨congrArg (·.mapError g) hnext, ih w hrest⟩

theorem agree_mapM {w w' : W} {f : α → Query W ε β} (hf : ∀ a, (f a).Agree w w') (l : List α) :
    (l.mapM f).Agree w w' := by
  induction l with
  | nil => simp
  | cons a l ih =>
      rw [List.mapM_cons]
      exact agree_bind (hf a) (fun b => agree_bind ih (fun bs => agree_pure))

theorem agree_forM {w w' : W} {f : α → Query W ε Unit} (hf : ∀ a, (f a).Agree w w')
    (l : List α) : (forM l f).Agree w w' := by
  induction l with
  | nil => simp
  | cons a l ih =>
      rw [List.forM_cons]
      exact agree_bind (hf a) (fun _ => ih)

/-- In a world that does not change a query has one result. -/
theorem may_eq_iff {q : Query W ε α} {w : W} {r : Except ε α} :
    q.May (· = w) r ↔ q.run w = r := by
  induction q with
  | done result => exact Iff.rfl
  | ask next ih =>
      show (∃ v, v = w ∧ (next v).May (· = w) r) ↔ (next w).run w = r
      rw [exists_eq_left, ih]

theorem may_unique {q : Query W ε α} {w : W} {a b : α} (ha : q.May (· = w) (.ok a))
    (hb : q.May (· = w) (.ok b)) : a = b :=
  Except.ok.inj ((may_eq_iff.mp ha).symm.trans (may_eq_iff.mp hb))

end Query

/-! ## Section 3: What a program can return and write -/

/-- The results a program can have when each read and each of its own writes sees worlds of `S`. -/
def Prog.May (S : W → Prop) : Prog W ε α → Except ε α → Prop
  | .done result, r => result = r
  | .ask next, r => ∃ w, S w ∧ (next w).May S r
  | .act write next, r => ∃ w, S w ∧ S (write w) ∧ (next w).May S r

/-- The writes a program can perform when each step before sees worlds of `S`. -/
def Prog.Writes (S : W → Prop) : Prog W ε α → (W → W) → Prop
  | .done _, _ => False
  | .ask next, x => ∃ w, S w ∧ (next w).Writes S x
  | .act write next, x => x = write ∨ ∃ w, S w ∧ S (write w) ∧ (next w).Writes S x

namespace Prog

variable {S : W → Prop}

@[simp] theorem may_lift {result r : Except ε α} :
    (lift result : Prog W ε α).May S r ↔ result = r := Iff.rfl

@[simp] theorem may_pure {a b : α} :
    (pure a : Prog W ε α).May S (.ok b) ↔ a = b := by
  show Except.ok a = Except.ok b ↔ a = b
  simp

@[simp] theorem may_query {q : Query W ε α} {r : Except ε α} :
    (query q).May S r ↔ q.May S r := by
  induction q with
  | done result => exact Iff.rfl
  | ask next ih =>
      show (∃ w, S w ∧ (query (next w)).May S r) ↔ ∃ w, S w ∧ (next w).May S r
      simp only [ih]

@[simp] theorem may_update {f : W → Except ε α × W} {r : Except ε α} :
    (update f).May S r ↔ ∃ w, S w ∧ S (f w).2 ∧ (f w).1 = r := Iff.rfl

@[simp] theorem may_bind {p : Prog W ε α} {f : α → Prog W ε β} {b : β} :
    (p >>= f).May S (.ok b) ↔ ∃ a, p.May S (.ok a) ∧ (f a).May S (.ok b) := by
  show (p.bind f).May S (.ok b) ↔ _
  induction p with
  | done result =>
      cases result with
      | ok a => simp [Prog.bind, May]
      | error e => simp [Prog.bind, May]
  | ask next ih =>
      simp only [Prog.bind, May, ih]
      constructor
      · rintro ⟨w, hw, a, ha, hb⟩
        exact ⟨a, ⟨w, hw, ha⟩, hb⟩
      · rintro ⟨a, ⟨w, hw, ha⟩, hb⟩
        exact ⟨w, hw, a, ha, hb⟩
  | act write next ih =>
      simp only [Prog.bind, May, ih]
      constructor
      · rintro ⟨w, hw, hwrite, a, ha, hb⟩
        exact ⟨a, ⟨w, hw, hwrite, ha⟩, hb⟩
      · rintro ⟨a, ⟨w, hw, hwrite, ha⟩, hb⟩
        exact ⟨w, hw, hwrite, a, ha, hb⟩

@[simp] theorem may_mapError {g : ε → ε'} {p : Prog W ε α} {a : α} :
    (p.mapError g).May S (.ok a) ↔ p.May S (.ok a) := by
  induction p with
  | done result => simp [Prog.mapError, May]
  | ask next ih => simp [Prog.mapError, May, ih]
  | act write next ih => simp [Prog.mapError, May, ih]

theorem May.mono {S S' : W → Prop} (hS : ∀ w, S w → S' w) {p : Prog W ε α} {r : Except ε α}
    (h : p.May S r) : p.May S' r := by
  induction p with
  | done result => exact h
  | ask next ih =>
      obtain ⟨w, hw, h⟩ := h
      exact ⟨w, hS w hw, ih w h⟩
  | act write next ih =>
      obtain ⟨w, hw, hwrite, h⟩ := h
      exact ⟨w, hS w hw, hS _ hwrite, ih w h⟩

@[simp] theorem writes_lift {result : Except ε α} {x : W → W} :
    ¬ (lift result : Prog W ε α).Writes S x := id

@[simp] theorem writes_pure {a : α} {x : W → W} : ¬ (pure a : Prog W ε α).Writes S x := id

@[simp] theorem writes_query {q : Query W ε α} {x : W → W} : ¬ (query q).Writes S x := by
  induction q with
  | done result => exact id
  | ask next ih =>
      rintro ⟨w, _, h⟩
      exact ih w h

@[simp] theorem writes_update {f : W → Except ε α × W} {x : W → W} :
    (update f).Writes S x ↔ x = fun w => (f w).2 := by
  show (x = _ ∨ ∃ w, S w ∧ S (f w).2 ∧ False) ↔ _
  simp

theorem Writes.mono {S S' : W → Prop} (hS : ∀ w, S w → S' w) {p : Prog W ε α} {x : W → W}
    (h : p.Writes S x) : p.Writes S' x := by
  induction p with
  | done result => exact h
  | ask next ih =>
      obtain ⟨w, hw, h⟩ := h
      exact ⟨w, hS w hw, ih w h⟩
  | act write next ih =>
      rcases h with rfl | ⟨w, hw, hwrite, h⟩
      · exact .inl rfl
      · exact .inr ⟨w, hS w hw, hS _ hwrite, ih w h⟩

/-- **A sequence writes what its first part writes, or its rest on a value of the first part.** -/
@[simp] theorem writes_bind {p : Prog W ε α} {f : α → Prog W ε β} {x : W → W} :
    (p >>= f).Writes S x ↔ p.Writes S x ∨ ∃ a, p.May S (.ok a) ∧ (f a).Writes S x := by
  show (p.bind f).Writes S x ↔ _
  induction p with
  | done result =>
      cases result with
      | ok a => simp [Prog.bind, May, Writes]
      | error e => simp [Prog.bind, May, Writes]
  | ask next ih =>
      simp only [Prog.bind, May, Writes, ih]
      constructor
      · rintro ⟨w, hw, h | ⟨a, ha, h⟩⟩
        · exact .inl ⟨w, hw, h⟩
        · exact .inr ⟨a, ⟨w, hw, ha⟩, h⟩
      · rintro (⟨w, hw, h⟩ | ⟨a, ⟨w, hw, ha⟩, h⟩)
        · exact ⟨w, hw, .inl h⟩
        · exact ⟨w, hw, .inr ⟨a, ha, h⟩⟩
  | act write next ih =>
      simp only [Prog.bind, May, Writes, ih]
      constructor
      · rintro (rfl | ⟨w, hw, hwrite, h | ⟨a, ha, h⟩⟩)
        · exact .inl (.inl rfl)
        · exact .inl (.inr ⟨w, hw, hwrite, h⟩)
        · exact .inr ⟨a, ⟨w, hw, hwrite, ha⟩, h⟩
      · rintro ((rfl | ⟨w, hw, hwrite, h⟩) | ⟨a, ⟨w, hw, hwrite, ha⟩, h⟩)
        · exact .inl rfl
        · exact .inr ⟨w, hw, hwrite, .inl h⟩
        · exact .inr ⟨w, hw, hwrite, .inr ⟨a, ha, h⟩⟩

@[simp] theorem writes_mapError {g : ε → ε'} {p : Prog W ε α} {x : W → W} :
    (p.mapError g).Writes S x ↔ p.Writes S x := by
  induction p with
  | done result => exact Iff.rfl
  | ask next ih => simp [Prog.mapError, Writes, ih]
  | act write next ih => simp [Prog.mapError, Writes, ih]

/-! ## Section 4: Runs without interruption -/

theorem run_query (q : Query W ε α) (w : W) : (query q).run w = (q.run w, w) := by
  induction q with
  | done result => rfl
  | ask next ih => exact ih w

theorem run_update (f : W → Except ε α × W) (w : W) : (update f).run w = f w := rfl

theorem run_lift (result : Except ε α) (w : W) :
    (lift result : Prog W ε α).run w = (result, w) := rfl

/-- A sequence runs its rest in the world its first part leaves. -/
theorem run_bind_of_ok {p : Prog W ε α} {f : α → Prog W ε β} {w w' : W} {a : α}
    (h : p.run w = (.ok a, w')) : (p >>= f).run w = (f a).run w' := by
  show (p.bind f).run w = _
  induction p generalizing w with
  | done result =>
      obtain ⟨rfl, rfl⟩ := Prod.mk.inj h
      rfl
  | ask next ih => exact ih w h
  | act write next ih => exact ih w h

/-- A sequence whose first part fails is over. -/
theorem run_bind_of_error {p : Prog W ε α} {f : α → Prog W ε β} {w w' : W} {e : ε}
    (h : p.run w = (.error e, w')) : (p >>= f).run w = (.error e, w') := by
  show (p.bind f).run w = _
  induction p generalizing w with
  | done result =>
      obtain ⟨rfl, rfl⟩ := Prod.mk.inj h
      rfl
  | ask next ih => exact ih w h
  | act write next ih => exact ih w h

/-- **A run of a sequence** ends in its first part, or goes through it. -/
theorem run_bind_cases (p : Prog W ε α) (f : α → Prog W ε β) (w : W) :
    (∃ e, (p.run w).1 = .error e ∧ (p >>= f).run w = (.error e, (p.run w).2)) ∨
      ∃ a, (p.run w).1 = .ok a ∧ (p >>= f).run w = (f a).run (p.run w).2 := by
  cases h : (p.run w).1 with
  | error e => exact .inl ⟨e, rfl, run_bind_of_error (Prod.ext h rfl)⟩
  | ok a => exact .inr ⟨a, rfl, run_bind_of_ok (Prod.ext h rfl)⟩

theorem run_mapError {g : ε → ε'} (p : Prog W ε α) (w : W) :
    (p.mapError g).run w = (Checked.mapError g (p.run w).1, (p.run w).2) := by
  induction p generalizing w with
  | done result => rfl
  | ask next ih => exact ih w w
  | act write next ih => exact ih w (write w)

/-- What a run without interruption returns is a result that the program can have. -/
theorem may_of_run {p : Prog W ε α} {w : W} {r : Except ε α} (h : (p.run w).1 = r) :
    p.May (fun _ => True) r := by
  induction p generalizing w with
  | done result => exact h
  | ask next ih => exact ⟨w, trivial, ih w h⟩
  | act write next ih => exact ⟨w, trivial, trivial, ih w h⟩

/-- A run after which something holds that did not hold before has performed a write that made it
hold. -/
theorem exists_writes_of_run {P : W → Prop} {p : Prog W ε α} {w : W} (hbefore : ¬ P w)
    (hafter : P (p.run w).2) : ∃ x v, p.Writes (fun _ => True) x ∧ ¬ P v ∧ P (x v) := by
  induction p generalizing w with
  | done result => exact absurd hafter hbefore
  | ask next ih =>
      obtain ⟨x, v, hx, h⟩ := ih w hbefore hafter
      exact ⟨x, v, ⟨w, trivial, hx⟩, h⟩
  | act write next ih =>
      by_cases hwrite : P (write w)
      · exact ⟨write, w, .inl rfl, hbefore, hwrite⟩
      · obtain ⟨x, v, hx, h⟩ := ih w hwrite hafter
        exact ⟨x, v, .inr ⟨w, trivial, trivial, hx⟩, h⟩

theorem run_mapError_of_ok {g : ε → ε'} {p : Prog W ε α} {w w' : W} {a : α}
    (h : p.run w = (.ok a, w')) : (p.mapError g).run w = (.ok a, w') := by
  induction p generalizing w with
  | done result =>
      obtain ⟨rfl, rfl⟩ := Prod.mk.inj h
      rfl
  | ask next ih => exact ih w h
  | act write next ih => exact ih w h

end Prog

/-! ## Section 5: Pools -/

/-- A world, and the calls in progress with what is left of each. -/
structure Pool (C W ε α : Type) where
  world : W
  running : List (C × Prog W ε α)

section System

variable (prog : C → Prog W ε α) (env : W → W → Prop) (meets : C → W → W → Prop)

/-- The pools that can be reached from a world: calls start at any time, each step of a call is
atomic, and the environment takes steps of its own. Every write of a call has to meet the condition
`meets` on the call and the worlds before and after. -/
inductive Reaches (world₀ : W) : Pool C W ε α → Prop
  | init : Reaches world₀ ⟨world₀, []⟩
  | start {pool : Pool C W ε α} (c : C) : Reaches world₀ pool →
      Reaches world₀ ⟨pool.world, pool.running ++ [(c, prog c)]⟩
  | read {w : W} {before after : List (C × Prog W ε α)} {c : C} {next : W → Prog W ε α} :
      Reaches world₀ ⟨w, before ++ (c, .ask next) :: after⟩ →
      Reaches world₀ ⟨w, before ++ (c, next w) :: after⟩
  | write {w : W} {before after : List (C × Prog W ε α)} {c : C} {x : W → W}
      {next : W → Prog W ε α} :
      Reaches world₀ ⟨w, before ++ (c, .act x next) :: after⟩ → meets c w (x w) →
      Reaches world₀ ⟨x w, before ++ (c, next w) :: after⟩
  | env {w w' : W} {running : List (C × Prog W ε α)} :
      Reaches world₀ ⟨w, running⟩ → env w w' → Reaches world₀ ⟨w', running⟩

variable {prog env meets}

/-- The worlds of the past of a world: in them the invariant held, and it extends them. -/
def Past (Inv : W → Prop) (Ext : W → W → Prop) (w v : W) : Prop := Inv v ∧ Ext v w

/-- What is left of a call can write only what the call can write. -/
def LeftOf (Inv : W → Prop) (Ext : W → W → Prop) (w : W) (p q : Prog W ε α) : Prop :=
  ∀ w', Ext w w' → ∀ x, q.Writes (Past Inv Ext w') x → p.Writes (Past Inv Ext w') x

/-- **Rely and guarantee.** If the environment keeps the invariant and only extends the world, and
so does every write that a call can perform after reading worlds of the past, then every world
reached satisfies the invariant. -/
theorem Reaches.sound {Inv : W → Prop} {Ext : W → W → Prop} (hrefl : ∀ w, Ext w w)
    (htrans : ∀ u v w, Ext u v → Ext v w → Ext u w)
    (henv : ∀ w w', Inv w → env w w' → Inv w' ∧ Ext w w')
    (hown : ∀ c w x, Inv w → (prog c).Writes (Past Inv Ext w) x → meets c w (x w) →
      Inv (x w) ∧ Ext w (x w))
    {world₀ : W} (hinit : Inv world₀) {pool : Pool C W ε α}
    (h : Reaches prog env meets world₀ pool) :
    Inv pool.world ∧ ∀ entry ∈ pool.running, LeftOf Inv Ext pool.world (prog entry.1) entry.2 := by
  have hlater : ∀ {w w' : W} {running : List (C × Prog W ε α)}, Ext w w' →
      (∀ entry ∈ running, LeftOf Inv Ext w (prog entry.1) entry.2) →
      ∀ entry ∈ running, LeftOf Inv Ext w' (prog entry.1) entry.2 :=
    fun hext hleft entry hmem w' hw' => hleft entry hmem w' (htrans _ _ _ hext hw')
  induction h with
  | init => exact ⟨hinit, by simp⟩
  | start c _ ih =>
      refine ⟨ih.1, fun entry hentry => ?_⟩
      rcases List.mem_append.mp hentry with hmem | hmem
      · exact ih.2 entry hmem
      · obtain rfl := List.mem_singleton.mp hmem
        exact fun w' _ x hx => hx
  | @read w before after c next _ ih =>
      obtain ⟨hinv, hleft⟩ := ih
      refine ⟨hinv, fun entry hentry => ?_⟩
      rcases List.mem_append.mp hentry with hmem | hmem
      · exact hleft entry (List.mem_append_left _ hmem)
      · rcases List.mem_cons.mp hmem with rfl | hmem
        · intro w' hw' x hx
          have hask := hleft (c, .ask next) (by simp) w' hw' x
          exact hask ⟨w, ⟨hinv, hw'⟩, hx⟩
        · exact hleft entry (by simp [hmem])
  | @write w before after c x next _ hmeets ih =>
      obtain ⟨hinv, hleft⟩ := ih
      have hact := hleft (c, .act x next) (by simp)
      obtain ⟨hinv', hext⟩ := hown c w x hinv (hact w (hrefl w) x (.inl rfl)) hmeets
      refine ⟨hinv', fun entry hentry => ?_⟩
      rcases List.mem_append.mp hentry with hmem | hmem
      · exact hlater hext hleft entry (List.mem_append_left _ hmem)
      · rcases List.mem_cons.mp hmem with rfl | hmem
        · intro w' hw' y hy
          have hw := htrans _ _ _ hext hw'
          exact hact w' hw y (.inr ⟨w, ⟨hinv, hw⟩, ⟨hinv', hw'⟩, hy⟩)
        · exact hlater hext hleft entry (by simp [hmem])
  | env _ hstep ih =>
      obtain ⟨hinv, hleft⟩ := ih
      obtain ⟨hinv', hext⟩ := henv _ _ hinv hstep
      exact ⟨hinv', hlater hext hleft⟩

/-- **A call that runs without interruption is one of the interleavings**, if nothing is asked of
its writes. -/
theorem Reaches.call {world₀ : W} {pool : Pool C W ε α}
    (h : Reaches prog env (fun _ _ _ => True) world₀ pool) (c : C) :
    ∃ running, Reaches prog env (fun _ _ _ => True) world₀ ⟨((prog c).run pool.world).2, running⟩ := by
  have hrun : ∀ (p : Prog W ε α) (w : W) (before : List (C × Prog W ε α)),
      Reaches prog env (fun _ _ _ => True) world₀ ⟨w, before ++ [(c, p)]⟩ →
      ∃ running, Reaches prog env (fun _ _ _ => True) world₀ ⟨(p.run w).2, running⟩ := by
    intro p
    induction p with
    | done result => exact fun w before hreach => ⟨_, hreach⟩
    | ask next ih => exact fun w before hreach => ih w w before hreach.read
    | act write next ih =>
        exact fun w before hreach => ih w (write w) before (hreach.write trivial)
  exact hrun (prog c) pool.world pool.running (h.start c)

end System

end Interleaving
