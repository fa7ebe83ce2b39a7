import Mathlib.Data.List.Basic
import Mathlib.Logic.Relation

/-!
# Rely and guarantee, statement by statement

Programs whose atomic steps carry a name. Any number of calls run at once over a shared world; a
call can crash between two of its steps. What a call relies on may depend on the statement it is
about to execute, so that a window between two statements of one call can be spoken about.

## Main Definitions

* `Code` - a program of named atomic steps
* `Runs` - the pools that calls, crashes and steps in any order lead to
* `Secure` - what is left of a call meets its guarantee, whatever steps it relies on come between

## Key Theorems

* `Secure.andThen` - a sequence is secure if both of its parts are
* `Runs.secure` - **soundness**: in every pool reached the invariant holds, every step made met
  its guarantee, and every call still running is secure
* `Runs.blame` - what held once holds, or some recorded step ended it
-/

namespace RelyGuarantee

open Relation

variable {L W ε α β C : Type}

/-! ## Section 1: Programs -/

/-- A program of atomic steps. A step changes the world, and the rest of the program sees the
world before the change. -/
inductive Code (L W ε α : Type) where
  | done (result : Except ε α)
  | step (label : L) (write : W → W) (next : W → Code L W ε α)

namespace Code

/-- The statement that is executed next. -/
def label? : Code L W ε α → Option L
  | .done _ => none
  | .step label _ _ => some label

/-- Go on with the result of a program, whether it is a value or an error. -/
def andThen : Code L W ε α → (Except ε α → Code L W ε β) → Code L W ε β
  | .done result, f => f result
  | .step label write next, f => .step label write (fun w => (next w).andThen f)

/-- Run a program on the value of another. -/
def bind (p : Code L W ε α) (f : α → Code L W ε β) : Code L W ε β :=
  p.andThen (fun result => match result with
    | .ok a => f a
    | .error e => .done (.error e))

instance : Monad (Code L W ε) where
  pure a := .done (.ok a)
  bind := Code.bind

/-- One read. -/
def read (label : L) (f : W → α) : Code L W ε α := .step label id (fun w => .done (.ok (f w)))

/-- One write. -/
def write (label : L) (f : W → W) : Code L W ε Unit := .step label f (fun _ => .done (.ok ()))

/-- Raise an error. -/
def fail (e : ε) : Code L W ε α := .done (.error e)

/-- `finally`: a last step, whatever the result. -/
def finally_ (p : Code L W ε α) (label : L) (f : W → W) : Code L W ε α :=
  p.andThen (fun result => .step label f (fun _ => .done result))

/-- `except: ...; raise`: a last step when the result is an error. -/
def onError (p : Code L W ε α) (label : L) (f : W → W) : Code L W ε α :=
  p.andThen (fun result => match result with
    | .ok a => .done (.ok a)
    | .error e => .step label f (fun _ => .done (.error e)))

/-- The result and the world after a run without interruption. -/
def run : Code L W ε α → W → Except ε α × W
  | .done result, w => (result, w)
  | .step _ write next, w => (next w).run (write w)

/-- A sequence runs its rest in the world its first part leaves. -/
theorem run_bind_of_ok {p : Code L W ε α} {f : α → Code L W ε β} {w w' : W} {a : α}
    (h : p.run w = (.ok a, w')) : (p >>= f).run w = (f a).run w' := by
  show (p.andThen _).run w = _
  induction p generalizing w with
  | done result =>
      obtain ⟨rfl, rfl⟩ := Prod.mk.inj h
      rfl
  | step label write next ih => exact ih w h

theorem run_read (l : L) (f : W → α) (w : W) :
    (read l f : Code L W ε α).run w = (.ok (f w), w) := rfl

theorem run_write (l : L) (f : W → W) (w : W) :
    (write l f : Code L W ε Unit).run w = (.ok (), f w) := rfl

theorem run_pure (a : α) (w : W) : (pure a : Code L W ε α).run w = (.ok a, w) := rfl

end Code

/-! ## Section 2: Pools -/

/-- A step that was made. -/
structure Event (L W : Type) where
  label : L
  before : W
  after : W

/-- A call, the steps it made and what is left of it: nothing when it crashed. -/
structure Entry (C L W ε α : Type) where
  call : C
  past : List (Event L W)
  rest : Option (Code L W ε α)

/-- The shared world and the calls made so far, numbered in the order of their start. -/
structure Pool (C L W ε α : Type) where
  world : W
  entries : List (Entry C L W ε α)

namespace Pool

/-- The result of a call that is over. -/
def result (pool : Pool C L W ε α) (i : Nat) : Option (Except ε α) :=
  match pool.entries[i]? with
  | some ⟨_, _, some (.done result)⟩ => some result
  | _ => none

/-- The next step of a call. -/
def advance (pool : Pool C L W ε α) (i : Nat) : Pool C L W ε α :=
  match pool.entries[i]? with
  | some ⟨call, past, some (.step label write next)⟩ =>
      ⟨write pool.world, pool.entries.set i
        ⟨call, past ++ [⟨label, pool.world, write pool.world⟩], some (next pool.world)⟩⟩
  | _ => pool

/-- Does a check allow the steps of an order, one by one? -/
def allows (check : Pool C L W ε α → Nat → L → Bool) : Pool C L W ε α → List Nat → Bool
  | _, [] => true
  | pool, i :: order =>
      (match pool.entries[i]? with
        | some ⟨_, _, some (.step label _ _)⟩ => check pool i label
        | _ => true) && (pool.advance i).allows check order

end Pool

section System

variable (code : Nat → C → Code L W ε α) (abort : Nat → W → W)
  (starts : Pool C L W ε α → C → Prop) (admits : Pool C L W ε α → Nat → L → Prop)

/-- The pools that can be reached from a world. A call can start when `starts` allows it, its
steps are made one at a time when `admits` allows them, and between two of them it can crash. -/
inductive Runs (world₀ : W) : Pool C L W ε α → Prop
  | init : Runs world₀ ⟨world₀, []⟩
  | start {pool : Pool C L W ε α} (c : C) : Runs world₀ pool → starts pool c →
      Runs world₀ ⟨pool.world, pool.entries ++ [⟨c, [], some (code pool.entries.length c)⟩]⟩
  | step {pool : Pool C L W ε α} {i : Nat} {c : C} {past : List (Event L W)} {l : L}
      {write : W → W} {next : W → Code L W ε α} : Runs world₀ pool →
      pool.entries[i]? = some ⟨c, past, some (.step l write next)⟩ → admits pool i l →
      Runs world₀ ⟨write pool.world, pool.entries.set i
        ⟨c, past ++ [⟨l, pool.world, write pool.world⟩], some (next pool.world)⟩⟩
  | crash {pool : Pool C L W ε α} {i : Nat} {c : C} {past : List (Event L W)} {l : L}
      {write : W → W} {next : W → Code L W ε α} : Runs world₀ pool →
      pool.entries[i]? = some ⟨c, past, some (.step l write next)⟩ →
      Runs world₀ ⟨abort i pool.world, pool.entries.set i ⟨c, past, none⟩⟩

variable {code abort starts admits}

/-- Steps in an order that a check allows one by one are a run. -/
theorem Runs.schedule (check : Pool C L W ε α → Nat → L → Bool) {world₀ : W}
    {pool : Pool C L W ε α} (hcheck : ∀ pool i l, check pool i l = true → admits pool i l)
    (h : Runs code abort starts admits world₀ pool) {order : List Nat}
    (hallows : pool.allows check order = true) :
    Runs code abort starts admits world₀ (order.foldl Pool.advance pool) := by
  induction order generalizing pool with
  | nil => exact h
  | cons i order ih =>
      obtain ⟨hfirst, hrest⟩ := Bool.and_eq_true_iff.mp hallows
      apply ih _ hrest
      unfold Pool.advance
      split
      · next call past l write next hentry =>
          rw [hentry] at hfirst
          exact h.step hentry (hcheck _ _ _ hfirst)
      · exact h

/-- What is allowed in a run is allowed under a weaker condition. -/
theorem Runs.mono {admits' : Pool C L W ε α → Nat → L → Prop} {world₀ : W}
    {pool : Pool C L W ε α} (hadmits : ∀ pool i l, admits pool i l → admits' pool i l)
    (h : Runs code abort starts admits world₀ pool) :
    Runs code abort starts admits' world₀ pool := by
  induction h with
  | init => exact .init
  | start c _ hstart ih => exact ih.start c hstart
  | step _ hentry hadmit ih => exact ih.step hentry (hadmits _ _ _ hadmit)
  | crash _ hentry ih => exact ih.crash hentry

end System

/-! ## Section 3: Entries after a step -/

/-- An entry of a list in which one was replaced. -/
theorem getElem?_set_cases {γ : Type} {l : List γ} {i j : Nat} {a b : γ}
    (h : (l.set i a)[j]? = some b) : (j = i ∧ b = a) ∨ (j ≠ i ∧ l[j]? = some b) := by
  by_cases hij : i = j
  · subst hij
    have hi : i < l.length := by
      by_contra hlt
      rw [List.getElem?_eq_none (by simpa using hlt)] at h
      cases h
    rw [List.getElem?_set_self hi] at h
    exact .inl ⟨rfl, (Option.some.inj h).symm⟩
  · rw [List.getElem?_set_ne hij] at h
    exact .inr ⟨fun h' => hij h'.symm, h⟩

/-- An entry of a list to which one was added. -/
theorem getElem?_concat_cases {γ : Type} {l : List γ} {j : Nat} {a b : γ}
    (h : (l ++ [a])[j]? = some b) : (j = l.length ∧ b = a) ∨ l[j]? = some b := by
  rcases Nat.lt_or_ge j l.length with hlt | hge
  · rw [List.getElem?_append_left hlt] at h
    exact .inr h
  · rw [List.getElem?_append_right hge] at h
    cases hk : j - l.length with
    | zero =>
        rw [hk] at h
        exact .inl ⟨by omega, (Option.some.inj h).symm⟩
    | succ k =>
        rw [hk] at h
        simp at h

/-- A step or a crash of a call leaves the calls as they are. -/
theorem map_call_set {entries : List (Entry C L W ε α)} {i : Nat} {c : C}
    {past past' : List (Event L W)} {rest rest' : Option (Code L W ε α)}
    (hentry : entries[i]? = some ⟨c, past, rest⟩) :
    (entries.set i ⟨c, past', rest'⟩).map Entry.call = entries.map Entry.call := by
  apply List.ext_getElem?
  intro j
  rw [List.getElem?_map, List.getElem?_map]
  by_cases hij : i = j
  · subst hij
    rw [List.getElem?_set_self (List.getElem?_eq_some_iff.mp hentry).1, hentry]
    rfl
  · rw [List.getElem?_set_ne hij]

/-- A step or a crash of a call leaves a call alone that is over. -/
theorem getElem?_set_of_done {entries : List (Entry C L W ε α)} {i j : Nat} {c : C}
    {past : List (Event L W)} {l : L} {write : W → W} {next : W → Code L W ε α}
    {e e' : Entry C L W ε α} {r : Except ε α}
    (hentry : entries[i]? = some ⟨c, past, some (.step l write next)⟩)
    (hj : entries[j]? = some e) (hdone : e.rest = some (.done r)) :
    (entries.set i e')[j]? = some e := by
  have hne : i ≠ j := by
    rintro rfl
    rw [hentry] at hj
    obtain rfl := Option.some.inj hj
    cases hdone
  rw [List.getElem?_set_ne hne]
  exact hj

namespace Pool

/-- Steps leave the calls as they are. -/
theorem map_call_foldl_advance (pool : Pool C L W ε α) (order : List Nat) :
    (order.foldl advance pool).entries.map Entry.call = pool.entries.map Entry.call := by
  induction order generalizing pool with
  | nil => rfl
  | cons i order ih =>
      show (order.foldl advance (pool.advance i)).entries.map Entry.call = _
      rw [ih]
      unfold advance
      split
      · next hentry => exact map_call_set hentry
      · rfl

theorem exists_of_result {pool : Pool C L W ε α} {i : Nat} {r : Except ε α}
    (h : pool.result i = some r) : ∃ e, pool.entries[i]? = some e ∧ e.rest = some (.done r) := by
  unfold result at h
  split at h
  · next call past result hentry =>
      rw [Option.some.inj h] at hentry
      exact ⟨_, hentry, rfl⟩
  · cases h

/-- Some call made a step with the property `Z`. -/
def Made (pool : Pool C L W ε α) (Z : C → Event L W → Prop) : Prop :=
  ∃ (i : Nat) (e : Entry C L W ε α), pool.entries[i]? = some e ∧ ∃ event ∈ e.past, Z e.call event

variable {pool : Pool C L W ε α} {Z : C → Event L W → Prop} {w : W}

theorem made_start {c : C} {rest : Option (Code L W ε α)} :
    Made ⟨w, pool.entries ++ [⟨c, [], rest⟩]⟩ Z ↔ pool.Made Z := by
  constructor
  · rintro ⟨i, e, he, event, hevent, hZ⟩
    rcases getElem?_concat_cases he with ⟨-, rfl⟩ | he
    · simp at hevent
    · exact ⟨i, e, he, event, hevent, hZ⟩
  · rintro ⟨i, e, he, hevent⟩
    have hi := (List.getElem?_eq_some_iff.mp he).1
    exact ⟨i, e, by rw [List.getElem?_append_left hi]; exact he, hevent⟩

theorem made_step {i : Nat} {c : C} {past : List (Event L W)} {rest rest' : Option (Code L W ε α)}
    {last : Event L W} (hentry : pool.entries[i]? = some ⟨c, past, rest⟩) :
    Made ⟨w, pool.entries.set i ⟨c, past ++ [last], rest'⟩⟩ Z ↔ Z c last ∨ pool.Made Z := by
  have hi : i < pool.entries.length := (List.getElem?_eq_some_iff.mp hentry).1
  constructor
  · rintro ⟨j, e, he, event, hevent, hZ⟩
    rcases getElem?_set_cases he with ⟨rfl, rfl⟩ | ⟨-, he⟩
    · rcases List.mem_append.mp hevent with hevent | hevent
      · exact .inr ⟨j, _, hentry, event, hevent, hZ⟩
      · rw [List.mem_singleton.mp hevent] at hZ
        exact .inl hZ
    · exact .inr ⟨j, e, he, event, hevent, hZ⟩
  · rintro (hlast | ⟨j, e, he, event, hevent, hZ⟩)
    · exact ⟨i, _, List.getElem?_set_self hi, last, by simp, hlast⟩
    · by_cases hij : i = j
      · subst hij
        rw [hentry] at he
        obtain rfl := Option.some.inj he
        exact ⟨i, _, List.getElem?_set_self hi, event, List.mem_append_left _ hevent, hZ⟩
      · exact ⟨j, e, by rw [List.getElem?_set_ne hij]; exact he, event, hevent, hZ⟩

theorem made_crash {i : Nat} {c : C} {past : List (Event L W)}
    {rest rest' : Option (Code L W ε α)} (hentry : pool.entries[i]? = some ⟨c, past, rest⟩) :
    Made ⟨w, pool.entries.set i ⟨c, past, rest'⟩⟩ Z ↔ pool.Made Z := by
  have hi : i < pool.entries.length := (List.getElem?_eq_some_iff.mp hentry).1
  constructor
  · rintro ⟨j, e, he, event, hevent, hZ⟩
    rcases getElem?_set_cases he with ⟨rfl, rfl⟩ | ⟨-, he⟩
    · exact ⟨j, _, hentry, event, hevent, hZ⟩
    · exact ⟨j, e, he, event, hevent, hZ⟩
  · rintro ⟨j, e, he, event, hevent, hZ⟩
    by_cases hij : i = j
    · subst hij
      rw [hentry] at he
      obtain rfl := Option.some.inj he
      exact ⟨i, _, List.getElem?_set_self hi, event, hevent, hZ⟩
    · exact ⟨j, e, by rw [List.getElem?_set_ne hij]; exact he, event, hevent, hZ⟩

end Pool

/-! ## Section 4: Secure programs -/

/-- What is left of a call meets its guarantee: at each of its steps, in whatever world the steps
it relies on have led to, the step meets `G`; and the call ends with `Q`. -/
def Secure (R : List (Event L W) → Option L → W → W → Prop) (Inv : W → Prop)
    (G : Event L W → Prop) (Q : List (Event L W) → Except ε α → W → Prop) :
    List (Event L W) → Code L W ε α → W → Prop
  | past, .done result, w => Q past result w
  | past, .step label write next, w =>
      ∀ w', ReflTransGen (R past (some label)) w w' → Inv w' →
        G ⟨label, w', write w'⟩ ∧
          Secure R Inv G Q (past ++ [⟨label, w', write w'⟩]) (next w') (write w')

/-- What a step keeps, any number of steps keep. -/
theorem star_keeps {R : W → W → Prop} {P : W → Prop} (hstep : ∀ w w', R w w' → P w → P w')
    {w w' : W} (h : ReflTransGen R w w') (hw : P w) : P w' := by
  induction h with
  | refl => exact hw
  | tail _ hlast ih => exact hstep _ _ hlast ih

section Rules

variable {R : List (Event L W) → Option L → W → W → Prop} {Inv : W → Prop}
  {G : Event L W → Prop} {Q : List (Event L W) → Except ε α → W → Prop}

theorem Secure.mono {Q' : List (Event L W) → Except ε α → W → Prop}
    (hQ : ∀ past r w, Q past r w → Q' past r w) {p : Code L W ε α} {past : List (Event L W)}
    {w : W} (h : Secure R Inv G Q past p w) : Secure R Inv G Q' past p w := by
  induction p generalizing past w with
  | done result => exact hQ _ _ _ h
  | step label write next ih =>
      intro w' hrely hinv
      obtain ⟨hG, hnext⟩ := h w' hrely hinv
      exact ⟨hG, ih w' hnext⟩

/-- **A sequence is secure** if its first part is, and its rest is on every result of it. -/
theorem Secure.andThen {Q' : List (Event L W) → Except ε β → W → Prop}
    {f : Except ε α → Code L W ε β} {p : Code L W ε α} {past : List (Event L W)} {w : W}
    (hp : Secure R Inv G Q past p w)
    (hf : ∀ past' r w', Q past' r w' → Secure R Inv G Q' past' (f r) w') :
    Secure R Inv G Q' past (p.andThen f) w := by
  induction p generalizing past w with
  | done result => exact hf _ _ _ hp
  | step label write next ih =>
      intro w' hrely hinv
      obtain ⟨hG, hnext⟩ := hp w' hrely hinv
      exact ⟨hG, ih w' hnext⟩

theorem Secure.bind {Q' : List (Event L W) → Except ε β → W → Prop} {f : α → Code L W ε β}
    {p : Code L W ε α} {past : List (Event L W)} {w : W} (hp : Secure R Inv G Q past p w)
    (hok : ∀ past' a w', Q past' (.ok a) w' → Secure R Inv G Q' past' (f a) w')
    (herror : ∀ past' e w', Q past' (.error e) w' → Q' past' (.error e) w') :
    Secure R Inv G Q' past (p >>= f) w := by
  apply hp.andThen
  intro past' r w' hr
  cases r with
  | ok a => exact hok past' a w' hr
  | error e => exact herror past' e w' hr

/-- **Frame.** What neither the steps of the call nor those it relies on end still holds in the
end. -/
theorem Secure.frame {F : W → Prop} (hrely : ∀ past l v v', R past l v v' → F v → F v')
    (hown : ∀ event : Event L W, G event → F event.before → F event.after) {p : Code L W ε α}
    {past : List (Event L W)} {w : W} (h : Secure R Inv G Q past p w) (hF : F w) :
    Secure R Inv G (fun past r w => Q past r w ∧ F w) past p w := by
  induction p generalizing past w with
  | done result => exact ⟨h, hF⟩
  | step label write next ih =>
      intro w' hstar hinv
      obtain ⟨hG, hnext⟩ := h w' hstar hinv
      have hF' := star_keeps (hrely past (some label)) hstar hF
      exact ⟨hG, ih w' hnext (hown _ hG hF')⟩

/-- What a rely allows between two steps does not hurt a program that is secure. -/
theorem Secure.later {p : Code L W ε α} {past : List (Event L W)} {w w' : W}
    (hQ : ∀ past r v v', Q past r v → Q past r v') (h : Secure R Inv G Q past p w)
    (hrely : ∀ l, p.label? = some l → R past (some l) w w') : Secure R Inv G Q past p w' := by
  cases p with
  | done result => exact hQ _ _ _ _ h
  | step label write next => exact fun v hv hinv => h v (.head (hrely label rfl) hv) hinv

end Rules

/-! ## Section 5: Soundness -/

section Soundness

variable {code : Nat → C → Code L W ε α} {abort : Nat → W → W}
  {starts : Pool C L W ε α → C → Prop} {admits : Pool C L W ε α → Nat → L → Prop} {world₀ : W}

/-- The facts about each call, which a set of calls running at once has to satisfy. `Fresh` is
what a call may assume of a number that was not used before. -/
structure Calls (code : Nat → C → Code L W ε α) (abort : Nat → W → W)
    (starts : Pool C L W ε α → C → Prop) (admits : Pool C L W ε α → Nat → L → Prop) (world₀ : W)
    (Inv : W → Prop) (Fresh : Nat → W → Prop) (G : Nat → C → Event L W → Prop)
    (R : Nat → C → List (Event L W) → Option L → W → W → Prop)
    (Q : Nat → C → List (Event L W) → Except ε α → Prop) : Prop where
  init : Inv world₀
  keeps : ∀ {i c l w w'}, Inv w → G i c ⟨l, w, w'⟩ → Inv w'
  aborts : ∀ {i w}, Inv w → Inv (abort i w)
  freshInit : ∀ i, Fresh i world₀
  freshKeeps : ∀ {i j c l w w'}, j ≠ i → Fresh i w → G j c ⟨l, w, w'⟩ → Fresh i w'
  freshAborts : ∀ {i j w}, j ≠ i → Fresh i w → Fresh i (abort j w)
  secure : ∀ i c w, Inv w → Fresh i w →
    Secure (R i c) Inv (G i c) (fun past r _ => Q i c past r) [] (code i c) w
  rely : ∀ {pool : Pool C L W ε α} {i j : Nat} {c c' : C} {past past' : List (Event L W)}
    {l l' : L} {write : W → W} {next : W → Code L W ε α} {rest : Code L W ε α},
    Runs code abort starts admits world₀ pool → i ≠ j →
    pool.entries[i]? = some ⟨c, past, some (.step l write next)⟩ → admits pool i l →
    G i c ⟨l, pool.world, write pool.world⟩ → pool.entries[j]? = some ⟨c', past', some rest⟩ →
    rest.label? = some l' → R j c' past' (some l') pool.world (write pool.world)
  relyAbort : ∀ {i j : Nat} {c : C} {past : List (Event L W)} {l : Option L} {w : W}, i ≠ j →
    R j c past l w (abort i w)

variable {Inv : W → Prop} {Fresh : Nat → W → Prop} {G : Nat → C → Event L W → Prop}
  {R : Nat → C → List (Event L W) → Option L → W → W → Prop}
  {Q : Nat → C → List (Event L W) → Except ε α → Prop}

/-- **Soundness.** In every pool reached the invariant holds, every step made met its guarantee,
every call that did not crash is secure, so that a call that is over ended with `Q`, and the
numbers not used yet are fresh. -/
theorem Runs.secure (hcalls : Calls code abort starts admits world₀ Inv Fresh G R Q)
    {pool : Pool C L W ε α} (h : Runs code abort starts admits world₀ pool) :
    Inv pool.world ∧ (∀ i, pool.entries.length ≤ i → Fresh i pool.world) ∧
      ∀ i e, pool.entries[i]? = some e → (∀ event ∈ e.past, G i e.call event) ∧
        ∀ rest, e.rest = some rest →
          Secure (R i e.call) Inv (G i e.call) (fun past r _ => Q i e.call past r) e.past rest
            pool.world := by
  induction h with
  | init => exact ⟨hcalls.init, fun i _ => hcalls.freshInit i, by simp⟩
  | @start pool c _ _ ih =>
      obtain ⟨hinv, hfresh, hentries⟩ := ih
      refine ⟨hinv, fun i hi => hfresh i (by simp at hi; omega), fun i e he => ?_⟩
      rcases getElem?_concat_cases he with ⟨rfl, rfl⟩ | he
      · refine ⟨by simp, fun rest hrest => ?_⟩
        obtain rfl := Option.some.inj hrest
        exact hcalls.secure _ c _ hinv (hfresh _ (Nat.le_refl _))
      · exact hentries i e he
  | @step pool i c past l write next hruns hentry hadmit ih =>
      obtain ⟨hinv, hfresh, hentries⟩ := ih
      obtain ⟨hpast, hrest⟩ := hentries i _ hentry
      obtain ⟨hG, hnext⟩ := hrest _ rfl pool.world .refl hinv
      have hi : i < pool.entries.length := (List.getElem?_eq_some_iff.mp hentry).1
      refine ⟨hcalls.keeps hinv hG, fun j hj => ?_, fun j e he => ?_⟩
      · rw [List.length_set] at hj
        exact hcalls.freshKeeps (by omega) (hfresh j hj) hG
      rcases getElem?_set_cases he with ⟨rfl, rfl⟩ | ⟨hne, he⟩
      · refine ⟨fun event hevent => ?_, fun rest heq => ?_⟩
        · rcases List.mem_append.mp hevent with hevent | hevent
          · exact hpast event hevent
          · rw [List.mem_singleton.mp hevent]
            exact hG
        · obtain rfl := Option.some.inj heq
          exact hnext
      · -- another call sees one more step that it relies on
        obtain ⟨hpast', hsecure⟩ := hentries j e he
        refine ⟨hpast', fun rest heq => ?_⟩
        apply (hsecure rest heq).later (fun _ _ _ _ hq => hq)
        obtain ⟨c', past', rest'⟩ := e
        obtain rfl : rest' = some rest := heq
        exact fun l' hl' => hcalls.rely hruns (fun hij => hne hij.symm) hentry hadmit hG he hl'
  | @crash pool i c past l write next _ hentry ih =>
      obtain ⟨hinv, hfresh, hentries⟩ := ih
      have hi : i < pool.entries.length := (List.getElem?_eq_some_iff.mp hentry).1
      refine ⟨hcalls.aborts hinv, fun j hj => ?_, fun j e he => ?_⟩
      · rw [List.length_set] at hj
        exact hcalls.freshAborts (by omega) (hfresh j hj)
      rcases getElem?_set_cases he with ⟨rfl, rfl⟩ | ⟨hne, he⟩
      · exact ⟨(hentries _ _ hentry).1, fun rest heq => by cases heq⟩
      · obtain ⟨hpast', hsecure⟩ := hentries j e he
        refine ⟨hpast', fun rest heq => ?_⟩
        apply (hsecure rest heq).later (fun _ _ _ _ hq => hq)
        exact fun _ _ => hcalls.relyAbort (fun hij => hne hij.symm)

/-- A call that is over ended with `Q`. -/
theorem Runs.result (hcalls : Calls code abort starts admits world₀ Inv Fresh G R Q)
    {pool : Pool C L W ε α} (h : Runs code abort starts admits world₀ pool) {i : Nat}
    {e : Entry C L W ε α} {r : Except ε α} (he : pool.entries[i]? = some e)
    (hr : e.rest = some (.done r)) : Q i e.call e.past r :=
  ((h.secure hcalls).2.2 i e he).2 _ hr

/-- **What held once holds, or a recorded step ended it.** -/
theorem Runs.blame {P : W → Prop} (habort : ∀ i w, P w → P (abort i w)) {pool : Pool C L W ε α}
    (h : Runs code abort starts admits world₀ pool)
    (hseen : P world₀ ∨ pool.Made (fun _ event => P event.after)) :
    P pool.world ∨ pool.Made (fun _ event => P event.before ∧ ¬ P event.after) := by
  induction h with
  | init =>
      rcases hseen with hinit | ⟨i, e, he, -⟩
      · exact .inl hinit
      · simp at he
  | start c _ _ ih =>
      rcases ih (hseen.imp_right Pool.made_start.mp) with hP | hended
      · exact .inl hP
      · exact .inr (Pool.made_start.mpr hended)
  | @step pool i c past l write next _ hentry _ ih =>
      by_cases hafter : P (write pool.world)
      · exact .inl hafter
      · have hseen' : P world₀ ∨ pool.Made (fun _ event => P event.after) := by
          rcases hseen with hinit | hmade
          · exact .inl hinit
          · rcases (Pool.made_step hentry).mp hmade with hlast | hmade
            · exact absurd hlast hafter
            · exact .inr hmade
        rcases ih hseen' with hbefore | hended
        · exact .inr ((Pool.made_step hentry).mpr (.inl ⟨hbefore, hafter⟩))
        · exact .inr ((Pool.made_step hentry).mpr (.inr hended))
  | crash _ hentry ih =>
      rcases ih (hseen.imp_right (Pool.made_crash hentry).mp) with hP | hended
      · exact .inl (habort _ _ hP)
      · exact .inr ((Pool.made_crash hentry).mpr hended)

end Soundness

end RelyGuarantee
