import Acgps.Store.ControlStore
import Mathlib.Algebra.GroupWithZero.Nat

/-!
# Records that fit

The fields of a task state and of a creation event have bounded lengths, so the limits on the text
of a record can only refuse an event for what it embeds.

## Key Theorems

* `WorkflowTaskState.fits` - **every state of the first generation fits**
* `AuditEvent.IsCreation.fits` - so does every creation event
-/

namespace Acgps

/-! ## Section 1: Values made of fields -/

namespace Json

theorem width_str (s : String) : (Json.str s).width = strWidth s := rfl

theorem width_int_one : (Json.int 1).width ≤ 2000 := by decide

@[simp] theorem nesting_str (s : String) : (Json.str s).nesting = 0 := rfl

@[simp] theorem nesting_int (n : Int) : (Json.int n).nesting = 0 := rfl

theorem width_ofOption_le {α : Type} {f : α → Json} {k : Nat} (hk : 4 ≤ k)
    (hf : ∀ a, (f a).width ≤ k) (x : Option α) : (Json.ofOption f x).width ≤ k := by
  cases x with
  | none => exact hk
  | some a => exact hf a

theorem nesting_ofOption_eq_zero {α : Type} {f : α → Json} (hf : ∀ a, (f a).nesting = 0)
    (x : Option α) : (Json.ofOption f x).nesting = 0 := by
  cases x with
  | none => rfl
  | some a => exact hf a

end Json

/-- An object with short keys is as wide as the bounds on its values. -/
theorem Mapping.width_le {data : Mapping} (fields : List String) (bounds : List Nat)
    (hkeys : data.keys = fields) (hshort : ∀ key ∈ fields, strWidth key ≤ 500)
    (hvalues : List.Forall₂ (fun entry bound => entry.2.width ≤ bound) data.entries bounds) :
    data.toJson.width ≤ fields.length * 502 + bounds.sum + 2 := by
  obtain ⟨entries, hsorted⟩ := data
  subst hkeys
  have h : ∀ {l : List (String × Json)} {bounds : List Nat},
      List.Forall₂ (fun entry bound => entry.2.width ≤ bound) l bounds →
      (∀ key ∈ l.map Prod.fst, strWidth key ≤ 500) →
      Json.widthMembers l ≤ l.length * 502 + bounds.sum := by
    intro l bounds hl
    induction hl with
    | nil => simp [Json.widthMembers]
    | @cons entry bound rest bounds hvalue _ ih =>
        intro hkeys
        have hkey := hkeys entry.1 (by simp)
        have hrest := ih (fun key hmem => hkeys key (by simp [hmem]))
        simp only [Json.widthMembers, List.length_cons, List.sum_cons, Nat.succ_mul]
        omega
  have hmembers : Json.widthMembers entries ≤ entries.length * 502 + bounds.sum :=
    h hvalues hshort
  simp only [Mapping.toJson, Json.width, Mapping.keys, List.length_map]
  omega

/-- An object whose values are not deep. -/
theorem Mapping.nesting_le {data : Mapping} {k : Nat}
    (hvalues : ∀ entry ∈ data.entries, entry.2.nesting ≤ k) : data.toJson.nesting ≤ k + 1 := by
  obtain ⟨entries, hsorted⟩ := data
  have h : ∀ l : List (String × Json), (∀ entry ∈ l, entry.2.nesting ≤ k) →
      Json.nestingMembers l ≤ k := by
    intro l
    induction l with
    | nil => simp [Json.nestingMembers]
    | cons entry rest ih =>
        intro hvalues
        exact max_le (hvalues entry (by simp)) (ih (fun entry hmem => hvalues entry (by simp [hmem])))
  simpa [Mapping.toJson, Json.nesting] using h entries hvalues

/-! ## Section 2: Fields -/

theorem width_safeId (id : SafeId) : (Json.str id.val).width ≤ 2000 := by
  have h := id.property
  unfold isSafeId at h
  rw [Json.width_str, strWidth]
  split at h
  · exact absurd h (by simp)
  next c rest hlist =>
    simp only [Bool.and_eq_true, decide_eq_true_eq] at h
    rw [hlist, List.length_cons]
    omega

theorem width_sha (hash : Sha256Hex) : (Json.str hash.val).width ≤ 2000 := by
  have h := hash.property
  simp only [isSha256, Bool.and_eq_true, decide_eq_true_eq] at h
  rw [Json.width_str, strWidth, h.1]
  decide

private theorem length_of_matchesTemplate {digit : Char → Bool} :
    ∀ {template cs : List Char}, matchesTemplate digit template cs = true →
      cs.length = template.length
  | [], [], _ => rfl
  | [], _ :: _, h => by simp [matchesTemplate] at h
  | _ :: _, [], h => by simp [matchesTemplate] at h
  | _ :: template, _ :: cs, h => by
      simp only [matchesTemplate, Bool.and_eq_true] at h
      rw [List.length_cons, List.length_cons, length_of_matchesTemplate h.2]

theorem width_utc (t : Utc) : (Json.str t.val).width ≤ 2000 := by
  have h := t.property
  simp only [isUtc, Bool.and_eq_true] at h
  have hlength : utcTemplate.length = 20 := by decide
  rw [Json.width_str, strWidth, length_of_matchesTemplate h.1, hlength]
  decide

theorem width_taskState (s : TaskState) : s.toJson.width ≤ 2000 := by
  cases s <;> decide +kernel

theorem width_eventType (t : EventType) : t.toJson.width ≤ 2000 := by
  cases t <;> decide +kernel

theorem width_actor (a : Actor) : a.toJson.width ≤ 2000 := by
  cases a <;> decide +kernel

theorem width_optionalId (id : Option SafeId) : (Json.ofOption testedJson id).width ≤ 2000 :=
  Json.width_ofOption_le (by decide) width_safeId id

theorem width_optionalState (s : Option TaskState) :
    (Json.ofOption TaskState.toJson s).width ≤ 2000 :=
  Json.width_ofOption_le (by decide) width_taskState s

/-! ## Section 3: States and creations -/

/-- **Every state of the first generation fits.** -/
theorem WorkflowTaskState.fits {s : WorkflowTaskState} (hgeneration : s.auditGeneration.val = 1) :
    FitsSqlite s.toJson := by
  have hdeep : ∀ id : Option SafeId, (Json.ofOption testedJson id).nesting = 0 :=
    Json.nesting_ofOption_eq_zero (fun _ => rfl)
  have hprevious : (Json.ofOption TaskState.toJson s.previousState).nesting = 0 :=
    Json.nesting_ofOption_eq_zero (fun _ => rfl) _
  refine .of_le ?_ ?_
  · refine (Mapping.width_le taskStateFields (List.replicate 12 2000) rfl
      (by decide +kernel) ?_).trans (by decide)
    simp [toMapping, hgeneration, width_safeId, width_sha, width_utc, width_taskState,
      width_optionalId, width_optionalState, Json.width_int_one]
  · refine (Mapping.nesting_le (k := 0) ?_).trans (by decide)
    simp [toMapping, hdeep, hprevious, TaskState.toJson]

/-- The size and the depth of the record of a first generation. -/
theorem AuditGeneration.width_of_first {g : AuditGeneration} (hvalid : g.Valid)
    (hgeneration : g.generation.val = 1) : g.toJson.width ≤ 26000 ∧ g.toJson.nesting ≤ 1 := by
  obtain ⟨hstarted, hpredecessor, hhash, hpath⟩ := hvalid.first hgeneration
  have hnull : Json.null.width ≤ 2000 := by decide
  have hmodel : (Json.str threatModel).width ≤ 2000 := by decide +kernel
  refine ⟨?_, ?_⟩
  · refine (Mapping.width_le auditGenerationFields
      (List.replicate 10 2000) rfl (by decide +kernel) ?_).trans (by decide)
    simp [toMapping, hgeneration, hpredecessor, hhash, hpath, width_safeId, width_utc,
      width_eventType, Json.width_int_one, hnull, hmodel]
  · refine Mapping.nesting_le (k := 0) ?_
    simp [toMapping, hpredecessor, hhash, hpath, EventType.toJson, Json.nesting]

variable [Digest]

/-- **Every creation event fits.** -/
theorem AuditEvent.IsCreation.fits {e : AuditEvent} {g : AuditGeneration} (h : e.IsCreation g)
    (hprevious : e.previousEventHash = none) : FitsSqlite e.toJson := by
  have hgeneration : g.generation.val = 1 := by
    rw [h.startedBy.generation]
    exact h.generation
  obtain ⟨hwidth, hnesting⟩ := AuditGeneration.width_of_first h.startedBy.valid hgeneration
  have hnull : Json.null.width ≤ 2000 := by decide
  have hempty : (Json.arr []).width ≤ 2000 := by decide
  have hdetails : (creationDetails g).toJson.width ≤ 26504
      ∧ (creationDetails g).toJson.nesting ≤ 2 := by
    refine ⟨?_, Mapping.nesting_le (k := 1) (by simpa [creationDetails] using hnesting)⟩
    exact (Mapping.width_le ["audit_generation"] ([26000]) rfl (by decide +kernel)
      (by simpa [creationDetails] using hwidth)).trans (by decide)
  refine .of_le ?_ ?_
  · refine (Mapping.width_le auditEventFields
      (List.replicate 3 2000 ++ 26504 :: List.replicate 14 2000) rfl (by decide +kernel)
      ?_).trans (by decide)
    simp [toMapping, withHash, h.sequence, h.generation, h.noTransition.fromState,
      h.noTransition.toState, h.noTransition.transitionId, h.noTransition.policy,
      h.noTransition.decision, h.noTransition.evidence, hprevious, h.details, evidenceListJson,
      width_safeId, width_sha, width_utc, width_actor, width_eventType, Json.width_int_one, hnull,
      hempty, hdetails.1]
  · refine (Mapping.nesting_le (k := 2) ?_).trans (by decide)
    simp [toMapping, withHash, h.noTransition.fromState, h.noTransition.toState,
      h.noTransition.transitionId, h.noTransition.policy, h.noTransition.decision,
      h.noTransition.evidence, hprevious, h.details, evidenceListJson, EventType.toJson,
      Actor.toJson, Json.nesting, Json.nestingItems, hdetails.2]

end Acgps
