import Acgps.Coding.Builders
import Acgps.Coding.SlotPhases
import Acgps.Contracts.ClosedTables

/-!
# Publication of a finished attempt

An attempt goes through three components: the store reserves it, the builder makes the record of
it, and the store publishes the record. The record that the builder returns for a reservation is
one that the store takes, so that every attempt that can be recorded frees its reservation.

## Main Definitions

* `Reserved` - a slot behind a reservation
* `FreshRecord` - a record of its own, for the gate

## Key Theorems

* `AcceptedCodingRecord.alike` - an accepted record has no floats
* `built_record_published` - **the store publishes what the builder returns for a reservation**
-/

namespace Acgps

open Checked

variable [Platform]

/-! ## Section 1: Accepted records have no floats -/

omit [Platform] in
theorem codingExecutionFields_closed :
    (FieldTable.ofList codingExecutionFields).isClosed (fun _ => true) = true := by decide

/-- An accepted record has no floats. -/
theorem AcceptedCodingRecord.alike {data : Mapping} (h : AcceptedCodingRecord data) :
    data.toJson.alike data.toJson = true :=
  Json.alike_of_isPlain (plain_of_validateFields codingExecutionFields_closed h.fields)

/-! ## Section 2: Reservations -/

/-- The slot behind a reservation. -/
def reservedSlot (s reservation : Mapping) : Mapping :=
  (s.set "remaining_attempts" (reservation.get "remaining_after")).set "reserved_attempt"
    reservation.toJson

/-- What the check of a slot has seen of its parts, its reservation and its records apart. -/
structure CheckedParts (gateId : String) (s : Mapping) : Prop where
  identity : checkSlotIdentity s gateId = .ok ()
  budget : checkSlotBudget s = .ok ()
  active : checkActiveCandidate s = .ok ()
  historical : ∃ ids, (s.get "historical_candidate_ids").asStrings = some ids ∧
    checkHistoricalCandidates s = .ok ids

omit [Platform] in
/-- What the check of the retired candidates returns. -/
theorem asStrings_of_checkHistoricalCandidates {s : Mapping} {ids : List String}
    (h : checkHistoricalCandidates s = .ok ids) :
    (s.get "historical_candidate_ids").asStrings = some ids := by
  simp only [checkHistoricalCandidates, bind_eq_ok, checkWhen_eq_ok, require_eq_ok, exists_const,
    expect_eq_ok, pure_eq_ok] at h
  obtain ⟨historical, hids, -, -, -, -, -, -, rfl⟩ := h
  exact hids

theorem checkedParts_of_validate {s : Mapping} {gateId : String}
    (h : validateCodingExecutionState s.toJson gateId = .ok s) : CheckedParts gateId s := by
  simp only [validateCodingExecutionState, requireSlotMapping, bind_eq_ok, expect_eq_ok,
    Mapping.asMapping_toJson, Option.some.injEq, exists_eq_left', pure_eq_ok] at h
  obtain ⟨_, hidentity, _, hbudget, _, hactive, ids, hhistorical, -⟩ := h
  exact ⟨hidentity, hbudget, hactive, ids, asStrings_of_checkHistoricalCandidates hhistorical,
    hhistorical⟩

/-- A reservation that was granted for a slot, and the slot behind it. -/
structure Reserved (gateId : String) (s reservation : Mapping) : Prop where
  before : ValidSlot gateId s
  free : s.get "reserved_attempt" = .null
  checked : validateCodingExecutionState (reservedSlot s reservation).toJson gateId
    = .ok (reservedSlot s reservation)

namespace Reserved

variable {gateId : String} {s reservation : Mapping}

theorem valid (h : Reserved gateId s reservation) : ValidSlot gateId (reservedSlot s reservation) :=
  (validSlot_of_validate h.checked).2

/-- What the reservation leaves alone. -/
theorem get_of_ne (h : Reserved gateId s reservation) {field : String}
    (hbudget : field ≠ "remaining_attempts") (hreserved : field ≠ "reserved_attempt") :
    (reservedSlot s reservation).get field = s.get field := by
  rw [reservedSlot, (h.before.keys.set _ _).get_set (by decide), if_neg hreserved,
    h.before.keys.get_set (by decide), if_neg hbudget]

theorem reserved_eq (h : Reserved gateId s reservation) :
    (reservedSlot s reservation).get "reserved_attempt" = reservation.toJson := by
  rw [reservedSlot, (h.before.keys.set _ _).get_set (by decide), if_pos rfl]

theorem records_eq (h : Reserved gateId s reservation) :
    slotRecords (reservedSlot s reservation) = slotRecords s :=
  slotRecords_eq_of_get (h.get_of_ne (by decide) (by decide))

end Reserved

/-! ## Section 3: What the store asks of a record -/

/-- A record of a reserved attempt, for a slot. -/
structure AttemptRecord (s reservation record : Mapping) : Prop where
  accepted : AcceptedCodingRecord record
  attempted : record.get "outcome" ≠ .str "PRELAUNCH_HOLD"
  gate : record.get "gate_id" = s.get "gate_id"
  task : record.get "task_id" = s.get "task_id"
  reserved : ∀ field ∈ reservationFieldNames,
    recordField record "attempt" field = reservation.get field
  number : reservation.get "number" ≠ .null
  before : recordField record "slot" "state_before" = s.get "state" ∧
    recordField record "slot" "active_candidate_before" = s.get "active_candidate_id" ∧
    recordField record "slot" "historical_candidate_ids" = s.get "historical_candidate_ids"
  after : if record.get "outcome" = .str "CANDIDATE_READY" then
      recordField record "slot" "state_after"
          = .str (frozenReviewState (recordField record "candidate" "version")) ∧
        recordField record "slot" "active_candidate_after"
          = recordField record "candidate" "candidate_id"
    else recordField record "slot" "state_after" = s.get "state" ∧
      recordField record "slot" "active_candidate_after" = s.get "active_candidate_id"
  version : record.get "outcome" = .str "CANDIDATE_READY" →
    recordField record "candidate" "version" = .int 1 ∨
      recordField record "candidate" "version" = .int 2

/-- A record of its own, for the gate: its execution and its candidate are new, and it is bound as
the gate is. -/
structure FreshRecord (s record : Mapping) : Prop where
  execution : ∀ other ∈ slotRecords s, other.field "execution_id" ≠ record.get "execution_id"
  binding : s.get "gate_binding" = .null ∨
    s.get "gate_binding" = (codingExecutionRecordBinding record.toJson).toJson
  candidate : record.get "outcome" = .str "CANDIDATE_READY" → ∃ candidateId,
    isSafeId candidateId = true ∧ recordField record "candidate" "candidate_id" = .str candidateId ∧
      .str candidateId ∉ candidateIds (slotRecords s)

/-- The slot, the candidate and the outcome of an attempt without a candidate. -/
theorem FinishedAttempt.parts_of_held {a : FinishedAttempt} {c : PreflightContext}
    (h : ¬ a.promotable c = true) (evaluation : PreflightEvaluation) (checkedAtUtc : String) :
    (a.parts c evaluation checkedAtUtc).slot
        = recordSlot c (c.slot.get "state") (c.slot.get "active_candidate_id") ∧
      (a.parts c evaluation checkedAtUtc).candidate = noCandidate ∧
      (a.parts c evaluation checkedAtUtc).outcome ∈ ["ATTEMPT_FAILED", "ATTEMPT_HOLD"] := by
  simp only [parts, if_neg h]
  refine ⟨trivial, trivial, ?_⟩
  split <;> simp

/-- The slot, the candidate and the outcome of an attempt with a candidate. -/
theorem FinishedAttempt.parts_of_promotable {a : FinishedAttempt} {c : PreflightContext}
    (h : a.promotable c = true) (evaluation : PreflightEvaluation) (checkedAtUtc : String) :
    (a.parts c evaluation checkedAtUtc).slot
        = recordSlot c (.str (frozenReviewState (.int a.version))) (.str a.candidateId) ∧
      (a.parts c evaluation checkedAtUtc).candidate = a.candidate ∧
      (a.parts c evaluation checkedAtUtc).outcome = "CANDIDATE_READY" := by
  simp only [parts, h, if_true]
  exact ⟨trivial, trivial, trivial⟩

/-- The fields of a slot that the record of an attempt changes. -/
def publishedFields : List String :=
  ["active_candidate_id", "gate_binding", "records", "reserved_attempt", "state"]

/-- The slot behind the record of an attempt, with what stays and with the binding. -/
structure PublishedSlot (s s' : Mapping) (record : Json) : Prop where
  keys : SlotKeys s'
  same : ∀ field ∉ publishedFields, s'.get field = s.get field
  binding : s'.get "gate_binding" = (codingExecutionRecordBinding record).toJson
  records : s'.get "records" = .arr (slotRecords s')
  finished : FinishedSlot s s' record

/-- **The store takes the record of a reserved attempt**, up to the check of the slot that it makes
of it. -/
theorem AttemptRecord.publishedSlot {gateId : String} {s reservation record : Mapping}
    (h : AttemptRecord s reservation record) (hreserved : Reserved gateId s reservation)
    (hfresh : FreshRecord s record) :
    ∃ s', slotWithRecord (reservedSlot s reservation) record.toJson = .ok s' ∧
      PublishedSlot (reservedSlot s reservation) s' record.toJson := by
  have halike := h.accepted.alike
  have hkeys := hreserved.valid.keys
  have hnotHeld : record.toJson.field "outcome" ≠ .str "PRELAUNCH_HOLD" := by
    rw [Json.field_toJson]
    exact h.attempted
  -- the binding is that of the record, whether it is set now or was before
  obtain ⟨bound, hbound, hbinding⟩ : ∃ bound,
      bindGate (reservedSlot s reservation) record.toJson = .ok bound ∧
        bound.get "gate_binding" = (codingExecutionRecordBinding record.toJson).toJson := by
    have hsame : (reservedSlot s reservation).get "gate_binding" = s.get "gate_binding" :=
      hreserved.get_of_ne (by decide) (by decide)
    rw [bindGate, if_neg hnotHeld]
    by_cases hnull : (reservedSlot s reservation).get "gate_binding" = .null
    · refine ⟨_, if_pos hnull, ?_⟩
      rw [hkeys.get_set (by decide), if_pos rfl]
    · have hold := hfresh.binding.resolve_left (by rwa [← hsame])
      refine ⟨_, ?_, hsame.trans hold⟩
      rw [if_neg hnull, hsame, hold]
      simp [Json.pyEq_self (codingExecutionRecordBinding_alike halike)]
  obtain ⟨hboundKeys, hboundSame, -⟩ := bindGate_eq_ok hkeys hbound
  have hboundGet : ∀ field, field ≠ "gate_binding" → field ≠ "remaining_attempts" →
      field ≠ "reserved_attempt" → bound.get field = s.get field := by
    intro field hne hne' hne''
    rw [hboundSame _ hne, hreserved.get_of_ne hne' hne'']
  have htaken : requireReserved bound record.toJson = .ok () := by
    simp only [requireReserved, bind_eq_ok, expect_eq_ok, Mapping.asMapping_eq_some, forM_eq_ok_iff,
      require_eq_ok, Json.field_toJson]
    refine ⟨reservation, (hboundSame _ (by decide)).trans hreserved.reserved_eq, (), ?_, ?_⟩
    · intro field hfield
      rw [← h.reserved field hfield, recordField, ← Json.field_toJson record]
      exact Json.pyEq_self (Json.alike_field (Json.alike_field halike _) _)
    · rw [hboundGet _ (by decide) (by decide) (by decide),
        hboundGet _ (by decide) (by decide) (by decide),
        hboundGet _ (by decide) (by decide) (by decide)]
      exact h.before
  obtain ⟨installed, hinstalled⟩ : ∃ installed,
      installOutcome bound record.toJson = .ok installed := by
    have hafter := h.after
    simp only [installOutcome, Json.field_toJson]
    split
    next hready =>
      rw [if_pos hready] at hafter
      exact ⟨_, by simp only [bind_eq_ok, require_eq_ok]; exact ⟨(), hafter, rfl⟩⟩
    next hready =>
      rw [if_neg hready, ← hboundGet _ (by decide) (by decide) (by decide),
        ← hboundGet "active_candidate_id" (by decide) (by decide) (by decide)] at hafter
      exact ⟨_, by simp only [bind_eq_ok, require_eq_ok]; exact ⟨(), hafter, rfl⟩⟩
  have hpublished : slotWithRecord (reservedSlot s reservation) record.toJson
      = .ok (appendRecord (installed.set "reserved_attempt" .null) record.toJson) := by
    simp only [slotWithRecord, bind_eq_ok, if_neg hnotHeld]
    exact ⟨bound, hbound, (), htaken, installed, hinstalled, rfl⟩
  obtain ⟨hinstalledKeys, hinstalledSame, -⟩ := installOutcome_eq_ok hboundKeys hinstalled
  have hlast := hinstalledKeys.set "reserved_attempt" .null
  have hget : ∀ field, field ≠ "records" → field ≠ "reserved_attempt" → field ≠ "state" →
      field ≠ "active_candidate_id" →
      (appendRecord (installed.set "reserved_attempt" .null) record.toJson).get field
        = bound.get field := by
    intro field hrecords hreservedField hstate hactive
    rw [get_appendRecord hlast _ hrecords, hinstalledKeys.get_set (by decide),
      if_neg hreservedField, hinstalledSame _ hstate hactive]
  refine ⟨_, hpublished, hlast.set _ _, ?_, ?_, ?_, finishedSlot hkeys hbound hinstalled⟩
  · intro field hfield
    simp only [publishedFields, List.mem_cons, List.not_mem_nil, or_false, not_or] at hfield
    rw [hget _ hfield.2.2.1 hfield.2.2.2.1 hfield.2.2.2.2 hfield.1, hboundSame _ hfield.2.1]
  · rw [hget _ (by decide) (by decide) (by decide) (by decide), hbinding]
  · rw [slotRecords, appendRecord, hlast.get_set (by decide), if_pos rfl]
    rfl

/-- What the record of an attempt does to the state and to the active candidate. -/
inductive CandidateMove (s s' : Mapping) (record : Mapping) : Prop
  | kept (hnone : record.get "outcome" ≠ .str "CANDIDATE_READY")
      (hstate : s'.get "state" = s.get "state")
      (hactive : s'.get "active_candidate_id" = s.get "active_candidate_id")
  | installed (candidateId : String) (hready : record.get "outcome" = .str "CANDIDATE_READY")
      (hsafe : isSafeId candidateId = true)
      (hrecord : recordField record "candidate" "candidate_id" = .str candidateId)
      (hnew : .str candidateId ∉ candidateIds (slotRecords s))
      (hstate : s'.get "state" = .str "FROZEN_REVIEW_V1" ∨
        s'.get "state" = .str "FROZEN_REVIEW_V2")
      (hactive : s'.get "active_candidate_id" = .str candidateId)

theorem AttemptRecord.candidateMove {gateId : String} {s s' reservation record : Mapping}
    (h : AttemptRecord s reservation record) (hreserved : Reserved gateId s reservation)
    (hfresh : FreshRecord s record)
    (hfinished : FinishedSlot (reservedSlot s reservation) s' record.toJson) :
    CandidateMove (reservedSlot s reservation) s' record := by
  have hinstalled := hfinished.installed
  rw [Json.field_toJson] at hinstalled
  by_cases hready : record.get "outcome" = .str "CANDIDATE_READY"
  · obtain ⟨candidateId, hsafe, hcandidate, hnew⟩ := hfresh.candidate hready
    rw [if_pos hready, Json.field_toJson] at hinstalled
    refine .installed candidateId hready hsafe hcandidate (by rwa [hreserved.records_eq]) ?_
      (hinstalled.2.trans hcandidate)
    rcases h.version hready with hone | htwo
    · exact .inl (hinstalled.1.trans (by rw [← recordField, hone]; rfl))
    · exact .inr (hinstalled.1.trans (by rw [← recordField, htwo]; rfl))
  · rw [if_neg hready] at hinstalled
    exact .kept hready hinstalled.1 hinstalled.2

/-! ## Section 5: The check of the new slot -/

section Published

variable {gateId : String} {s s' record : Mapping}

theorem PublishedSlot.identity (h : PublishedSlot s s' record.toJson)
    (hmove : CandidateMove s s' record) (hidentity : checkSlotIdentity s gateId = .ok ()) :
    checkSlotIdentity s' gateId = .ok () := by
  simp only [checkSlotIdentity, requireInSet, bind_eq_ok, require_eq_ok, exists_const]
    at hidentity ⊢
  obtain ⟨-, hversion, _, hgate, _, htask, hgateId, hhashable, hstate⟩ := hidentity
  rw [h.same "schema_version" (by decide), h.same "gate_id" (by decide),
    h.same "task_id" (by decide)]
  refine ⟨h.keys, hversion, _, hgate, _, htask, hgateId, ?_⟩
  cases hmove with
  | kept _ hkept _ =>
      rw [hkept]
      exact ⟨hhashable, hstate⟩
  | installed _ _ _ _ _ hnew _ =>
      rcases hnew with hone | htwo
      · rw [hone]
        exact ⟨rfl, by decide⟩
      · rw [htwo]
        exact ⟨rfl, by decide⟩

omit [Platform] in
theorem PublishedSlot.budget (h : PublishedSlot s s' record.toJson)
    (hbudget : checkSlotBudget s = .ok ()) : checkSlotBudget s' = .ok () := by
  simp only [checkSlotBudget, requireSlotMapping, bind_eq_ok, checkWhen_eq_ok, require_eq_ok,
    expect_eq_ok, exists_const] at hbudget ⊢
  rw [h.binding, h.same "remaining_attempts" (by decide)]
  exact ⟨fun _ => ⟨_, Mapping.asMapping_toJson _, rfl⟩, hbudget.2⟩

omit [Platform] in
theorem CandidateMove.active (hmove : CandidateMove s s' record)
    (hactive : checkActiveCandidate s = .ok ()) : checkActiveCandidate s' = .ok () := by
  simp only [checkActiveCandidate, bind_eq_ok, checkWhen_eq_ok, require_eq_ok, exists_const]
    at hactive ⊢
  cases hmove with
  | kept _ hstate hkept =>
      rw [hstate, hkept]
      exact hactive
  | installed candidateId _ hsafe _ _ hstate hnew =>
      rw [hnew]
      refine ⟨fun _ => ⟨candidateId, ?_, rfl⟩, ?_, by simp⟩
      · simp [requireStoreSafeId, expect_eq_ok, Json.asStr, hsafe]
      · rcases hstate with hone | htwo
        · simp [hone]
        · simp [htwo]

theorem PublishedSlot.historical (h : PublishedSlot s s' record.toJson)
    (hmove : CandidateMove s s' record) (hvalid : ValidSlot gateId s) {ids : List String}
    (hhistorical : checkHistoricalCandidates s = .ok ids) :
    checkHistoricalCandidates s' = .ok ids := by
  obtain ⟨retired, hretired, -, hmembers⟩ := hvalid.historical
  simp only [checkHistoricalCandidates, bind_eq_ok, checkWhen_eq_ok, require_eq_ok, exists_const,
    expect_eq_ok, pure_eq_ok] at hhistorical ⊢
  obtain ⟨historical, hids, hsorted, _, hsafe, hapart, hauthorized, hneeded, rfl⟩ := hhistorical
  rw [h.same "historical_candidate_ids" (by decide),
    h.same "remediation_authorization_id" (by decide)]
  refine ⟨historical, hids, hsorted, _, hsafe, ?_, hauthorized, ?_, rfl⟩
  · cases hmove with
    | kept _ _ hkept =>
        rw [hkept]
        exact hapart
    | installed candidateId _ _ _ hnew _ hactive =>
        rw [hactive]
        intro hmem
        -- the retired candidates have records, and the new one has none
        obtain rfl : retired = historical := Option.some.inj (hretired.symm.trans hids)
        obtain ⟨other, hother, heq⟩ := List.mem_map.mp hmem
        exact hnew (heq ▸ hmembers other hother)
  · cases hmove with
    | kept _ hstate _ =>
        rw [hstate]
        exact hneeded
    | installed _ _ _ _ _ hstate _ =>
        rcases hstate with hone | htwo
        · simp [hone]
        · simp [htwo]

/-- The records of the new slot are records of it. -/
theorem PublishedSlot.each (h : PublishedSlot s s' record.toJson) (hvalid : ValidSlot gateId s)
    (haccepted : AcceptedCodingRecord record) (hgate : record.get "gate_id" = s.get "gate_id")
    (htask : record.get "task_id" = s.get "task_id") :
    ∀ other ∈ slotRecords s', SlotRecord s' other := by
  rw [h.finished.records]
  intro other hother
  rcases List.mem_append.mp hother with hold | hlast
  · obtain ⟨hother, hotherGate, hotherTask, hbound⟩ := hvalid.each other hold
    refine ⟨hother, by rw [hotherGate, h.same "gate_id" (by decide)],
      by rw [hotherTask, h.same "task_id" (by decide)], hbound.imp_right (fun hbound => ?_)⟩
    rwa [h.finished.binding hbound.1]
  · obtain rfl := List.mem_singleton.mp hlast
    refine ⟨validateCodingExecutionRecord_eq_ok_iff.mpr ⟨record, rfl, haccepted⟩, ?_, ?_, .inr ?_⟩
    · rw [Json.field_toJson, h.same "gate_id" (by decide), hgate]
    · rw [Json.field_toJson, h.same "task_id" (by decide), htask]
    · rw [h.binding]
      exact ⟨Mapping.toJson_ne_null _,
        Json.pyEq_self (codingExecutionRecordBinding_alike haccepted.alike)⟩

omit [Platform] in
/-- The candidates of the new slot. -/
theorem FinishedSlot.candidates (h : FinishedSlot s s' record.toJson) :
    candidateIds (slotRecords s') = candidateIds (slotRecords s)
      ++ if record.get "outcome" = .str "CANDIDATE_READY" then
        [recordField record "candidate" "candidate_id"] else [] := by
  rw [h.records, candidateIds, candidateRecords_concat, List.map_append, candidateIds,
    Json.field_toJson]
  split
  · simp [recordField]
  · simp

/-- The budget and the identities of the new slot. -/
theorem PublishedSlot.totals (h : PublishedSlot s s' record.toJson)
    (hmove : CandidateMove s s' record) (hvalid : ValidSlot gateId s)
    (hreserved : s.get "reserved_attempt" ≠ .null)
    (hnumber : attemptNumber record.toJson ≠ .null)
    (hexecution : ∀ other ∈ slotRecords s, other.field "execution_id" ≠ record.get "execution_id")
    {ids : List String} (hids : (s.get "historical_candidate_ids").asStrings = some ids) :
    checkSlotTotals s' (slotRecords s') ids = .ok () := by
  have hcount : recordedAttempts (slotRecords s') = recordedAttempts (slotRecords s) + 1 := by
    rw [h.finished.records, recordedAttempts_eq, attemptRecords_concat, if_neg hnumber,
      recordedAttempts_eq, List.length_append, List.length_singleton]
  -- the record is of the attempt that was reserved, so the budget stays
  have htaken : attemptsTaken s = recordedAttempts (slotRecords s') := by
    rw [attemptsTaken, if_neg hreserved, hcount]
  have hcandidates := h.finished.candidates
  obtain ⟨retired, hretired, -, hmembers⟩ := hvalid.historical
  obtain rfl : retired = ids := Option.some.inj (hretired.symm.trans hids)
  simp only [checkSlotTotals, bind_eq_ok, require_eq_ok, exists_const]
  refine ⟨?_, ?_, ?_, ?_, ?_, ?_⟩
  · rw [← htaken]
    exact hvalid.taken
  · rw [h.finished.records, List.map_append, List.nodup_append]
    refine ⟨hvalid.executions, List.nodup_singleton _, ?_⟩
    intro id hid last hlast
    obtain ⟨other, hother, rfl⟩ := List.mem_map.mp hid
    rw [List.map_singleton, List.mem_singleton, Json.field_toJson] at hlast
    rw [hlast]
    exact hexecution other hother
  · rw [h.same "remaining_attempts" (by decide), hvalid.remaining, htaken, h.finished.free,
      if_pos rfl, Int.add_zero]
  · rw [hcandidates]
    cases hmove with
    | kept hnone _ _ =>
        rw [if_neg hnone, List.append_nil]
        exact hvalid.candidates
    | installed candidateId hready _ hrecord hnew _ _ =>
        rw [if_pos hready, hrecord, List.nodup_append]
        refine ⟨hvalid.candidates, List.nodup_singleton _, ?_⟩
        intro id hid last hlast
        rw [List.mem_singleton.mp hlast]
        rintro rfl
        exact hnew hid
  · rw [hcandidates]
    cases hmove with
    | kept _ _ hactive =>
        rw [hactive]
        exact hvalid.active.imp_right (List.mem_append_left _)
    | installed candidateId hready _ hrecord _ _ hactive =>
        rw [hactive, if_pos hready, hrecord]
        exact .inr (List.mem_append_right _ (List.mem_singleton_self _))
  · intro id hid
    rw [hcandidates]
    exact List.mem_append_left _ (hmembers id hid)

end Published

/-- **The slot that is made of the record of a reserved attempt passes the check.** -/
theorem PublishedSlot.checked {gateId : String} {s s' reservation record : Mapping}
    (hpublished : PublishedSlot (reservedSlot s reservation) s' record.toJson)
    (h : AttemptRecord s reservation record) (hreserved : Reserved gateId s reservation)
    (hfresh : FreshRecord s record) : validateCodingExecutionState s'.toJson gateId = .ok s' := by
  have hvalid := hreserved.valid
  have hmove := h.candidateMove hreserved hfresh hpublished.finished
  obtain ⟨hidentity, hbudget, hactive, ids, hids, hhistorical⟩ :=
    checkedParts_of_validate hreserved.checked
  refine validateCodingExecutionState_of_parts (hpublished.identity hmove hidentity)
    (hpublished.budget hbudget) (hmove.active hactive)
    (hpublished.historical hmove hvalid hhistorical) hpublished.finished.free
    hpublished.records ?_ ?_
  · refine hpublished.each hvalid h.accepted ?_ ?_
    · rw [hreserved.get_of_ne (by decide) (by decide), h.gate]
    · rw [hreserved.get_of_ne (by decide) (by decide), h.task]
  · refine hpublished.totals hmove hvalid ?_ ?_ ?_ hids
    · rw [hreserved.reserved_eq]
      exact Mapping.toJson_ne_null _
    · rw [attemptNumber, Json.field_toJson]
      exact fun hnull => h.number ((h.reserved _ (by decide)).symm.trans hnull)
    · rw [hreserved.records_eq]
      exact hfresh.execution

/-- The store publishes an accepted record that is new for a slot that can be read, when the slot
that it makes of it passes the check. -/
theorem published_of_slotWithRecord {files : SlotFiles} {gateId : String} {s s' record : Mapping}
    (hread : readCodingExecutionState files gateId = .ok s)
    (haccepted : AcceptedCodingRecord record)
    (hgate : record.get "gate_id" = s.get "gate_id")
    (htask : record.get "task_id" = s.get "task_id")
    (hfresh : ∀ other ∈ slotRecords s, other.field "execution_id" ≠ record.get "execution_id")
    (hslot : slotWithRecord s record.toJson = .ok s')
    (hchecked : validateCodingExecutionState s'.toJson gateId = .ok s') :
    publishCodingExecutionRecord files record.toJson
      = .ok ⟨gateId, codingExecutionPublicState s', some s'⟩ := by
  have hstored := (readCodingExecutionState_eq_ok hread).1
  have hidentity : checkSlotIdentity s gateId = .ok () := by
    have hvalidated : validateCodingExecutionState s.toJson gateId = .ok s := by
      simpa only [readCodingExecutionState, hstored, expect_some_bind] using hread
    exact (checkedParts_of_validate hvalidated).identity
  simp only [checkSlotIdentity, bind_eq_ok, require_eq_ok, exists_const] at hidentity
  obtain ⟨-, -, gate, hsafe, -, -, hgateId, -⟩ := hidentity
  obtain rfl : gateId = gate := by
    simp only [requireStoreSafeId, expect_eq_ok, hgateId, Json.asStr, Option.filter_eq_some_iff]
      at hsafe
    exact Option.some.inj hsafe.1
  -- no record of the slot has the execution of the new one
  have hnone : (slotRecords s).find? (fun item =>
      item.field "execution_id" = record.get "execution_id") = none := by
    rw [List.find?_eq_none]
    intro other hother
    simpa using hfresh other hother
  simp only [publishCodingExecutionRecord, bind_eq_ok, mapError_eq_ok, require_eq_ok,
    Json.field_toJson]
  refine ⟨(), validateCodingExecutionRecord_eq_ok_iff.mpr ⟨record, rfl, haccepted⟩, gateId, ?_,
    s, hread, (), htask.symm, ?_⟩
  · rw [hgate]
    simpa only [requireStoreSafeId, expect_eq_ok] using hsafe
  · rw [← slotRecords, hnone]
    simp only [writeSlot, bind_eq_ok]
    exact ⟨s', hslot, s', hchecked, rfl⟩

/-- **The store publishes the record of a reserved attempt.** -/
theorem AttemptRecord.published {gateId : String} {s reservation record : Mapping}
    (h : AttemptRecord s reservation record) (hreserved : Reserved gateId s reservation)
    (hfresh : FreshRecord s record) {files : SlotFiles}
    (hstored : files gateId = some (reservedSlot s reservation)) :
    ∃ s', publishCodingExecutionRecord files record.toJson
        = .ok ⟨gateId, codingExecutionPublicState s', some s'⟩ ∧
      FinishedSlot (reservedSlot s reservation) s' record.toJson := by
  obtain ⟨s', hs', hpublished⟩ := h.publishedSlot hreserved hfresh
  refine ⟨s', ?_, hpublished.finished⟩
  refine published_of_slotWithRecord ?_ h.accepted ?_ ?_ ?_ hs'
    (hpublished.checked h hreserved hfresh)
  · simp only [readCodingExecutionState, hstored, expect_some_bind, hreserved.checked]
  · rw [hreserved.get_of_ne (by decide) (by decide), h.gate]
  · rw [hreserved.get_of_ne (by decide) (by decide), h.task]
  · rw [hreserved.records_eq]
    exact hfresh.execution

/-- A slot with other records is checked like the slot, up to its records. -/
theorem CheckedParts.of_get {gateId : String} {s s' : Mapping} (h : CheckedParts gateId s)
    (hkeys : SlotKeys s') (hsame : ∀ field, field ≠ "records" → s'.get field = s.get field) :
    CheckedParts gateId s' := by
  obtain ⟨hidentity, hbudget, hactive, ids, hids, hhistorical⟩ := h
  refine ⟨?_, ?_, ?_, ids, ?_, ?_⟩
  · simp only [checkSlotIdentity, bind_eq_ok, require_eq_ok, exists_const] at hidentity ⊢
    rw [hsame "schema_version" (by decide), hsame "gate_id" (by decide),
      hsame "task_id" (by decide), hsame "state" (by decide)]
    exact ⟨hkeys, hidentity.2⟩
  · rw [checkSlotBudget, hsame "gate_binding" (by decide),
      hsame "remaining_attempts" (by decide)]
    exact hbudget
  · rw [checkActiveCandidate, hsame "active_candidate_id" (by decide), hsame "state" (by decide)]
    exact hactive
  · rw [hsame "historical_candidate_ids" (by decide)]
    exact hids
  · rw [checkHistoricalCandidates, hsame "historical_candidate_ids" (by decide),
      hsame "active_candidate_id" (by decide), hsame "remediation_authorization_id" (by decide),
      hsame "state" (by decide)]
    exact hhistorical

omit [Platform] in
theorem recordSlot_get (c : PreflightContext) (stateAfter activeAfter : Json) :
    (recordSlot c stateAfter activeAfter).get "active_candidate_after" = activeAfter ∧
      (recordSlot c stateAfter activeAfter).get "active_candidate_before"
        = c.slot.get "active_candidate_id" ∧
      (recordSlot c stateAfter activeAfter).get "state_before" = c.slot.get "state" ∧
      (recordSlot c stateAfter activeAfter).get "state_after" = stateAfter ∧
      (recordSlot c stateAfter activeAfter).get "historical_candidate_ids"
        = c.slot.get "historical_candidate_ids" :=
  ⟨rfl, rfl, rfl, rfl, rfl⟩

/-- The record of a hold, for a slot. -/
structure HoldRecord (s record : Mapping) : Prop where
  accepted : AcceptedCodingRecord record
  outcome : record.get "outcome" = .str "PRELAUNCH_HOLD"
  gate : record.get "gate_id" = s.get "gate_id"
  task : record.get "task_id" = s.get "task_id"
  number : attemptNumber record.toJson = .null
  fresh : ∀ other ∈ slotRecords s, other.field "execution_id" ≠ record.get "execution_id"

section Appended

variable {gateId : String} {s record : Mapping}

omit [Platform] in
/-- What the record of a hold leaves alone. -/
theorem get_append_of_ne (hkeys : SlotKeys s) :
    ∀ field, field ≠ "records" → (appendRecord s record.toJson).get field = s.get field :=
  fun _ hne => get_appendRecord hkeys _ hne

/-- The record of a hold is of no attempt and has no candidate, so the totals stay. -/
theorem HoldRecord.totals (h : HoldRecord s record) (hvalid : ValidSlot gateId s)
    (hfree : s.get "reserved_attempt" = .null) {ids : List String}
    (hids : (s.get "historical_candidate_ids").asStrings = some ids) :
    checkSlotTotals (appendRecord s record.toJson) (slotRecords (appendRecord s record.toJson)) ids
      = .ok () := by
  have hsame := @get_append_of_ne s record hvalid.keys
  have hrecords := slotRecords_appendRecord hvalid.keys record.toJson
  have hcandidates : candidateIds (slotRecords (appendRecord s record.toJson))
      = candidateIds (slotRecords s) := by
    rw [hrecords, candidateIds, candidateRecords_concat, Json.field_toJson, h.outcome,
      if_neg (by decide), List.append_nil, candidateIds]
  have hcount : recordedAttempts (slotRecords (appendRecord s record.toJson))
      = recordedAttempts (slotRecords s) := by
    rw [hrecords, recordedAttempts_eq, attemptRecords_concat, if_pos h.number, List.append_nil,
      recordedAttempts_eq]
  have htaken : attemptsTaken s = recordedAttempts (slotRecords s) := by
    rw [attemptsTaken, if_pos hfree, Nat.add_zero]
  obtain ⟨retired, hretired, -, hmembers⟩ := hvalid.historical
  obtain rfl : retired = ids := Option.some.inj (hretired.symm.trans hids)
  simp only [checkSlotTotals, bind_eq_ok, require_eq_ok, exists_const, hcandidates, hcount]
  refine ⟨htaken ▸ hvalid.taken, ?_, ?_, hvalid.candidates, ?_, hmembers⟩
  · rw [hrecords, List.map_append, List.nodup_append]
    refine ⟨hvalid.executions, List.nodup_singleton _, ?_⟩
    intro id hid last hlast
    obtain ⟨other, hother, rfl⟩ := List.mem_map.mp hid
    rw [List.map_singleton, List.mem_singleton, Json.field_toJson] at hlast
    rw [hlast]
    exact h.fresh other hother
  · rw [hsame "remaining_attempts" (by decide), hsame "reserved_attempt" (by decide), hfree,
      if_pos rfl, hvalid.remaining, htaken]
    simp
  · rw [hsame "active_candidate_id" (by decide)]
    exact hvalid.active

/-- The records of a slot with the record of a hold are records of it. -/
theorem HoldRecord.each (h : HoldRecord s record) (hvalid : ValidSlot gateId s) :
    ∀ other ∈ slotRecords (appendRecord s record.toJson),
      SlotRecord (appendRecord s record.toJson) other := by
  have hsame := @get_append_of_ne s record hvalid.keys
  rw [slotRecords_appendRecord hvalid.keys]
  intro other hother
  rcases List.mem_append.mp hother with hold | hlast
  · obtain ⟨haccepted, hgate, htask, hbound⟩ := hvalid.each other hold
    refine ⟨haccepted, hgate.trans (hsame "gate_id" (by decide)).symm,
      htask.trans (hsame "task_id" (by decide)).symm, ?_⟩
    rwa [hsame "gate_binding" (by decide)]
  · obtain rfl := List.mem_singleton.mp hlast
    refine ⟨validateCodingExecutionRecord_eq_ok_iff.mpr ⟨record, rfl, h.accepted⟩, ?_, ?_, .inl ?_⟩
    · rw [Json.field_toJson, h.gate, hsame "gate_id" (by decide)]
    · rw [Json.field_toJson, h.task, hsame "task_id" (by decide)]
    · rw [Json.field_toJson, h.outcome]

/-- A slot with the record of a hold passes the check. -/
theorem HoldRecord.checked (h : HoldRecord s record) (hfree : s.get "reserved_attempt" = .null)
    (hchecked : validateCodingExecutionState s.toJson gateId = .ok s) :
    validateCodingExecutionState (appendRecord s record.toJson).toJson gateId
      = .ok (appendRecord s record.toJson) := by
  have hvalid := (validSlot_of_validate hchecked).2
  have hsame := @get_append_of_ne s record hvalid.keys
  have hkeys : SlotKeys (appendRecord s record.toJson) := hvalid.keys.set _ _
  obtain ⟨hidentity, hbudget, hactive, ids, hids, hhistorical⟩ :=
    (checkedParts_of_validate hchecked).of_get hkeys hsame
  rw [hsame "historical_candidate_ids" (by decide)] at hids
  refine validateCodingExecutionState_of_parts hidentity hbudget hactive hhistorical
    ((hsame "reserved_attempt" (by decide)).trans hfree) ?_ (h.each hvalid)
    (h.totals hvalid hfree hids)
  rw [slotRecords, appendRecord, hvalid.keys.get_set (by decide), if_pos rfl]
  rfl

end Appended

section Sample

omit [Platform]

/-- A slot passes the check when the check returns one. -/
theorem validate_eq_ok_of_isSome [Platform] {s : Mapping} {gateId : String}
    (h : (validateCodingExecutionState s.toJson gateId).toOption.isSome = true) :
    validateCodingExecutionState s.toJson gateId = .ok s := by
  cases hvalid : validateCodingExecutionState s.toJson gateId with
  | error failure => simp [hvalid, Except.toOption] at h
  | ok data =>
      obtain ⟨rfl, -⟩ := validSlot_of_validate hvalid
      rfl

theorem emptySlot_checked :
    letI := foldingPlatform
    validateCodingExecutionState (emptySlot "G" "T").toJson "G" = .ok (emptySlot "G" "T") := by
  let _ := foldingPlatform
  exact validate_eq_ok_of_isSome (by decide +kernel)

/-- The first attempt is reserved on an empty slot. -/
theorem emptySlot_reserved {files : SlotFiles} (hstored : files "G" = some (emptySlot "G" "T")) :
    letI := foldingPlatform
    reserveCodingExecutionAttempt files (.str "G") (.str "ORDINARY") .null zeroTime
      = .ok ⟨"G", firstReservation, some (reservedSlot (emptySlot "G" "T") firstReservation)⟩ := by
  let _ := foldingPlatform
  have hreserved : validateCodingExecutionState
      (reservedSlot (emptySlot "G" "T") firstReservation).toJson "G"
        = .ok (reservedSlot (emptySlot "G" "T") firstReservation) :=
    validate_eq_ok_of_isSome (by decide +kernel)
  have hread : readCodingExecutionState files "G" = .ok (emptySlot "G" "T") := by
    simp only [readCodingExecutionState, hstored, expect_some_bind, emptySlot_checked]
  have hremaining : (emptySlot "G" "T").get "remaining_attempts" = .int 2 := by decide +kernel
  simp only [reserveCodingExecutionAttempt, bind_eq_ok, require_eq_ok, exists_const]
  refine ⟨"G", by rfl, _, hread, by decide +kernel, ?_, (), by rfl, by decide +kernel, ?_⟩
  · rw [hremaining]
    decide
  · rw [hremaining]
    simp only [writeSlot, bind_eq_ok]
    exact ⟨_, hreserved, rfl⟩

end Sample

end Acgps
