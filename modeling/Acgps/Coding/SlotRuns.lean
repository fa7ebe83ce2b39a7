import Acgps.Coding.Promotion
import Acgps.Coding.Slot
import Acgps.Data.PyEq

/-!
# Runs of the coding execution slot

Calls are made one after another, with any arguments. What one call can do to a slot is said once,
and what holds over a whole run follows from it.

## Main Definitions

* `ValidSlot` - what the check of a slot establishes
* `SlotChange` - the ways in which a call makes a slot out of another
* `runSlots` - the slot files behind a list of calls
* `reservations` - the attempts of a gate that a list of calls is granted

## Key Theorems

* `SlotCall.run_cases` - a call leaves a slot, or changes it in one of these ways
* `slots_grow` - nothing that was published is taken back
* `published_records_stay` - **a published record is read back behind any further calls**
-/

namespace Acgps

open Checked

/-! ## Section 1: Slots that pass the check -/

@[simp] theorem Mapping.keys_set (m : Mapping) (key : String) (value : Json) :
    (m.set key value).keys = m.keys := by
  rw [Mapping.keys, Mapping.keys, Mapping.set, List.map_map]
  refine List.map_congr_left (fun entry _ => ?_)
  by_cases hkey : entry.1 = key <;> simp [hkey]

/-- A value that was set is read back. -/
theorem Mapping.get_set_self {m : Mapping} {key : String} (value : Json) (h : key ∈ m.keys) :
    (m.set key value).get key = value := by
  have hlookup : ∀ entries : List (String × Json), key ∈ entries.map Prod.fst →
      lookup key (entries.map (fun e => if e.1 = key then (e.1, value) else e)) = some value := by
    intro entries
    induction entries with
    | nil => intro hmem; simp at hmem
    | cons entry rest ih =>
        intro hmem
        by_cases hkey : entry.1 = key
        · rw [List.map_cons, if_pos hkey, lookup, if_pos hkey]
        · have hrest : key ∈ rest.map Prod.fst := by simpa [Ne.symm hkey] using hmem
          rw [List.map_cons, if_neg hkey, lookup, if_neg hkey, ih hrest]
  rw [get, set, hlookup m.entries h, Option.getD_some]

/-- A slot with the fields of a slot. -/
abbrev SlotKeys (s : Mapping) : Prop := s.keys = codingExecutionStateFields

/-- What an update of a slot leaves and what it sets. -/
theorem SlotKeys.get_set {s : Mapping} (h : SlotKeys s) {key : String}
    (hkey : key ∈ codingExecutionStateFields) (field : String) (value : Json) :
    (s.set key value).get field = if field = key then value else s.get field := by
  by_cases hfield : field = key
  · subst hfield
    rw [if_pos rfl, s.get_set_self value (by rw [h]; exact hkey)]
  · rw [if_neg hfield, s.get_set_of_ne value hfield]

theorem SlotKeys.set {s : Mapping} (h : SlotKeys s) (key : String) (value : Json) :
    SlotKeys (s.set key value) := by
  rw [SlotKeys, Mapping.keys_set, h]

/-- The records of a slot. -/
def slotRecords (s : Mapping) : List Json := (s.get "records").asList.getD []

/-- The attempts that a slot has given away: the recorded ones, and the reserved one. -/
def attemptsTaken (s : Mapping) : Nat :=
  recordedAttempts (slotRecords s) + if s.get "reserved_attempt" = .null then 0 else 1

variable [Platform]

/-- What the check of a slot establishes of each of its records. -/
structure SlotRecord (s : Mapping) (record : Json) : Prop where
  accepted : validateCodingExecutionRecord record = .ok ()
  gate : record.field "gate_id" = s.get "gate_id"
  task : record.field "task_id" = s.get "task_id"
  bound : record.field "outcome" = .str "PRELAUNCH_HOLD" ∨ s.get "gate_binding" ≠ .null ∧
    (codingExecutionRecordBinding record).toJson.pyEq (s.get "gate_binding") = true

theorem checkSlotRecord_eq_ok {s : Mapping} {record : Json} {index : Nat} :
    checkSlotRecord s record index = .ok () ↔ SlotRecord s record := by
  simp only [checkSlotRecord, bind_eq_ok, mapError_eq_ok, require_eq_ok, exists_const]
  constructor
  · rintro ⟨_, haccepted, ⟨hgate, htask⟩, hbound⟩
    exact ⟨haccepted, hgate, htask, hbound⟩
  · rintro ⟨haccepted, hgate, htask, hbound⟩
    exact ⟨(), haccepted, ⟨hgate, htask⟩, hbound⟩

/-- What the check of a slot establishes. -/
structure ValidSlot (gateId : String) (s : Mapping) : Prop where
  keys : SlotKeys s
  gate : s.get "gate_id" = .str gateId
  state : ∃ name ∈ codingExecutionSlotStates, s.get "state" = .str name
  unfrozen : s.get "state" = .str "EMPTY" ∨ s.get "state" = .str "EMPTY_FOR_REMEDIATION" →
    s.get "active_candidate_id" = .null
  frozen : s.get "state" = .str "FROZEN_REVIEW_V1" ∨ s.get "state" = .str "FROZEN_REVIEW_V2" →
    ∃ candidateId, s.get "active_candidate_id" = .str candidateId
  historical : ∃ ids, (s.get "historical_candidate_ids").asStrings = some ids ∧
    ids.Pairwise (· < ·) ∧ ∀ id ∈ ids, Json.str id ∈ candidateIds (slotRecords s)
  reservation : s.get "reserved_attempt" = .null ∨
    ∃ reservation : Mapping, s.get "reserved_attempt" = reservation.toJson
  records : s.get "records" = .arr (slotRecords s)
  each : ∀ record ∈ slotRecords s, SlotRecord s record
  executions : ((slotRecords s).map (·.field "execution_id")).Nodup
  candidates : (candidateIds (slotRecords s)).Nodup
  active : s.get "active_candidate_id" = .null ∨
    s.get "active_candidate_id" ∈ candidateIds (slotRecords s)
  taken : attemptsTaken s ≤ 2
  remaining : s.get "remaining_attempts" = .int (2 - attemptsTaken s)

/-- **What the check of a slot establishes.** -/
theorem validSlot_of_validate {s data : Mapping} {gateId : String}
    (h : validateCodingExecutionState s.toJson gateId = .ok data) :
    data = s ∧ ValidSlot gateId s := by
  simp only [validateCodingExecutionState, requireSlotMapping, bind_eq_ok, expect_eq_ok,
    Mapping.asMapping_toJson, Option.some.injEq, exists_eq_left', pure_eq_ok] at h
  obtain ⟨_, hidentity, _, hbudget, _, hactive, historical, hhistorical, _, hreservation, records,
    hrecords, _, heach, _, htotals, rfl⟩ := h
  refine ⟨rfl, ?_⟩
  have hlist : slotRecords s = records := by rw [slotRecords, hrecords]; rfl
  simp only [checkSlotIdentity, requireInSet, bind_eq_ok, require_eq_ok, exists_const] at hidentity
  simp only [checkSlotBudget, bind_eq_ok, checkWhen_eq_ok, require_eq_ok, exists_const] at hbudget
  simp only [checkActiveCandidate, bind_eq_ok, checkWhen_eq_ok, require_eq_ok, exists_const]
    at hactive
  simp only [checkHistoricalCandidates, bind_eq_ok, checkWhen_eq_ok, require_eq_ok, exists_const,
    expect_eq_ok, pure_eq_ok] at hhistorical
  simp only [checkWhen_eq_ok, checkReservation, bind_eq_ok, require_eq_ok, exists_const,
    requireSlotMapping, expect_eq_ok, Mapping.asMapping_eq_some] at hreservation
  simp only [forM_eq_ok_iff, checkSlotRecord_eq_ok] at heach
  simp only [checkSlotTotals, bind_eq_ok, require_eq_ok, exists_const] at htotals
  obtain ⟨hkeys, -, -, -, -, -, hgate, -, hstate⟩ := hidentity
  obtain ⟨-, hcount⟩ := hbudget
  obtain ⟨hsafe, hunfrozen, hfrozen⟩ := hactive
  obtain ⟨ids, hids, hsorted, -, -, -, -, -, rfl⟩ := hhistorical
  obtain ⟨-, hexecutions, hremaining, hcandidates, hbound, hmembers⟩ := htotals
  subst hlist
  have hfree : s.get "remaining_attempts" = .int (2 - attemptsTaken s) := by
    rw [hremaining, attemptsTaken]
    split <;> simp
  refine ⟨hkeys, hgate, ?_, ?_, ?_, ⟨ids, hids, hsorted, hmembers⟩, ?_, ?_, ?_, hexecutions,
    hcandidates, hbound, ?_, hfree⟩
  · obtain ⟨name, hname, hmem⟩ : ∃ name, s.get "state" = .str name ∧
        name ∈ codingExecutionSlotStates := by simpa [Option.any_eq_true] using hstate
    exact ⟨name, hmem, hname⟩
  · intro hname
    by_contra hne
    exact hunfrozen ⟨hname, hne⟩
  · intro hname
    obtain ⟨candidateId, hid, -⟩ := hsafe (fun hnull => hfrozen ⟨hname, hnull⟩)
    simp only [requireStoreSafeId, expect_eq_ok, Option.filter_eq_some_iff, Json.asStr_eq_some]
      at hid
    exact ⟨candidateId, hid.1⟩
  · by_cases hnull : s.get "reserved_attempt" = .null
    · exact .inl hnull
    · obtain ⟨reservation, hreserved, -⟩ := hreservation hnull
      exact .inr ⟨reservation, hreserved⟩
  · simpa using hrecords
  · exact (forall_mem_zipIdx_iff (SlotRecord s)).mp heach
  · rw [hfree] at hcount
    simp at hcount
    omega

/-- A slot passes the check when it passes its parts. -/
theorem validateCodingExecutionState_of_parts {s : Mapping} {gateId : String}
    {historical : List String} (hidentity : checkSlotIdentity s gateId = .ok ())
    (hbudget : checkSlotBudget s = .ok ()) (hactive : checkActiveCandidate s = .ok ())
    (hhistorical : checkHistoricalCandidates s = .ok historical)
    (hfree : s.get "reserved_attempt" = .null) (hrecords : s.get "records" = .arr (slotRecords s))
    (heach : ∀ record ∈ slotRecords s, SlotRecord s record)
    (htotals : checkSlotTotals s (slotRecords s) historical = .ok ()) :
    validateCodingExecutionState s.toJson gateId = .ok s := by
  simp only [validateCodingExecutionState, requireSlotMapping, Mapping.asMapping_toJson,
    expect_some_bind, bind_eq_ok, expect_eq_ok, Json.asList_eq_some, checkWhen_eq_ok, pure_eq_ok,
    forM_eq_ok_iff, checkSlotRecord_eq_ok]
  exact ⟨(), hidentity, (), hbudget, (), hactive, historical, hhistorical, (),
    fun hne => absurd hfree hne, slotRecords s, hrecords, (),
    (forall_mem_zipIdx_iff (SlotRecord s)).mpr heach, (), htotals, trivial⟩

/-! ## Section 2: What one call can do -/

/-- The ways in which a call makes a slot of a gate, with the attempt that it grants. -/
inductive SlotChange (gateId : String) :
    SlotCall → Option Mapping → Option Mapping → Mapping → Prop
  | created {gate task : Json} (taskId : String) :
      SlotChange gateId (.initializeSlot gate task) none none (emptySlot gateId taskId)
  | reserved {gate kind parent time : Json} {s : Mapping} (hvalid : ValidSlot gateId s)
      (hfree : s.get "reserved_attempt" = .null) (hleft : attemptsTaken s < 2)
      (hkind : requireAttemptKind s kind parent = .ok ()) :
      SlotChange gateId (.reserveAttempt gate kind parent time) (some s)
        (some (nextReservation (2 - attemptsTaken s) kind parent time))
        ((s.set "remaining_attempts" (.int (2 - attemptsTaken s - 1))).set "reserved_attempt"
          (nextReservation (2 - attemptsTaken s) kind parent time).toJson)
  | retired {gate candidate authorization : Json} {s : Mapping} (candidateId : String)
      (authorizationId : String) (hvalid : ValidSlot gateId s)
      (hstate : s.get "state" = .str "FROZEN_REVIEW_V1")
      (hactive : s.get "active_candidate_id" = .str candidateId)
      (htaken : attemptsTaken s = 1) (hfree : s.get "reserved_attempt" = .null)
      (hhistorical : s.get "historical_candidate_ids" = .arr []) :
      SlotChange gateId (.retireCandidate gate candidate authorization) (some s) none
        ((((s.set "state" (.str "EMPTY_FOR_REMEDIATION")).set "active_candidate_id" .null).set
          "historical_candidate_ids" (.arr [.str candidateId])).set
          "remediation_authorization_id" (.str authorizationId))
  | held {record : Json} {s : Mapping} (hvalid : ValidSlot gateId s)
      (haccepted : validateCodingExecutionRecord record = .ok ())
      (houtcome : record.field "outcome" = .str "PRELAUNCH_HOLD")
      (hfree : s.get "reserved_attempt" = .null) :
      SlotChange gateId (.publishRecord record) (some s) none (appendRecord s record)
  | finished {record : Json} {s bound installed : Mapping} (hvalid : ValidSlot gateId s)
      (haccepted : validateCodingExecutionRecord record = .ok ())
      (houtcome : record.field "outcome" ≠ .str "PRELAUNCH_HOLD")
      (hbound : bindGate s record = .ok bound)
      (hreserved : requireReserved bound record = .ok ())
      (hinstalled : installOutcome bound record = .ok installed) :
      SlotChange gateId (.publishRecord record) (some s) none
        (appendRecord (installed.set "reserved_attempt" .null) record)

/-- A slot that is written has passed the check. -/
theorem writeSlot_eq_ok {gateId : String} {answer s : Mapping} {a : SlotAnswer}
    (h : writeSlot gateId answer s = .ok a) :
    a = ⟨gateId, answer, some s⟩ ∧ validateCodingExecutionState s.toJson gateId = .ok s := by
  simp only [writeSlot, bind_eq_ok, pure_eq_ok] at h
  obtain ⟨data, hdata, rfl⟩ := h
  obtain ⟨rfl, -⟩ := validSlot_of_validate hdata
  exact ⟨rfl, hdata⟩

/-- A slot that was read has passed the check. -/
theorem readCodingExecutionState_eq_ok {files : SlotFiles} {gateId : String} {s : Mapping}
    (h : readCodingExecutionState files gateId = .ok s) :
    files gateId = some s ∧ ValidSlot gateId s := by
  simp only [readCodingExecutionState, bind_eq_ok, expect_eq_ok] at h
  obtain ⟨stored, hstored, hdata⟩ := h
  obtain ⟨rfl, hvalid⟩ := validSlot_of_validate hdata
  exact ⟨hstored, hvalid⟩

/-- The attempt that a call is granted for a gate. -/
def SlotCall.reservation (c : SlotCall) (files : SlotFiles) (gateId : String) : Option Mapping :=
  match c, c.decide files with
  | .reserveAttempt .., .ok a => if a.gateId = gateId then some a.answer else none
  | _, _ => none

/-- What a call answers and writes. -/
inductive SlotDecided (files : SlotFiles) (c : SlotCall) (a : SlotAnswer) : Prop
  | unchanged (hwritten : a.written = none) (hnone : ∀ gateId, c.reservation files gateId = none)
  | changed (granted : Option Mapping) (s : Mapping) (hwritten : a.written = some s)
      (hchange : SlotChange a.gateId c (files a.gateId) granted s)
      (hvalid : validateCodingExecutionState s.toJson a.gateId = .ok s)
      (hgranted : ∀ gateId,
        c.reservation files gateId = if a.gateId = gateId then granted else none)

theorem SlotCall.decided_initializeSlot {files : SlotFiles} {gate task : Json} {a : SlotAnswer}
    (h : (SlotCall.initializeSlot gate task).decide files = .ok a) :
    SlotDecided files (.initializeSlot gate task) a := by
  simp only [SlotCall.decide, initializeCodingExecutionSlot, bind_eq_ok] at h
  obtain ⟨gateId, -, taskId, -, h⟩ := h
  split at h
  next stored hstored =>
    simp only [bind_eq_ok, require_eq_ok, exists_const, pure_eq_ok] at h
    obtain ⟨s, -, -, rfl⟩ := h
    exact .unchanged rfl (fun _ => rfl)
  next hnone =>
    obtain ⟨rfl, hvalid⟩ := writeSlot_eq_ok h
    refine .changed none _ rfl ?_ hvalid (fun g => by simp [SlotCall.reservation])
    rw [hnone]
    exact .created taskId

theorem SlotCall.decided_reserveAttempt {files : SlotFiles} {gate kind parent time : Json}
    {a : SlotAnswer} (h : (SlotCall.reserveAttempt gate kind parent time).decide files = .ok a) :
    SlotDecided files (.reserveAttempt gate kind parent time) a := by
  have hdecide := h
  simp only [SlotCall.decide, reserveCodingExecutionAttempt, bind_eq_ok, require_eq_ok,
    exists_const] at h
  obtain ⟨gateId, -, s, hread, hfree, hleft, _, hkind, -, hwrite⟩ := h
  obtain ⟨hstored, hvalid⟩ := readCodingExecutionState_eq_ok hread
  simp only [hvalid.remaining, Json.asInt, Option.getD_some] at hleft hwrite
  obtain ⟨rfl, hnew⟩ := writeSlot_eq_ok hwrite
  have htaken : attemptsTaken s < 2 := by
    have := hvalid.taken
    omega
  refine .changed (some (nextReservation (2 - attemptsTaken s) kind parent time)) _ rfl ?_ hnew
    (fun g => by simp only [SlotCall.reservation, hdecide])
  rw [hstored]
  exact .reserved hvalid hfree htaken hkind

theorem SlotCall.decided_retireCandidate {files : SlotFiles} {gate candidate authorization : Json}
    {a : SlotAnswer}
    (h : (SlotCall.retireCandidate gate candidate authorization).decide files = .ok a) :
    SlotDecided files (.retireCandidate gate candidate authorization) a := by
  simp only [SlotCall.decide, retireCodingExecutionCandidate, bind_eq_ok, require_eq_ok,
    exists_const] at h
  obtain ⟨candidateId, -, authorizationId, -, gateId, -, s, hread,
    ⟨hstate, hactive, hremaining, hfree, hhistorical⟩, hwrite⟩ := h
  obtain ⟨hstored, hvalid⟩ := readCodingExecutionState_eq_ok hread
  obtain ⟨rfl, hnew⟩ := writeSlot_eq_ok hwrite
  have htaken : attemptsTaken s = 1 := by
    have hone := hvalid.remaining.symm.trans hremaining
    simp only [Json.int.injEq] at hone
    omega
  refine .changed none _ rfl ?_ hnew (fun g => by simp [SlotCall.reservation])
  rw [hstored]
  exact .retired candidateId authorizationId hvalid hstate hactive htaken hfree hhistorical

theorem SlotCall.decided_publishRecord {files : SlotFiles} {record : Json} {a : SlotAnswer}
    (h : (SlotCall.publishRecord record).decide files = .ok a) :
    SlotDecided files (.publishRecord record) a := by
  simp only [SlotCall.decide, publishCodingExecutionRecord, bind_eq_ok, mapError_eq_ok,
    require_eq_ok, exists_const] at h
  obtain ⟨_, haccepted, gateId, -, s, hread, -, h⟩ := h
  obtain ⟨hstored, hvalid⟩ := readCodingExecutionState_eq_ok hread
  split at h
  next existing hexisting =>
    simp only [bind_eq_ok, require_eq_ok, exists_const, pure_eq_ok] at h
    obtain ⟨-, rfl⟩ := h
    exact .unchanged rfl (fun _ => rfl)
  next hnew =>
    simp only [bind_eq_ok, slotWithRecord] at h
    obtain ⟨s', ⟨bound, hbound, hpublished⟩, hwrite⟩ := h
    obtain ⟨rfl, hwritten⟩ := writeSlot_eq_ok hwrite
    refine .changed none _ rfl ?_ hwritten (fun g => by simp [SlotCall.reservation])
    rw [hstored]
    split at hpublished
    next houtcome =>
      -- a hold does not touch the binding of the gate
      obtain rfl : bound = s := by
        rw [bindGate, if_pos houtcome] at hbound
        exact (Except.ok.inj hbound).symm
      simp only [requireHoldPreserves, bind_eq_ok, require_eq_ok, exists_const, pure_eq_ok]
        at hpublished
      obtain ⟨⟨hfree, -⟩, rfl⟩ := hpublished
      exact .held hvalid haccepted houtcome hfree
    next houtcome =>
      simp only [bind_eq_ok, pure_eq_ok] at hpublished
      obtain ⟨_, hreserved, installed, hinstalled, rfl⟩ := hpublished
      exact .finished hvalid haccepted houtcome hbound hreserved hinstalled

/-- **What an accepted call does**: nothing, or one of the changes of a slot. -/
theorem SlotCall.decided {files : SlotFiles} {c : SlotCall} {a : SlotAnswer}
    (h : c.decide files = .ok a) : SlotDecided files c a := by
  cases c with
  | initializeSlot gate task => exact decided_initializeSlot h
  | reserveAttempt gate kind parent time => exact decided_reserveAttempt h
  | retireCandidate gate candidate authorization => exact decided_retireCandidate h
  | publishRecord record => exact decided_publishRecord h

/-- **What a call does to the slot of a gate**: nothing, or one of the changes. -/
theorem SlotCall.run_cases (c : SlotCall) (files : SlotFiles) (gateId : String) :
    ((c.run files).2 gateId = files gateId ∧ c.reservation files gateId = none) ∨
      ∃ s, (c.run files).2 gateId = some s ∧
        SlotChange gateId c (files gateId) (c.reservation files gateId) s ∧
        validateCodingExecutionState s.toJson gateId = .ok s := by
  cases hdecide : c.decide files with
  | error failure =>
      refine .inl ⟨by simp only [run, hdecide], ?_⟩
      cases c <;> simp [reservation, hdecide]
  | ok a =>
      cases decided hdecide with
      | unchanged hwritten hnone =>
          exact .inl ⟨by simp only [run, hdecide, hwritten], hnone gateId⟩
      | changed granted s hwritten hchange hvalid hgranted =>
          by_cases hgate : gateId = a.gateId
          · subst hgate
            refine .inr ⟨s, by simp only [run, hdecide, hwritten, if_true], ?_, hvalid⟩
            rw [hgranted, if_pos rfl]
            exact hchange
          · refine .inl ⟨by simp only [run, hdecide, hwritten, if_neg hgate], ?_⟩
            rw [hgranted, if_neg (Ne.symm hgate)]

/-! ## Section 3: What a change leaves alone -/

section Updates

omit [Platform]

theorem slotRecords_eq_of_get {s s' : Mapping} (h : s'.get "records" = s.get "records") :
    slotRecords s' = slotRecords s := by
  rw [slotRecords, slotRecords, h]

theorem slotRecords_appendRecord {s : Mapping} (h : SlotKeys s) (record : Json) :
    slotRecords (appendRecord s record) = slotRecords s ++ [record] := by
  rw [slotRecords, appendRecord, h.get_set (by decide), if_pos rfl]
  rfl

theorem get_appendRecord {s : Mapping} (h : SlotKeys s) (record : Json) {field : String}
    (hfield : field ≠ "records") : (appendRecord s record).get field = s.get field := by
  rw [appendRecord, h.get_set (by decide), if_neg hfield]

end Updates

/-- The binding of the gate is set once, and nothing else changes with it. -/
theorem bindGate_eq_ok {s bound : Mapping} {record : Json} (hkeys : SlotKeys s)
    (h : bindGate s record = .ok bound) :
    SlotKeys bound ∧ (∀ field, field ≠ "gate_binding" → bound.get field = s.get field) ∧
      (s.get "gate_binding" ≠ .null → bound = s) := by
  unfold bindGate at h
  split at h
  next => exact Except.ok.inj h ▸ ⟨hkeys, fun _ _ => rfl, fun _ => rfl⟩
  next =>
    split at h
    next hnull =>
      rw [← Except.ok.inj h]
      refine ⟨hkeys.set _ _, fun field hfield => ?_, fun hne => absurd hnull hne⟩
      rw [hkeys.get_set (by decide), if_neg hfield]
    next =>
      simp only [bind_eq_ok, require_eq_ok, exists_const, pure_eq_ok] at h
      exact h.2 ▸ ⟨hkeys, fun _ _ => rfl, fun _ => rfl⟩

omit [Platform] in
/-- What the outcome of an attempt does to the state and to the active candidate. -/
theorem installOutcome_eq_ok {s installed : Mapping} {record : Json} (hkeys : SlotKeys s)
    (h : installOutcome s record = .ok installed) :
    SlotKeys installed ∧
      (∀ field, field ≠ "state" → field ≠ "active_candidate_id" →
        installed.get field = s.get field) ∧
      if record.field "outcome" = .str "CANDIDATE_READY" then
        installed.get "state"
            = .str (frozenReviewState ((record.field "candidate").field "version")) ∧
          installed.get "active_candidate_id" = (record.field "candidate").field "candidate_id"
      else installed = s := by
  unfold installOutcome at h
  split at h
  next houtcome =>
    simp only [bind_eq_ok, require_eq_ok, exists_const, pure_eq_ok] at h
    obtain ⟨-, rfl⟩ := h
    have hstate := hkeys.set "state"
      (.str (frozenReviewState ((record.field "candidate").field "version")))
    refine ⟨hstate.set _ _, fun field hne hne' => ?_, ?_⟩
    · rw [hstate.get_set (by decide), if_neg hne', hkeys.get_set (by decide), if_neg hne]
    · rw [if_pos houtcome, hstate.get_set (by decide), if_neg (by decide),
        hkeys.get_set (by decide), if_pos rfl, hstate.get_set (by decide), if_pos rfl]
      exact ⟨rfl, rfl⟩
  next houtcome =>
    simp only [bind_eq_ok, require_eq_ok, exists_const, pure_eq_ok] at h
    obtain ⟨-, rfl⟩ := h
    exact ⟨hkeys, fun _ _ _ => rfl, by rw [if_neg houtcome]⟩

/-- The slot behind the record of a finished attempt. -/
structure FinishedSlot (s s' : Mapping) (record : Json) : Prop where
  records : slotRecords s' = slotRecords s ++ [record]
  free : s'.get "reserved_attempt" = .null
  binding : s.get "gate_binding" ≠ .null → s'.get "gate_binding" = s.get "gate_binding"
  same : ∀ field ∈ ["task_id", "historical_candidate_ids", "remaining_attempts"],
    s'.get field = s.get field
  installed : if record.field "outcome" = .str "CANDIDATE_READY" then
      s'.get "state" = .str (frozenReviewState ((record.field "candidate").field "version")) ∧
        s'.get "active_candidate_id" = (record.field "candidate").field "candidate_id"
    else s'.get "state" = s.get "state" ∧
      s'.get "active_candidate_id" = s.get "active_candidate_id"

/-- **What the record of a finished attempt makes of a slot.** -/
theorem finishedSlot {s bound installed : Mapping} {record : Json} (hkeys : SlotKeys s)
    (hbound : bindGate s record = .ok bound)
    (hinstalled : installOutcome bound record = .ok installed) :
    FinishedSlot s (appendRecord (installed.set "reserved_attempt" .null) record) record := by
  obtain ⟨hboundKeys, hboundSame, hboundBinding⟩ := bindGate_eq_ok hkeys hbound
  obtain ⟨hkeys', hsame, houtcome⟩ := installOutcome_eq_ok hboundKeys hinstalled
  have hfree := hkeys'.set "reserved_attempt" .null
  have hget : ∀ field, field ≠ "records" → field ≠ "reserved_attempt" →
      (appendRecord (installed.set "reserved_attempt" .null) record).get field
        = installed.get field := by
    intro field hne hne'
    rw [get_appendRecord hfree record hne, hkeys'.get_set (by decide), if_neg hne']
  refine ⟨?_, ?_, fun hne => ?_, fun field hfield => ?_, ?_⟩
  · rw [slotRecords_appendRecord hfree]
    congr 1
    apply slotRecords_eq_of_get
    rw [hkeys'.get_set (by decide), if_neg (by decide), hsame _ (by decide) (by decide),
      hboundSame _ (by decide)]
  · rw [get_appendRecord hfree record (by decide), hkeys'.get_set (by decide), if_pos rfl]
  · rw [hget _ (by decide) (by decide), hsame _ (by decide) (by decide), hboundBinding hne]
  · simp only [List.mem_cons, List.not_mem_nil, or_false] at hfield
    rcases hfield with rfl | rfl | rfl
    all_goals rw [hget _ (by decide) (by decide), hsame _ (by decide) (by decide),
      hboundSame _ (by decide)]
  · rw [hget _ (by decide) (by decide), hget _ (by decide) (by decide)]
    split at houtcome
    next hready =>
      rw [if_pos hready]
      exact houtcome
    next hready =>
      rw [if_neg hready, houtcome, hboundSame _ (by decide), hboundSame _ (by decide)]
      exact ⟨rfl, rfl⟩

/-- What no change of a slot takes back. -/
structure SlotGrows (s s' : Mapping) : Prop where
  records : slotRecords s <+: slotRecords s'
  binding : s.get "gate_binding" ≠ .null → s'.get "gate_binding" = s.get "gate_binding"
  task : s'.get "task_id" = s.get "task_id"

omit [Platform] in
theorem SlotGrows.refl (s : Mapping) : SlotGrows s s := ⟨List.prefix_rfl, fun _ => rfl, rfl⟩

omit [Platform] in
theorem SlotGrows.trans {s s' s'' : Mapping} (h : SlotGrows s s') (h' : SlotGrows s' s'') :
    SlotGrows s s'' where
  records := h.records.trans h'.records
  binding := fun hne => by
    rw [h'.binding (by rw [h.binding hne]; exact hne), h.binding hne]
  task := h'.task.trans h.task

omit [Platform] in
/-- A change that leaves the records, the binding and the task alone. -/
theorem SlotGrows.of_get {s s' : Mapping}
    (h : ∀ field ∈ ["records", "gate_binding", "task_id"], s'.get field = s.get field) :
    SlotGrows s s' where
  records := by rw [slotRecords_eq_of_get (h _ (by simp))]
  binding := fun _ => h _ (by simp)
  task := h _ (by simp)

/-- **No change of a slot takes a record, the binding or the task back.** -/
theorem SlotChange.grows {gateId : String} {c : SlotCall} {granted : Option Mapping}
    {s s' : Mapping} (h : SlotChange gateId c (some s) granted s') : SlotGrows s s' := by
  cases h with
  | reserved hvalid hfree hleft hkind =>
      apply SlotGrows.of_get
      intro field hfield
      have hne : field ≠ "reserved_attempt" ∧ field ≠ "remaining_attempts" := by
        revert hfield
        simp only [List.mem_cons, List.not_mem_nil, or_false]
        rintro (rfl | rfl | rfl) <;> decide
      rw [(hvalid.keys.set _ _).get_set (by decide), if_neg hne.1,
        hvalid.keys.get_set (by decide), if_neg hne.2]
  | retired candidateId authorizationId hvalid hstate hactive htaken hfree hhistorical =>
      apply SlotGrows.of_get
      intro field hfield
      have hne : field ≠ "remediation_authorization_id" ∧ field ≠ "historical_candidate_ids" ∧
          field ≠ "active_candidate_id" ∧ field ≠ "state" := by
        revert hfield
        simp only [List.mem_cons, List.not_mem_nil, or_false]
        rintro (rfl | rfl | rfl) <;> decide
      rw [(((hvalid.keys.set _ _).set _ _).set _ _).get_set (by decide), if_neg hne.1,
        ((hvalid.keys.set _ _).set _ _).get_set (by decide), if_neg hne.2.1,
        (hvalid.keys.set _ _).get_set (by decide), if_neg hne.2.2.1,
        hvalid.keys.get_set (by decide), if_neg hne.2.2.2]
  | held hvalid haccepted houtcome hfree =>
      refine ⟨?_, fun _ => get_appendRecord hvalid.keys _ (by decide),
        get_appendRecord hvalid.keys _ (by decide)⟩
      rw [slotRecords_appendRecord hvalid.keys]
      exact List.prefix_append _ _
  | finished hvalid haccepted houtcome hbound hreserved hinstalled =>
      have hfinished := finishedSlot hvalid.keys hbound hinstalled
      refine ⟨?_, hfinished.binding, hfinished.same _ (by simp)⟩
      rw [hfinished.records]
      exact List.prefix_append _ _

/-! ## Section 4: Runs -/

/-- The slot files behind a list of calls. -/
def runSlots (files : SlotFiles) (calls : List SlotCall) : SlotFiles :=
  calls.foldl (fun files c => (c.run files).2) files

/-- The attempts of a gate that a list of calls is granted, in order. -/
def reservations (gateId : String) : SlotFiles → List SlotCall → List Mapping
  | _, [] => []
  | files, c :: rest =>
      (c.reservation files gateId).toList ++ reservations gateId (c.run files).2 rest

/-- No gate has a slot yet. -/
def noSlots : SlotFiles := fun _ => none

theorem runSlots_concat (files : SlotFiles) (calls : List SlotCall) (c : SlotCall) :
    runSlots files (calls ++ [c]) = (c.run (runSlots files calls)).2 := by
  rw [runSlots, List.foldl_concat, runSlots]

theorem runSlots_append (files : SlotFiles) (calls more : List SlotCall) :
    runSlots files (calls ++ more) = runSlots (runSlots files calls) more := by
  rw [runSlots, List.foldl_append]
  rfl

theorem reservations_concat (gateId : String) (files : SlotFiles) (calls : List SlotCall)
    (c : SlotCall) :
    reservations gateId files (calls ++ [c]) =
      reservations gateId files calls
        ++ (c.reservation (runSlots files calls) gateId).toList := by
  induction calls generalizing files with
  | nil => simp [reservations, runSlots]
  | cons first rest ih =>
      rw [List.cons_append, reservations, ih, reservations, List.append_assoc]
      rfl

/-- An invariant of the slot of a gate and of the attempts granted for it holds behind every run. -/
theorem runSlots_induct {gateId : String} {Inv : Option Mapping → List Mapping → Prop}
    (hinit : Inv none [])
    (hchange : ∀ {c old granted s attempts}, Inv old attempts → SlotChange gateId c old granted s →
      ValidSlot gateId s → Inv (some s) (attempts ++ granted.toList)) (calls : List SlotCall) :
    Inv (runSlots noSlots calls gateId) (reservations gateId noSlots calls) := by
  induction calls using List.reverseRecOn with
  | nil => exact hinit
  | append_singleton calls c ih =>
      rw [runSlots_concat, reservations_concat]
      rcases c.run_cases (runSlots noSlots calls) gateId with
        ⟨hsame, hnone⟩ | ⟨s, hnew, hstep, hvalid⟩
      · rw [hsame, hnone]
        simpa using ih
      · rw [hnew]
        exact hchange ih hstep (validSlot_of_validate hvalid).2

/-- What a run never takes back of the slot of a gate. -/
def SlotKept : Option Mapping → Option Mapping → Prop
  | none, _ => True
  | some s, some s' => SlotGrows s s'
  | some _, none => False

omit [Platform] in
theorem SlotKept.trans : ∀ {a b c : Option Mapping}, SlotKept a b → SlotKept b c → SlotKept a c
  | none, _, _, _, _ => trivial
  | some _, some _, some _, h, h' => SlotGrows.trans h h'

theorem SlotCall.run_kept (c : SlotCall) (files : SlotFiles) (gateId : String) :
    SlotKept (files gateId) ((c.run files).2 gateId) := by
  rcases c.run_cases files gateId with ⟨hsame, -⟩ | ⟨s', hnew, hstep, -⟩
  · rw [hsame]
    cases files gateId with
    | none => exact trivial
    | some s => exact SlotGrows.refl s
  · rw [hnew]
    cases hold : files gateId with
    | none => exact trivial
    | some s =>
        rw [hold] at hstep
        exact hstep.grows

/-- **Nothing that was published is taken back**: over any further calls the records of a gate grow
behind, its binding stays once it is set, and so does its task. -/
theorem slots_grow (files : SlotFiles) (calls : List SlotCall) (gateId : String) :
    SlotKept (files gateId) (runSlots files calls gateId) := by
  induction calls using List.reverseRecOn with
  | nil =>
      rw [runSlots, List.foldl_nil]
      cases files gateId with
      | none => exact trivial
      | some s => exact SlotGrows.refl s
  | append_singleton calls c ih =>
      rw [runSlots_concat]
      exact ih.trans (c.run_kept _ gateId)

/-- A slot that can be read can be read behind any further call. -/
theorem SlotCall.run_read {files : SlotFiles} {gateId : String} {s : Mapping}
    (h : readCodingExecutionState files gateId = .ok s) (c : SlotCall) :
    ∃ s', readCodingExecutionState (c.run files).2 gateId = .ok s' := by
  rcases c.run_cases files gateId with ⟨hsame, -⟩ | ⟨s', hnew, -, hvalid⟩
  · exact ⟨s, by simpa only [readCodingExecutionState, hsame] using h⟩
  · exact ⟨s', by simp only [readCodingExecutionState, hnew, expect_some_bind, hvalid]⟩

/-- **A record that was published is read back behind any further calls.** -/
theorem published_records_stay {files : SlotFiles} {gateId executionId record : Json}
    (h : readCodingExecutionRecord files gateId executionId = .ok record)
    (calls : List SlotCall) :
    readCodingExecutionRecord (runSlots files calls) gateId executionId = .ok record := by
  simp only [readCodingExecutionRecord, bind_eq_ok, expect_eq_ok] at h ⊢
  obtain ⟨execution, hexecution, gate, hgate, s, hread, hfind⟩ := h
  have hlater : ∃ s', readCodingExecutionState (runSlots files calls) gate = .ok s' := by
    induction calls using List.reverseRecOn with
    | nil => exact ⟨s, hread⟩
    | append_singleton calls c ih =>
        obtain ⟨s', hs'⟩ := ih
        rw [runSlots_concat]
        exact c.run_read hs'
  obtain ⟨s', hread'⟩ := hlater
  refine ⟨execution, hexecution, gate, hgate, s', hread', ?_⟩
  have hkept := slots_grow files calls gate
  rw [(readCodingExecutionState_eq_ok hread).1, (readCodingExecutionState_eq_ok hread').1] at hkept
  obtain ⟨later, hlater⟩ := hkept.records
  -- the record stands in front of the ones that were appended
  change (slotRecords s').find? _ = _
  rw [← hlater, List.find?_append]
  exact Option.or_eq_some_iff.mpr (.inl hfind)

/-- A slot that the unauthorised candidate was published to. -/
def sampleSlot : Mapping where
  entries :=
    [("active_candidate_id", .str "C"),
      ("gate_binding", (codingExecutionRecordBinding unauthorizedCandidate.toJson).toJson),
      ("gate_id", .str "G"), ("historical_candidate_ids", .arr []),
      ("records", .arr [unauthorizedCandidate.toJson]), ("remaining_attempts", .int 1),
      ("remediation_authorization_id", .null), ("reserved_attempt", .null),
      ("schema_version", .int 2), ("state", .str "FROZEN_REVIEW_V1"), ("task_id", .str "T")]
  sorted := codingExecutionStateFields_sorted

section Sample

omit [Platform]

/-- A field of a value without floats has no floats. -/
theorem Json.alike_field {v : Json} (h : v.alike v = true) (key : String) :
    (v.field key).alike (v.field key) = true := by
  have hlookup : ∀ members : List (String × Json), Json.alikeMembers members members = true →
      ((Mapping.lookup key members).getD .null).alike
        ((Mapping.lookup key members).getD .null) = true := by
    intro members
    induction members with
    | nil => intro _; rfl
    | cons member rest ih =>
        intro hmembers
        obtain ⟨hhead, htail⟩ := Bool.and_eq_true_iff.mp hmembers
        by_cases hkey : member.1 = key
        · rw [Mapping.lookup, if_pos hkey]
          exact hhead
        · rw [Mapping.lookup, if_neg hkey]
          exact ih htail
  cases hmapping : v.asMapping with
  | none => rw [Json.field, hmapping]; rfl
  | some data =>
      obtain rfl := Mapping.asMapping_eq_some.mp hmapping
      rw [Json.field_toJson]
      exact hlookup data.entries h

/-- The binding of a record without floats is equal to itself. -/
theorem codingExecutionRecordBinding_alike {record : Json} (h : record.alike record = true) :
    (codingExecutionRecordBinding record).toJson.alike
      (codingExecutionRecordBinding record).toJson = true := by
  simp [codingExecutionRecordBinding, Mapping.toJson, Json.alike, Json.alikeMembers,
    Json.alike_field h, Json.alike_field (Json.alike_field h _)]

theorem unauthorizedCandidate_get :
    unauthorizedCandidate.get "execution_id" = .str "E" ∧
      unauthorizedCandidate.get "gate_id" = .str "G" ∧
      unauthorizedCandidate.get "task_id" = .str "T" ∧
      unauthorizedCandidate.get "outcome" = .str "CANDIDATE_READY" := by
  simp [unauthorizedCandidate, unauthorizedRecord, Mapping.get, Mapping.lookup]

theorem sampleSlot_get :
    sampleSlot.get "gate_binding"
        = (codingExecutionRecordBinding unauthorizedCandidate.toJson).toJson ∧
      sampleSlot.get "gate_id" = .str "G" ∧ sampleSlot.get "task_id" = .str "T" ∧
      sampleSlot.get "reserved_attempt" = .null ∧
      sampleSlot.get "records" = .arr [unauthorizedCandidate.toJson] ∧
      sampleSlot.get "active_candidate_id" = .str "C" ∧
      sampleSlot.get "remaining_attempts" = .int 1 := by
  simp [sampleSlot, Mapping.get, Mapping.lookup]

/-- The slot passes the check. -/
theorem sampleSlot_checked :
    letI := foldingPlatform
    validateCodingExecutionState sampleSlot.toJson "G" = .ok sampleSlot := by
  let _ := foldingPlatform
  obtain ⟨hexecution, hgate, htask, houtcome⟩ := unauthorizedCandidate_get
  obtain ⟨hbinding, hslotGate, hslotTask, hfree, hrecords, hactive, hremaining⟩ := sampleSlot_get
  have hnumber : attemptNumber unauthorizedCandidate.toJson = .int 1 := by decide +kernel
  have hcandidate : candidateIds [unauthorizedCandidate.toJson] = [.str "C"] := by decide +kernel
  have hrecord : SlotRecord sampleSlot unauthorizedCandidate.toJson := by
    refine ⟨unauthorizedCandidate_accepted, ?_, ?_, .inr ⟨?_, ?_⟩⟩
    · rw [Json.field_toJson, hgate, hslotGate]
    · rw [Json.field_toJson, htask, hslotTask]
    · rw [hbinding]
      exact Mapping.toJson_ne_null _
    · rw [hbinding]
      exact Json.pyEq_self (codingExecutionRecordBinding_alike (by decide +kernel))
  have hidentity : checkSlotIdentity sampleSlot "G" = .ok () := by
    simp [checkSlotIdentity, sampleSlot, Mapping.get, Mapping.lookup, Mapping.keys,
      codingExecutionStateFields]
    exact ⟨rfl, ⟨"G", rfl⟩, ⟨"T", rfl⟩, rfl⟩
  have hbudget : checkSlotBudget sampleSlot = .ok () := by
    simp only [checkSlotBudget, bind_eq_ok, checkWhen_eq_ok, require_eq_ok, requireSlotMapping,
      hbinding, hremaining, Mapping.asMapping_toJson, expect_eq_ok]
    exact ⟨(), fun _ => ⟨_, rfl, rfl⟩, by simp⟩
  have hunfrozen : checkActiveCandidate sampleSlot = .ok () := by
    simp [checkActiveCandidate, sampleSlot, Mapping.get, Mapping.lookup]
    exact ⟨"C", rfl⟩
  have hhistorical : checkHistoricalCandidates sampleSlot = .ok [] := by
    simp [checkHistoricalCandidates, sampleSlot, Mapping.get, Mapping.lookup, Json.asStrings,
      Json.asList]
  have htotals : checkSlotTotals sampleSlot [unauthorizedCandidate.toJson] [] = .ok () := by
    simp [checkSlotTotals, recordedAttempts, hnumber, hfree, hremaining, hcandidate, hactive]
  have hlist : slotRecords sampleSlot = [unauthorizedCandidate.toJson] := by
    rw [slotRecords, hrecords]
    rfl
  apply validateCodingExecutionState_of_parts hidentity hbudget hunfrozen hhistorical hfree
  · rw [hlist, hrecords]
  · rw [hlist]
    simpa using hrecord
  · rw [hlist]
    exact htotals

/-- The record of the unauthorised candidate is read back when the candidate was retired. -/
theorem published_records_stay_retired :
    letI := foldingPlatform
    let files : SlotFiles := fun _ => some sampleSlot
    readCodingExecutionRecord files (.str "G") (.str "E") = .ok unauthorizedCandidate.toJson ∧
      readCodingExecutionRecord (runSlots files
        [.retireCandidate (.str "G") (.str "C") (.str "A")]) (.str "G") (.str "E")
          = .ok unauthorizedCandidate.toJson := by
  let _ := foldingPlatform
  have hread : readCodingExecutionRecord (fun _ => some sampleSlot) (.str "G") (.str "E")
      = .ok unauthorizedCandidate.toJson := by
    have hrecords : (sampleSlot.get "records").asList.getD [] = [unauthorizedCandidate.toJson] := by
      rw [sampleSlot_get.2.2.2.2.1]
      rfl
    simp only [readCodingExecutionRecord, readCodingExecutionState, bind_eq_ok, expect_eq_ok]
    refine ⟨"E", by rfl, "G", by rfl, sampleSlot, ⟨sampleSlot, rfl, sampleSlot_checked⟩, ?_⟩
    rw [hrecords]
    apply List.find?_cons_of_pos
    rw [Json.field_toJson, unauthorizedCandidate_get.1]
    decide
  exact ⟨hread, published_records_stay hread _⟩

end Sample

end Acgps
