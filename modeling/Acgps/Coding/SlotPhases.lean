import Acgps.Coding.SlotRuns

/-!
# What a gate is for

A gate grants two attempts at most, and has a first candidate and one that remedies it at most. The
slot, its reservations and its records refine this, whatever the calls are.

## Main Definitions

* `SlotBudget` - what the attempts granted for a gate have to do with its slot
* `GateLedger` - the records of attempts against the attempts that were granted
* `GatePhase` - the phases of a gate, with what each of them shows in a slot
* `GateInPhase` - the slot of a gate is in a phase

## Key Theorems

* `attempts_within_budget` - **two attempts at most, the second of them perhaps a remediation**
* `attempts_recorded_once` - **every attempt is recorded once, or it is still reserved**
* `gate_phases` - **every call moves a gate along its phases**
-/

namespace Acgps

open Checked

variable [Platform]

/-! ## Section 1: The budget -/

/-- A reservation is for an ordinary attempt, or for the second one in remedy of a candidate. -/
inductive GrantedKind (number : Nat) (reservation : Mapping) (slot : Option Mapping) : Prop
  | ordinary (hkind : reservation.get "kind" = .str "ORDINARY")
      (hparent : reservation.get "parent_candidate_id" = .null)
  | remediation (parent : String) (hkind : reservation.get "kind" = .str "REMEDIATION")
      (hnumber : number = 2) (hparent : reservation.get "parent_candidate_id" = .str parent)
      (hhistorical : ∀ s, slot = some s → s.get "historical_candidate_ids" = .arr [.str parent])

/-- What the attempts granted for a gate have to do with its slot. -/
structure SlotBudget (slot : Option Mapping) (attempts : List Mapping) : Prop where
  atMost : attempts.length ≤ 2
  taken : ∀ s, slot = some s → attemptsTaken s = attempts.length
  absent : slot = none → attempts = []
  granted : ∀ number reservation, attempts[number]? = some reservation →
    reservation.get "number" = .int (number + 1) ∧ GrantedKind (number + 1) reservation slot
  retired : ∀ s, slot = some s → s.get "historical_candidate_ids" = .arr [] ∨
    ∃ parent, s.get "historical_candidate_ids" = .arr [.str parent]

/-- Two slots with the same budget have given away as many attempts. -/
theorem ValidSlot.taken_eq {gateId : String} {s s' : Mapping} (h : ValidSlot gateId s)
    (h' : ValidSlot gateId s') (hsame : s'.get "remaining_attempts" = s.get "remaining_attempts") :
    attemptsTaken s' = attemptsTaken s := by
  rw [h.remaining, h'.remaining, Json.int.injEq] at hsame
  omega

/-- An attempt is of a kind that its slot admits. -/
theorem requireAttemptKind_eq_ok {gateId : String} {s : Mapping} {kind parent : Json}
    (hvalid : ValidSlot gateId s) (h : requireAttemptKind s kind parent = .ok ())
    (hretired : s.get "historical_candidate_ids" = .arr [] ∨
      ∃ candidate, s.get "historical_candidate_ids" = .arr [.str candidate]) :
    (kind = .str "ORDINARY" ∧ parent = .null) ∨
      ∃ candidate, kind = .str "REMEDIATION" ∧ parent = .str candidate ∧ attemptsTaken s = 1 ∧
        s.get "historical_candidate_ids" = .arr [.str candidate] := by
  unfold requireAttemptKind at h
  split at h
  next hkind => exact .inl ⟨hkind, (require_eq_ok.mp h).2⟩
  next =>
    split at h
    next hkind =>
      obtain ⟨-, hremaining, hparent, -⟩ := require_eq_ok.mp h
      have htaken := hvalid.remaining.symm.trans hremaining
      rw [Json.int.injEq] at htaken
      rcases hretired with hnone | ⟨candidate, hone⟩
      · simp [hnone, Json.asList] at hparent
      · rw [hone] at hparent
        exact .inr ⟨candidate, hkind, by simpa [Json.asList] using hparent, by omega, hone⟩
    next => cases h

omit [Platform] in
/-- What was granted stays granted while the retired candidate stays. -/
theorem GrantedKind.mono {number : Nat} {reservation : Mapping} {slot : Option Mapping}
    {s' : Mapping} (h : GrantedKind number reservation slot)
    (hsame : ∀ {candidate},
      (∀ s, slot = some s → s.get "historical_candidate_ids" = .arr [.str candidate]) →
      s'.get "historical_candidate_ids" = .arr [.str candidate]) :
    GrantedKind number reservation (some s') := by
  cases h with
  | ordinary hkind hparent => exact .ordinary hkind hparent
  | remediation parent hkind hnumber hparent hhistorical =>
      refine .remediation parent hkind hnumber hparent (fun s hs => ?_)
      obtain rfl := Option.some.inj hs
      exact hsame hhistorical

/-- A change that grants nothing keeps the budget. -/
theorem SlotBudget.keep {gateId : String} {s s' : Mapping} {attempts : List Mapping}
    (h : SlotBudget (some s) attempts) (hvalid : ValidSlot gateId s) (hvalid' : ValidSlot gateId s')
    (hremaining : s'.get "remaining_attempts" = s.get "remaining_attempts")
    (hhistorical : s'.get "historical_candidate_ids" = s.get "historical_candidate_ids") :
    SlotBudget (some s') attempts where
  atMost := h.atMost
  taken := by
    rintro _ ⟨⟩
    rw [hvalid.taken_eq hvalid' hremaining]
    exact h.taken s rfl
  absent := by simp
  granted := fun number reservation hgranted =>
    ⟨(h.granted number reservation hgranted).1, (h.granted number reservation hgranted).2.mono
      (fun hall => hhistorical.trans (hall s rfl))⟩
  retired := by
    rintro _ ⟨⟩
    rw [hhistorical]
    exact h.retired s rfl

/-- **A change of a slot keeps to the budget.** -/
theorem SlotBudget.step {gateId : String} {c : SlotCall} {old granted : Option Mapping}
    {s' : Mapping} {attempts : List Mapping} (h : SlotBudget old attempts)
    (hchange : SlotChange gateId c old granted s') (hvalid' : ValidSlot gateId s') :
    SlotBudget (some s') (attempts ++ granted.toList) := by
  cases hchange with
  | created taskId =>
      obtain rfl := h.absent rfl
      refine ⟨by simp, ?_, by simp, by simp, ?_⟩
      · rintro _ ⟨⟩
        rfl
      · rintro _ ⟨⟩
        exact .inl rfl
  | @reserved gate kind parent time s hvalid hfree hleft hkind =>
      have htaken := h.taken s rfl
      have hkeys := hvalid.keys.set "remaining_attempts" (.int (2 - attemptsTaken s - 1))
      have hhistorical : ∀ reservation : Mapping,
          ((s.set "remaining_attempts" (.int (2 - attemptsTaken s - 1))).set "reserved_attempt"
            reservation.toJson).get "historical_candidate_ids"
            = s.get "historical_candidate_ids" := by
        intro reservation
        rw [hkeys.get_set (by decide), if_neg (by decide), hvalid.keys.get_set (by decide),
          if_neg (by decide)]
      refine ⟨by simp; omega, ?_, by simp, ?_, ?_⟩
      · rintro _ ⟨⟩
        have hremaining := hvalid'.remaining
        rw [hkeys.get_set (by decide), if_neg (by decide), hvalid.keys.get_set (by decide),
          if_pos rfl, Json.int.injEq] at hremaining
        simp only [Option.toList_some, List.length_append, List.length_singleton]
        omega
      · intro number reservation hmem
        by_cases hlt : number < attempts.length
        · rw [List.getElem?_append_left hlt] at hmem
          obtain ⟨hnumber, hgranted⟩ := h.granted number reservation hmem
          exact ⟨hnumber, hgranted.mono (fun hall => (hhistorical _).trans (hall s rfl))⟩
        · rw [List.getElem?_append_right (by omega), Option.toList_some,
            List.getElem?_singleton] at hmem
          obtain ⟨hzero, rfl⟩ : number - attempts.length = 0 ∧
              nextReservation (2 - attemptsTaken s) kind parent time = reservation := by
            simpa using hmem
          have hnumber : number = attemptsTaken s := by omega
          subst hnumber
          refine ⟨?_, ?_⟩
          · show Json.int (3 - (2 - attemptsTaken s)) = _
            rw [Json.int.injEq]
            omega
          · -- the new attempt is of the kind that its call has asked for
            rcases requireAttemptKind_eq_ok hvalid hkind (h.retired s rfl) with
              ⟨rfl, rfl⟩ | ⟨candidate, rfl, rfl, hone, hretired⟩
            · exact .ordinary rfl rfl
            · refine .remediation candidate rfl (by omega) rfl ?_
              rintro _ ⟨⟩
              exact (hhistorical _).trans hretired
      · rintro _ ⟨⟩
        rw [hhistorical]
        exact h.retired s rfl
  | @retired gate candidate authorization s candidateId authorizationId hvalid hstate hactive
      htaken hfree hhistorical =>
      have hkeys := ((hvalid.keys.set "state" (.str "EMPTY_FOR_REMEDIATION")).set
        "active_candidate_id" .null)
      have hkeys' := hkeys.set "historical_candidate_ids" (.arr [.str candidateId])
      rw [Option.toList_none, List.append_nil]
      refine ⟨h.atMost, ?_, by simp, ?_, ?_⟩
      · rintro _ ⟨⟩
        rw [hvalid.taken_eq hvalid' ?_]
        · exact h.taken s rfl
        · rw [hkeys'.get_set (by decide), if_neg (by decide), hkeys.get_set (by decide),
            if_neg (by decide), (hvalid.keys.set _ _).get_set (by decide), if_neg (by decide),
            hvalid.keys.get_set (by decide), if_neg (by decide)]
      · intro number reservation hgranted
        refine ⟨(h.granted number reservation hgranted).1,
          (h.granted number reservation hgranted).2.mono (fun hall => ?_)⟩
        -- no candidate was retired before
        have hnone := hhistorical.symm.trans (hall s rfl)
        simp at hnone
      · rintro _ ⟨⟩
        refine .inr ⟨candidateId, ?_⟩
        rw [hkeys'.get_set (by decide), if_neg (by decide), hkeys.get_set (by decide), if_pos rfl]
  | held hvalid haccepted houtcome hfree =>
      rw [Option.toList_none, List.append_nil]
      exact h.keep hvalid hvalid' (get_appendRecord hvalid.keys _ (by decide))
        (get_appendRecord hvalid.keys _ (by decide))
  | finished hvalid haccepted houtcome hbound hreserved hinstalled =>
      have hfinished := finishedSlot hvalid.keys hbound hinstalled
      rw [Option.toList_none, List.append_nil]
      exact h.keep hvalid hvalid' (hfinished.same _ (by simp)) (hfinished.same _ (by simp))

/-- **Two attempts at most are ever granted for a gate**, numbered in order; the second one may be
the remediation of the candidate that was retired, and no other is. -/
theorem attempts_within_budget (calls : List SlotCall) (gateId : String) :
    SlotBudget (runSlots noSlots calls gateId) (reservations gateId noSlots calls) :=
  runSlots_induct ⟨by simp, by simp, by simp, by simp, by simp⟩
    (fun h hchange hvalid => h.step hchange hvalid) calls

/-! ## Section 2: The ledger of the attempts -/

/-- A record is of an attempt that was granted. -/
def RecordOf (record : Json) (reservation : Mapping) : Prop :=
  ∀ field ∈ reservationFieldNames,
    ((record.field "attempt").field field).pyEq (reservation.get field) = true

omit [Platform] in
/-- The records of attempts, among all records. -/
def attemptRecords (records : List Json) : List Json :=
  records.filter (fun record => attemptNumber record ≠ .null)

/-- The attempts that were granted are those that the records are of, in order, and behind them the
one that is reserved. -/
inductive SlotLedger (s : Mapping) (attempts : List Mapping) : Prop
  | free (hfree : s.get "reserved_attempt" = .null)
      (hrecorded : List.Forall₂ RecordOf (attemptRecords (slotRecords s)) attempts)
  | reserved (consumed : List Mapping) (reservation : Mapping)
      (hreserved : s.get "reserved_attempt" = reservation.toJson)
      (hrecorded : List.Forall₂ RecordOf (attemptRecords (slotRecords s)) consumed)
      (hattempts : attempts = consumed ++ [reservation])

/-- The ledger only looks at the records and at the reservation. -/
theorem SlotLedger.of_get {s s' : Mapping} {attempts : List Mapping} (h : SlotLedger s attempts)
    (hrecords : s'.get "records" = s.get "records")
    (hreserved : s'.get "reserved_attempt" = s.get "reserved_attempt") :
    SlotLedger s' attempts := by
  have hsame := slotRecords_eq_of_get hrecords
  cases h with
  | free hfree hrecorded => exact .free (hreserved.trans hfree) (hsame ▸ hrecorded)
  | reserved consumed reservation hold hrecorded hattempts =>
      exact .reserved consumed reservation (hreserved.trans hold) (hsame ▸ hrecorded) hattempts

omit [Platform] in
theorem recordedAttempts_eq (records : List Json) :
    recordedAttempts records = (attemptRecords records).length := rfl

omit [Platform] in
theorem attemptRecords_concat (records : List Json) (record : Json) :
    attemptRecords (records ++ [record]) = attemptRecords records
      ++ if attemptNumber record = .null then [] else [record] := by
  rw [attemptRecords, List.filter_append, attemptRecords]
  by_cases hnumber : attemptNumber record = .null <;> simp [hnumber]

/-- What `requireReserved` establishes. -/
theorem requireReserved_eq_ok {s : Mapping} {record : Json}
    (h : requireReserved s record = .ok ()) :
    (∃ reservation : Mapping, s.get "reserved_attempt" = reservation.toJson ∧
      RecordOf record reservation) ∧
    (record.field "slot").field "state_before" = s.get "state" ∧
    (record.field "slot").field "active_candidate_before" = s.get "active_candidate_id" ∧
    (record.field "slot").field "historical_candidate_ids"
      = s.get "historical_candidate_ids" := by
  simp only [requireReserved, bind_eq_ok, expect_eq_ok, Mapping.asMapping_eq_some, forM_eq_ok_iff,
    require_eq_ok] at h
  obtain ⟨reservation, hreserved, _, hfields, hslot⟩ := h
  exact ⟨⟨reservation, hreserved, hfields⟩, hslot⟩

/-- **A change of a slot keeps the ledger.** -/
theorem SlotLedger.step {gateId : String} {c : SlotCall} {granted : Option Mapping}
    {s s' : Mapping} {attempts : List Mapping} (h : SlotLedger s attempts)
    (hchange : SlotChange gateId c (some s) granted s') (hvalid' : ValidSlot gateId s') :
    SlotLedger s' (attempts ++ granted.toList) := by
  cases hchange with
  | @reserved gate kind parent time _ hvalid hfree hleft hkind =>
      have hkeys := hvalid.keys.set "remaining_attempts" (.int (2 - attemptsTaken s - 1))
      have hrecorded : List.Forall₂ RecordOf (attemptRecords (slotRecords s)) attempts := by
        cases h with
        | free _ hrecorded => exact hrecorded
        | reserved consumed reservation hold _ _ =>
            rw [hfree] at hold
            exact absurd hold.symm reservation.toJson_ne_null
      refine .reserved attempts _ ?_ ?_ rfl
      · rw [hkeys.get_set (by decide), if_pos rfl]
      · rw [slotRecords_eq_of_get (s := s) ?_]
        · exact hrecorded
        · rw [hkeys.get_set (by decide), if_neg (by decide), hvalid.keys.get_set (by decide),
            if_neg (by decide)]
  | retired candidateId authorizationId hvalid hstate hactive htaken hfree hhistorical =>
      have hkeys := hvalid.keys.set "state" (.str "EMPTY_FOR_REMEDIATION")
      have hkeys' := hkeys.set "active_candidate_id" .null
      have hkeys'' := hkeys'.set "historical_candidate_ids" (.arr [.str candidateId])
      rw [Option.toList_none, List.append_nil]
      apply h.of_get
      all_goals rw [hkeys''.get_set (by decide), if_neg (by decide), hkeys'.get_set (by decide),
        if_neg (by decide), hkeys.get_set (by decide), if_neg (by decide),
        hvalid.keys.get_set (by decide), if_neg (by decide)]
  | @held record _ hvalid haccepted houtcome hfree =>
      rw [Option.toList_none, List.append_nil]
      have hreserved : (appendRecord s record).get "reserved_attempt" = .null :=
        (get_appendRecord hvalid.keys _ (by decide)).trans hfree
      have htaken := hvalid.taken_eq hvalid' (get_appendRecord hvalid.keys _ (by decide))
      rw [attemptsTaken, attemptsTaken, hreserved, hfree, slotRecords_appendRecord hvalid.keys,
        recordedAttempts_eq, attemptRecords_concat] at htaken
      cases h with
      | free _ hrecorded =>
          refine .free hreserved ?_
          rw [slotRecords_appendRecord hvalid.keys, attemptRecords_concat]
          -- the budget is what it was, so the record is of no attempt
          by_cases hnumber : attemptNumber record = .null
          · simpa [hnumber] using hrecorded
          · simp [hnumber, recordedAttempts_eq] at htaken
      | reserved consumed reservation hold _ _ =>
          rw [hfree] at hold
          exact absurd hold.symm reservation.toJson_ne_null
  | @finished record _ bound installed hvalid haccepted houtcome hbound hreserved hinstalled =>
      have hfinished := finishedSlot hvalid.keys hbound hinstalled
      obtain ⟨-, hboundSame, -⟩ := bindGate_eq_ok hvalid.keys hbound
      obtain ⟨⟨reservation, hstored, hrecord⟩, -⟩ := requireReserved_eq_ok hreserved
      rw [hboundSame _ (by decide)] at hstored
      rw [Option.toList_none, List.append_nil]
      have htaken := hvalid.taken_eq hvalid' (hfinished.same _ (by simp))
      rw [attemptsTaken, attemptsTaken, hfinished.free, hstored, hfinished.records,
        recordedAttempts_eq, attemptRecords_concat] at htaken
      cases h with
      | free hfree _ =>
          rw [hfree] at hstored
          exact absurd hstored.symm reservation.toJson_ne_null
      | reserved consumed reservation' hold hrecorded hattempts =>
          obtain rfl := Mapping.toJson_injective (hstored.symm.trans hold)
          refine .free hfinished.free ?_
          rw [hfinished.records, attemptRecords_concat, hattempts]
          -- the budget is what it was, so the record is of the attempt that was reserved
          by_cases hnumber : attemptNumber record = .null
          · simp [hnumber, recordedAttempts_eq] at htaken
          · rw [if_neg hnumber]
            exact List.rel_append hrecorded (.cons hrecord .nil)

/-- The ledger of a gate, which is empty while it has no slot. -/
def GateLedger : Option Mapping → List Mapping → Prop
  | none, attempts => attempts = []
  | some s, attempts => SlotLedger s attempts

/-- **Every attempt that is granted is recorded once, or it is still reserved**: the records of
attempts are those of the granted ones, in order, and publishing one is what frees it. -/
theorem attempts_recorded_once (calls : List SlotCall) (gateId : String) :
    GateLedger (runSlots noSlots calls gateId) (reservations gateId noSlots calls) := by
  refine @runSlots_induct _ gateId GateLedger rfl ?_ calls
  intro c old granted s attempts h hchange hvalid
  cases old with
  | none =>
      cases hchange with
      | created taskId =>
          obtain rfl : attempts = [] := h
          exact .free rfl .nil
  | some s => exact SlotLedger.step h hchange hvalid

/-! ## Section 3: The phases of a gate -/

/-- What a gate is for: a first candidate is frozen for review, it may be retired, and then one
candidate may remedy it. -/
inductive GatePhase where
  | absent
  | empty
  | frozen (first : String)
  | retired (first : String)
  | remedied (first second : String)

namespace GatePhase

/-- What one call may do to the phase of a gate. -/
inductive Moves : GatePhase → GatePhase → Prop
  | stay (phase : GatePhase) : Moves phase phase
  | opens : Moves absent empty
  | freezes (first : String) : Moves empty (frozen first)
  | retires (first : String) : Moves (frozen first) (retired first)
  | remedies (first second : String) : Moves (retired first) (remedied first second)

/-- The state of the slot in a phase. -/
def slotState : GatePhase → String
  | absent | empty => "EMPTY"
  | frozen _ => "FROZEN_REVIEW_V1"
  | retired _ => "EMPTY_FOR_REMEDIATION"
  | remedied _ _ => "FROZEN_REVIEW_V2"

/-- The candidate under review in a phase. -/
def active : GatePhase → Json
  | absent | empty | retired _ => .null
  | frozen first => .str first
  | remedied _ second => .str second

/-- The candidates that were retired before a phase. -/
def historical : GatePhase → List String
  | absent | empty | frozen _ => []
  | retired first | remedied first _ => [first]

/-- The candidates of a phase: identity, version and parent of each. -/
def candidates : GatePhase → List (Json × Json × Json)
  | absent | empty => []
  | frozen first | retired first => [(.str first, .int 1, .null)]
  | remedied first second => [(.str first, .int 1, .null), (.str second, .int 2, .str first)]

end GatePhase

/-- Identity, version and parent of the candidate of a record. -/
def candidateLineage (record : Json) : Json × Json × Json :=
  ((record.field "candidate").field "candidate_id", (record.field "candidate").field "version",
    (record.field "candidate").field "parent_candidate_id")

/-- A slot is in a phase. -/
structure InPhase (s : Mapping) (phase : GatePhase) : Prop where
  state : s.get "state" = .str phase.slotState
  active : s.get "active_candidate_id" = phase.active
  historical : s.get "historical_candidate_ids" = Json.strs phase.historical
  candidates : (candidateRecords (slotRecords s)).map candidateLineage = phase.candidates

/-- The slot of a gate is in a phase. -/
def GateInPhase : Option Mapping → GatePhase → Prop
  | none, phase => phase = .absent
  | some s, phase => phase ≠ .absent ∧ InPhase s phase

/-- What the contract says of a record with a candidate: it has no version, it is the first
candidate of an empty slot, or it remedies the only one that was retired. -/
inductive CandidateForm (record : Json) : Prop
  | unversioned (hversion : (record.field "candidate").field "version" = .null)
  | first (hversion : (record.field "candidate").field "version" = .int 1)
      (hparent : (record.field "candidate").field "parent_candidate_id" = .null)
      (hstate : (record.field "slot").field "state_before" = .str "EMPTY")
  | second (parent : String) (hversion : (record.field "candidate").field "version" = .int 2)
      (hparent : (record.field "candidate").field "parent_candidate_id" = .str parent)
      (hstate : (record.field "slot").field "state_before" = .str "EMPTY_FOR_REMEDIATION")
      (hhistorical : (record.field "slot").field "historical_candidate_ids"
        = .arr [.str parent])

/-- **The form of a candidate that the contract accepts.** -/
theorem candidateForm {record : Json} (h : validateCodingExecutionRecord record = .ok ())
    (houtcome : record.field "outcome" = .str "CANDIDATE_READY") : CandidateForm record := by
  obtain ⟨data, rfl, haccepted⟩ := validateCodingExecutionRecord_eq_ok_iff.mp h
  rw [Json.field_toJson] at houtcome
  obtain ⟨hready, -⟩ := haccepted.promotionReady houtcome
  obtain ⟨candidate, hcandidate⟩ := hready.exists_part (show "candidate" ∈ promotionParts by
    simp [promotionParts])
  obtain ⟨slot, hslot⟩ := hready.exists_part (show "slot" ∈ promotionParts by
    simp [promotionParts])
  have hstatus := hready.candidateStatus
  rw [recordField, hcandidate, Json.field_toJson] at hstatus
  have hissues := haccepted.candidate
  simp only [codingCandidateIssues, whenMapping, hcandidate, hslot, Mapping.asMapping_toJson,
    hstatus, if_true, List.append_eq_nil_iff, issueUnless_eq_nil] at hissues
  obtain ⟨⟨-, hfirst⟩, hsecond⟩ := hissues
  have hversion := (haccepted.part_accepts (show (("candidate", .nested codingCandidateFields) :
    String × FieldSpec) ∈ codingExecutionFields by simp [codingExecutionFields])
    (List.cons_ne_nil _ _) hcandidate (show (("version", .oneOf [.int, .none]
      [.null, .int 1, .int 2]) : String × FieldSpec) ∈ codingCandidateFields by
        simp [codingCandidateFields])).value_ok _ rfl
  simp only [List.mem_cons, List.not_mem_nil, or_false] at hversion
  rcases hversion with hnull | hone | htwo
  · exact .unversioned (by rw [Json.field_toJson, hcandidate, Json.field_toJson, hnull])
  · simp only [hone, decide_true, Bool.not_true, Bool.false_or, Bool.and_eq_true,
      decide_eq_true_eq, and_assoc] at hfirst
    refine .first ?_ ?_ ?_
    · rw [Json.field_toJson, hcandidate, Json.field_toJson, hone]
    · rw [Json.field_toJson, hcandidate, Json.field_toJson, hfirst.1]
    · rw [Json.field_toJson, hslot, Json.field_toJson, hfirst.2.1]
  · simp only [htwo, decide_true, Bool.not_true, Bool.false_or, Bool.and_eq_true,
      decide_eq_true_eq, and_assoc] at hsecond
    obtain ⟨hparent, -, -, -, hstate, -, hhistorical⟩ := hsecond
    obtain ⟨parent, hparent⟩ := Option.isSome_iff_exists.mp hparent
    rw [Json.asStr_eq_some] at hparent
    refine .second parent ?_ ?_ ?_ ?_
    · rw [Json.field_toJson, hcandidate, Json.field_toJson, htwo]
    · rw [Json.field_toJson, hcandidate, Json.field_toJson, hparent]
    · rw [Json.field_toJson, hslot, Json.field_toJson, hstate]
    · rw [Json.field_toJson, hslot, Json.field_toJson, hhistorical, hparent]

omit [Platform] in
theorem candidateRecords_concat (records : List Json) (record : Json) :
    candidateRecords (records ++ [record]) = candidateRecords records
      ++ if record.field "outcome" = .str "CANDIDATE_READY" then [record] else [] := by
  rw [candidateRecords, List.filter_append, candidateRecords]
  by_cases houtcome : record.field "outcome" = .str "CANDIDATE_READY" <;> simp [houtcome]

omit [Platform] in
/-- A slot with the same state, candidates and records is in the same phase. -/
theorem InPhase.of_get {s s' : Mapping} {phase : GatePhase} (h : InPhase s phase)
    (hsame : ∀ field ∈ ["state", "active_candidate_id", "historical_candidate_ids"],
      s'.get field = s.get field)
    (hrecords : candidateRecords (slotRecords s') = candidateRecords (slotRecords s)) :
    InPhase s' phase where
  state := (hsame _ (by simp)).trans h.state
  active := (hsame _ (by simp)).trans h.active
  historical := (hsame _ (by simp)).trans h.historical
  candidates := by rw [hrecords, h.candidates]

/-- The phase behind the record of a candidate. -/
theorem InPhase.install {gateId : String} {s s' : Mapping} {record : Json} {phase : GatePhase}
    (h : InPhase s phase) (hpresent : phase ≠ .absent) (hvalid' : ValidSlot gateId s')
    (hfinished : FinishedSlot s s' record) (hform : CandidateForm record)
    (houtcome : record.field "outcome" = .str "CANDIDATE_READY")
    (hstate : (record.field "slot").field "state_before" = s.get "state")
    (hhistorical : (record.field "slot").field "historical_candidate_ids"
      = s.get "historical_candidate_ids") :
    ∃ phase', phase' ≠ .absent ∧ InPhase s' phase' ∧ GatePhase.Moves phase phase' := by
  obtain ⟨hnewState, hnewActive⟩ := if_pos houtcome ▸ hfinished.installed
  have hold := h.historical
  have hlineage : (candidateRecords (slotRecords s')).map candidateLineage
      = phase.candidates ++ [candidateLineage record] := by
    rw [hfinished.records, candidateRecords_concat, if_pos houtcome, List.map_append, h.candidates]
    rfl
  rw [h.state] at hstate
  cases hform with
  | unversioned hversion =>
      -- the check knows no state of a candidate without a version
      obtain ⟨name, hname, hsame⟩ := hvalid'.state
      rw [hnewState, hversion, Json.str.injEq] at hsame
      rw [← hsame] at hname
      exact absurd hname (by decide)
  | first hversion hparent hbefore =>
      rw [hversion] at hnewState
      obtain ⟨first, hactive⟩ := hvalid'.frozen (.inl hnewState)
      rw [hbefore, Json.str.injEq] at hstate
      cases phase with
      | absent => exact absurd rfl hpresent
      | empty =>
          refine ⟨.frozen first, by simp, ⟨hnewState, hactive, ?_, ?_⟩, .freezes first⟩
          · rw [hfinished.same _ (by simp), hold]
            rfl
          · rw [hlineage, candidateLineage, hversion, hparent, ← hnewActive, hactive]
            rfl
      | frozen | retired | remedied => exact absurd hstate (by simp [GatePhase.slotState])
  | second parent hversion hparent hbefore hretired =>
      rw [hversion] at hnewState
      obtain ⟨second, hactive⟩ := hvalid'.frozen (.inr hnewState)
      rw [hbefore, Json.str.injEq] at hstate
      cases phase with
      | retired first =>
          rw [hretired, hold] at hhistorical
          obtain rfl : parent = first := by
            simpa [GatePhase.historical, Json.strs] using hhistorical
          refine ⟨.remedied parent second, by simp, ⟨hnewState, hactive, ?_, ?_⟩,
            .remedies parent second⟩
          · rw [hfinished.same _ (by simp), hold]
            rfl
          · rw [hlineage, candidateLineage, hversion, hparent, ← hnewActive, hactive]
            rfl
      | absent => exact absurd rfl hpresent
      | empty | frozen | remedied => exact absurd hstate (by simp [GatePhase.slotState])

/-- **A change of a slot is a move of its phase.** -/
theorem InPhase.step {gateId : String} {c : SlotCall} {granted : Option Mapping} {s s' : Mapping}
    {phase : GatePhase} (h : InPhase s phase) (hpresent : phase ≠ .absent)
    (hchange : SlotChange gateId c (some s) granted s') (hvalid' : ValidSlot gateId s') :
    ∃ phase', phase' ≠ .absent ∧ InPhase s' phase' ∧ GatePhase.Moves phase phase' := by
  cases hchange with
  | @reserved gate kind parent time _ hvalid hfree hleft hkind =>
      have hkeys := hvalid.keys.set "remaining_attempts" (.int (2 - attemptsTaken s - 1))
      have hsame : ∀ field ∈
          ["state", "active_candidate_id", "historical_candidate_ids", "records"],
          ((s.set "remaining_attempts" (.int (2 - attemptsTaken s - 1))).set "reserved_attempt"
            (nextReservation (2 - attemptsTaken s) kind parent time).toJson).get field
            = s.get field := by
        intro field hfield
        simp only [List.mem_cons, List.not_mem_nil, or_false] at hfield
        rcases hfield with rfl | rfl | rfl | rfl
        all_goals rw [hkeys.get_set (by decide), if_neg (by decide),
          hvalid.keys.get_set (by decide), if_neg (by decide)]
      refine ⟨phase, hpresent, h.of_get (fun field hfield => hsame field ?_) ?_, .stay phase⟩
      · exact List.mem_of_mem_dropLast (l := ["state", "active_candidate_id",
          "historical_candidate_ids", "records"]) hfield
      · rw [slotRecords_eq_of_get (hsame _ (by simp))]
  | @retired gate candidate authorization _ candidateId authorizationId hvalid hstate hactive htaken
      hfree hhistorical =>
      have hkeys := hvalid.keys.set "state" (.str "EMPTY_FOR_REMEDIATION")
      have hkeys' := hkeys.set "active_candidate_id" .null
      have hkeys'' := hkeys'.set "historical_candidate_ids" (.arr [.str candidateId])
      have hphase := h.state.symm.trans hstate
      rw [Json.str.injEq] at hphase
      cases phase with
      | frozen first =>
          obtain rfl : first = candidateId := by
            simpa [GatePhase.active] using h.active.symm.trans hactive
          refine ⟨.retired first, by simp, ⟨?_, ?_, ?_, ?_⟩, .retires first⟩
          · rw [hkeys''.get_set (by decide), if_neg (by decide), hkeys'.get_set (by decide),
              if_neg (by decide), hkeys.get_set (by decide), if_neg (by decide),
              hvalid.keys.get_set (by decide), if_pos rfl]
            rfl
          · rw [hkeys''.get_set (by decide), if_neg (by decide), hkeys'.get_set (by decide),
              if_neg (by decide), hkeys.get_set (by decide), if_pos rfl]
            rfl
          · rw [hkeys''.get_set (by decide), if_neg (by decide), hkeys'.get_set (by decide),
              if_pos rfl]
            rfl
          · rw [slotRecords_eq_of_get (s := s) ?_, h.candidates]
            · rfl
            · rw [hkeys''.get_set (by decide), if_neg (by decide), hkeys'.get_set (by decide),
                if_neg (by decide), hkeys.get_set (by decide), if_neg (by decide),
                hvalid.keys.get_set (by decide), if_neg (by decide)]
      | absent | empty | retired | remedied => simp [GatePhase.slotState] at hphase
  | @held record _ hvalid haccepted houtcome hfree =>
      refine ⟨phase, hpresent, h.of_get (fun field hfield => ?_) ?_, .stay phase⟩
      · apply get_appendRecord hvalid.keys
        rintro rfl
        simp at hfield
      · rw [slotRecords_appendRecord hvalid.keys, candidateRecords_concat, if_neg (by
          rw [houtcome]; decide), List.append_nil]
  | @finished record _ bound installed hvalid haccepted houtcome hbound hreserved hinstalled =>
      have hfinished := finishedSlot hvalid.keys hbound hinstalled
      by_cases hready : record.field "outcome" = .str "CANDIDATE_READY"
      · obtain ⟨-, hboundSame, -⟩ := bindGate_eq_ok hvalid.keys hbound
        obtain ⟨-, hstate, -, hhistorical⟩ := requireReserved_eq_ok hreserved
        rw [hboundSame _ (by decide)] at hstate hhistorical
        exact h.install hpresent hvalid' hfinished (candidateForm haccepted hready) hready hstate
          hhistorical
      · obtain ⟨hstate, hactive⟩ := if_neg hready ▸ hfinished.installed
        refine ⟨phase, hpresent, h.of_get (fun field hfield => ?_) ?_, .stay phase⟩
        · simp only [List.mem_cons, List.not_mem_nil, or_false] at hfield
          rcases hfield with rfl | rfl | rfl
          · exact hstate
          · exact hactive
          · exact hfinished.same _ (by simp)
        · rw [hfinished.records, candidateRecords_concat, if_neg hready, List.append_nil]

/-- A call moves the phase of a gate. -/
theorem GateInPhase.run {files : SlotFiles} {gateId : String} {phase : GatePhase}
    (h : GateInPhase (files gateId) phase) (c : SlotCall) :
    ∃ phase', GateInPhase ((c.run files).2 gateId) phase' ∧ GatePhase.Moves phase phase' := by
  rcases c.run_cases files gateId with ⟨hsame, -⟩ | ⟨s', hnew, hchange, hvalid⟩
  · exact ⟨phase, by rwa [hsame], .stay phase⟩
  · rw [hnew]
    cases hold : files gateId with
    | none =>
        rw [hold] at h hchange
        obtain rfl : phase = .absent := h
        cases hchange with
        | created taskId =>
            exact ⟨.empty, ⟨by simp, rfl, rfl, rfl, rfl⟩, .opens⟩
    | some s =>
        rw [hold] at h hchange
        obtain ⟨phase', hpresent', hphase', hmoves⟩ :=
          InPhase.step h.2 h.1 hchange (validSlot_of_validate hvalid).2
        exact ⟨phase', ⟨hpresent', hphase'⟩, hmoves⟩

/-- Behind every run the slot of a gate is in a phase. -/
theorem exists_gateInPhase (calls : List SlotCall) (gateId : String) :
    ∃ phase, GateInPhase (runSlots noSlots calls gateId) phase := by
  induction calls using List.reverseRecOn with
  | nil => exact ⟨.absent, rfl⟩
  | append_singleton calls c ih =>
      obtain ⟨phase, hphase⟩ := ih
      obtain ⟨phase', hphase', -⟩ := hphase.run c
      rw [runSlots_concat]
      exact ⟨phase', hphase'⟩

/-- **The slot of a gate refines its phases**: behind every run it is in one of them, and any
further call, whatever its arguments, moves it along or leaves it. -/
theorem gate_phases (calls : List SlotCall) (gateId : String) :
    ∃ phase, GateInPhase (runSlots noSlots calls gateId) phase ∧
      ∀ c, ∃ phase', GateInPhase (runSlots noSlots (calls ++ [c]) gateId) phase' ∧
        GatePhase.Moves phase phase' := by
  obtain ⟨phase, hphase⟩ := exists_gateInPhase calls gateId
  refine ⟨phase, hphase, fun c => ?_⟩
  rw [runSlots_concat]
  exact hphase.run c

end Acgps
