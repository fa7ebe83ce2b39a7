import Acgps.Coding.Publication

/-!
# What can be recorded

The builders decide the outcome of a launch or of an attempt, and the record contract derives it
once more from the fields. Whatever is observed, the two agree: the contract refuses a record only
for the form of what was observed, and never for what its builder made of it.

## Main Definitions

* `Recordable` - the observations of a record are of the form that the contract asks for
* `GrantedAttempt` - a reservation, for the slot that it was granted for
* `completedRecord` - the record of an attempt

## Key Theorems

* `codingPromotionReady_completedRecord` - **builder and contract promote the same attempts**
* `attempt_recordable_iff` - **an attempt is recorded iff its observations have the form**
-/

namespace Acgps

open Checked

/-! ## Section 1: Keys -/

/-- A name of lowercase letters, digits and underscores. -/
def isLowerName (s : String) : Bool := s.toList.all (fun c => c.isLower || c.isDigit || c = '_')

variable [Platform]

/-- Names that `casefold` leaves alone do not collide. -/
theorem keyCollisions_eq_nil (hfold : ∀ s, isLowerName s = true → casefold s = s) {path : String} :
    ∀ {keys seen : List String}, (seen ++ keys).Nodup →
      (∀ key ∈ seen ++ keys, isLowerName key = true) → keyCollisions path seen keys = []
  | [], _, _, _ => rfl
  | key :: rest, seen, hnodup, hlower => by
      have hnew : seen.find? (fun other => casefold other = casefold key) = none := by
        rw [List.find?_eq_none]
        intro other hother
        rw [hfold other (hlower other (List.mem_append_left _ hother)),
          hfold key (hlower key (by simp))]
        rintro hsame
        obtain rfl : other = key := by simpa using hsame
        exact List.disjoint_of_nodup_append hnodup hother (by simp)
      rw [keyCollisions, hnew]
      apply keyCollisions_eq_nil hfold
      · rwa [List.append_assoc]
      · rwa [List.append_assoc]

mutual

/-- A plain value whose keys `casefold` leaves alone has no colliding keys. -/
theorem collisions_of_isPlain (hfold : ∀ s, isLowerName s = true → casefold s = s) :
    ∀ {v : Json} {path : String}, v.isPlain isLowerName = true →
      validateNoCasefoldKeyCollisions path v = []
  | .null, _, _ | .bool _, _, _ | .int _, _, _ | .str _, _, _ | .float _, _, _ => rfl
  | .arr items, _, h => by
      rw [Json.isPlain] at h
      exact collisionsOfItems_of_isPlain hfold h
  | .obj members, path, h => by
      rw [Json.isPlain, Bool.and_eq_true, decide_eq_true_eq] at h
      obtain ⟨hnodup, hmembers⟩ := h
      rw [validateNoCasefoldKeyCollisions, List.append_eq_nil_iff]
      refine ⟨keyCollisions_eq_nil hfold hnodup ?_, collisionsOfMembers_of_isPlain hfold hmembers⟩
      intro key hkey
      obtain ⟨member, hmember, rfl⟩ := List.mem_map.mp hkey
      exact (Json.isPlainMembers_iff.mp hmembers member hmember).1

theorem collisionsOfItems_of_isPlain (hfold : ∀ s, isLowerName s = true → casefold s = s) :
    ∀ {items : List Json} {path : String} {index : Nat},
      Json.isPlainItems isLowerName items = true → collisionsOfItems path index items = []
  | [], _, _, _ => rfl
  | item :: rest, _, _, h => by
      obtain ⟨hitem, hrest⟩ := Bool.and_eq_true_iff.mp h
      rw [collisionsOfItems, List.append_eq_nil_iff]
      exact ⟨collisions_of_isPlain hfold hitem, collisionsOfItems_of_isPlain hfold hrest⟩

theorem collisionsOfMembers_of_isPlain (hfold : ∀ s, isLowerName s = true → casefold s = s) :
    ∀ {members : List (String × Json)} {path : String},
      Json.isPlainMembers isLowerName members = true → collisionsOfMembers path members = []
  | [], _, _ => rfl
  | (key, value) :: rest, _, h => by
      obtain ⟨hmember, hrest⟩ := Bool.and_eq_true_iff.mp h
      rw [collisionsOfMembers, List.append_eq_nil_iff]
      exact ⟨collisions_of_isPlain hfold (Bool.and_eq_true_iff.mp hmember).2,
        collisionsOfMembers_of_isPlain hfold hrest⟩

end

omit [Platform] in
theorem codingExecutionFields_lower :
    (FieldTable.ofList codingExecutionFields).isClosed isLowerName = true := by
  have hquick : isLowerName
      = fun s => (quickChars s).all (fun c => c.isLower || c.isDigit || c = '_') := by
    funext s
    rw [quickChars_eq, isLowerName]
  rw [hquick]
  decide +kernel

/-! ## Section 2: Observations -/

/-- The observations of a record have the form that the contract asks for: its fields are those of
the tables, and each of the parts that are copied into it passes its own checks. -/
structure Recordable (record : Mapping) : Prop where
  fields : validateFields "" record (.ofList codingExecutionFields) = []
  identity : codingIdentityIssues record = []
  packet : codingPacketIssues record = []
  baseline : codingBaselineIssues record = []
  executor : codingExecutorIssues record = []
  clones : codingCloneIssues record = []
  counts : codingCountIssues record = []
  capabilities : codingCapabilityIssues record = []
  process : codingProcessIssues record = []
  cloneAfter : codingCloneAfterIssues record = []

theorem AcceptedCodingRecord.recordable {record : Mapping} (h : AcceptedCodingRecord record) :
    Recordable record :=
  ⟨h.fields, h.identity, h.packet, h.baseline, h.executor, h.clones, h.counts, h.capabilities,
    h.process, h.cloneAfter⟩

/-- The keys of a recordable record do not collide. -/
theorem Recordable.keys (hfold : ∀ s, isLowerName s = true → casefold s = s) {record : Mapping}
    (h : Recordable record) : validateNoCasefoldKeyCollisions "$" record.toJson = [] :=
  collisions_of_isPlain hfold (plain_of_validateFields codingExecutionFields_lower h.fields)

/-! ## Section 3: Granted attempts -/

/-- What an attempt may be: the first candidate of an empty slot, or the remedy of the only one that
was retired. -/
inductive AttemptKind (s reservation : Mapping) : Prop
  | ordinary (hkind : reservation.get "kind" = .str "ORDINARY")
      (hparent : reservation.get "parent_candidate_id" = .null)
      (hstate : s.get "state" = .str "EMPTY")
      (hhistorical : s.get "historical_candidate_ids" = .arr [])
  | remediation (parent : String) (hkind : reservation.get "kind" = .str "REMEDIATION")
      (hnumber : reservation.get "number" = .int 2)
      (hparent : reservation.get "parent_candidate_id" = .str parent)
      (hstate : s.get "state" = .str "EMPTY_FOR_REMEDIATION")
      (hhistorical : s.get "historical_candidate_ids" = .arr [.str parent])

/-- A reservation, for the slot that it was granted for. -/
structure GrantedAttempt (s reservation : Mapping) : Prop where
  keys : reservation.keys = codingExecutionReservationFields
  budget : ∃ remaining : Int, (remaining = 1 ∨ remaining = 2) ∧
    reservation.get "number" = .int (3 - remaining) ∧
    reservation.get "remaining_before" = .int remaining ∧
    reservation.get "remaining_after" = .int (remaining - 1)
  kind : AttemptKind s reservation

/-- A reservation has the time that it was asked for. -/
theorem reservedAt_of_reserve {files : SlotFiles} {gate kind parent time : Json}
    {granted : SlotAnswer}
    (h : reserveCodingExecutionAttempt files gate kind parent time = .ok granted) :
    granted.answer.get "reserved_at_utc" = time := by
  simp only [reserveCodingExecutionAttempt, bind_eq_ok, require_eq_ok, exists_const] at h
  obtain ⟨gateId, -, s, -, -, -, _, -, -, hwrite⟩ := h
  obtain ⟨rfl, -⟩ := writeSlot_eq_ok hwrite
  rfl

/-- **What is granted behind a run of the slots.** -/
theorem grantedAttempt_of_run {calls : List SlotCall} {gate kind parent time : Json}
    {granted : SlotAnswer} {s : Mapping}
    (h : reserveCodingExecutionAttempt (runSlots noSlots calls) gate kind parent time = .ok granted)
    (hread : runSlots noSlots calls granted.gateId = some s) : GrantedAttempt s granted.answer := by
  simp only [reserveCodingExecutionAttempt, bind_eq_ok, require_eq_ok, exists_const] at h
  obtain ⟨gateId, -, s', hstored, -, hleft, _, hkind, -, hwrite⟩ := h
  obtain ⟨hfile, hvalid⟩ := readCodingExecutionState_eq_ok hstored
  obtain ⟨rfl, -⟩ := writeSlot_eq_ok hwrite
  obtain rfl : s' = s := Option.some.inj (hfile.symm.trans hread)
  obtain ⟨phase, hphase⟩ := exists_gateInPhase calls gateId
  rw [hfile] at hphase
  obtain ⟨hpresent, hstate, -, hhistorical, -⟩ := hphase
  have htaken := hvalid.taken
  rw [hvalid.remaining, Json.asInt, Option.getD_some] at hleft
  refine ⟨rfl, ⟨2 - attemptsTaken s', by omega, ?_⟩, ?_⟩
  · simp only [hvalid.remaining, Json.asInt, Option.getD_some]
    exact ⟨rfl, rfl, rfl⟩
  · unfold requireAttemptKind at hkind
    split at hkind
    next hordinary =>
      obtain ⟨hempty, hnone⟩ := require_eq_ok.mp hkind
      rw [hstate] at hempty
      refine .ordinary hordinary hnone (hstate.trans hempty) ?_
      -- an empty slot has no retired candidate
      cases phase with
      | absent => exact absurd rfl hpresent
      | empty => exact hhistorical
      | frozen first => simp [GatePhase.slotState] at hempty
      | retired first => simp [GatePhase.slotState] at hempty
      | remedied first second => simp [GatePhase.slotState] at hempty
    next =>
      split at hkind
      next hremediation =>
        obtain ⟨hretired, hremaining, hparent, -⟩ := require_eq_ok.mp hkind
        rw [hstate] at hretired
        cases phase with
        | retired first =>
            rw [hhistorical] at hparent
            obtain rfl : parent = .str first := by
              simpa [GatePhase.historical, Json.strs, Json.asList] using hparent
            refine .remediation first hremediation ?_ rfl hstate hhistorical
            rw [hremaining]
            rfl
        | absent => exact absurd rfl hpresent
        | empty => simp [GatePhase.slotState] at hretired
        | frozen first => simp [GatePhase.slotState] at hretired
        | remedied first second => simp [GatePhase.slotState] at hretired
      next => cases hkind

/-! ## Section 4: The two rules of promotion -/

/-- The record of an attempt behind its gates. -/
def completedRecord (paths : PathAnswers) (c : PreflightContext)
    (executionId checkedAtUtc : String) (a : FinishedAttempt) : Mapping :=
  codingRecord c executionId checkedAtUtc (a.parts c (evaluatePrelaunch paths c) checkedAtUtc)

section Completed

variable {paths : PathAnswers} {c : PreflightContext} {executionId checkedAtUtc : String}
  {a : FinishedAttempt}

/-- The parts of the record that are copied or summed up. -/
theorem completedRecord_get :
    let record := completedRecord paths c executionId checkedAtUtc a
    record.get "packet" = c.packet.toJson ∧ record.get "baseline" = c.baseline.toJson ∧
      record.get "executor" = c.executor.toJson ∧
      record.get "capabilities" = (a.capabilities c).toJson ∧
      record.get "clone_before" = c.cloneBefore.toJson ∧
      record.get "process" = a.process.toJson ∧ record.get "events" = a.eventRecord.toJson ∧
      record.get "agent_result" = a.agentResult.toJson ∧
      record.get "clone_after" = Json.ofOption Mapping.toJson a.cloneAfter :=
  ⟨rfl, rfl, rfl, rfl, rfl, rfl, rfl, rfl, rfl⟩

/-- The parts of the record that the builder makes. -/
theorem completedRecord_made :
    let record := completedRecord paths c executionId checkedAtUtc a
    let parts := a.parts c (evaluatePrelaunch paths c) checkedAtUtc
    record.get "slot" = parts.slot.toJson ∧ record.get "candidate" = parts.candidate.toJson ∧
      record.get "attempt"
        = (a.reservation.put "process_start_request_count" (.int 1)).toJson ∧
      record.get "prelaunch"
        = (recordPrelaunch (evaluatePrelaunch paths c) checkedAtUtc).toJson ∧
      record.get "outcome" = .str parts.outcome :=
  ⟨rfl, rfl, rfl, rfl, rfl⟩

/-- A field of a part that is copied is what its table says. -/
theorem Recordable.part_accepts {record part : Mapping} {name : String}
    {rows : List (String × FieldSpec)} (h : Recordable record)
    (hrow : (name, .nested rows) ∈ codingExecutionFields) (hrows : rows ≠ [])
    (hpart : record.get name = part.toJson) {row : String × FieldSpec} (hmem : row ∈ rows) :
    row.2.Accepts (part.get row.1) := by
  have hfield := ((validateFields_eq_nil_iff.mp h.fields).2 _ hrow).2
  rw [hpart, validateField_nested hrows] at hfield
  exact accepts_of_validateField_eq_nil ((validateFields_eq_nil_iff.mp hfield).2 row hmem).2

omit [Platform] in
/-- The issues of a mapping that may be null are those of its fields. -/
theorem validateField_nullableNested {path : String} {data : Mapping}
    {rows : List (String × FieldSpec)} (hrows : rows ≠ []) :
    validateField path data.toJson (.nullableNested rows)
      = validateFields path data (.ofList rows) := by
  have htype : matchesExpectedType data.toJson [.dict, .none] = true := by
    simp [matchesExpectedType, PyType.accepts]
  have htable : (FieldTable.ofList rows).isTable = true := by
    cases rows with
    | nil => exact absurd rfl hrows
    | cons row rows => rfl
  have hempty : FieldTable.nil.isTable = false := rfl
  simp only [FieldSpec.nullableNested, validateField, htype, if_true, htable,
    Mapping.asMapping_toJson, hempty]
  simp [validateRuntimeSemantics, validateAllowed, Mapping.toJson, validateFields]

/-- The digests and objects of a clone before are strings. -/
theorem Recordable.cloneBefore_str {record : Mapping} (h : Recordable record) {clone : Mapping}
    (hclone : record.get "clone_before" = clone.toJson) {field : String}
    (hfield : ((field, .ofType .str) : String × FieldSpec) ∈ codingCloneBeforeFields) :
    ∃ s, clone.get field = .str s := by
  have hvalid : validateField (joinPath "" "clone_before") (record.get "clone_before")
      (.nullableNested codingCloneBeforeFields) = [] :=
    ((validateFields_eq_nil_iff.mp h.fields).2 _ (show (("clone_before",
      .nullableNested codingCloneBeforeFields) : String × FieldSpec) ∈ codingExecutionFields by
        simp [codingExecutionFields])).2
  rw [hclone, validateField_nullableNested (show codingCloneBeforeFields ≠ [] by
    simp [codingCloneBeforeFields])] at hvalid
  have htype := (accepts_of_validateField_eq_nil
    ((validateFields_eq_nil_iff.mp hvalid).2 _ hfield).2).type_ok
  cases hvalue : clone.get field with
  | str s => exact ⟨s, rfl⟩
  | _ => simp [hvalue, FieldSpec.ofType, FieldSpec.expectedType, matchesExpectedType,
      PyType.accepts, Json.asMapping] at htype

/-- An integer of the process that may be null. -/
theorem Recordable.process_int {record process : Mapping} (h : Recordable record)
    (hprocess : record.get "process" = process.toJson) {field : String}
    (hfield : ((field, .nullable .int) : String × FieldSpec) ∈ codingProcessFields) :
    process.get field = .null ∨ ∃ n, process.get field = .int n := by
  have htype := (h.part_accepts (show (("process", .nested codingProcessFields) :
    String × FieldSpec) ∈ codingExecutionFields by simp [codingExecutionFields])
    (List.cons_ne_nil _ _) hprocess hfield).type_ok
  cases hvalue : process.get field with
  | null => exact .inl rfl
  | int n => exact .inr ⟨n, rfl⟩
  | _ => simp [hvalue, FieldSpec.nullable, FieldSpec.expectedType, matchesExpectedType,
      PyType.accepts, Json.asMapping] at htype

omit [Platform] in
/-- The rows of an attempt are those of its scan, as mappings with their positions. -/
theorem mem_operationRows {entry : Mapping × Nat} (h : entry ∈ a.rows.zipIdx) :
    ∃ row : OperationRow, entry.1 = row.record := by
  obtain ⟨row, -, heq⟩ := List.mem_map.mp (List.fst_mem_of_mem_zipIdx h)
  exact ⟨row, heq.symm⟩

/-- The patched paths of the record are those of the attempt. -/
theorem patchPaths_completedRecord :
    patchPaths (completedRecord paths c executionId checkedAtUtc a) = a.patchPaths := by
  rw [patchPaths, completedRecord_get.2.2.2.1, Mapping.asMapping_toJson, Option.map_some,
    Option.getD_some, patchOccurrences, a.operationRows_capabilities, FinishedAttempt.patchPaths]
  conv_rhs => rw [← List.zipIdx_map_fst 0 a.rows, List.flatMap_map]

/-- The rows of a promotable attempt have passed in their turn. -/
theorem rowsPass_of_promotable (hpromotable : a.promotable c = true) :
    rowsPass (a.capabilities c).toJson = true := by
  simp only [FinishedAttempt.promotable, Bool.and_eq_true, and_assoc] at hpromotable
  have hrows := hpromotable.2.2.1
  rw [FinishedAttempt.rowsReconciled, List.all_eq_true] at hrows
  rw [rowsPass, Json.field_toJson, FinishedAttempt.capabilities, Mapping.get_put_self]
  simp only [Json.asList, List.zipIdx_map, List.all_map, List.all_eq_true]
  rintro ⟨row, index⟩ hrow
  have hpassed := hrows _ hrow
  simp only [Bool.and_eq_true, decide_eq_true_eq, and_assoc] at hpassed
  simp [hpassed.1, hpassed.2.1]

/-- The record of a promotable attempt is ready for promotion. -/
theorem promotionReady_of_promotable (hlaunch : Launches paths c)
    (hnumber : isAttemptNumber (a.reservation.get "number") = true)
    (h : Recordable (completedRecord paths c executionId checkedAtUtc a))
    (hpromotable : a.promotable c = true) :
    PromotionReady (completedRecord paths c executionId checkedAtUtc a) := by
  obtain ⟨hpacket, hbaseline, hexecutor, hcapabilities, hbefore, hprocess, hevents, hresult,
    hafter⟩ := @completedRecord_get _ paths c executionId checkedAtUtc a
  obtain ⟨hslot, hcandidate, hattempt, hprelaunch, -⟩ :=
    @completedRecord_made _ paths c executionId checkedAtUtc a
  obtain ⟨hslotEq, hcandidateEq, -⟩ :=
    FinishedAttempt.parts_of_promotable hpromotable (evaluatePrelaunch paths c) checkedAtUtc
  rw [hslotEq] at hslot
  rw [hcandidateEq] at hcandidate
  have hidentity := hlaunch.identity
  simp only [identityPasses, Bool.and_eq_true, decide_eq_true_eq, and_assoc] at hidentity
  obtain ⟨hvalidated, -, -, -, -, -, hunchanged, -⟩ := hidentity
  have hrows := rowsPass_of_promotable hpromotable
  have hschema : a.outputSchemaValid = true := by
    simp only [FinishedAttempt.promotable, Bool.and_eq_true, and_assoc] at hpromotable
    exact hpromotable.2.1
  simp only [FinishedAttempt.promotable, FinishedAttempt.processSucceeded,
    FinishedAttempt.outputSchemaValid, FinishedAttempt.cloneReconciled,
    FinishedAttempt.agentPromotable, Bool.and_eq_true, decide_eq_true_eq, and_assoc] at hpromotable
  obtain ⟨hstart, -, hexit, herror, htimed, hcancelled, hterminated, -, hunknown, hprohibited,
    -, hsome, hsame, hchanged, -, -, hvalid, hmatch, hstatus, hcomplete, hobserved⟩ :=
    hpromotable
  obtain ⟨clone, hclone⟩ := Option.isSome_iff_exists.mp hsome
  rw [hclone, Json.ofOption] at hafter
  have hafterGet : ∀ field, a.after field = clone.get field := by
    intro field
    rw [FinishedAttempt.after, hclone]
    rfl
  -- the digests and objects of the clone are strings, for which equality is equality
  have hkept : ∀ field ∈ ["commit", "tree", "git_control_sha256"],
      c.cloneBefore.get field = clone.get field := by
    intro field hfield
    rw [List.all_eq_true] at hsame
    have hpy := hsame field hfield
    have hmem : ((field, .ofType .str) : String × FieldSpec) ∈ codingCloneBeforeFields := by
      simp only [List.mem_cons, List.not_mem_nil, or_false] at hfield
      rcases hfield with rfl | rfl | rfl <;> simp [codingCloneBeforeFields]
    obtain ⟨s, hs⟩ := h.cloneBefore_str hbefore hmem
    rw [hs, Json.pyEq_str, hafterGet] at hpy
    rw [hs, hpy]
  have hzero : a.process.get "exit_code" = .int 0 := by
    rcases h.process_int hprocess (show (("exit_code", .nullable .int) : String × FieldSpec) ∈
      codingProcessFields by simp [codingProcessFields]) with hnull | ⟨n, hn⟩
    · simp [hnull, Json.pyEq] at hexit
    · rw [hn] at hexit ⊢
      simpa [Json.pyEq] using hexit
  have hevaluation := hlaunch.evaluation_eq
  constructor
  · intro name hname
    simp only [promotionParts, List.mem_cons, List.not_mem_nil, or_false] at hname
    rcases hname with rfl | rfl | rfl | rfl | rfl | rfl | rfl | rfl | rfl | rfl | rfl | rfl | rfl
    all_goals simp [hpacket, hbaseline, hexecutor, hcapabilities, hbefore, hprocess, hevents,
      hresult, hafter, hslot, hcandidate, hattempt, hprelaunch]
  case rows =>
    rw [hcapabilities]
    exact hrows
  all_goals simp only [recordField, hpacket, hbaseline, hexecutor, hcapabilities, hbefore, hprocess,
    hevents, hresult, hafter, hslot, hcandidate, hattempt, hprelaunch, Json.field_toJson]
  · exact hvalidated
  · exact hunchanged
  · rw [hevaluation]
    rfl
  · rwa [Mapping.get_put_of_ne _ _ (by decide)]
  · exact Mapping.get_put_self _ _ _
  · exact hcomplete
  · exact hobserved
  · rw [← hafterGet, hchanged, patchPaths_completedRecord]
  · exact hkept _ (by simp)
  · exact hkept _ (by simp)
  · exact hkept _ (by simp)
  · exact hstart
  · exact hzero
  · exact herror
  · exact htimed
  · exact hcancelled
  · exact hterminated
  · show Json.int a.events.unknownCount = .int 0
    rw [hunknown]
    rfl
  · show Json.int a.events.prohibitedCount = .int 0
    rw [hprohibited]
    rfl
  · exact congrArg Json.bool hschema
  · exact hvalid
  · exact hmatch
  · exact hstatus
  · rfl
  · rfl
  · exact hafterGet _

omit [Platform] in
theorem PromotionReady.coding {data : Mapping} (h : PromotionReady data) :
    codingPromotionReady data = true := by
  simp only [codingPromotionReady, Bool.and_eq_true, decide_eq_true_eq, List.all_eq_true,
    and_assoc]
  exact ⟨h.parts, h.packet, h.baseline, h.prelaunch, h.number, h.startCount, h.executor,
    h.observations, h.rows, h.changedPaths, h.commit, h.tree, h.gitControl, h.startRequested,
    h.exitCode, h.noError, h.notTimedOut, h.notCancelled, h.terminated, h.unknownCount,
    h.prohibitedCount, h.schemaValid, h.contractValid, h.claimsMatch, h.claimedStatus,
    h.candidateStatus, h.candidateId, h.diff⟩

/-- **Builder and contract promote the same attempts**: the predicate of the contract derives from
the record what the builder decided from the observations. -/
theorem codingPromotionReady_completedRecord (hlaunch : Launches paths c)
    (hnumber : isAttemptNumber (a.reservation.get "number") = true)
    (h : Recordable (completedRecord paths c executionId checkedAtUtc a)) :
    codingPromotionReady (completedRecord paths c executionId checkedAtUtc a) = a.promotable c := by
  cases hpromotable : a.promotable c with
  | true => exact (promotionReady_of_promotable hlaunch hnumber h hpromotable).coding
  | false =>
      -- the candidate of an attempt that is not promotable is none
      by_contra hready
      have hstatus :=
        (promotionReady_of_coding (Bool.eq_true_of_not_eq_false hready)).candidateStatus
      rw [recordField, completedRecord_made.2.1, Json.field_toJson] at hstatus
      simp only [FinishedAttempt.parts, hpromotable] at hstatus
      exact absurd (show Json.str "NONE" = .str "FROZEN_REVIEW" from hstatus) (by decide)

/-- **Builder and contract derive the same outcome.** -/
theorem codingExpectedOutcome_completedRecord (hlaunch : Launches paths c)
    (hnumber : isAttemptNumber (a.reservation.get "number") = true)
    (h : Recordable (completedRecord paths c executionId checkedAtUtc a)) :
    codingExpectedOutcome (completedRecord paths c executionId checkedAtUtc a) (a.promotable c)
      = some (a.parts c (evaluatePrelaunch paths c) checkedAtUtc).outcome := by
  obtain ⟨-, -, -, -, -, hprocess, -, hresult, -⟩ :=
    @completedRecord_get _ paths c executionId checkedAtUtc a
  obtain ⟨-, -, hattempt, hprelaunch, -⟩ :=
    @completedRecord_made _ paths c executionId checkedAtUtc a
  have hparts : ["prelaunch", "attempt", "process", "agent_result"].all (fun name =>
      ((completedRecord paths c executionId checkedAtUtc a).get name).asMapping.isSome) = true := by
    simp [hprelaunch, hattempt, hprocess, hresult]
  have hstate : (recordPrelaunch (evaluatePrelaunch paths c) checkedAtUtc).get "state"
      = .str "PASS" := by
    rw [hlaunch.evaluation_eq]
    rfl
  have hnumber' : isAttemptNumber ((a.reservation.put "process_start_request_count" (.int 1)).get
      "number") = true := by
    rwa [Mapping.get_put_of_ne _ _ (by decide)]
  -- the exit code is an integer or null, so both rules compare it alike
  have hexit : (a.process.get "exit_code").asInt.any (· ≠ 0)
      = ((a.process.get "exit_code").isIntInstance
        && !(a.process.get "exit_code").pyEq (.int 0)) := by
    rcases h.process_int hprocess (show (("exit_code", .nullable .int) : String × FieldSpec) ∈
      codingProcessFields by simp [codingProcessFields]) with hnull | ⟨n, hn⟩
    · rw [hnull]
      rfl
    · rw [hn]
      simp [Json.asInt, Json.isIntInstance, Json.pyEq]
  simp only [codingExpectedOutcome, hparts, hprelaunch, hattempt, hprocess, hresult,
    Json.field_toJson, hstate, hnumber', hexit]
  cases hpromotable : a.promotable c with
  | true =>
      obtain ⟨-, -, hready⟩ :=
        FinishedAttempt.parts_of_promotable hpromotable (evaluatePrelaunch paths c) checkedAtUtc
      simp only [FinishedAttempt.promotable, FinishedAttempt.processSucceeded,
        FinishedAttempt.agentPromotable, Bool.and_eq_true, decide_eq_true_eq, and_assoc]
        at hpromotable
      obtain ⟨hstart, hpid, hzero, herror, htimed, hcancelled, hterminated, -, -, -, -, -, hstatus,
        -⟩ := hpromotable
      have hcreated : a.process.get "pid" ≠ .null := by
        intro hnull
        simp [hnull, Json.isIntInstance] at hpid
      simp [hready, hstart, hcreated, hzero, herror, htimed, hcancelled, hterminated, hstatus]
  | false =>
      -- what is left of both is the same disjunction of failures
      simp [FinishedAttempt.parts, hpromotable, FinishedAttempt.processFailed]
      split <;> rfl

end Completed

/-! ## Section 5: The checks on what the builder makes -/

section Made

variable {paths : PathAnswers} {c : PreflightContext} {executionId checkedAtUtc : String}
  {a : FinishedAttempt} {s : Mapping}

omit [Platform] in
theorem GrantedAttempt.isAttemptNumber {reservation : Mapping}
    (h : GrantedAttempt s reservation) : isAttemptNumber (reservation.get "number") = true := by
  obtain ⟨remaining, hone | htwo, hnumber, -⟩ := h.budget
  · rw [hnumber, hone]
    rfl
  · rw [hnumber, htwo]
    rfl

/-- The check of a record of an attempt is no error of the interpreter. -/
theorem codingCheckRaises_completedRecord (h : GrantedAttempt s a.reservation) :
    codingCheckRaises (completedRecord paths c executionId checkedAtUtc a) = false := by
  obtain ⟨remaining, -, -, hbefore, -⟩ := h.budget
  rw [codingCheckRaises, completedRecord_get.2.2.2.1, completedRecord_made.2.2.1]
  simp only [Mapping.asMapping_toJson, Option.map_some, Option.getD_some,
    a.operationRows_capabilities, Json.field_toJson, Bool.or_eq_false_iff, Option.isSome_some,
    Mapping.get_put_of_ne _ _ (show "remaining_before" ≠ "process_start_request_count" by decide),
    hbefore, Bool.and_false, and_true]
  rw [List.any_eq_false]
  rintro ⟨row, index⟩ hrow
  obtain ⟨scanned, rfl⟩ := mem_operationRows hrow
  -- the class and the source of a row that was scanned are strings
  exact Bool.false_ne_true

omit [Platform] in
theorem recordPrelaunch_get (evaluation : PreflightEvaluation) :
    (recordPrelaunch evaluation checkedAtUtc).get "checked_at_utc" = .str checkedAtUtc ∧
      (recordPrelaunch evaluation checkedAtUtc).get "gate_rows"
        = .arr (evaluation.gateRows.map Mapping.toJson) ∧
      (recordPrelaunch evaluation checkedAtUtc).get "blocker_ids"
        = Json.strs evaluation.blockerIds ∧
      (recordPrelaunch evaluation checkedAtUtc).get "state"
        = .str (if evaluation.state = .pass then "PASS" else "HOLD") :=
  ⟨rfl, rfl, rfl, rfl⟩

theorem PrelaunchGate.row_get (gate : PrelaunchGate) :
    gate.row.get "gate_id" = .str gate.gateId ∧
      gate.row.get "status" = .str (if gate.passed then "PASS" else "HOLD") ∧
      gate.row.get "blocker_ids" = Json.strs gate.blockerIds :=
  ⟨rfl, rfl, rfl⟩

/-- The gates of a launch that was let through are recorded as such. -/
theorem codingPrelaunchIssues_completedRecord (hlaunch : Launches paths c)
    (htime : isCodingUtc checkedAtUtc = true) :
    codingPrelaunchIssues (completedRecord paths c executionId checkedAtUtc a) = [] := by
  rw [codingPrelaunchIssues, completedRecord_made.2.2.2.1, whenMapping, Mapping.asMapping_toJson,
    hlaunch.evaluation_eq]
  obtain ⟨hchecked, hgates, hblockers, -⟩ := @recordPrelaunch_get checkedAtUtc
    ⟨.pass, (prelaunchGates paths c).map (fun gate => { gate with passed := true }.row), []⟩
  simp only [hchecked, hgates, hblockers, requireCodingUtc, checkStr, Json.asList, Option.getD_some,
    Option.isSome_some, List.map_map]
  rw [List.append_eq_nil_iff]
  refine ⟨by simp [htime], ?_⟩
  -- the rows are those of the seven gates, in order
  have hids : (prelaunchGates paths c).map (fun gate => Json.str gate.gateId)
      = gateIds.map .str := rfl
  rw [if_pos, issueUnless_eq_nil]
  · simp [(PrelaunchGate.row_get _).2.1, (PrelaunchGate.row_get _).2.2, PrelaunchGate.blockerIds,
      Json.strs]
  · rw [Bool.true_and, decide_eq_true_eq, ← hids]
    exact List.map_congr_left (fun gate _ => by simp [(PrelaunchGate.row_get _).1])

/-- The granted attempt is recorded as it was reserved. -/
theorem codingAttemptIssues_completedRecord (h : GrantedAttempt s a.reservation)
    (htime : ∃ time, a.reservation.get "reserved_at_utc" = .str time ∧ isCodingUtc time = true) :
    codingAttemptIssues (completedRecord paths c executionId checkedAtUtc a) = [] := by
  have hnumber := h.isAttemptNumber
  obtain ⟨remaining, -, hnumberEq, hbefore, hafter⟩ := h.budget
  obtain ⟨time, hreserved, hvalid⟩ := htime
  rw [codingAttemptIssues, completedRecord_made.2.2.1, whenMapping, Mapping.asMapping_toJson]
  have hget : ∀ field ∈ ["number", "kind", "remaining_before", "remaining_after",
      "reserved_at_utc", "parent_candidate_id"],
      (a.reservation.put "process_start_request_count" (.int 1)).get field
        = a.reservation.get field := by
    intro field hfield
    apply Mapping.get_put_of_ne
    rintro rfl
    exact absurd hfield (by decide)
  simp only [List.forall_mem_cons, List.not_mem_nil, false_imp_iff, implies_true, and_true] at hget
  obtain ⟨h₀, h₁, h₂, h₃, h₄, h₅⟩ := hget
  simp only [h₀, h₁, h₂, h₃, h₄, h₅, Mapping.get_put_self, hnumber, hbefore, hafter, hreserved]
  cases h.kind with
  | ordinary hkind hparent _ _ =>
      simp [hkind, hparent, Json.asInt, Json.asStr, hvalid, checkInt]
  | remediation parent hkind hnumber' hparent _ _ =>
      simp [hkind, hparent, hnumber', Json.asInt, Json.asStr, hvalid, checkInt]

/-- The candidate of a granted attempt is the one that its slot can take. -/
theorem codingCandidateIssues_completedRecord (h : GrantedAttempt s a.reservation)
    (hslot : c.slot = codingExecutionPublicState s) :
    codingCandidateIssues (completedRecord paths c executionId checkedAtUtc a) = [] := by
  obtain ⟨hslotPart, hcandidate, hattempt, -, -⟩ :=
    @completedRecord_made _ paths c executionId checkedAtUtc a
  rw [codingCandidateIssues, hslotPart, hcandidate, hattempt]
  simp only [whenMapping, Mapping.asMapping_toJson, Json.field_toJson]
  by_cases hpromotable : a.promotable c = true
  · obtain ⟨hslotEq, hcandidateEq, -⟩ :=
      FinishedAttempt.parts_of_promotable hpromotable (evaluatePrelaunch paths c) checkedAtUtc
    have hget : c.slot.get "state" = s.get "state" ∧
        c.slot.get "historical_candidate_ids" = s.get "historical_candidate_ids" := by
      rw [hslot]
      exact ⟨rfl, rfl⟩
    have hslotGet := recordSlot_get c (.str (frozenReviewState (.int a.version)))
      (.str a.candidateId)
    have hcandidateGet : a.candidate.get "status" = .str "FROZEN_REVIEW" ∧
        a.candidate.get "candidate_id" = .str a.candidateId ∧
        a.candidate.get "version" = .int a.version ∧
        a.candidate.get "parent_candidate_id" = a.reservation.get "parent_candidate_id" :=
      ⟨rfl, rfl, rfl, rfl⟩
    simp only [hslotEq, hcandidateEq, hslotGet, hcandidateGet, hget]
    cases h.kind with
    | ordinary hkind hparent hstate hhistorical =>
        have hversion : a.version = 1 := by
          rw [FinishedAttempt.version, hkind]
          rfl
        have hfrozen : frozenReviewState (.int 1) = "FROZEN_REVIEW_V1" := rfl
        simp [hversion, hparent, hstate, hhistorical, hfrozen]
    | remediation parent hkind hnumber hparent hstate hhistorical =>
        have hversion : a.version = 2 := by
          rw [FinishedAttempt.version, if_pos hkind]
        have hfrozen : frozenReviewState (.int 2) = "FROZEN_REVIEW_V2" := rfl
        have hattemptGet : ∀ field, field ≠ "process_start_request_count" →
            (a.reservation.put "process_start_request_count" (.int 1)).get field
              = a.reservation.get field :=
          fun _ hne => Mapping.get_put_of_ne _ _ hne
        simp [hversion, hparent, hstate, hhistorical, hfrozen, hattemptGet, hnumber, hkind,
          Json.asStr]
  · obtain ⟨-, hcandidateEq, -⟩ :=
      FinishedAttempt.parts_of_held hpromotable (evaluatePrelaunch paths c) checkedAtUtc
    rw [hcandidateEq]
    rfl

/-- The diff of a candidate is that of the clone. -/
theorem codingDiffIssues_completedRecord :
    codingDiffIssues (completedRecord paths c executionId checkedAtUtc a) = [] := by
  obtain ⟨-, hcandidate, -⟩ := @completedRecord_made _ paths c executionId checkedAtUtc a
  rw [codingDiffIssues, hcandidate, completedRecord_get.2.2.2.2.2.2.2.2]
  simp only [whenMapping, Mapping.asMapping_toJson]
  cases hafter : a.cloneAfter with
  | none => rfl
  | some clone =>
      simp only [Json.ofOption, Mapping.asMapping_toJson, issueUnless_eq_nil]
      by_cases hpromotable : a.promotable c = true
      · obtain ⟨-, hcandidateEq, -⟩ :=
          FinishedAttempt.parts_of_promotable hpromotable (evaluatePrelaunch paths c) checkedAtUtc
        have hdiff : a.candidate.get "diff_sha256" = clone.get "diff_sha256" := by
          show a.after "diff_sha256" = _
          rw [FinishedAttempt.after, hafter]
          rfl
        rw [hcandidateEq, hdiff]
        simp
      · obtain ⟨-, hcandidateEq, -⟩ :=
          FinishedAttempt.parts_of_held hpromotable (evaluatePrelaunch paths c) checkedAtUtc
        rw [hcandidateEq]
        rfl

/-- Nothing is held back. -/
theorem codingHoldIssues_completedRecord (hlaunch : Launches paths c) :
    codingHoldIssues (completedRecord paths c executionId checkedAtUtc a) = [] := by
  obtain ⟨-, -, -, hstate⟩ := @recordPrelaunch_get checkedAtUtc
    ⟨.pass, (prelaunchGates paths c).map (fun gate => { gate with passed := true }.row), []⟩
  rw [codingHoldIssues, completedRecord_made.2.2.2.1, whenMapping, Mapping.asMapping_toJson,
    hlaunch.evaluation_eq]
  simp only [hstate, if_true]
  rfl

/-- The outcome of the builder is the one that the contract derives. -/
theorem codingOutcomeIssues_completedRecord (hlaunch : Launches paths c)
    (hgranted : GrantedAttempt s a.reservation)
    (h : Recordable (completedRecord paths c executionId checkedAtUtc a)) :
    codingOutcomeIssues (completedRecord paths c executionId checkedAtUtc a) = [] := by
  have hready := codingPromotionReady_completedRecord hlaunch hgranted.isAttemptNumber h
  have hexpected := codingExpectedOutcome_completedRecord hlaunch hgranted.isAttemptNumber h
  obtain ⟨-, hcandidate, -, -, houtcome⟩ :=
    @completedRecord_made _ paths c executionId checkedAtUtc a
  simp only [codingOutcomeIssues, hready, hexpected, hcandidate, houtcome, whenMapping,
    Mapping.asMapping_toJson, List.append_eq_nil_iff, issueUnless_eq_nil]
  by_cases hpromotable : a.promotable c = true
  · obtain ⟨-, hcandidateEq, houtcomeEq⟩ :=
      FinishedAttempt.parts_of_promotable hpromotable (evaluatePrelaunch paths c) checkedAtUtc
    rw [hcandidateEq, hpromotable]
    exact ⟨⟨by simp, by simp⟩, rfl, rfl⟩
  · obtain ⟨-, hcandidateEq, houtcomeEq⟩ :=
      FinishedAttempt.parts_of_held hpromotable (evaluatePrelaunch paths c) checkedAtUtc
    rw [hcandidateEq, Bool.eq_false_of_not_eq_true hpromotable]
    simp only [List.mem_cons, List.not_mem_nil, or_false] at houtcomeEq
    refine ⟨⟨?_, by simp⟩, rfl, rfl⟩
    rcases houtcomeEq with hfailed | hheld
    · simp [hfailed]
    · simp [hheld]

/-- The record is stamped with a timestamp of its own form. -/
theorem Recordable.checkedAt (h : Recordable (completedRecord paths c executionId checkedAtUtc a)) :
    isCodingUtc checkedAtUtc = true := by
  have hidentity := h.identity
  rw [codingIdentityIssues, List.append_eq_nil_iff] at hidentity
  have hstamp : (completedRecord paths c executionId checkedAtUtc a).get "created_at_utc"
      = .str checkedAtUtc := rfl
  rw [hstamp] at hidentity
  simpa [requireCodingUtc, checkStr] using hidentity.2

/-- **The contract accepts what the builder makes of recordable observations.** -/
theorem Recordable.accepted (hfold : ∀ s, isLowerName s = true → casefold s = s)
    (hlaunch : Launches paths c) (hslot : c.slot = codingExecutionPublicState s)
    (hgranted : GrantedAttempt s a.reservation)
    (htime : ∃ time, a.reservation.get "reserved_at_utc" = .str time ∧ isCodingUtc time = true)
    (h : Recordable (completedRecord paths c executionId checkedAtUtc a)) :
    AcceptedCodingRecord (completedRecord paths c executionId checkedAtUtc a) where
  version := rfl
  fields := h.fields
  noRaise := codingCheckRaises_completedRecord hgranted
  keys := h.keys hfold
  identity := h.identity
  packet := h.packet
  baseline := h.baseline
  executor := h.executor
  clones := h.clones
  counts := h.counts
  capabilities := h.capabilities
  prelaunch := codingPrelaunchIssues_completedRecord hlaunch h.checkedAt
  attempt := codingAttemptIssues_completedRecord hgranted htime
  process := h.process
  cloneAfter := h.cloneAfter
  candidate := codingCandidateIssues_completedRecord hgranted hslot
  hold := codingHoldIssues_completedRecord hlaunch
  diff := codingDiffIssues_completedRecord
  outcome := codingOutcomeIssues_completedRecord hlaunch hgranted h

end Made

/-! ## Section 6: What is recorded -/

omit [Platform] in
/-- A list of strings is a set of strings. -/
theorem setRaises_of_accepts {v : Json} (h : FieldSpec.strings.Accepts v) :
    v.setRaises = false := by
  have htype := h.type_ok
  cases v with
  | arr items =>
      rw [Json.setRaises, List.any_eq_false]
      intro item hitem
      have hmatch := h.items_ok [.str] items rfl rfl item hitem
      cases item with
      | str s => simp [Json.isUnhashable]
      | _ => simp [matchesExpectedType, PyType.accepts] at hmatch
  | _ =>
      simp [FieldSpec.strings, FieldSpec.expectedType, matchesExpectedType, PyType.accepts] at htype

section Recorded

variable {paths : PathAnswers} {c : PreflightContext} {executionId checkedAtUtc : String}
  {a : FinishedAttempt} {s : Mapping}

/-- The sets that the builder makes of recordable observations are no errors. -/
theorem Recordable.sets (h : Recordable (completedRecord paths c executionId checkedAtUtc a))
    (hsome : a.cloneAfter.isSome = true) :
    (a.after "changed_paths").setRaises = false ∧
      ((a.capabilities c).get "authorized_write_paths").setRaises = false := by
  obtain ⟨clone, hclone⟩ := Option.isSome_iff_exists.mp hsome
  constructor
  · have hvalid : validateField (joinPath "" "clone_after")
        ((completedRecord paths c executionId checkedAtUtc a).get "clone_after")
        (.nullableNested codingCloneAfterFields) = [] :=
      ((validateFields_eq_nil_iff.mp h.fields).2 _ (show (("clone_after",
        .nullableNested codingCloneAfterFields) : String × FieldSpec) ∈ codingExecutionFields by
          simp [codingExecutionFields])).2
    rw [completedRecord_get.2.2.2.2.2.2.2.2, hclone, Json.ofOption,
      validateField_nullableNested (show codingCloneAfterFields ≠ [] by
        simp [codingCloneAfterFields])] at hvalid
    rw [FinishedAttempt.after, hclone, Option.map_some, Option.getD_some]
    exact setRaises_of_accepts (accepts_of_validateField_eq_nil
      ((validateFields_eq_nil_iff.mp hvalid).2 _ (show (("changed_paths", .strings) :
        String × FieldSpec) ∈ codingCloneAfterFields by simp [codingCloneAfterFields])).2)
  · exact setRaises_of_accepts (h.part_accepts (show (("capabilities",
      .nested codingCapabilityFields) : String × FieldSpec) ∈ codingExecutionFields by
        simp [codingExecutionFields]) (List.cons_ne_nil _ _) completedRecord_get.2.2.2.1
      (show (("authorized_write_paths", .strings) : String × FieldSpec) ∈ codingCapabilityFields by
        simp [codingCapabilityFields]))

/-- The slot of an accepted attempt was reserved at a time of the form of the records. -/
theorem AcceptedCodingRecord.reservedAt {record attempt : Mapping} (h : AcceptedCodingRecord record)
    (hattempt : record.get "attempt" = attempt.toJson)
    (hnumber : isAttemptNumber (attempt.get "number") = true)
    (hkind : attempt.get "kind" ≠ .str "PRELAUNCH") :
    (attempt.get "reserved_at_utc").asStr.any isCodingUtc = true := by
  have hissues := h.attempt
  simp only [codingAttemptIssues, hattempt, whenMapping, Mapping.asMapping_toJson, if_neg hkind,
    hnumber, if_true, List.append_eq_nil_iff, issueUnless_eq_nil] at hissues
  exact hissues.1.1.1.1.2

/-- **An attempt is recorded iff its observations have the form**: behind any run of the slots, the
builder returns a record of an attempt that was granted on the slot of its launch iff the time of
the reservation is a timestamp and the observations are of the form that the contract asks for. -/
theorem attempt_recordable_iff (hfold : ∀ s, isLowerName s = true → casefold s = s)
    {calls : List SlotCall} {gate kind parent : Json} {time : String} {granted : SlotAnswer}
    (hgranted : reserveCodingExecutionAttempt (runSlots noSlots calls) gate kind parent (.str time)
      = .ok granted)
    (hread : runSlots noSlots calls granted.gateId = some s)
    (hslot : c.slot = codingExecutionPublicState s) (hreservation : a.reservation = granted.answer)
    (hpass : (evaluatePrelaunch paths c).state = .pass) :
    (∃ record, buildCompletedAttemptRecord c (evaluatePrelaunch paths c) executionId checkedAtUtc a
        = .ok record) ↔
      isCodingUtc time = true ∧
        Recordable (completedRecord paths c executionId checkedAtUtc a) := by
  have hlaunch := evaluatePrelaunch_eq_pass.mp hpass
  have hattempt := grantedAttempt_of_run hgranted hread
  rw [← hreservation] at hattempt
  have htime : a.reservation.get "reserved_at_utc" = .str time := by
    rw [hreservation]
    exact reservedAt_of_reserve hgranted
  constructor
  · rintro ⟨record, hbuilt⟩
    obtain ⟨-, -, -, -, rfl, haccepted⟩ := buildCompletedAttemptRecord_eq_ok hbuilt
    refine ⟨?_, haccepted.recordable⟩
    have hreserved := haccepted.reservedAt completedRecord_made.2.2.1 ?_ ?_
    · rwa [Mapping.get_put_of_ne _ _ (by decide), htime, Json.asStr, Option.any_some] at hreserved
    · rw [Mapping.get_put_of_ne _ _ (by decide)]
      exact hattempt.isAttemptNumber
    · rw [Mapping.get_put_of_ne _ _ (by decide)]
      cases hattempt.kind with
      | ordinary hkind _ _ _ => simp [hkind]
      | remediation _ hkind _ _ _ _ => simp [hkind]
  · rintro ⟨hutc, hrecordable⟩
    have haccepted := hrecordable.accepted hfold hlaunch hslot hattempt ⟨time, htime, hutc⟩
    refine ⟨completedRecord paths c executionId checkedAtUtc a, ?_⟩
    have hnumber : isOneOrTwo (a.reservation.get "number") = true := by
      obtain ⟨remaining, hone | htwo, hnumber, -⟩ := hattempt.budget
      · simp [hnumber, hone, isOneOrTwo, Json.pyEq]
      · simp [hnumber, htwo, isOneOrTwo, Json.pyEq]
    have hevidence : (c.slot.get "state").asStr.isSome = true ∧
        (c.slot.get "historical_candidate_ids").asList.isSome = true := by
      have hget : c.slot.get "state" = s.get "state" ∧
          c.slot.get "historical_candidate_ids" = s.get "historical_candidate_ids" := by
        rw [hslot]
        exact ⟨rfl, rfl⟩
      rw [hget.1, hget.2]
      cases hattempt.kind with
      | ordinary _ _ hstate hhistorical => simp [hstate, hhistorical, Json.asStr, Json.asList]
      | remediation _ _ _ _ hstate hhistorical =>
          simp [hstate, hhistorical, Json.asStr, Json.asList]
    have hblockers : (evaluatePrelaunch paths c).blockerIds = [] := by
      rw [hlaunch.evaluation_eq]
    simp only [buildCompletedAttemptRecord, requireSlotEvidence, validatedRecord, bind_eq_ok,
      require_eq_ok, exists_const]
    exact ⟨⟨hpass, hblockers⟩, hattempt.keys, hnumber, hrecordable.sets, hevidence, (),
      validateCodingExecutionRecord_eq_ok_iff.mpr ⟨_, rfl, haccepted⟩, rfl⟩

omit [Platform] in
/-- A gate that was initialised has an empty slot. -/
theorem emptySlot_stored :
    letI := foldingPlatform
    runSlots noSlots [.initializeSlot (.str "G") (.str "T")] "G" = some (emptySlot "G" "T") := by
  let _ := foldingPlatform
  have hdecide : (SlotCall.initializeSlot (.str "G") (.str "T")).decide noSlots
      = .ok ⟨"G", codingExecutionPublicState (emptySlot "G" "T"), some (emptySlot "G" "T")⟩ := by
    simp only [SlotCall.decide, initializeCodingExecutionSlot, bind_eq_ok]
    refine ⟨"G", by rfl, "T", by rfl, ?_⟩
    simp only [noSlots, writeSlot, bind_eq_ok]
    exact ⟨_, emptySlot_checked, rfl⟩
  simp [runSlots, SlotCall.run, hdecide]

omit [Platform] in
/-- The attempt that has patched a path is recorded behind the initialisation of its gate. -/
theorem attempt_recordable_iff_patched :
    letI := foldingPlatform
    (∃ record, buildCompletedAttemptRecord patchedContext
        (evaluatePrelaunch singleParts patchedContext) "E" "2026-01-01T00:00:00.000Z"
        (patchedAttempt firstReservation) = .ok record) ↔
      isCodingUtc "2026-01-01T00:00:00.000Z" = true ∧
        Recordable (completedRecord singleParts patchedContext "E" "2026-01-01T00:00:00.000Z"
          (patchedAttempt firstReservation)) := by
  let _ := foldingPlatform
  exact attempt_recordable_iff (fun _ _ => rfl) (emptySlot_reserved emptySlot_stored)
    emptySlot_stored patchedContext_slot (patchedAttempt_reservation _)
    (evaluatePrelaunch_eq_pass.mpr patchedContext_launches)

end Recorded

/-! ## Section 7: Launches that are held back -/

/-- The record of a launch that the gates hold back. -/
def heldRecord (paths : PathAnswers) (c : PreflightContext) (executionId checkedAtUtc : String) :
    Mapping :=
  codingRecord c executionId checkedAtUtc (holdParts c (evaluatePrelaunch paths c) checkedAtUtc)

section Held

variable {paths : PathAnswers} {c : PreflightContext} {executionId checkedAtUtc : String}
  {s : Mapping}

/-- The parts of the record of a launch that was held back. -/
theorem heldRecord_get :
    let record := heldRecord paths c executionId checkedAtUtc
    record.get "capabilities" = c.capabilities.toJson ∧
      record.get "attempt" = (noAttempt (c.slot.get "remaining_attempts")).toJson ∧
      record.get "prelaunch"
        = (recordPrelaunch (evaluatePrelaunch paths c) checkedAtUtc).toJson ∧
      record.get "process" = noProcess.toJson ∧
      record.get "agent_result" = noAgentResult.toJson ∧ record.get "clone_after" = .null ∧
      record.get "candidate" = noCandidate.toJson ∧ record.get "outcome" = .str "PRELAUNCH_HOLD" ∧
      record.get "slot" = (recordSlot c (c.slot.get "state")
        (c.slot.get "active_candidate_id")).toJson ∧
      record.get "created_at_utc" = .str checkedAtUtc :=
  ⟨rfl, rfl, rfl, rfl, rfl, rfl, rfl, rfl, rfl, rfl⟩

/-- The state of a recorded hold. -/
theorem recordPrelaunch_held (hhold : (evaluatePrelaunch paths c).state = .hold) :
    (recordPrelaunch (evaluatePrelaunch paths c) checkedAtUtc).get "state" = .str "HOLD" := by
  rw [(recordPrelaunch_get _).2.2.2, hhold]
  rfl

omit [Platform] in
/-- The items of a list of mappings are mappings of their table. -/
theorem items_of_validateField {path : String} {v : Json} {rows : List (String × FieldSpec)}
    (hrows : (FieldTable.ofList rows).isTable = true)
    (h : validateField path v (.items rows) = []) {item : Json}
    (hitem : item ∈ v.asList.getD []) : ∃ (itemPath : String) (data : Mapping),
      item = data.toJson ∧ validateFields itemPath data (.ofList rows) = [] := by
  have htype := (accepts_of_validateField_eq_nil h).type_ok
  simp only [FieldSpec.items, FieldSpec.expectedType] at htype
  simp only [FieldSpec.items, validateField, htype, if_true, hrows, List.append_eq_nil_iff] at h
  obtain ⟨itemPath, hvalid⟩ := forall_mem_of_enumeratePaths h.1.1.2 item hitem
  split at hvalid
  next data hdata => exact ⟨itemPath, data, Mapping.asMapping_eq_some.mp hdata, hvalid⟩
  next => cases hvalid

/-- The class and the source of the rows of recordable capabilities can be looked up. -/
theorem Recordable.rows_hashable {record capabilities : Mapping} (h : Recordable record)
    (hcapabilities : record.get "capabilities" = capabilities.toJson) :
    ∀ entry ∈ operationRows capabilities,
      (entry.1.get "class").isUnhashable = false ∧ (entry.1.get "source").isUnhashable = false := by
  have hcapability : validateField (joinPath "" "capabilities") (record.get "capabilities")
      (.nested codingCapabilityFields) = [] :=
    ((validateFields_eq_nil_iff.mp h.fields).2 _ (show (("capabilities",
      .nested codingCapabilityFields) : String × FieldSpec) ∈ codingExecutionFields by
        simp [codingExecutionFields])).2
  rw [hcapabilities, validateField_nested (show codingCapabilityFields ≠ [] by
    simp [codingCapabilityFields])] at hcapability
  have hrows := ((validateFields_eq_nil_iff.mp hcapability).2 _ (show (("operation_rows",
    .items codingOperationRowFields) : String × FieldSpec) ∈ codingCapabilityFields by
      simp [codingCapabilityFields])).2
  rintro ⟨row, index⟩ hentry
  obtain ⟨⟨item, position⟩, hitem, hrow⟩ := List.mem_filterMap.mp hentry
  obtain ⟨itemPath, data, rfl, hvalid⟩ :=
    items_of_validateField rfl hrows (List.fst_mem_of_mem_zipIdx hitem)
  obtain ⟨rfl, -⟩ : data = row ∧ position = index := by simpa using hrow
  have hword : ∀ (field : String) (words : List String),
      ((field, .word words) : String × FieldSpec) ∈ codingOperationRowFields →
        (data.get field).isUnhashable = false := by
    intro field words hfield
    have htype := (accepts_of_validateField_eq_nil
      ((validateFields_eq_nil_iff.mp hvalid).2 _ hfield).2).type_ok
    cases hvalue : data.get field with
    | str s => rfl
    | _ => simp [hvalue, FieldSpec.word, FieldSpec.expectedType, matchesExpectedType,
        PyType.accepts, Json.asMapping] at htype
  exact ⟨hword "class" codingOperationClasses (by simp [codingOperationRowFields]),
    hword "source" ["CONTROLLER_EVENT", "PROCESS_OBSERVATION", "FILESYSTEM_DIFF", "GIT_DIFF"]
      (by simp [codingOperationRowFields])⟩

/-- The gates of a launch that was held back are recorded as such. -/
theorem codingPrelaunchIssues_heldRecord (hhold : (evaluatePrelaunch paths c).state = .hold)
    (htime : isCodingUtc checkedAtUtc = true) :
    codingPrelaunchIssues (heldRecord paths c executionId checkedAtUtc) = [] := by
  have hstate := @recordPrelaunch_held _ paths c checkedAtUtc hhold
  obtain ⟨hchecked, hgates, hblockers, -⟩ :=
    @recordPrelaunch_get checkedAtUtc (evaluatePrelaunch paths c)
  have hrows : (evaluatePrelaunch paths c).gateRows
      = (prelaunchGates paths c).map PrelaunchGate.row := rfl
  rw [codingPrelaunchIssues, heldRecord_get.2.2.1, whenMapping, Mapping.asMapping_toJson]
  simp only [hstate, hchecked, hgates, hrows, requireCodingUtc, checkStr, Json.asList,
    Option.getD_some, Option.isSome_some, List.map_map]
  rw [List.append_eq_nil_iff]
  refine ⟨by simp [htime], ?_⟩
  have hids : (prelaunchGates paths c).map (fun gate => Json.str gate.gateId)
      = gateIds.map .str := rfl
  rw [if_pos, issueUnless_eq_nil]
  · simp
  · rw [Bool.true_and, decide_eq_true_eq, ← hids]
    exact List.map_congr_left (fun gate _ => by simp [(PrelaunchGate.row_get _).1])

/-- The outcome of a hold is the one that the contract derives. -/
theorem codingOutcomeIssues_heldRecord (hhold : (evaluatePrelaunch paths c).state = .hold) :
    codingOutcomeIssues (heldRecord paths c executionId checkedAtUtc) = [] := by
  obtain ⟨-, hattempt, hprelaunch, hprocess, hresult, -, hcandidate, houtcome, -⟩ :=
    @heldRecord_get _ paths c executionId checkedAtUtc
  have hready : codingPromotionReady (heldRecord paths c executionId checkedAtUtc) = false := by
    by_contra hready
    have hstatus := (promotionReady_of_coding (Bool.eq_true_of_not_eq_false hready)).candidateStatus
    rw [recordField, hcandidate, Json.field_toJson] at hstatus
    exact absurd (show Json.str "NONE" = .str "FROZEN_REVIEW" from hstatus) (by decide)
  have hparts : ["prelaunch", "attempt", "process", "agent_result"].all (fun name =>
      ((heldRecord paths c executionId checkedAtUtc).get name).asMapping.isSome) = true := by
    simp [hprelaunch, hattempt, hprocess, hresult]
  have hexpected : codingExpectedOutcome (heldRecord paths c executionId checkedAtUtc) false
      = some "PRELAUNCH_HOLD" := by
    simp [codingExpectedOutcome, hparts, hprelaunch, recordPrelaunch_held hhold]
  simp only [codingOutcomeIssues, hready, hexpected, hcandidate, houtcome, whenMapping,
    Mapping.asMapping_toJson, List.append_eq_nil_iff, issueUnless_eq_nil]
  exact ⟨⟨by simp, by simp⟩, rfl, rfl⟩

/-- **The contract accepts the record of a launch that was held back for what it observed.** -/
theorem Recordable.accepted_held (hfold : ∀ s, isLowerName s = true → casefold s = s)
    (hhold : (evaluatePrelaunch paths c).state = .hold)
    (h : Recordable (heldRecord paths c executionId checkedAtUtc)) :
    AcceptedCodingRecord (heldRecord paths c executionId checkedAtUtc) := by
  obtain ⟨hcapabilities, hattempt, hprelaunch, hprocess, -, hafter, hcandidate, -, hslot, hstamp⟩ :=
    @heldRecord_get _ paths c executionId checkedAtUtc
  have htime : isCodingUtc checkedAtUtc = true := by
    have hidentity := h.identity
    rw [codingIdentityIssues, List.append_eq_nil_iff, hstamp] at hidentity
    simpa [requireCodingUtc, checkStr] using hidentity.2
  refine ⟨rfl, h.fields, ?_, h.keys hfold, h.identity, h.packet, h.baseline, h.executor, h.clones,
    h.counts, h.capabilities, codingPrelaunchIssues_heldRecord hhold htime, ?_, h.process,
    h.cloneAfter, ?_, ?_, ?_, codingOutcomeIssues_heldRecord hhold⟩
  · rw [codingCheckRaises, hcapabilities, hattempt]
    simp only [Mapping.asMapping_toJson, Option.map_some, Option.getD_some, Bool.or_eq_false_iff]
    refine ⟨List.any_eq_false.mpr (fun entry hentry => ?_), ?_⟩
    · obtain ⟨hclass, hsource⟩ := h.rows_hashable hcapabilities entry hentry
      simp [hclass, hsource]
    · simp [noAttempt, Mapping.get, Mapping.lookup]
  · rw [codingAttemptIssues, hattempt, whenMapping, Mapping.asMapping_toJson]
    simp [noAttempt, Mapping.get, Mapping.lookup, checkInt]
  · rw [codingCandidateIssues, hcandidate, hslot]
    simp only [whenMapping, Mapping.asMapping_toJson]
    rfl
  · rw [codingHoldIssues, hprelaunch, hprocess]
    have hflags : ∀ field ∈ ["model_request_started", "process_start_requested"],
        (recordPrelaunch (evaluatePrelaunch paths c) checkedAtUtc).get field = .bool false := by
      have hnone : decide ((evaluatePrelaunch paths c).state = .pass) = false := by
        rw [hhold]
        rfl
      simp only [List.forall_mem_cons, List.not_mem_nil, false_imp_iff, implies_true, and_true]
      exact ⟨congrArg Json.bool hnone, congrArg Json.bool hnone⟩
    simp only [whenMapping, Mapping.asMapping_toJson, recordPrelaunch_held hhold, if_true,
      hflags "model_request_started" (by simp), hflags "process_start_requested" (by simp)]
    rfl
  · rw [codingDiffIssues, hafter, hcandidate]
    simp only [whenMapping, Mapping.asMapping_toJson]
    rfl

/-- Behind every run the slot of a gate passes the check. -/
theorem validSlot_of_run {calls : List SlotCall} {gateId : String}
    (hread : runSlots noSlots calls gateId = some s) : ValidSlot gateId s := by
  have hreached : ∀ s, runSlots noSlots calls gateId = some s → ValidSlot gateId s := by
    refine @runSlots_induct _ gateId (fun slot _ => ∀ s, slot = some s → ValidSlot gateId s)
      (fun _ hnone => absurd hnone (by simp)) ?_ calls
    rintro c old granted s' attempts - - hvalid _ ⟨⟩
    exact hvalid
  exact hreached s hread

/-- **A launch that is held back is recorded iff its observations have the form**: behind any run of
the slots, the builder returns a record of the launch iff what was observed is of the form that the
contract asks for, whatever the gates have found. -/
theorem hold_recordable_iff (hfold : ∀ s, isLowerName s = true → casefold s = s)
    {calls : List SlotCall} {gateId : String} (hread : runSlots noSlots calls gateId = some s)
    (hslot : c.slot = codingExecutionPublicState s)
    (hhold : (evaluatePrelaunch paths c).state = .hold) :
    (∃ record, buildPrelaunchHoldRecord c (evaluatePrelaunch paths c) executionId checkedAtUtc
        = .ok record) ↔ Recordable (heldRecord paths c executionId checkedAtUtc) := by
  constructor
  · rintro ⟨record, hbuilt⟩
    simp only [buildPrelaunchHoldRecord, bind_eq_ok, require_eq_ok, exists_const] at hbuilt
    obtain ⟨-, -, _, -, hrecord⟩ := hbuilt
    obtain ⟨rfl, haccepted⟩ := validatedRecord_eq_ok hrecord
    exact haccepted.recordable
  · intro hrecordable
    have haccepted := hrecordable.accepted_held hfold hhold
    have hvalid := validSlot_of_run hread
    have hget : c.slot.get "state" = s.get "state" ∧
        c.slot.get "historical_candidate_ids" = s.get "historical_candidate_ids" ∧
        c.slot.get "remaining_attempts" = s.get "remaining_attempts" := by
      rw [hslot]
      exact ⟨rfl, rfl, rfl⟩
    obtain ⟨hstate, hhistorical, hremaining⟩ := hget
    have hblockers : (evaluatePrelaunch paths c).blockerIds ≠ [] := by
      intro hnone
      have hpass : (evaluatePrelaunch paths c).state = .pass := if_pos hnone
      rw [hhold] at hpass
      cases hpass
    have hbudget : [Json.int 0, .int 1, .int 2].any
        ((c.slot.get "remaining_attempts").pyEq ·) = true := by
      have htaken := hvalid.taken
      have hcases : (2 - attemptsTaken s : Int) = 0 ∨ (2 - attemptsTaken s : Int) = 1 ∨
          (2 - attemptsTaken s : Int) = 2 := by omega
      rw [hremaining, hvalid.remaining]
      simpa [Json.pyEq] using hcases
    have hevidence : (c.slot.get "state").asStr.isSome = true ∧
        (c.slot.get "historical_candidate_ids").asList.isSome = true := by
      obtain ⟨name, -, hname⟩ := hvalid.state
      obtain ⟨ids, hids, -⟩ := hvalid.historical
      obtain ⟨items, hitems, -⟩ := Option.bind_eq_some_iff.mp hids
      rw [hstate, hhistorical, hname, hitems]
      exact ⟨rfl, rfl⟩
    simp only [buildPrelaunchHoldRecord, requireSlotEvidence, validatedRecord, bind_eq_ok,
      require_eq_ok, exists_const]
    exact ⟨heldRecord paths c executionId checkedAtUtc, ⟨hhold, hblockers⟩, hbudget, hevidence, (),
      validateCodingExecutionRecord_eq_ok_iff.mpr ⟨_, rfl, haccepted⟩, rfl⟩

/-- A context whose model request has started already. -/
def startedContext : PreflightContext := { patchedContext with modelRequestStarted := true }

omit [Platform] in
/-- A launch whose model request has started is held back and can be recorded or not. -/
theorem hold_recordable_iff_started :
    letI := foldingPlatform
    (∃ record, buildPrelaunchHoldRecord startedContext
        (evaluatePrelaunch singleParts startedContext) "E" "2026-01-01T00:00:00.000Z"
        = .ok record) ↔
      Recordable (heldRecord singleParts startedContext "E" "2026-01-01T00:00:00.000Z") := by
  let _ := foldingPlatform
  have hslot : startedContext.slot = codingExecutionPublicState (emptySlot "G" "T") :=
    patchedContext_slot
  have hhold : (evaluatePrelaunch singleParts startedContext).state = .hold := by
    cases hstate : (evaluatePrelaunch singleParts startedContext).state with
    | hold => rfl
    | pass =>
        have hfrozen := (evaluatePrelaunch_eq_pass.mp hstate).frozen
        simp [frozenPasses, startedContext] at hfrozen
  exact hold_recordable_iff (fun _ _ => rfl) emptySlot_stored hslot hhold

end Held

end Acgps
