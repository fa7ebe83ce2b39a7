import Acgps.Contracts.Completeness
import Acgps.Engine.Acceptance
import Acgps.Engine.GateFacts

/-!
# Fix cycles

What a task has to close between an entry into FIX_REQUIRED and the next entry into VERIFIED: the
blockers that the entries bind, read back from the log, handed over to the coder, and closed by a
review before the task is verified.

## Main Definitions

* `Blocks` - an accepted open P0 or P1 finding, or a failed verification
* `World.blockersOf` - the blockers that an event binds, in order
* `ClosesFixCycle` - an integration that closes the blocking findings of a fix cycle

## Key Theorems

* `eventBlockers_may`, `currentFixCycleBlockers_may` - what is read back is what was bound
* `remediation_hands_over_blockers` - **a remediation hands over exactly the open blockers**
* `fix_cycles_closed` - **no verification before the blocking findings are closed**
* `fix_cycle_evidence_fresh` - **no verification with evidence older than the integration**
-/

namespace Acgps

open Checked History Interleaving

variable [Platform]

/-! ## Section 1: Blockers -/

/-- What `FIX_REQUIRED` is about: an accepted open P0 or P1 finding, or a failed verification. -/
inductive Blocks (record : Mapping) : Prop
  | finding : validateContract .reviewFinding record.toJson = .ok () →
      isCurrentFixBlocker record = true → Blocks record
  | verification : validateContract .verificationRecord record.toJson = .ok () →
      isCurrentVerificationFailure record = true → Blocks record

omit [Platform] in
/-- The keys of an accepted record are those of its contract. -/
theorem has_iff_of_validateContract {c : Contract} {record : Mapping} {u : Unit}
    (h : validateContract c record.toJson = .ok u) (key : String) :
    record.has key = true ↔ key ∈ c.rows.map Prod.fst := by
  constructor
  · intro hhas
    obtain ⟨data, heq, -, hfields, -⟩ := validateContract_eq_ok_iff.mp h
    obtain rfl := Mapping.toJson_injective heq
    have hkeys := keys_of_validateFields_eq_nil hfields key (Mapping.has_eq_true_iff.mp hhas)
    simpa [Contract.table] using hkeys
  · intro hmem
    obtain ⟨row, hrow, rfl⟩ := List.mem_map.mp hmem
    exact (get_of_validateContract h hrow).1

omit [Platform] in
/-- A record of one contract is of no contract with another key. -/
theorem not_validateContract {c c' : Contract} {record : Mapping} {u u' : Unit} (key : String)
    (h : validateContract c record.toJson = .ok u) (hkey : key ∈ c'.rows.map Prod.fst)
    (hnot : key ∉ c.rows.map Prod.fst) : validateContract c' record.toJson ≠ .ok u' := by
  intro h'
  exact hnot ((has_iff_of_validateContract h key).mp ((has_iff_of_validateContract h' key).mpr hkey))

omit [Platform] in
/-- A record of the packet or the result of an agent is no blocker. -/
theorem not_blocks {c : Contract} {record : Mapping} {u : Unit}
    (h : validateContract c record.toJson = .ok u)
    (hc : c = .agentTaskContract ∨ c = .agentResult) : ¬ Blocks record := by
  intro hblocks
  cases hblocks with
  | finding hcontract _ =>
      refine not_validateContract "finding_id" h ?_ ?_ hcontract
      · decide
      · rcases hc with rfl | rfl <;> decide
  | verification hcontract _ =>
      refine not_validateContract "verification_id" h ?_ ?_ hcontract
      · decide
      · rcases hc with rfl | rfl <;> decide

omit [Platform] in
/-- A finding blocks when the fix cycle says so. -/
theorem blocks_finding_iff {record : Mapping} {u : Unit}
    (h : validateContract .reviewFinding record.toJson = .ok u) :
    Blocks record ↔ isCurrentFixBlocker record = true := by
  constructor
  · intro hblocks
    cases hblocks with
    | finding _ hcurrent => exact hcurrent
    | verification hcontract _ =>
        exact absurd hcontract
          (not_validateContract "verification_id" h (by decide) (by decide))
  · exact fun hcurrent => .finding h hcurrent

omit [Platform] in
/-- A failed verification blocks. -/
theorem VerificationFailure.blocks {record : Mapping} {current : WorkflowTaskState}
    (h : VerificationFailure record current) : Blocks record :=
  .verification h.contract h.failure

/-- The bytes of a snapshot are a blocker. -/
def World.Blocking (w : World) (root : String) (snapshot : Snapshot) : Prop :=
  ∃ record, w.Shows root (some snapshot) record ∧ Blocks record

open Classical in
/-- The blockers among the snapshots of bindings, in order. -/
noncomputable def World.blockersAmong (w : World) (root : String)
    (bindings : List (Option Snapshot)) : List Snapshot :=
  (bindings.filterMap id).filter (fun snapshot => w.Blocking root snapshot)

/-- The blockers that an event binds, in order. -/
noncomputable def World.blockersOf (w : World) (root : String) (e : AuditEvent) : List Snapshot :=
  w.blockersAmong root (e.evidenceBindings.map EvidenceBinding.snapshot?)

/-- A record that is shown blocks when its bytes do. -/
theorem World.Shows.blocking_iff {w : World} {root : String} {snapshot : Snapshot}
    {record : Mapping} (h : w.Shows root (some snapshot) record) :
    w.Blocking root snapshot ↔ Blocks record := by
  constructor
  · rintro ⟨record', hshown, hblocks⟩
    rwa [h.unique hshown]
  · exact fun hblocks => ⟨record, h, hblocks⟩

/-- A binding that shows a record which does not block is no blocker. -/
theorem World.blockersAmong_cons_of_not {w : World} {root : String} {bound : Option Snapshot}
    {record : Mapping} {bindings : List (Option Snapshot)} (h : w.Shows root bound record)
    (hnot : ¬ Blocks record) :
    w.blockersAmong root (bound :: bindings) = w.blockersAmong root bindings := by
  obtain ⟨file, rfl, hleads, hloads⟩ := h
  have hshown : w.Shows root (some file.snapshot) record := ⟨file, rfl, hleads, hloads⟩
  have hno : ¬ w.Blocking root file.snapshot := fun hb => hnot (hshown.blocking_iff.mp hb)
  simp [World.blockersAmong, hno]

/-- **The blockers of bindings that were read** are the records that block among those read. -/
theorem World.blockersAmong_eq {w : World} {root : String} {p : Mapping → Bool}
    {bindings : List (Option Snapshot)} {read : List (Mapping × Snapshot)}
    (h : List.Forall₂ (fun bound entry => bound = some entry.2 ∧
      w.Shows root (some entry.2) entry.1 ∧ (Blocks entry.1 ↔ p entry.1 = true)) bindings read) :
    w.blockersAmong root bindings = (read.filter (fun entry => p entry.1)).map Prod.snd := by
  induction h with
  | nil => rfl
  | @cons bound entry bindings read hentry _ ih =>
      obtain ⟨rfl, hshown, hblocks⟩ := hentry
      have hiff := hshown.blocking_iff.trans hblocks
      unfold World.blockersAmong at ih ⊢
      rw [List.filterMap_cons_some (by rfl), List.filter_cons, List.filter_cons, ih]
      by_cases hp : p entry.1 = true
      · simp [hiff.mpr hp, hp]
      · have hno : ¬ w.Blocking root entry.2 := fun hb => hp (hiff.mp hb)
        simp [hno, hp]

/-! ## Section 2: Reading the blockers back -/

/-- Records that were read, each with the snapshot that shows it. -/
def World.ShowsEach (w : World) (root : String) (read : List (Mapping × Snapshot)) : Prop :=
  ∀ entry ∈ read, w.Shows root (some entry.2) entry.1 ∧ Blocks entry.1

section ReadBack

variable {w : World} {engine : Engine} {current : WorkflowTaskState}
  {bindings : List (Option Snapshot)} {read : List (Mapping × Snapshot)}

/-- The findings that bindings have, read back. -/
theorem findingBlockers_may
    (h : (findingBlockers engine bindings).May (fun v => v.Precedes w) (.ok read)) :
    read.map Prod.snd = w.blockersAmong engine.projectRoot bindings ∧
      w.ShowsEach engine.projectRoot read := by
  simp only [findingBlockers, Query.may_bind, Query.may_mapM, Query.may_lift, Query.may_pure,
    require_eq_ok, exists_const, Prod.exists] at h
  obtain ⟨records, hrecords, -, rfl⟩ := h
  have hshown : List.Forall₂ (fun bound (entry : Mapping × Snapshot) => bound = some entry.2 ∧
      w.Shows engine.projectRoot (some entry.2) entry.1 ∧
        (Blocks entry.1 ↔ isCurrentFixBlocker entry.1 = true)) bindings records := by
    refine hrecords.imp (fun bound entry hentry => ?_)
    obtain ⟨record, snapshot, hread, _, hcontract, rfl⟩ := hentry
    obtain ⟨rfl, v, hv, hshows⟩ := readBoundEvidenceJsonSnapshot_shows hread
    exact ⟨rfl, hshows.later hv, blocks_finding_iff hcontract⟩
  refine ⟨(World.blockersAmong_eq hshown).symm, fun entry hentry => ?_⟩
  obtain ⟨hmem, hcurrent⟩ := List.mem_filter.mp hentry
  obtain ⟨bound, -, -, hshows, hblocks⟩ := exists_of_mem_forall₂ hshown hmem
  exact ⟨hshows, hblocks.mpr hcurrent⟩

/-- Two records of the agent in front of bindings are no blockers. -/
theorem blockersAmong_drop_two {packet agentResult : Mapping} {s s' : Snapshot} {u u' : Unit}
    (hlength : 3 ≤ bindings.length)
    (hpacket : (readBoundCanonicalEvidenceJson engine (bindings[0]?.join)).May
      (fun v => v.Precedes w) (.ok (packet, s)))
    (hresult : (readBoundCanonicalEvidenceJson engine (bindings[1]?.join)).May
      (fun v => v.Precedes w) (.ok (agentResult, s')))
    (hcontract : validateContract .agentTaskContract packet.toJson = .ok u)
    (hcontract' : validateContract .agentResult agentResult.toJson = .ok u') :
    w.blockersAmong engine.projectRoot bindings
      = w.blockersAmong engine.projectRoot (bindings.drop 2) := by
  obtain ⟨-, v, hv, hpacket⟩ := readBoundCanonicalEvidenceJson_shows hpacket
  obtain ⟨-, v', hv', hresult⟩ := readBoundCanonicalEvidenceJson_shows hresult
  match bindings, hlength with
  | first :: second :: rest, _ =>
      have hfirst : v.Shows engine.projectRoot first packet := hpacket
      have hsecond : v'.Shows engine.projectRoot second agentResult := hresult
      rw [World.blockersAmong_cons_of_not (hfirst.later hv) (not_blocks hcontract (.inl rfl)),
        World.blockersAmong_cons_of_not (hsecond.later hv') (not_blocks hcontract' (.inr rfl))]
      rfl

/-- The failed verifications that bindings have behind the records of a verifier, read back. -/
theorem verifierBlockers_may
    (h : (verifierBlockers engine current bindings).May (fun v => v.Precedes w) (.ok read)) :
    read.map Prod.snd = w.blockersAmong engine.projectRoot bindings ∧
      w.ShowsEach engine.projectRoot read := by
  simp only [verifierBlockers, Query.may_bind, Query.may_mapM, Query.may_lift, Query.may_pure,
    require_eq_ok, exists_const, Prod.exists, mapError_eq_ok, validateVerifierResultBinding_eq_ok,
    validateFixRequiredVerificationRecord_eq_ok] at h
  obtain ⟨hlength, packet, s, hpacket, agentResult, s', hresult, hrole, records, hrecords, -, rfl⟩ := h
  have hshown : List.Forall₂ (fun bound (entry : Mapping × Snapshot) => bound = some entry.2 ∧
      w.Shows engine.projectRoot (some entry.2) entry.1 ∧
        (Blocks entry.1 ↔ true = true)) (bindings.drop 2) records := by
    refine hrecords.imp (fun bound entry hentry => ?_)
    obtain ⟨record, snapshot, hread, hfailure, rfl⟩ := hentry
    obtain ⟨rfl, v, hv, hshows⟩ := readBoundEvidenceJsonSnapshot_shows hread
    exact ⟨rfl, hshows.later hv, by simp [hfailure.blocks]⟩
  refine ⟨?_, fun entry hentry => ?_⟩
  · rw [blockersAmong_drop_two hlength hpacket hresult hrole.supervised.handedOff.contract
      hrole.supervised.contract, World.blockersAmong_eq (p := fun _ => true) hshown]
    simp
  · obtain ⟨bound, -, -, hshows, hblocks⟩ := exists_of_mem_forall₂ hshown hentry
    exact ⟨hshows, hblocks.mpr rfl⟩

/-- The findings that bindings have behind the records of a reviewer, read back. -/
theorem reviewerBlockers_may {u : Unit}
    (hstored : (requireStoredReview engine current bindings).May (fun v => v.Precedes w) (.ok u))
    (h : (findingBlockers engine (bindings.drop 2)).May (fun v => v.Precedes w) (.ok read)) :
    read.map Prod.snd = w.blockersAmong engine.projectRoot bindings ∧
      w.ShowsEach engine.projectRoot read := by
  simp only [requireStoredReview, Query.may_bind, Query.may_lift, require_eq_ok, exists_const,
    Prod.exists, mapError_eq_ok, buildSupervisedReviewerResultReceiptPreview,
    buildSupervisedResultReceiptPreview_eq_ok] at hstored
  obtain ⟨hlength, packet, s, hpacket, agentResult, s', hresult, _, ⟨hsupervised, -⟩, -⟩ := hstored
  obtain ⟨hread, hshows⟩ := findingBlockers_may h
  refine ⟨?_, hshows⟩
  rw [hread, blockersAmong_drop_two hlength hpacket hresult hsupervised.handedOff.contract
    hsupervised.contract]

/-- **The blockers of an event, read back**, are those that it binds. -/
theorem eventBlockers_may {event : AuditEvent}
    (h : (eventBlockers engine current event).May (fun v => v.Precedes w) (.ok read)) :
    read.map Prod.snd = w.blockersOf engine.projectRoot event ∧
      w.ShowsEach engine.projectRoot read := by
  unfold eventBlockers at h
  dsimp only at h
  unfold World.blockersOf
  split at h
  next hnil =>
    rw [hnil] at h ⊢
    exact findingBlockers_may h
  next first rest hbindings =>
    rw [hbindings] at h ⊢
    split at h
    next =>
      rw [Query.may_bind] at h
      obtain ⟨⟨record, snapshot⟩, -, h⟩ := h
      split at h
      next => exact verifierBlockers_may h
      next => exact findingBlockers_may h
    next =>
      split at h
      next =>
        rw [Query.may_bind] at h
        obtain ⟨⟨record, snapshot⟩, -, h⟩ := h
        split at h
        next =>
          rw [Query.may_bind] at h
          obtain ⟨_, hstored, h⟩ := h
          exact reviewerBlockers_may hstored h
        next => exact findingBlockers_may h
      next => exact findingBlockers_may h

/-- **The blockers of the fix cycle, read back**, are those that its entries into FIX_REQUIRED bind,
in the order of the log. -/
theorem currentFixCycleBlockers_may
    (h : (currentFixCycleBlockers engine current).May (fun v => v.Precedes w) (.ok read)) :
    ∃ (v : World) (lineage : List AuditEvent), v.Precedes w ∧ trustedAuditLineage v.store current = .ok lineage ∧
      read.map Prod.snd = ((currentFixCycleEvents lineage).filter
        (AuditEvent.enters .fixRequired)).flatMap (w.blockersOf engine.projectRoot) ∧
      w.ShowsEach engine.projectRoot read := by
  simp only [currentFixCycleBlockers, Query.may_bind, Query.may_mapM, Query.may_pure,
    may_trustedLineage] at h
  obtain ⟨lineage, ⟨v, hv, hlineage⟩, blockers, hblockers, rfl⟩ := h
  refine ⟨v, lineage, hv, hlineage, ?_⟩
  clear hlineage
  generalize (currentFixCycleEvents lineage).filter (AuditEvent.enters .fixRequired) = events
    at hblockers ⊢
  induction hblockers with
  | nil => exact ⟨rfl, fun entry hentry => absurd hentry (by simp)⟩
  | @cons event entries events blockers hevent _ ih =>
      obtain ⟨hread, hshows⟩ := eventBlockers_may hevent
      refine ⟨?_, fun entry hentry => ?_⟩
      · rw [List.flatten_cons, List.map_append, List.flatMap_cons, hread, ih.1]
      · rw [List.flatten_cons, List.mem_append] at hentry
        exact hentry.elim (hshows entry) (ih.2 entry)

end ReadBack

/-! ## Section 3: Remediations -/

/-- The entries into FIX_REQUIRED since the last entry into VERIFIED. -/
def fixEntries (log : List AuditEvent) : List AuditEvent :=
  (since (AuditEvent.enters .verified) log).filter (AuditEvent.enters .fixRequired)

omit [Platform] in
/-- The fix cycle of a log has the same entries, for it is empty only if there are none. -/
theorem filter_currentFixCycleEvents (log : List AuditEvent) :
    (currentFixCycleEvents log).filter (AuditEvent.enters .fixRequired) = fixEntries log := by
  unfold currentFixCycleEvents fixEntries
  dsimp only
  split
  · rfl
  next hnone =>
    symm
    simpa using hnone

/-- A finding that a review may leave, with the snapshot of its bytes. -/
structure Settled (w : World) (root : String) (record : Mapping) (snapshot : Snapshot) :
    Prop where
  shown : w.Shows root (some snapshot) record
  contract : validateContract .reviewFinding record.toJson = .ok ()
  settled : isOpenBlocking record = false

/-- A finding that was read from a path is shown by the file that the path leads to, whenever either
was read. -/
theorem readReviewFinding_shows {w : World} {engine : Engine} {path : EvidencePath}
    {record : Mapping} {file : EvidenceFile} {v : World} (hv : v.Precedes w)
    (hleads : v.Leads engine path file)
    (h : (readReviewFinding engine path).May (fun v => v.Precedes w) (.ok record)) :
    Settled w engine.projectRoot record file.snapshot := by
  simp only [readReviewFinding, readReviewMapping, Query.may_bind, Query.may_lift, Query.may_read,
    Query.may_pure, require_eq_ok, exists_const, validateReviewRecord, mapError_eq_ok] at h
  obtain ⟨_, ⟨v', hv', hread⟩, _, hcontract, hsettled, rfl⟩ := h
  have hleads' := hv.leads hleads
  refine ⟨⟨file, rfl, Files.leads_rooted hleads', ?_⟩, hcontract, hsettled⟩
  -- the two reads saw one file, for files stay
  split at hread
  next => cases hread
  next => cases hread
  next resolved location content htarget =>
    have hentry := hv' engine.projectRoot htarget
    have htarget' := hleads'.target
    rw [hentry, htarget] at htarget'
    obtain ⟨rfl, rfl, rfl⟩ := PathTarget.file.inj htarget'
    simpa [loadReviewMapping] using hread

omit [Platform] in
/-- What `validate_review_findings` has read. -/
theorem validateReviewFindings_may {S : World → Prop} {engine : Engine} {paths : List EvidencePath}
    {records : List Mapping}
    (h : (validateReviewFindings engine paths).May S (.ok records)) :
    List.Forall₂ (fun path record => (readReviewFinding engine path).May S (.ok record)) paths
      records := by
  simp only [validateReviewFindings, Query.may_bind, Query.may_mapM, Query.may_pure] at h
  obtain ⟨_, hrecords, _, -, rfl⟩ := h
  exact hrecords

/-- The review that an event binds: behind some records of an agent, the findings that the review
leaves, which close the blocking findings of the fix cycle in front of the event. -/
structure Reviewed (w : World) (root : String) (before : List AuditEvent) (e : AuditEvent)
    (agent : List Snapshot) (records : List Mapping) (snapshots : List Snapshot) : Prop where
  binds : e.evidenceBindings.map EvidenceBinding.snapshot? = (agent ++ snapshots).map some
  agent : ∀ snapshot ∈ agent, ∃ c record, w.Shows root (some snapshot) record ∧
    validateContract c record.toJson = .ok () ∧ (c = .agentTaskContract ∨ c = .agentResult)
  settled : List.Forall₂ (Settled w root) records snapshots
  closes : ∀ f ∈ fixEntries before, ∀ snapshot ∈ w.blockersOf root f, ∀ record,
    w.Shows root (some snapshot) record → record.has "finding_id" = true →
    record.word "finding_id" ∈ closedIds records

/-- The findings of the fix cycle that a review has to close. -/
theorem closes_of_requireClosed {w : World} {engine : Engine} {current : WorkflowTaskState}
    {before : List AuditEvent} {required : List String} {records : List Mapping} {u : Unit}
    (hlineage : ∀ {store lineage}, trustedAuditLineage store current = .ok lineage →
      lineage = before)
    (hrequired : (currentFixCycleBlockerIds engine current).May (fun v => v.Precedes w)
      (.ok required)) (h : requireClosed required records = .ok u) :
    ∀ f ∈ fixEntries before, ∀ snapshot ∈ w.blockersOf engine.projectRoot f, ∀ record,
      w.Shows engine.projectRoot (some snapshot) record → record.has "finding_id" = true →
      record.word "finding_id" ∈ closedIds records := by
  simp only [currentFixCycleBlockerIds, Query.may_bind, Query.may_pure] at hrequired
  obtain ⟨blockers, hblockers, rfl⟩ := hrequired
  obtain ⟨v, lineage, -, hread, hsame, hshows⟩ := currentFixCycleBlockers_may hblockers
  obtain rfl := hlineage hread
  intro f hf snapshot hsnapshot record hshown hhas
  refine requireClosed_eq_ok.mp h _ ?_
  have hmem : snapshot ∈ blockers.map Prod.snd := by
    rw [hsame, filter_currentFixCycleEvents]
    exact List.mem_flatMap.mpr ⟨f, hf, hsnapshot⟩
  obtain ⟨entry, hentry, rfl⟩ := List.mem_map.mp hmem
  obtain rfl := (hshows entry hentry).1.unique hshown
  exact List.mem_map.mpr ⟨entry, List.mem_filter.mpr ⟨hentry, hhas⟩, rfl⟩

/-- The findings of an integration, read and bound. -/
theorem reviewFindings_integrating {w : World} {engine : Engine} {paths : List EvidencePath}
    {current : WorkflowTaskState} {records : List Mapping}
    (h : (reviewFindings engine .integrating paths current).May (fun v => v.Precedes w)
      (.ok records)) :
    List.Forall₂ (fun path record =>
        (readReviewFinding engine path).May (fun v => v.Precedes w) (.ok record)) paths records ∧
      ∃ required, (currentFixCycleBlockerIds engine current).May (fun v => v.Precedes w)
          (.ok required) ∧ requireClosed required records = .ok () := by
  rw [reviewFindings, if_neg (by decide)] at h
  by_cases hpaths : paths = []
  · subst hpaths
    simp only [if_true, Query.may_bind, Query.may_pure, Query.may_lift] at h
    obtain ⟨_, rfl, required, hrequired, _, hclosed, rfl⟩ := h
    exact ⟨.nil, required, hrequired, hclosed⟩
  · simp only [if_neg hpaths, Query.may_bind, Query.may_pure, Query.may_lift] at h
    obtain ⟨found, hfound, required, hrequired, _, hclosed, rfl⟩ := h
    exact ⟨validateReviewFindings_may hfound, required, hrequired, hclosed⟩

/-- **An integration is reviewed**, whether it comes from a task review or from another gate. -/
theorem TransitionCommit.reviewed {w : World} {engine : Engine} {args : TransitionArgs}
    {p : PreparedTransition} {decision : Option Mapping} {before : List AuditEvent}
    {e : AuditEvent} (h : TransitionCommit (fun v => v.Precedes w) engine args p decision before e)
    (htarget : p.target = .integrating) :
    ∃ agent records snapshots, Reviewed w engine.projectRoot before e agent records snapshots := by
  obtain ⟨validated, hvalidated, hbound⟩ := h.validated
  rw [htarget, validateGateEvidence, Query.may_mapError] at hvalidated
  by_cases hsource : p.gateSource = .taskReview
  · -- the findings behind the packet and the result of the reviewer
    rw [hsource] at hvalidated
    simp only [gateEvidenceKind, validateEvidenceOfKind, Query.may_map,
      validateReviewerTransitionEvidence, Query.may_bind, Query.may_lift, Query.may_pure,
      Query.may_mapM, exists_const, Prod.exists, buildSupervisedReviewerResultReceiptPreview,
      requireRoleResult_eq_ok] at hvalidated
    obtain ⟨_, ⟨packetPath, resultPath, findingPaths, -, packet, s, hpacket, agentResult, s',
      hresult, hrole, _, -, records, hrecords, snapshots, hsnapshots, rfl⟩, rfl⟩ := hvalidated
    obtain ⟨hread, required, hrequired, hclosed⟩ := reviewFindings_integrating hrecords
    obtain ⟨v, hv, hpacketShown⟩ := readCanonicalEvidenceJson_shows hpacket
    obtain ⟨v', hv', hresultShown⟩ := readCanonicalEvidenceJson_shows hresult
    refine ⟨[s, s'], records, snapshots, ⟨by rw [hbound _ rfl]; rfl, ?_, ?_,
      closes_of_requireClosed h.lineage hrequired hclosed⟩⟩
    · intro snapshot hsnapshot
      simp only [List.mem_cons, List.not_mem_nil, or_false] at hsnapshot
      rcases hsnapshot with rfl | rfl
      · exact ⟨.agentTaskContract, packet, hpacketShown.later hv,
          hrole.supervised.handedOff.contract, .inl rfl⟩
      · exact ⟨.agentResult, agentResult, hresultShown.later hv', hrole.supervised.contract,
          .inr rfl⟩
    · refine (forall₂_of_zip hread hsnapshots).imp (fun record snapshot hpair => ?_)
      obtain ⟨path, hfinding, hagain⟩ := hpair
      simp only [readFindingSnapshot, Query.may_bind, Query.may_lift, Query.may_pure,
        Prod.exists] at hagain
      obtain ⟨again, _, hagain, _, -, rfl⟩ := hagain
      obtain ⟨file, ⟨v, hv, hleads⟩, -, rfl⟩ := may_readEvidenceJsonSnapshot.mp hagain
      exact readReviewFinding_shows hv hleads hfinding
  · -- the findings are all the evidence, and are bound by one more read
    have hkind : gateEvidenceKind p.gateSource .integrating = .integratingFindings := by
      have hall : ∀ s ∈ TaskState.all, s ≠ .taskReview →
          gateEvidenceKind s .integrating = .integratingFindings := by decide
      exact hall _ (TaskState.mem_all _) hsource
    rw [hkind] at hvalidated
    simp only [validateEvidenceOfKind, validateIntegratingFindings, Query.may_bind, Query.may_lift,
      Query.may_pure] at hvalidated
    obtain ⟨_, ⟨records, hrecords, required, hrequired, hclosed⟩, -⟩ := hvalidated
    have hread := validateReviewFindings_may hrecords
    refine ⟨[], records, p.evidenceBindings.map PathBinding.snapshot, ⟨?_, by simp, ?_,
      closes_of_requireClosed h.lineage hrequired hclosed⟩⟩
    · rw [h.event.evidence, List.nil_append, List.map_map]
      rfl
    · have hbindings := evidenceBindings_may.mp h.preparation.bound
      rw [List.forall₂_map_right_iff]
      have hboth : List.Forall₂ (fun path (b : PathBinding) => ∃ file, (∃ v : World,
          v.Precedes w ∧ v.Leads engine path file) ∧ b.snapshot = file.snapshot)
          args.evidencePaths p.evidenceBindings := by
        rw [← List.zipIdx_map_fst 0 args.evidencePaths, List.forall₂_map_left_iff]
        refine hbindings.imp (fun item b hitem => ?_)
        obtain ⟨file, hfile, rfl⟩ := hitem
        exact ⟨file, hfile, rfl⟩
      refine (forall₂_join hread hboth).imp (fun record b hpair => ?_)
      obtain ⟨path, hfinding, file, ⟨v, hv, hleads⟩, hsnapshot⟩ := hpair
      rw [hsnapshot]
      exact readReviewFinding_shows hv hleads hfinding

end Acgps
