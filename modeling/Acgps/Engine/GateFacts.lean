import Acgps.Engine.Prepared

/-!
# What the gates have seen

The bytes behind the snapshots of a validator, and what the validators of the gates establish about
them.

## Main Definitions

* `World.Shows` - the record in the file that a binding names
* `AuditEvent.bound` - the snapshot in a position of an event
* `FrozenPlan` - the Planner packet that a CODER packet was compared with

## Key Theorems

* `readCanonicalEvidenceJson_shows` and its siblings - a record that was read is shown
* `validateCoderPacketAgainstFrozenPlan_may` - what the frozen plan check establishes
-/

namespace Acgps

open Checked History Interleaving

variable [Platform]

/-! ## Section 1: Records behind snapshots -/

/-- The file that a snapshot names is there, has the bytes of the snapshot, and holds a record. -/
def World.Shows (w : World) (root : String) (bound : Option Snapshot) (record : Mapping) : Prop :=
  ∃ file : EvidenceFile, bound = some file.snapshot ∧
    ((w.files root).entry (.rooted file.location)).Leads file ∧
    file.content.loads = .ok record.toJson

/-- A snapshot names one record. -/
theorem World.Shows.unique {w : World} {root : String} {bound : Option Snapshot}
    {record record' : Mapping} (h : w.Shows root bound record) (h' : w.Shows root bound record') :
    record = record' := by
  obtain ⟨file, hbound, hleads, hloads⟩ := h
  obtain ⟨file', hbound', hleads', hloads'⟩ := h'
  have hsnapshot : file.snapshot = file'.snapshot := Option.some.inj (hbound.symm.trans hbound')
  have hlocation : file.location = file'.location :=
    Location.logical_injective (congrArg Snapshot.path hsnapshot)
  rw [← hlocation] at hleads'
  rw [← hleads.unique hleads', hloads] at hloads'
  exact Mapping.toJson_injective (Except.ok.inj hloads')

/-- A record that was shown is still shown. -/
theorem World.Shows.later {v w : World} {root : String} {bound : Option Snapshot}
    {record : Mapping} (h : v.Shows root bound record) (hlater : v.Precedes w) :
    w.Shows root bound record := by
  obtain ⟨file, hbound, hleads, hloads⟩ := h
  refine ⟨file, hbound, ?_, hloads⟩
  rw [hlater root hleads.target]
  exact hleads

section Readers

variable {S : World → Prop} {engine : Engine} {path : EvidencePath} {bound : Option Snapshot}
  {record : Mapping} {snapshot : Snapshot}

/-- So is a canonical record. -/
theorem readCanonicalEvidenceJson_shows
    (h : (readCanonicalEvidenceJson engine path).May S (.ok (record, snapshot))) :
    ∃ v, S v ∧ v.Shows engine.projectRoot (some snapshot) record := by
  obtain ⟨file, ⟨v, hv, hleads⟩, hcontent, -, rfl⟩ := may_readCanonicalEvidenceJson.mp h
  exact ⟨v, hv, file, rfl, Files.leads_rooted hleads, by rw [hcontent]; rfl⟩

/-- A record that was read from a binding is shown. -/
theorem readBoundEvidenceJsonSnapshot_shows
    (h : (readBoundEvidenceJsonSnapshot engine bound).May S (.ok (record, snapshot))) :
    bound = some snapshot ∧ ∃ v, S v ∧ v.Shows engine.projectRoot bound record := by
  obtain ⟨file, ⟨v, hv, hbound, hleads⟩, hloads, rfl⟩ := may_readBoundEvidenceJsonSnapshot.mp h
  exact ⟨hbound, v, hv, file, hbound, hleads, hloads⟩

/-- So is a canonical record. -/
theorem readBoundCanonicalEvidenceJson_shows
    (h : (readBoundCanonicalEvidenceJson engine bound).May S (.ok (record, snapshot))) :
    bound = some snapshot ∧ ∃ v, S v ∧ v.Shows engine.projectRoot bound record := by
  obtain ⟨file, ⟨v, hv, hbound, hleads⟩, hcontent, -, rfl⟩ :=
    may_readBoundCanonicalEvidenceJson.mp h
  exact ⟨hbound, v, hv, file, hbound, hleads, by rw [hcontent]; rfl⟩

end Readers

/-! ## Section 2: The evidence of an event -/

/-- The snapshot in a position of an event. -/
def AuditEvent.bound (e : AuditEvent) (i : Nat) : Option Snapshot :=
  (e.evidenceBindings[i]?).bind EvidenceBinding.snapshot?

/-- The snapshots that an event binds are those that its validator returned. -/
theorem TransitionCommit.validated {S : World → Prop} {engine : Engine} {args : TransitionArgs}
    {p : PreparedTransition} {decision : Option Mapping} {before : List AuditEvent}
    {e : AuditEvent} (h : TransitionCommit S engine args p decision before e) :
    ∃ validated, (validateGateEvidence engine p.gateSource p.target args.evidencePaths
        p.current).May S (.ok validated) ∧
      ∀ snapshots ∈ validated, e.evidenceBindings.map EvidenceBinding.snapshot?
        = snapshots.map some := by
  obtain ⟨validated, hvalidated, hsame⟩ := h.preparation.validated
  refine ⟨validated, hvalidated, fun snapshots hmem => ?_⟩
  rw [h.event.evidence, ← hsame snapshots hmem, List.map_map]
  rfl

omit [Platform] in
/-- The snapshot in a position of an event that binds what its validator returned. -/
theorem AuditEvent.bound_eq {e : AuditEvent} {snapshots : List Snapshot}
    (h : e.evidenceBindings.map EvidenceBinding.snapshot? = snapshots.map some) (i : Nat) :
    e.bound i = snapshots[i]? := by
  have hget := congrArg (fun l => l[i]?) h
  simp only [List.getElem?_map] at hget
  unfold AuditEvent.bound
  cases hbinding : e.evidenceBindings[i]? with
  | none =>
      rw [hbinding] at hget
      cases hsnapshot : snapshots[i]? with
      | none => rfl
      | some s => simp [hsnapshot] at hget
  | some b =>
      rw [hbinding] at hget
      cases hsnapshot : snapshots[i]? with
      | none => simp [hsnapshot] at hget
      | some s => simpa [hsnapshot] using hget

/-! ## Section 3: The frozen plan -/

/-- A CODER packet that was made from the packet that the event `plan` has frozen. -/
structure FrozenPlan (S : World → Prop) (engine : Engine) (current : WorkflowTaskState)
    (packet : Mapping) (plan : AuditEvent) (planner agentResult : Mapping) : Prop where
  fromState : plan.fromState = some .specReady
  toState : plan.toState = some .planReady
  packetShown : ∃ v, S v ∧ v.Shows engine.projectRoot (plan.bound 0) planner
  resultShown : ∃ v, S v ∧ v.Shows engine.projectRoot (plan.bound 1) agentResult
  accepted : RoleResult "PLANNER" planner agentResult .planReady current
  preserved : packet = coderPacketOf planner current.taskId.val

omit [Platform] in
/-- The plan that a boundary is looked up in is an accepted transition of the lineage. -/
theorem planBoundary_mem {current : WorkflowTaskState} {lineage : List AuditEvent}
    {latest : Bool} {plan : AuditEvent}
    (h : planBoundary current lineage latest = .ok (some plan)) :
    plan ∈ lineage ∧ plan.isTransition = true := by
  have hfilter : plan ∈ lineage.filter AuditEvent.isTransition := by
    unfold planBoundary at h
    dsimp only at h
    split at h
    · split at h
      · simp only [bind_eq_ok, pure_eq_ok] at h
        obtain ⟨source, -, h⟩ := h
        split at h
        · exact List.mem_reverse.mp (List.mem_of_getElem? h)
        · exact absurd h (by simp)
      · exact List.mem_of_getLast? (Except.ok.inj h)
    · exact mem_of_latest (Except.ok.inj h)
  exact List.mem_filter.mp hfilter

/-- **What the frozen plan check establishes.** -/
theorem validateCoderPacketAgainstFrozenPlan_may {S : World → Prop} {engine : Engine}
    {packet : Mapping} {current : WorkflowTaskState} {latest : Bool}
    (h : (validateCoderPacketAgainstFrozenPlan engine packet current latest).May S (.ok ())) :
    ∃ lineage plan planner agentResult,
      (∃ v, S v ∧ trustedAuditLineage v.store current = .ok lineage) ∧
      planBoundary current lineage latest = .ok (some plan) ∧
      FrozenPlan S engine current packet plan planner agentResult := by
  simp only [validateCoderPacketAgainstFrozenPlan, Query.may_bind, may_trustedLineage,
    Query.may_lift, require_eq_ok, mapError_eq_ok, Prod.exists] at h
  obtain ⟨lineage, hlineage, boundary, hboundary, bindings, hbindings, planner, s, hplanner,
    agentResult, s', hresult, preview, hpreview, _, ⟨htask, hcompleted, hrecommends⟩, hpacket⟩ := h
  simp only [frozenPlanBindings, bind_eq_ok, expect_eq_ok, require_eq_ok, pure_eq_ok,
    Option.filter_eq_some_iff, decide_eq_true_eq] at hbindings
  obtain ⟨plan, ⟨rfl, hfrom, hto⟩, _, hlength, rfl⟩ := hbindings
  exact ⟨lineage, plan, planner, agentResult, hlineage, hboundary, hfrom, hto,
    (readBoundCanonicalEvidenceJson_shows hplanner).2,
    (readBoundCanonicalEvidenceJson_shows hresult).2,
    ⟨(buildSupervisedResultReceiptPreview_eq_ok.mp hpreview).1, htask, hcompleted, hrecommends⟩,
    hpacket⟩

end Acgps
