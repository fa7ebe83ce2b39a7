import Acgps.Engine.Prepared

/-!
# Acceptance

When the second part of a transition commits what the first part has prepared: the request has to
meet its contract, and the event has to fit. Everything else was settled by the preparation.

## Main Definitions

* `HexDigests` - the form of digests and of what is cut out of them
* `PolicyBundle.Loaded` - what the loader has checked about a bundle
* `Committable` - what a request can still fail on
* `acceptedEvent`, `acceptedState` - the records of an accepted request

## Key Theorems

* `PreparedFor.exists_request` - **a prepared request is valid if it is requestable**
* `PreparedFor.exists_follows` - its event and its state follow the chain of the task
-/

namespace Acgps

open Checked Interleaving

/-! ## Section 1: Identities -/

/-- An identity with more characters behind it. -/
theorem isSafeId_append {a b : String} (ha : isSafeId a = true) (hb : b.toList.all isIdChar = true)
    (hlength : a.toList.length + b.toList.length ≤ 128) : isSafeId (a ++ b) = true := by
  unfold isSafeId at ha ⊢
  rw [String.toList_append]
  cases hlist : a.toList with
  | nil => simp [hlist] at ha
  | cons c rest =>
      rw [hlist] at ha hlength
      simp only [List.cons_append, Bool.and_eq_true, decide_eq_true_eq, List.all_append,
        List.length_append, List.length_cons] at ha hlength ⊢
      exact ⟨⟨ha.1.1, by omega⟩, ha.2, hb⟩

theorem isIdChar_of_isDigit {c : Char} (h : c.isDigit = true) : isIdChar c = true := by
  simp [isIdChar, Char.isAlphanum, h]

theorem isIdChar_of_isLowerHex {c : Char} (h : isLowerHex c = true) : isIdChar c = true := by
  rcases Bool.or_eq_true _ _ |>.mp h with h | h
  · exact isIdChar_of_isDigit h
  · have hlower : c.isLower = true := by
      show (decide (c.val ≥ 'a'.val) && decide (c.val ≤ 'z'.val)) = true
      simp only [Bool.and_eq_true, decide_eq_true_eq, Char.le_def, ge_iff_le,
        UInt32.le_iff_toNat_le] at h ⊢
      change 97 ≤ c.toNat ∧ c.toNat ≤ 102 at h
      change 97 ≤ c.toNat ∧ c.toNat ≤ 122
      omega
    have halpha : c.isAlpha = true := Bool.or_eq_true _ _ |>.mpr (.inr hlower)
    simp [isIdChar, Char.isAlphanum, halpha]

/-- A number with leading zeros has the characters of an identity. -/
theorem all_isIdChar_padded (k n : Nat) :
    (List.replicate k '0' ++ Nat.toDigits 10 n).all isIdChar = true := by
  rw [List.all_append, Bool.and_eq_true, List.all_eq_true, List.all_eq_true]
  refine ⟨fun c hc => ?_, fun c hc => ?_⟩
  · rw [List.eq_of_mem_replicate hc]
    decide
  · exact isIdChar_of_isDigit (Nat.isDigit_of_mem_toDigits (by decide) (by decide) hc)

/-- A number of the range of SQLite has at most nineteen digits. -/
theorem length_fourDigits_le {n : Nat} (h : n < 2 ^ 63) : (fourDigits n).toList.length ≤ 19 := by
  have hdigits : (Nat.toDigits 10 n).length ≤ 19 :=
    (Nat.length_toDigits_le_iff (by decide) (by decide)).mpr (h.trans (by decide))
  simp only [fourDigits, String.toList_ofList, List.length_append, List.length_replicate]
  omega

/-- The zeros in front of a number are of no value. -/
theorem ofDigitChars_padded (k n : Nat) :
    Nat.ofDigitChars 10 (List.replicate k '0' ++ Nat.toDigits 10 n) 0 = n := by
  induction k with
  | zero => exact Nat.ofDigitChars_ten_toDigits
  | succ k ih => simpa [List.replicate_succ, Nat.ofDigitChars_cons] using ih

/-- Two numbers of one form are one number. -/
theorem twoDigits_injective : Function.Injective twoDigits := by
  intro a b h
  have hvalue := congrArg (fun s => Nat.ofDigitChars 10 s.toList 0) h
  simpa only [twoDigits, String.toList_ofList, ofDigitChars_padded] using hvalue

theorem fourDigits_injective : Function.Injective fourDigits := by
  intro a b h
  have hvalue := congrArg (fun s => Nat.ofDigitChars 10 s.toList 0) h
  simpa only [fourDigits, String.toList_ofList, ofDigitChars_padded] using hvalue

section Digests

variable [Platform]

/-- What the platform promises about the form of a digest, and of the token that is cut out of one. -/
structure HexDigests : Prop where
  record : ∀ value, isSha256 (canonicalSha value) = true
  file : ∀ content, isSha256 (fileSha content) = true
  token : ∀ taskId, (taskToken taskId).toList.length = 16 ∧
    (taskToken taskId).toList.all isLowerHex = true

/-- The token of a task is part of an identity. -/
structure TokenFormed (token : String) : Prop where
  length : token.toList.length ≤ 16
  chars : token.toList.all isIdChar = true

omit [Platform] in
/-- The identity of a record. -/
theorem TokenFormed.isSafeId_recordId {token : String} (h : TokenFormed token) {kind : String}
    (hkind : isSafeId kind = true) (hshort : kind.toList.length ≤ 8) {n : Nat} (hn : n < 2 ^ 63) :
    isSafeId (recordId kind token n) = true := by
  have hdigits := length_fourDigits_le hn
  have hlength := h.length
  have hdash : "-".toList.length = 1 := by decide
  unfold recordId
  apply isSafeId_append
  · apply isSafeId_append
    · apply isSafeId_append
      · apply isSafeId_append hkind (by decide)
        omega
      · exact h.chars
      · rw [String.toList_append, List.length_append]
        omega
    · decide
    · rw [String.toList_append, String.toList_append, List.length_append, List.length_append]
      omega
  · rw [fourDigits, String.toList_ofList]
    exact all_isIdChar_padded _ _
  · rw [String.toList_append, String.toList_append, String.toList_append, List.length_append,
      List.length_append, List.length_append]
    omega

theorem HexDigests.tokenFormed (h : HexDigests) (taskId : String) :
    TokenFormed (taskToken taskId) := by
  obtain ⟨hlength, hchars⟩ := h.token taskId
  refine ⟨hlength.le, ?_⟩
  rw [List.all_eq_true] at hchars ⊢
  exact fun c hc => isIdChar_of_isLowerHex (hchars c hc)

end Digests

section Requests

variable [Platform]

/-! ## Section 2: The policy binding -/

omit [Platform] in
/-- What the loader has checked about a bundle, as far as a request depends on it. -/
structure PolicyBundle.Loaded (B : PolicyBundle) : Prop where
  digest : isSha256 B.digest = true
  nodup : ∀ s, (B.targets s).Nodup

/-- The policy binding of a transition is valid: the evaluation was open, and has met its contract. -/
theorem exists_policyBinding {B : PolicyBundle} {i : PolicyInput} {createdAtUtc : String}
    (hloaded : B.Loaded) (hopen : (evaluatePolicy B i).result.failClosed = false)
    (hid : isSafeId i.evaluationId = true) (hutc : isUtc createdAtUtc = true)
    (hsha : isSha256 (canonicalSha (evaluatePolicy B i).toMapping.toJson) = true) :
    ∃ binding : PolicyEvaluationBinding,
      (policyBinding (evaluatePolicy B i) createdAtUtc).toJson = binding.toJson ∧ binding.Valid ∧
      binding.source = .embedded ⟨(evaluatePolicy B i).toMapping.toJson, Mapping.toJson_ne_null _⟩ ∧
      binding.authorizedTransitions = (evaluatePolicy B i).result.authorizedTransitions := by
  obtain ⟨r, -, hdecides, hresult, hevaluation, -, -, hdigest, hcontract⟩ := evaluatePolicy_open hopen
  rw [← hresult] at hdecides
  have hnodup : (evaluatePolicy B i).result.authorizedTransitions.Nodup := by
    rw [hdecides.authorized]
    split
    · exact (hloaded.nodup _).filter _
    · exact hloaded.nodup _
  have hgated : (evaluatePolicy B i).result.humanGate = true →
      ∀ s ∈ (evaluatePolicy B i).result.authorizedTransitions,
        s ∈ humanGateAuthorizedTransitions := by
    intro hgate s hs
    rw [hdecides.authorized, if_pos hgate] at hs
    simpa using (List.mem_filter.mp hs).2
  rw [← hevaluation] at hid
  refine ⟨⟨⟨_, hid⟩, .embedded ⟨_, Mapping.toJson_ne_null _⟩, ⟨_, hsha⟩, ⟨_, hloaded.digest⟩,
    (evaluatePolicy B i).result.authorizedTransitions, (evaluatePolicy B i).result.humanGate,
    some ⟨_, hutc⟩⟩, ?_, ⟨hnodup, hgated, ?_⟩, rfl, rfl⟩
  · simp [policyBinding, PolicyEvaluationBinding.toJson, PolicyEvaluationBinding.toMapping,
      Mapping.toJson, TaggedSource.recordJson, TaggedSource.pathJson, TaggedSource.sourceJson,
      hdigest, Json.ofOption]
  · intro record hrecord
    obtain rfl := TaggedSource.embedded.inj hrecord
    have hget : ∀ field, (((evaluatePolicy B i).toMapping.toJson.field "result").field field)
        = (evaluatePolicy B i).result.toMapping.get field := by
      intro field
      rw [Json.field_toJson]
      exact Json.field_toJson _ _
    refine ⟨hcontract, rfl, Json.field_toJson _ _, ?_, hget _, hget _⟩
    rw [Json.field_toJson]
    show Json.ofOption .str (evaluatePolicy B i).policyBundleDigest = _
    rw [hdigest]
    rfl

/-! ## Section 3: The evidence bindings -/

/-- The binding of a path is one of a request: its identity and its path have to be safe. -/
structure PathBinding.Bindable (b : PathBinding) : Prop where
  bindingId : isSafeId b.bindingId = true
  path : isSafeRelativePath b.snapshot.path = true

/-- A binding of a path that is a binding of an event. -/
theorem PathBinding.bindable_of_toJson_eq {b : PathBinding} {e : EvidenceBinding}
    (h : b.toJson = e.toJson) : b.Bindable := by
  have hentries := congrArg Mapping.entries (Mapping.toJson_injective h)
  simp only [PathBinding.toMapping, EvidenceBinding.toMapping, List.cons.injEq, Prod.mk.injEq,
    Json.str.injEq, true_and] at hentries
  obtain ⟨hid, _, _, _, _, _, hpath, _⟩ := hentries
  refine ⟨?_, ?_⟩
  · rw [hid]
    exact e.bindingId.property
  · cases hsource : e.source with
    | path path =>
        rw [hsource] at hpath
        rw [Json.str.inj hpath]
        exact path.property
    | embedded record =>
        rw [hsource] at hpath
        simp [TaggedSource.pathJson] at hpath

/-- The bindings that a preparation makes, each from one more read of its path. -/
theorem evidenceBindings_may {S : World → Prop} {engine : Engine} {args : TransitionArgs}
    {sequence : Nat} {target : TaskState} {bindings : List PathBinding} :
    (evidenceBindings engine args sequence target).May S (.ok bindings) ↔
      List.Forall₂ (fun item b => ∃ file, (∃ v, S v ∧ v.Leads engine item.1 file) ∧
        b = ⟨"ev-" ++ taskToken args.taskId ++ "-" ++ fourDigits sequence ++ "-"
            ++ twoDigits (item.2 + 1), "transition_" ++ asciiLower target.name, file.snapshot,
          args.createdAtUtc⟩) args.evidencePaths.zipIdx bindings := by
  rw [evidenceBindings, Query.may_mapM]
  simp only [pathEvidenceBinding, Query.may_bind, may_readEvidence, Query.may_pure, eq_comm]

/-- What a preparation knows about its bindings. -/
structure BindingsMade (args : TransitionArgs) (bindings : List PathBinding) : Prop where
  nodup : (bindings.map PathBinding.bindingId).Nodup
  kind : ∀ b ∈ bindings, b.evidenceKind ≠ ""
  createdAtUtc : ∀ b ∈ bindings, b.createdAtUtc = args.createdAtUtc
  digest : ∀ b ∈ bindings, ∃ content, b.snapshot.sha256 = fileSha content

/-- **The bindings of a preparation** have identities of their own, and the digests of files. -/
theorem Preparation.bindingsMade {S : World → Prop} {engine : Engine} {args : TransitionArgs}
    {p : PreparedTransition} (h : Preparation S engine args p) :
    BindingsMade args p.evidenceBindings := by
  have hbound := evidenceBindings_may.mp h.bound
  refine ⟨?_, fun b hb => ?_, fun b hb => ?_, fun b hb => ?_⟩
  · have hids : p.evidenceBindings.map PathBinding.bindingId
        = (args.evidencePaths.zipIdx.map Prod.snd).map (fun i => "ev-" ++ taskToken args.taskId
          ++ "-" ++ fourDigits p.sequence ++ "-" ++ twoDigits (i + 1)) := by
      rw [List.map_map]
      refine map_eq_of_forall₂ hbound ?_
      rintro item b ⟨file, -, rfl⟩
      rfl
    rw [hids, List.zipIdx_map_snd]
    refine List.Nodup.map ?_ List.nodup_range'
    intro i j hij
    have hlists := congrArg String.toList hij
    simp only [String.toList_append, List.append_cancel_left_eq] at hlists
    exact Nat.succ.inj (twoDigits_injective (String.toList_inj.mp hlists))
  · obtain ⟨item, -, file, -, rfl⟩ := exists_of_mem_forall₂ hbound hb
    intro hempty
    have hlist := congrArg String.toList hempty
    simp at hlist
  · obtain ⟨item, -, file, -, rfl⟩ := exists_of_mem_forall₂ hbound hb
    rfl
  · obtain ⟨item, -, file, -, rfl⟩ := exists_of_mem_forall₂ hbound hb
    exact ⟨file.content, rfl⟩

/-- The stored form of a binding. -/
theorem PathBinding.Bindable.exists_stored {b : PathBinding} (h : b.Bindable)
    (hkind : b.evidenceKind ≠ "") (hutc : isUtc b.createdAtUtc = true)
    (hsha : isSha256 b.snapshot.sha256 = true) :
    ∃ e : EvidenceBinding, b.toJson = e.toJson ∧ e.bindingId.val = b.bindingId ∧ e.Valid := by
  refine ⟨⟨⟨b.bindingId, h.bindingId⟩, ⟨b.evidenceKind, hkind⟩, .path ⟨b.snapshot.path, h.path⟩,
    ⟨b.snapshot.sha256, hsha⟩, b.snapshot.sizeBytes, some ⟨b.createdAtUtc, hutc⟩⟩, rfl, rfl, ?_⟩
  exact trivial

/-- The stored form of the bindings of a preparation. -/
theorem BindingsMade.exists_stored {args : TransitionArgs} {bindings : List PathBinding}
    (h : BindingsMade args bindings) (hsha : ∀ b ∈ bindings, isSha256 b.snapshot.sha256 = true)
    (hutc : isUtc args.createdAtUtc = true) (hbindable : ∀ b ∈ bindings, b.Bindable) :
    ∃ stored, pathBindingsJson bindings = evidenceListJson stored ∧ EvidenceListValid stored := by
  have heach : ∀ b ∈ bindings, ∃ e : EvidenceBinding, b.toJson = e.toJson ∧
      e.bindingId.val = b.bindingId ∧ e.Valid := by
    intro b hb
    refine (hbindable b hb).exists_stored (h.kind b hb) ?_ (hsha b hb)
    rw [h.createdAtUtc b hb]
    exact hutc
  obtain ⟨stored, hstored⟩ : ∃ stored : List EvidenceBinding, List.Forall₂ (fun b e =>
      PathBinding.toJson b = e.toJson ∧ e.bindingId.val = b.bindingId ∧ e.Valid) bindings stored :=
    exists_forall₂_of_forall heach
  refine ⟨stored, ?_, ⟨fun e he => ?_, ?_⟩⟩
  · rw [pathBindingsJson, evidenceListJson, ← map_eq_of_forall₂ hstored (fun _ _ h => h.1.symm)]
  · obtain ⟨b, -, -, -, hvalid⟩ := exists_of_mem_forall₂ hstored he
    exact hvalid
  · rw [map_eq_of_forall₂ hstored (fun _ _ h => h.2.1)]
    exact h.nodup

/-! ## Section 4: The decision -/

/-- What the decision of a transition is: none, or the answer to the request that the state waits
for. -/
structure DecisionMade (p : PreparedTransition) (decision : Option Mapping) : Prop where
  resumes : p.current.currentState = .waitingHuman ↔ decision.isSome = true
  answers : ∀ d ∈ decision, ∃ resolution request, d = resolutionBinding resolution ∧
    ResolutionAnswers resolution request ∧ request.OfTask p.current ∧
    resolution.get "decision_id" = Json.ofOption testedJson p.current.pendingDecisionId ∧
    resolution.get "resume_state" = .str p.target.name

/-- What the resolution of a waiting task establishes. -/
structure ResolutionBound (S : World → Prop) (current : WorkflowTaskState) (toState : String)
    (resolution request : Mapping) : Prop where
  waiting : current.currentState = .waitingHuman
  validated : (validateResolution resolution).May S (.ok request)
  same : (requireSameResolution resolution).May S (.ok ())
  answers : ResolutionAnswers resolution request
  ofTask : request.OfTask current
  decisionId : resolution.get "decision_id" = Json.ofOption testedJson current.pendingDecisionId
  resumeState : resolution.get "resume_state" = .str toState

theorem waitingHumanResolutionBinding_may {S : World → Prop} {engine : Engine}
    {current : WorkflowTaskState} {toState : String} {given : Option Mapping}
    {bound : Mapping × Mapping}
    (h : (waitingHumanResolutionBinding engine current toState given).May S (.ok bound)) :
    ∃ resolution, given = some resolution ∧ bound.2 = resolutionBinding resolution ∧
      ResolutionBound S current toState resolution bound.1 := by
  simp only [waitingHumanResolutionBinding, Query.may_bind, Query.may_lift, require_eq_ok,
    expect_eq_ok, Option.filter_eq_some_iff, Query.may_mapError, Query.may_pure, exists_const,
    decide_eq_true_eq] at h
  obtain ⟨hwaiting, resolution, ⟨hgiven, hid⟩, pair, ⟨request, hvalidated, pending, -, rfl⟩, _,
    hsame, htask, -, ⟨-, hresume⟩, source, -, -, rfl⟩ := h
  exact ⟨resolution, hgiven, rfl, hwaiting, hvalidated, hsame,
    (may_validateResolution.mp hvalidated).2.2.1, htask, hid, hresume⟩

/-- The decision of a transition that does not pause a task that waits. -/
theorem decisionMade_of_may {S : World → Prop} {engine : Engine} {args : TransitionArgs}
    {p : PreparedTransition} {decision : Option Mapping}
    (h : (transitionDecision engine args p).May S (.ok decision))
    (hpause : p.target = .waitingHuman → p.current.currentState ≠ .waitingHuman) :
    DecisionMade p decision := by
  unfold transitionDecision at h
  split at h
  next htarget =>
    simp only [Prog.may_bind, Prog.may_pure] at h
    obtain ⟨_, -, _, -, rfl⟩ := h
    exact ⟨by simp [hpause htarget], by simp⟩
  next htarget =>
    split at h
    next hwaiting =>
      simp only [Prog.may_bind, Prog.may_query, Prog.may_pure] at h
      obtain ⟨bound, hbound, rfl⟩ := h
      obtain ⟨resolution, -, heq, hresolved⟩ := waitingHumanResolutionBinding_may hbound
      refine ⟨by simp [hwaiting], fun d hd => ?_⟩
      obtain rfl := Option.mem_some_iff.mp hd
      exact ⟨resolution, bound.1, heq, hresolved.answers, hresolved.ofTask, hresolved.decisionId,
        hresolved.resumeState⟩
    next hwaiting =>
      simp only [Prog.may_bind, Prog.may_pure] at h
      obtain ⟨_, -, rfl⟩ := h
      exact ⟨by simp [hwaiting], by simp⟩

/-! ## Section 5: The request -/

/-- What a request can still fail on: the word for the actor, the timestamps, and the paths. -/
structure Requestable (args : TransitionArgs) (p : PreparedTransition)
    (decision : Option Mapping) : Prop where
  actor : ∃ actor : Actor, actor.name = args.actor
  createdAtUtc : isUtc args.createdAtUtc = true
  bindable : ∀ b ∈ p.evidenceBindings, b.Bindable
  resolved : ∀ d ∈ decision, ∃ t : Utc, d.get "resolved_at_utc" = .str t.val

omit [Platform] in
/-- The status of a resolution that meets its contract. -/
theorem get_status_of_resolution {resolution : Mapping}
    (h : validateContract .humanDecisionResolution resolution.toJson = .ok ()) :
    resolution.get "status" = .str "RESOLVED" := by
  have hrow : (("status", .word ["RESOLVED"]) : String × FieldSpec) ∈
      Contract.humanDecisionResolution.rows := by
    simp [Contract.rows]
  have hstatus := (get_of_validateContract h hrow).2.value_ok _ rfl
  exact List.mem_singleton.mp hstatus

/-- The stored form of a decision. -/
theorem DecisionMade.exists_stored {p : PreparedTransition} {decision : Option Mapping}
    (h : DecisionMade p decision) (hvalid : p.current.Valid)
    (hsha : ∀ d ∈ decision, ∀ resolution, d = resolutionBinding resolution →
      isSha256 (canonicalSha resolution.toJson) = true)
    (hresolved : ∀ d ∈ decision, ∃ t : Utc, d.get "resolved_at_utc" = .str t.val) :
    ∃ stored : Option DecisionResolutionBinding,
      Json.ofOption Mapping.toJson decision
        = Json.ofOption DecisionResolutionBinding.toJson stored ∧
      (p.current.currentState = .waitingHuman ↔ stored.isSome = true) ∧
      ∀ d ∈ stored, d.Valid ∧
        DecisionExpectation.Met ⟨some p.target, some p.current.projectId, some p.current.taskId⟩ d
    := by
  cases decision with
  | none => exact ⟨none, rfl, h.resumes, by simp⟩
  | some d =>
      obtain ⟨resolution, request, rfl, hanswers, htask, hid, hresume⟩ := h.answers d rfl
      obtain ⟨t, ht⟩ := hresolved _ rfl
      have hwaiting := h.resumes.mpr rfl
      obtain ⟨id, hpending⟩ := Option.isSome_iff_exists.mp (hvalid.mp hwaiting)
      rw [hpending] at hid
      have hproject := hanswers.projectId.trans htask.1
      have htaskId := hanswers.taskId.trans htask.2
      have hstatus := get_status_of_resolution hanswers.contract
      -- the binding is valid because it repeats what the resolution says
      let stored : DecisionResolutionBinding :=
        ⟨id, p.current.projectId, p.current.taskId, p.target,
          .embedded ⟨resolution.toJson, Mapping.toJson_ne_null _⟩, ⟨_, hsha _ rfl _ rfl⟩, t⟩
      have hsame : (resolutionBinding resolution).toJson = stored.toJson := by
        have ht' : resolution.get "resolved_at_utc" = .str t.val := ht
        simp [resolutionBinding, stored, DecisionResolutionBinding.toJson,
          DecisionResolutionBinding.toMapping, Mapping.toJson, TaggedSource.recordJson,
          TaggedSource.pathJson, TaggedSource.sourceJson, hresume, hid, hproject, htaskId, hstatus,
          ht', TaskState.toJson, Json.ofOption, testedJson]
      refine ⟨some stored, hsame, by simp [hwaiting], fun d hd => ?_⟩
      obtain rfl := Option.mem_some_iff.mp hd
      refine ⟨⟨_, rfl, rfl, ?_⟩, ⟨by simp [stored], by simp [stored], by simp [stored]⟩⟩
      refine ⟨hanswers.contract, ?_, ?_, ?_, ?_, ?_, ?_⟩
      · exact (Json.field_toJson _ _).trans hid
      · exact (Json.field_toJson _ _).trans hproject
      · exact (Json.field_toJson _ _).trans htaskId
      · exact (Json.field_toJson _ _).trans hstatus
      · exact (Json.field_toJson _ _).trans hresume
      · exact (Json.field_toJson _ _).trans ht

omit [Platform] in
@[simp] theorem requestOutcome_eq_ok {α : Type} {x : Check α} {u : Unit} :
    requestOutcome x = .ok u ↔ ∃ a, x = .ok a := by
  cases x with
  | ok a => simp [requestOutcome]
  | error rejection => cases rejection <;> simp [requestOutcome]

omit [Platform] in
/-- The identity of a record of a transition. -/
theorem TokenFormed.isSafeId_transition {token kind : String} (h : TokenFormed token) {n : Nat}
    (hkind : kind = "tr" ∨ kind = "evt" ∨ kind = "eval" ∨ kind = "decision") (hn : n < 2 ^ 63) :
    isSafeId (recordId kind token n) = true := by
  apply h.isSafeId_recordId
  · rcases hkind with rfl | rfl | rfl | rfl <;> decide
  · rcases hkind with rfl | rfl | rfl | rfl <;> decide
  · exact hn

/-- What a preparation over a stored state knows about the request that is made from it. -/
structure PreparedFor (engine : Engine) (args : TransitionArgs) (p : PreparedTransition) : Prop where
  taskId : p.current.taskId.val = args.taskId
  state : p.current.Valid
  token : p.token = taskToken args.taskId
  policy : p.policy = evaluatePolicy engine.bundle (policyInput engine args p.current p.sequence)
  decided : p.policy.result.failClosed = false
  authorized : p.target ∈ p.policy.result.authorizedTransitions
  bindings : BindingsMade args p.evidenceBindings

/-- What a preparation establishes, without the reads. -/
theorem Preparation.preparedFor {S : World → Prop} {engine : Engine} {args : TransitionArgs}
    {p : PreparedTransition} (h : Preparation S engine args p) : PreparedFor engine args p := by
  obtain ⟨w, -, hread⟩ := h.status
  have htarget := h.target
  simp only [authorizedTarget, bind_eq_ok, require_eq_ok, expect_eq_ok, Option.filter_eq_some_iff,
    decide_eq_true_eq] at htarget
  obtain ⟨_, hopen, -, hauthorized⟩ := htarget
  exact ⟨readTaskState_taskId hread, readTaskState_valid hread, h.token, h.policy, hopen,
    hauthorized, h.bindingsMade⟩

/-- The value of a request tells the value of each of its parts. -/
theorem requestable_of_toJson_eq {args : TransitionArgs} {p : PreparedTransition}
    {decision : Option Mapping} {r : TransitionRequest}
    (h : (transitionRequest args p decision).toJson = r.toJson) :
    Requestable args p decision := by
  have hentries := congrArg Mapping.entries (Mapping.toJson_injective h)
  simp only [transitionRequest, TransitionRequest.toMapping, List.cons.injEq, Prod.mk.injEq,
    true_and, and_true] at hentries
  obtain ⟨hactor, hcreated, hdecision, hevidence, -⟩ := hentries
  refine ⟨⟨r.actor, (Json.str.inj hactor).symm⟩, ?_, ?_, ?_⟩
  · rw [Json.str.inj hcreated]
    exact r.createdAtUtc.property
  · have hlist : p.evidenceBindings.map PathBinding.toJson
        = r.evidenceBindings.map EvidenceBinding.toJson := Json.arr.inj hevidence
    intro b hb
    have hmem : b.toJson ∈ r.evidenceBindings.map EvidenceBinding.toJson := by
      rw [← hlist]
      exact List.mem_map_of_mem hb
    obtain ⟨e, -, he⟩ := List.mem_map.mp hmem
    exact PathBinding.bindable_of_toJson_eq he.symm
  · intro d hd
    obtain rfl : decision = some d := hd
    cases hstored : r.decisionResolutionBinding with
    | none =>
        rw [hstored] at hdecision
        exact absurd hdecision (Mapping.toJson_ne_null _)
    | some stored =>
        rw [hstored] at hdecision
        have hsame : d = stored.toMapping := Mapping.toJson_injective hdecision
        exact ⟨stored.resolvedAtUtc, by rw [hsame]; rfl⟩

/-- The digests that a transition takes are digests, and its identities are built from a token. -/
structure RecordsFormed (args : TransitionArgs) (p : PreparedTransition)
    (decision : Option Mapping) : Prop where
  token : TokenFormed (taskToken args.taskId)
  policy : isSha256 (canonicalSha p.policy.toMapping.toJson) = true
  event : isSha256 (transitionEventHash args p decision) = true
  resolution : ∀ d ∈ decision, ∀ resolution, d = resolutionBinding resolution →
    isSha256 (canonicalSha resolution.toJson) = true
  evidence : ∀ b ∈ p.evidenceBindings, isSha256 b.snapshot.sha256 = true

/-- The digests of a platform are digests. -/
theorem HexDigests.recordsFormed (h : HexDigests) {engine : Engine} {args : TransitionArgs}
    {p : PreparedTransition} (hp : PreparedFor engine args p) (decision : Option Mapping) :
    RecordsFormed args p decision where
  token := h.tokenFormed args.taskId
  policy := h.record _
  event := h.record _
  resolution := fun _ _ _ _ => h.record _
  evidence := by
    intro b hb
    obtain ⟨content, hdigest⟩ := hp.bindings.digest b hb
    rw [hdigest]
    exact h.file content

/-- **A prepared request is valid if it is requestable.** -/
theorem PreparedFor.exists_request {engine : Engine}
    (hloaded : engine.bundle.Loaded) {args : TransitionArgs} {p : PreparedTransition}
    {decision : Option Mapping} (h : PreparedFor engine args p)
    (hformed : RecordsFormed args p decision) (hbound : p.sequence < 2 ^ 63)
    (hdecision : DecisionMade p decision) (hrequest : Requestable args p decision) :
    ∃ r : TransitionRequest, (transitionRequest args p decision).toJson = r.toJson ∧ r.Valid := by
  obtain ⟨⟨actor, hactor⟩, hutc, hbindable, hresolved⟩ := hrequest
  obtain ⟨stored, hstored, hlist⟩ := h.bindings.exists_stored hformed.evidence hutc hbindable
  obtain ⟨bound, hbinding, hresumes, hmet⟩ := hdecision.exists_stored h.state hformed.resolution
    hresolved
  have hopen := h.decided
  rw [h.policy] at hopen
  obtain ⟨_, -, -, -, -, hproject, htask, -, -⟩ := evaluatePolicy_open hopen
  obtain ⟨binding, hpolicy, hvalid, hsource, hauthorized⟩ := exists_policyBinding hloaded hopen
    (hformed.token.isSafeId_transition (by simp) hbound) hutc (by rw [← h.policy]; exact hformed.policy)
  rw [← h.policy] at hpolicy hsource hauthorized hproject htask
  have hid : isSafeId (recordId "tr" p.token p.sequence) = true := by
    rw [h.token]
    exact hformed.token.isSafeId_transition (by simp) hbound
  refine ⟨⟨⟨_, hid⟩, p.current.taskId, p.current.projectId, p.current.currentState, p.target, actor,
    ⟨recordId "tr" p.token p.sequence, ?_⟩, binding, stored, bound, ⟨_, hutc⟩⟩, ?_, ?_⟩
  · intro hempty
    rw [hempty] at hid
    exact absurd hid (by decide)
  · have hword : actor.toJson = .str args.actor := congrArg Json.str hactor
    simp [transitionRequest, TransitionRequest.toJson, TransitionRequest.toMapping, Mapping.toJson,
      hbinding, hstored, h.taskId, hword]
    exact hpolicy
  · refine ⟨hvalid, ⟨_, hsource, ?_, ?_⟩, ?_, hresumes, hmet, hlist⟩
    · exact (Json.field_toJson _ _).trans (congrArg Json.str hproject)
    · exact (Json.field_toJson _ _).trans (congrArg Json.str (htask.trans h.taskId.symm))
    · rw [hauthorized]
      exact h.authorized

/-! ## Section 6: The records -/

/-- The event of a valid request. -/
def acceptedEvent (r : TransitionRequest) (current : WorkflowTaskState) (eventId : SafeId)
    (sequence : PosNat) (eventHash : Sha256Hex) : AuditEvent where
  eventId := eventId
  generation := current.auditGeneration
  sequence := sequence
  projectId := r.projectId
  taskId := r.taskId
  eventType := .transitionAccepted
  actor := r.actor
  fromState := some r.fromState
  toState := some r.toState
  transitionId := some r.transitionId
  policyEvaluationBinding := some r.policyEvaluationBinding
  evidenceBindings := r.evidenceBindings
  decisionResolutionBinding := r.decisionResolutionBinding
  previousEventHash := some current.auditHeadHash
  eventHash := eventHash
  createdAtUtc := r.createdAtUtc
  details := ⟨[], Mapping.sorted_nil⟩

/-- The state after the event of a valid request. -/
def acceptedState (r : TransitionRequest) (e : AuditEvent) (pendingDecisionId : Option SafeId) :
    WorkflowTaskState where
  taskId := r.taskId
  projectId := r.projectId
  currentState := r.toState
  previousState := some r.fromState
  lastTransitionId := some r.transitionId
  auditGeneration := e.generation
  auditHeadEventId := e.eventId
  auditHeadHash := e.eventHash
  policyEvaluationId := some r.policyEvaluationBinding.evaluationId
  pendingDecisionId := pendingDecisionId
  updatedAtUtc := r.createdAtUtc

omit [Platform] in
/-- The event of a valid request is valid, if its hash is that of its own text. -/
theorem acceptedEvent_valid [Digest] {r : TransitionRequest} (hr : r.Valid)
    {current : WorkflowTaskState} {eventId : SafeId} {sequence : PosNat} {eventHash : Sha256Hex}
    (hlater : sequence.val ≠ 1) (hevidence : r.evidenceBindings ≠ [])
    (hhash : canonicalSha (acceptedEvent r current eventId sequence eventHash).preimage
      = eventHash.val) : (acceptedEvent r current eventId sequence eventHash).Valid := by
  obtain ⟨record, hsource, hproject, htask⟩ := hr.embedded
  have htransition : (acceptedEvent r current eventId sequence eventHash).IsTransition r.fromState
      r.toState r.transitionId r.policyEvaluationBinding record :=
    { sequence := hlater
      fromState := rfl
      toState := rfl
      transitionId := rfl
      policyBinding := rfl
      embedded := hsource
      projectId := hproject
      taskId := htask
      authorized := hr.authorized
      evidence := hevidence
      decision := fun d hd =>
        ⟨hr.resumes.mpr (Option.isSome_iff_exists.mpr ⟨d, hd⟩), (hr.decision d hd).2⟩
      resumes := fun hwaiting hnone => by
        have hsome := hr.resumes.mp hwaiting
        rw [show r.decisionResolutionBinding = none from hnone] at hsome
        cases hsome }
  refine ⟨⟨fun h => absurd h hlater, fun h => ?_⟩, hr.evidence, fun p hp => ?_,
    fun d hd => (hr.decision d hd).1, ⟨_, _, _, _, _, htransition⟩, hhash⟩
  · cases h
  · obtain rfl : r.policyEvaluationBinding = p := Option.some.inj hp
    exact hr.policy

/-- What a transition can still fail on when it is prepared: the request, and the size of the
event. -/
structure Committable (args : TransitionArgs) (p : PreparedTransition) (decision : Option Mapping) :
    Prop extends Requestable args p decision where
  bounded : p.sequence < 2 ^ 63
  fits : FitsSqlite (transitionEvent args p decision).toJson

/-- The records of a valid request are the records of the transition. -/
theorem acceptedEvent_toJson {args : TransitionArgs} {p : PreparedTransition}
    {decision : Option Mapping} {r : TransitionRequest} {eventId : SafeId} {sequence : PosNat}
    {eventHash : Sha256Hex} (h : (transitionRequest args p decision).toJson = r.toJson)
    (heventId : eventId.val = recordId "evt" p.token p.sequence) (hsequence : sequence.val = p.sequence)
    (hash : Json) :
    ((acceptedEvent r p.current eventId sequence eventHash).withHash hash).toJson
      = (transitionEventWithHash args p decision hash).toJson := by
  have hentries := congrArg Mapping.entries (Mapping.toJson_injective h)
  simp only [transitionRequest, TransitionRequest.toMapping, List.cons.injEq, Prod.mk.injEq,
    true_and, and_true] at hentries
  obtain ⟨hactor, hcreated, hdecision, hevidence, hfrom, -, hpolicy, hproject, htask, hto, hid⟩ :=
    hentries
  refine congrArg Json.obj ?_
  simp only [acceptedEvent, AuditEvent.withHash, transitionEventWithHash, ← hactor, ← hcreated,
    ← hdecision, ← hevidence, hfrom, hpolicy, ← hproject, ← htask, hto, hid, heventId, hsequence]
  rfl

/-- The state of a valid request is the state of the transition. -/
theorem acceptedState_toJson {args : TransitionArgs} {p : PreparedTransition}
    {decision : Option Mapping} {r : TransitionRequest} {eventId : SafeId} {sequence : PosNat}
    {eventHash : Sha256Hex} {pending : Option SafeId}
    (h : (transitionRequest args p decision).toJson = r.toJson)
    (heventId : eventId.val = recordId "evt" p.token p.sequence)
    (heventHash : eventHash.val = transitionEventHash args p decision)
    (hpending : Json.ofOption testedJson pending = pendingDecisionId p) :
    (transitionState args p decision).toJson
      = (acceptedState r (acceptedEvent r p.current eventId sequence eventHash) pending).toJson := by
  have hentries := congrArg Mapping.entries (Mapping.toJson_injective h)
  simp only [transitionRequest, TransitionRequest.toMapping, List.cons.injEq, Prod.mk.injEq,
    true_and, and_true] at hentries
  obtain ⟨-, hcreated, -, -, hfrom, -, hpolicy, hproject, htask, hto, hid⟩ := hentries
  have hpolicy' := congrArg Mapping.entries (Mapping.toJson_injective hpolicy)
  simp only [policyBinding, PolicyEvaluationBinding.toMapping, List.cons.injEq, Prod.mk.injEq,
    true_and, and_true] at hpolicy'
  refine congrArg Json.obj ?_
  simp only [transitionState, acceptedState, acceptedEvent, WorkflowTaskState.toMapping, ← hpending,
    ← heventId, ← heventHash, hcreated, hproject, htask, hto, hid, hfrom, hpolicy'.2.2.2.1]
  rfl

/-- **A committable transition makes a pair that follows the chain of its task.** -/
theorem PreparedFor.exists_follows {engine : Engine}
    (hloaded : engine.bundle.Loaded) {args : TransitionArgs} {p : PreparedTransition}
    {decision : Option Mapping} (h : PreparedFor engine args p)
    (hformed : RecordsFormed args p decision) (hdecision : DecisionMade p decision)
    (hcommittable : Committable args p decision) (hevidence : p.evidenceBindings ≠ [])
    {store : ControlStore} {events : List AuditEvent} {last : AuditEvent}
    (hstored : StoredChain store events last p.current)
    (hsequence : p.sequence = events.length + 1) :
    ∃ e s, (transitionEvent args p decision).toJson = e.toJson ∧
      (transitionState args p decision).toJson = s.toJson ∧
      StoredChain.Follows events last p.current e s := by
  have hbound := hcommittable.bounded
  obtain ⟨r, hrequest, hvalid⟩ := h.exists_request hloaded hformed hbound hdecision
    hcommittable.toRequestable
  have hid : ∀ kind, (kind = "tr" ∨ kind = "evt" ∨ kind = "eval" ∨ kind = "decision") →
      isSafeId (recordId kind p.token p.sequence) = true := by
    intro kind hkind
    rw [h.token]
    exact hformed.token.isSafeId_transition hkind hbound
  have hpos : 0 < events.length := List.length_pos_iff.mpr hstored.ne_nil
  let eventId : SafeId := ⟨recordId "evt" p.token p.sequence, hid _ (by simp)⟩
  let sequence : PosNat := ⟨p.sequence, by omega⟩
  let eventHash : Sha256Hex := ⟨transitionEventHash args p decision, hformed.event⟩
  let pending : Option SafeId := if p.target = .waitingHuman then
    some ⟨recordId "decision" p.token p.sequence, hid _ (by simp)⟩ else none
  let e := acceptedEvent r p.current eventId sequence eventHash
  have hhash : ∀ hash, (e.withHash hash).toJson
      = (transitionEventWithHash args p decision hash).toJson :=
    acceptedEvent_toJson hrequest rfl rfl
  have hpending : Json.ofOption testedJson pending = pendingDecisionId p := by
    simp only [pending, pendingDecisionId]
    split <;> rfl
  have hstate : (transitionState args p decision).toJson = (acceptedState r e pending).toJson :=
    acceptedState_toJson hrequest rfl rfl hpending
  have hentries := congrArg Mapping.entries (Mapping.toJson_injective hrequest)
  simp only [transitionRequest, TransitionRequest.toMapping, List.cons.injEq, Prod.mk.injEq,
    true_and, and_true] at hentries
  obtain ⟨-, -, -, hlist, hfrom, -, -, -, htask, hto, -⟩ := hentries
  have hbindings : r.evidenceBindings ≠ [] := by
    intro hnil
    rw [hnil] at hlist
    exact hevidence (List.map_eq_nil_iff.mp (Json.arr.inj hlist))
  have hfromState : r.fromState = last.stateAfter := by
    rw [← hstored.pair.currentState]
    exact (TaskState.toJson_injective hfrom).symm
  have hgeneration : p.current.auditGeneration.val = 1 := hstored.generation_eq
  have htaskId : r.taskId = p.current.taskId :=
    Subtype.ext ((Json.str.inj htask).symm.trans h.taskId.symm)
  have hevent : e.Valid := by
    refine acceptedEvent_valid hvalid (by show p.sequence ≠ 1; omega) hbindings ?_
    show canonicalSha (e.withHash .null).toJson = transitionEventHash args p decision
    rw [hhash, transitionEventHash]
  have htext : (transitionEvent args p decision).toJson = e.toJson := (hhash _).symm
  have hstateValid : (acceptedState r e pending).Valid := by
    have htarget : r.toState = p.target := (TaskState.toJson_injective hto).symm
    show r.toState = .waitingHuman ↔ pending.isSome = true
    rw [htarget]
    simp only [pending]
    split
    next hwaiting => simp [hwaiting]
    next hwaiting => simp [hwaiting]
  refine ⟨e, acceptedState r e pending, htext, hstate, ?_, htaskId, rfl, hgeneration, hsequence,
    hbound, ?_, ?_, ?_⟩
  · refine ⟨hevent, hstateValid, ⟨rfl, rfl, rfl, rfl, rfl, ⟨rfl, rfl, rfl, rfl⟩⟩, ?_,
      WorkflowTaskState.fits hgeneration⟩
    rw [← htext]
    exact hcommittable.fits
  · show some p.current.auditHeadHash = _
    rw [hstored.pair.binds.headHash]
  · exact congrArg some hfromState
  · exact congrArg some hfromState

end Requests

end Acgps
