import Acgps.Policy.Escalation

/-!
# The envelope of an evaluation

`evaluate_policy` answers a public record in an envelope that repeats the context of the record.
The result in the envelope is always a decision or a failed result. The context is repeated as it
came, also where the contract of the envelope does not take it.

## Main Definitions

* `EnvelopeSound` - the answer meets its contract and holds a decision or a failed result
* `Mapping.ContextReady` - the contract takes the context of the record

## Key Theorems

* `wrapPublicResult_cases` - the wrapper keeps a result or fails it
* `envelope_sound_iff` - **an envelope is sound iff the contract takes the context of the record**
-/

namespace Acgps

open Checked

/-! ## Section 1: The context of a record -/

/-- The contract of the envelope takes the context of the record: a field that is no text is
replaced, and so is a timestamp that does not look like one. -/
structure Mapping.ContextReady (record : Mapping) : Prop where
  evaluationId : ∀ s, record.get "evaluation_id" = .str s → s ∉ templatePlaceholders
  projectId : ∀ s, record.get "project_id" = .str s → PlainText s
  taskId : ∀ s, record.get "task_id" = .str s → PlainText s
  createdAtUtc : ∀ s, record.get "created_at_utc" = .str s →
    matchesTemplate isDecimal utcTemplate s.toList = true → isRfc3339Utc s = true

/-- A text that stands for every field without one. -/
theorem plainText_unknown : PlainText "UNKNOWN" := by
  constructor
  · decide
  · decide

/-- A text field of the context passes a rule that the stand-in passes iff its text does. -/
theorem textOr_iff {P : String → Prop} (hunknown : P "UNKNOWN") (value : Json) :
    P (value.asStr.getD "UNKNOWN") ↔ ∀ s, value = .str s → P s := by
  constructor
  · rintro h s rfl
    exact h
  · intro h
    cases hvalue : value.asStr with
    | none => exact hunknown
    | some s => exact h s (Json.asStr_eq_some.mp hvalue)

/-- The timestamp of the context passes iff it is one, or does not look like one. -/
theorem publicTimestamp_iff (s : String) : isRfc3339Utc (publicTimestamp s) = true ↔
    (matchesTemplate isDecimal utcTemplate s.toList = true → isRfc3339Utc s = true) := by
  have hepoch : isRfc3339Utc "1970-01-01T00:00:00Z" = true := by decide +kernel
  unfold publicTimestamp
  split
  next hmatch => exact ⟨fun h _ => h, fun h => h hmatch⟩
  next hmatch => exact ⟨fun _ h => absurd h hmatch, fun _ => hepoch⟩

/-- **The context of an answer is valid** iff the record is ready for it. -/
theorem contextOf_valid_iff {record : Mapping} :
    (contextOf record).Valid ↔ record.ContextReady := by
  have hid := textOr_iff (P := fun s => s ∉ templatePlaceholders) plainText_unknown.noPlaceholder
    (record.get "evaluation_id")
  have hproject := textOr_iff plainText_unknown (record.get "project_id")
  have htask := textOr_iff plainText_unknown (record.get "task_id")
  have hutc := publicTimestamp_iff ((record.get "created_at_utc").asStr.getD "")
  have hempty : matchesTemplate isDecimal utcTemplate "".toList = false := by decide
  constructor
  · intro h
    refine ⟨hid.mp h.evaluationId, hproject.mp h.projectId, htask.mp h.taskId, ?_⟩
    intro s hs
    have hlooks := hutc.mp h.createdAtUtc
    rw [hs] at hlooks
    exact hlooks
  · intro h
    refine ⟨hid.mpr h.evaluationId, hproject.mpr h.projectId, htask.mpr h.taskId, hutc.mpr ?_⟩
    cases hvalue : (record.get "created_at_utc").asStr with
    | none =>
        intro hlooks
        rw [Option.getD_none, hempty] at hlooks
        cases hlooks
    | some s => exact h.createdAtUtc s (Json.asStr_eq_some.mp hvalue)

section Envelope

variable [Platform]

/-! ## Section 2: The result in the envelope -/

/-- The answer to a public record. -/
theorem evaluateRecord_public {bundle : Except PolicyError PolicyBundle} {record : Mapping}
    (hpublic : looksLikePublicInput record = true) :
    evaluateRecord bundle record.toJson = .wrapped (wrapPublicResult (contextOf record)
      (resultOf (decideRecord bundle record.toJson)) (bundle.toOption.map (·.digest))) := by
  have hcontext : publicInputContext record.toJson = some (contextOf record) := by
    rw [publicInputContext, Mapping.asMapping_toJson, Option.filter_some, if_pos hpublic,
      Option.map_some]
  rw [evaluateRecord, hcontext]

/-- **The wrapper keeps a result or fails it**, and keeps the context and the digest. -/
theorem wrapPublicResult_cases (context : PublicContext) (r : PolicyResult)
    (digest : Option String) : wrapPublicResult context r digest = context.evaluation r digest ∨
      ∃ error, wrapPublicResult context r digest
        = context.evaluation (failClosedResult error) digest := by
  unfold wrapPublicResult
  dsimp only
  split
  next => exact .inl rfl
  next error _ => exact .inr ⟨error, rfl⟩

theorem wrapPublicResult_context (context : PublicContext) (r : PolicyResult)
    (digest : Option String) : (wrapPublicResult context r digest).context = context := by
  rcases wrapPublicResult_cases context r digest with heq | ⟨error, heq⟩
  · rw [heq]
    rfl
  · rw [heq]
    rfl

/-- A result that the evaluation has checked passes its own rules beside the digest. -/
theorem decideRecord_accepted {B : PolicyBundle} {record : Json} {r : PolicyResult}
    (h : decideRecord (.ok B) record = .ok r) : ResultAccepted (some B.digest) r := by
  simp only [decideRecord, decideInput, bind_eq_ok, pure_eq_ok] at h
  obtain ⟨_, hB, _, _, _, _, _, hchecked, rfl⟩ := h
  obtain rfl := Except.ok.inj hB
  simp only [validatePolicyResultContract, bind_eq_ok, policyContract_eq_ok] at hchecked
  obtain ⟨_, hcontract, _⟩ := hchecked
  exact (evaluation_contract_iff.mp hcontract).2.2

/-! ## Section 3: Sound envelopes -/

/-- The result is a decision: it allows declared targets of the state that the record names, and
under a human gate only those that a gate leaves open. -/
structure EnvelopeDecided (bundle : Except PolicyError PolicyBundle) (record : Mapping)
    (r : PolicyResult) : Prop where
  decided : r.failClosed = false ∧ r.decisionEmitted = true
  authorized : ∃ (B : PolicyBundle) (s : TaskState), bundle = .ok B ∧
    (∃ data : Mapping, record.get "input" = data.toJson ∧ data.get "current_state" = s.toJson) ∧
    (∀ target ∈ r.authorizedTransitions, target ∈ B.targets s) ∧
    (r.humanGate = true → ∀ target ∈ r.authorizedTransitions,
      target ∈ humanGateAuthorizedTransitions)

omit [Platform] in
/-- The result has failed: it reports an error and every field that something could be done with is
empty. -/
structure PolicyResult.FailedClosed (r : PolicyResult) : Prop where
  failed : r.failClosed = true ∧ r.decisionEmitted = false
  strictest : r.riskLevel = .r3 ∧ r.humanGate = true
  executable : r.requiredHumanTriggers = [] ∧ r.requiredSkills = [] ∧ r.modelRoles = [] ∧
    r.mandatoryGates = [] ∧ r.legalTransitions = [] ∧ r.authorizedTransitions = [] ∧
    r.provenance = []
  reported : ∃ code path message, code ∈ policyErrorCodes ∧ r.errorCode = some code ∧
    r.issues = [⟨code, path, message⟩]

/-- A result of `fail_closed_result` has failed. -/
theorem failClosedResult_failedClosed (error : PolicyError) :
    (failClosedResult error).FailedClosed :=
  ⟨⟨rfl, rfl⟩, ⟨rfl, rfl⟩, ⟨rfl, rfl, rfl, rfl, rfl, rfl, rfl⟩,
    ⟨_, _, _, reportedIssue_code error, rfl, rfl⟩⟩

/-- A decision of the evaluation on a public record is a decision on the state that the record
names. -/
theorem envelopeDecided_of_ok {bundle : Except PolicyError PolicyBundle} {record : Mapping}
    (hpublic : looksLikePublicInput record = true) {r : PolicyResult}
    (h : decideRecord bundle record.toJson = .ok r) : EnvelopeDecided bundle record r := by
  simp only [decideRecord, decideInput, bind_eq_ok, pure_eq_ok, prevalidateRecord_eq_ok_iff] at h
  obtain ⟨B, rfl, i, ⟨carrier, hrecord, -, -⟩, _, hnormal, _, -, rfl⟩ := h
  obtain rfl := Mapping.toJson_injective hrecord
  have hdecides := evaluateNormalized_eq_ok hnormal
  obtain ⟨-, rfl⟩ := evaluateNormalized_eq_ok_iff.mp hnormal
  refine ⟨⟨rfl, rfl⟩, B, i.currentState, rfl, ?_, ?_, ?_⟩
  · -- only the public carrier has a context
    cases carrier with
    | bare => exact nomatch (hpublic : false = true)
    | versioned => exact nomatch (hpublic : false = true)
    | published context => exact ⟨i.toMapping, rfl, rfl⟩
  · intro target htarget
    rw [hdecides.authorized] at htarget
    split at htarget
    · exact (List.mem_filter.mp htarget).1
    · exact htarget
  · intro hgate target htarget
    rw [hdecides.authorized, if_pos hgate] at htarget
    simpa using (List.mem_filter.mp htarget).2

/-- The answer meets its contract, and its result is a decision or has failed. -/
def EnvelopeSound (bundle : Except PolicyError PolicyBundle) (record : Mapping) : Prop :=
  ∃ ev, evaluateRecord bundle record.toJson = .wrapped ev ∧
    validateContract .policyEvaluationResult ev.toMapping.toJson = .ok () ∧
    (EnvelopeDecided bundle record ev.result ∨ ev.result.FailedClosed)

/-- The result in the envelope of a public record is a decision or has failed. -/
theorem envelope_result {bundle : Except PolicyError PolicyBundle} {record : Mapping}
    (hpublic : looksLikePublicInput record = true) :
    ∃ ev, evaluateRecord bundle record.toJson = .wrapped ev ∧
      (EnvelopeDecided bundle record ev.result ∨ ev.result.FailedClosed) := by
  refine ⟨_, evaluateRecord_public hpublic, ?_⟩
  rcases wrapPublicResult_cases (contextOf record) (resultOf (decideRecord bundle record.toJson))
    (bundle.toOption.map (·.digest)) with hkept | ⟨error, hfailed⟩
  · rw [hkept]
    show EnvelopeDecided _ _ (resultOf _) ∨ (resultOf _).FailedClosed
    cases hdecide : decideRecord bundle record.toJson with
    | ok r => exact .inl (envelopeDecided_of_ok hpublic hdecide)
    | error error => exact .inr (failClosedResult_failedClosed error)
  · rw [hfailed]
    exact .inr (failClosedResult_failedClosed error)

/-- The contract takes the context of a record in a sound envelope. -/
theorem contextReady_of_sound {bundle : Except PolicyError PolicyBundle} {record : Mapping}
    (hpublic : looksLikePublicInput record = true) (h : EnvelopeSound bundle record) :
    record.ContextReady := by
  obtain ⟨ev, hanswer, hcontract, -⟩ := h
  obtain rfl := PolicyAnswer.wrapped.inj ((evaluateRecord_public hpublic).symm.trans hanswer)
  have hvalid := (evaluation_contract_iff.mp hcontract).1
  rw [wrapPublicResult_context] at hvalid
  exact contextOf_valid_iff.mp hvalid

/-- The envelope of a ready record meets its contract. -/
theorem envelope_contract (hhex : ∀ value, isSha256 (canonicalSha value) = true)
    {files : PolicyFiles} {record : Mapping} (hready : record.ContextReady) :
    validateContract .policyEvaluationResult (wrapPublicResult (contextOf record)
      (resultOf (decideRecord (loadPolicyBundle files) record.toJson))
      ((loadPolicyBundle files).toOption.map (·.digest))).toMapping.toJson = .ok () := by
  apply wrapPublicResult_contract (contextOf_valid_iff.mpr hready)
  · intro d hd
    cases hload : loadPolicyBundle files with
    | error error =>
        rw [hload] at hd
        cases hd
    | ok B =>
        rw [hload] at hd
        obtain rfl := Option.some.inj hd
        exact loadPolicyBundle_digest hhex hload
  · cases hload : loadPolicyBundle files with
    | error error => exact .inr ⟨error, rfl⟩
    | ok B =>
        cases hdecide : decideRecord (.ok B) record.toJson with
        | error error => exact .inr ⟨error, rfl⟩
        | ok r => exact .inl (decideRecord_accepted hdecide)

/-- **An envelope is sound** iff the contract takes the context of the record. -/
theorem envelope_sound_iff (hhex : ∀ value, isSha256 (canonicalSha value) = true)
    (files : PolicyFiles) (record : Mapping) (hpublic : looksLikePublicInput record = true) :
    EnvelopeSound (loadPolicyBundle files) record ↔ record.ContextReady := by
  constructor
  · exact contextReady_of_sound hpublic
  · intro hready
    obtain ⟨ev, hanswer, hresult⟩ := envelope_result hpublic
    refine ⟨ev, hanswer, ?_, hresult⟩
    obtain rfl := PolicyAnswer.wrapped.inj ((evaluateRecord_public hpublic).symm.trans hanswer)
    exact envelope_contract hhex hready

end Envelope

/-- A public record with the smallest input. -/
def smallestRecord (taskId : String) : Mapping :=
  PublicContext.wrap ⟨"EVAL-1", "ACGPS", taskId, "2026-01-01T00:00:00Z"⟩ (smallestInput [] [])

/-- The envelope of a record that names its task is sound. -/
theorem envelope_sound_smallest :
    letI := smallestPlatform
    EnvelopeSound (loadPolicyBundle (smallestFiles [] [])) (smallestRecord "TASK-1") := by
  let _ := smallestPlatform
  apply (envelope_sound_iff (fun _ => isSha256_unarySha (Nat.zero_le _)) (smallestFiles [] [])
    (smallestRecord "TASK-1") (by decide +kernel)).mpr
  constructor
  · intro s hs
    obtain rfl := Json.str.inj (hs : Json.str "EVAL-1" = .str s)
    decide
  · intro s hs
    obtain rfl := Json.str.inj (hs : Json.str "ACGPS" = .str s)
    exact ⟨by decide, by decide⟩
  · intro s hs
    obtain rfl := Json.str.inj (hs : Json.str "TASK-1" = .str s)
    exact ⟨by decide, by decide⟩
  · intro s hs _
    obtain rfl := Json.str.inj (hs : Json.str "2026-01-01T00:00:00Z" = .str s)
    decide +kernel

/-- A record whose task id is a blank is answered in an envelope that its contract does not
take. -/
theorem envelope_unsound_blank :
    letI := smallestPlatform
    looksLikePublicInput (smallestRecord " ") = true ∧
      ¬ EnvelopeSound (loadPolicyBundle (smallestFiles [] [])) (smallestRecord " ") := by
  let _ := smallestPlatform
  have hpublic : looksLikePublicInput (smallestRecord " ") = true := by decide +kernel
  refine ⟨hpublic, fun hsound => ?_⟩
  have hplain := (contextReady_of_sound hpublic hsound).taskId " " rfl
  have hblank : isBlank " " = true := by decide
  rw [hplain.notBlank] at hblank
  cases hblank

end Acgps
