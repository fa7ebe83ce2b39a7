import Acgps.Engine.Advances
import Acgps.Engine.Packets

/-!
# Gate previews

The two previews of a transition, and when they tell what `advance` would do.

## Main Definitions

* `directTransitionGatePreview`, `waitingHumanResumeGatePreview` - the two previews
* `Admissible` - what the previews do not look at

## Key Theorems

* `directPreview_iff`, `resumePreview_iff` - when a preview succeeds
* `moves_direct_iff`, `moves_resume_iff` - **a prepared transition moves the task exactly where the
  arguments that the previews do not look at are admissible**
-/

namespace Acgps

open Checked Interleaving

variable [Platform]

/-! ## Section 1: The previews -/

/-- What `direct_transition_gate_preview` returns. -/
structure DirectPreview where
  taskId : SafeId
  projectId : SafeId
  currentState : TaskState
  targetState : String
  requiredActor : Option Actor
  evidenceBindings : List PathBinding
  policyEvaluationId : String
  policyBundleDigest : Option String
  auditGeneration : PosNat
  auditHeadEventId : SafeId
  auditHeadHash : Sha256Hex

/-- `direct_transition_gate_preview`. -/
def directTransitionGatePreview (engine : Engine) (args : TransitionArgs) :
    EngineQuery DirectPreview := do
  Query.lift (require (args.toState ≠ TaskState.waitingHuman.name)
    (engineError "direct transition gate preview does not accept WAITING_HUMAN as a target"))
  let current ← status args.taskId
  Query.lift (require (current.currentState ≠ .waitingHuman)
    (engineError "direct transition gate preview cannot resume WAITING_HUMAN; use decision resolution-preview"))
  let p ← prepareTransitionValidation engine args
  Query.lift (require (p.target.name = args.toState)
    (engineError "direct transition gate preview cannot create a WAITING_HUMAN decision"))
  return ⟨p.current.taskId, p.current.projectId, p.current.currentState, args.toState,
    requiredTransitionActor p.current.currentState p.target, p.evidenceBindings,
    p.policy.evaluationId, p.policy.policyBundleDigest, p.current.auditGeneration,
    p.current.auditHeadEventId, p.current.auditHeadHash⟩

/-- What `waiting_human_resume_gate_preview` returns. -/
structure ResumePreview where
  taskId : SafeId
  projectId : SafeId
  currentState : TaskState
  sourceStateBeforeHumanGate : TaskState
  targetState : String
  requiredActor : Option Actor
  decisionId : Json
  resolutionSha256 : Json
  pendingDecisionSha256 : String
  evidenceBindings : List PathBinding
  policyEvaluationId : String
  policyBundleDigest : Option String
  auditGeneration : PosNat
  auditHeadEventId : SafeId
  auditHeadHash : Sha256Hex

/-- `waiting_human_resume_gate_preview`. -/
def waitingHumanResumeGatePreview (engine : Engine) (args : TransitionArgs) :
    EngineQuery ResumePreview := do
  let current ← status args.taskId
  let lineage ← trustedLineage current
  let bound ← waitingHumanResolutionBinding engine current args.toState args.decisionResolution
  let p ← prepareTransitionValidation engine args
  let changed := engineError "task state identity changed during resume gate preview"
  Query.lift (require (p.current = current) changed)
  let again ← status args.taskId
  Query.lift (require (again = current) changed)
  Query.lift (require (p.target.name = args.toState)
    (engineError "resume gate preview cannot create another WAITING_HUMAN decision"))
  let finalLineage ← trustedLineage current
  Query.lift (require (lineageSha finalLineage = lineageSha lineage)
    (engineError "audit lineage identity changed during resume gate preview"))
  let final ← waitingHumanResolutionBinding engine current args.toState args.decisionResolution
  Query.lift (require
    (canonicalSha final.1.toJson = canonicalSha bound.1.toJson ∧ final.2 = bound.2)
    (engineError "pending decision identity changed during resume gate preview"))
  return ⟨current.taskId, current.projectId, current.currentState, p.gateSource, args.toState,
    requiredTransitionActor p.gateSource p.target, bound.2.get "decision_id",
    bound.2.get "resolution_sha256", canonicalSha bound.1.toJson, p.evidenceBindings,
    p.policy.evaluationId, p.policy.policyBundleDigest, current.auditGeneration,
    current.auditHeadEventId, current.auditHeadHash⟩

/-! ## Section 2: When a preview succeeds -/

/-- **When the direct preview succeeds**: the transition can be prepared, and neither starts nor ends
in a pause. -/
theorem directPreview_iff {engine : Engine} {args : TransitionArgs} {w : World} :
    (∃ preview, (directTransitionGatePreview engine args).run w = .ok preview) ↔
      ∃ p, (prepareTransitionValidation engine args).run w = .ok p ∧
        p.target.name = args.toState ∧ p.target ≠ .waitingHuman ∧
        p.current.currentState ≠ .waitingHuman := by
  simp only [← Query.may_eq_iff, directTransitionGatePreview, Query.may_bind, Query.may_lift,
    Query.may_pure, require_eq_ok, may_status, exists_eq_left, exists_const]
  constructor
  · rintro ⟨_, htarget, current, hread, hwaiting, p, hprepared, hname, -⟩
    refine ⟨p, hprepared, hname, fun h => htarget ?_, ?_⟩
    · rw [← hname, h]
    · obtain ⟨_, rfl, hcurrent⟩ := (prepareTransitionValidation_may.mp hprepared).status
      rw [← Except.ok.inj (hread.symm.trans hcurrent)]
      exact hwaiting
  · rintro ⟨p, hprepared, hname, htarget, hwaiting⟩
    obtain ⟨_, rfl, hcurrent⟩ := (prepareTransitionValidation_may.mp hprepared).status
    refine ⟨_, fun h => htarget ?_, p.current, hcurrent, hwaiting, p, hprepared, hname, rfl⟩
    exact TaskState.name_injective (hname.trans h)

/-- **When the resume preview succeeds**: the resolution binds, and the transition can be prepared. -/
theorem resumePreview_iff {engine : Engine} {args : TransitionArgs} {w : World} :
    (∃ preview, (waitingHumanResumeGatePreview engine args).run w = .ok preview) ↔
      ∃ p, (prepareTransitionValidation engine args).run w = .ok p ∧ p.target.name = args.toState ∧
        ∃ bound, (waitingHumanResolutionBinding engine p.current args.toState
          args.decisionResolution).run w = .ok bound := by
  simp only [← Query.may_eq_iff, waitingHumanResumeGatePreview, Query.may_bind, Query.may_lift,
    Query.may_pure, require_eq_ok, may_status, may_trustedLineage, exists_eq_left, exists_const]
  constructor
  · rintro ⟨_, current, -, lineage, -, bound, hbound, p, hprepared, rfl, _, -, -, hname, -⟩
    exact ⟨p, hprepared, hname, bound, hbound⟩
  · rintro ⟨p, hprepared, hname, bound, hbound⟩
    obtain ⟨_, rfl, hcurrent⟩ := (prepareTransitionValidation_may.mp hprepared).status
    obtain ⟨_, -, -, hresolved⟩ := waitingHumanResolutionBinding_may hbound
    have hwaiting := hresolved.waiting
    -- the pause is taken from the lineage, so there is one
    have hsource := (prepareTransitionValidation_may.mp hprepared).gateSource
    rw [transitionGateSourceState_may, if_pos hwaiting] at hsource
    obtain ⟨-, lineage, ⟨_, rfl, hlineage⟩, -⟩ := hsource
    exact ⟨_, p.current, hcurrent, lineage, hlineage, bound, hbound, p, hprepared, rfl, p.current,
      hcurrent, rfl, hname, lineage, hlineage, rfl, bound, hbound, ⟨rfl, rfl⟩, rfl⟩

/-! ## Section 3: What the previews do not look at -/

/-- The bindings of a transition, made from the files that its paths lead to. -/
def bindingsOfFiles (args : TransitionArgs) (sequence : Nat) (target : TaskState)
    (files : List EvidenceFile) : List PathBinding :=
  files.zipIdx.map (fun item =>
    ⟨"ev-" ++ taskToken args.taskId ++ "-" ++ fourDigits sequence ++ "-" ++ twoDigits (item.2 + 1),
      "transition_" ++ asciiLower target.name, item.1.snapshot, args.createdAtUtc⟩)

/-- What a transition of a state is made from. -/
def plannedTransition (engine : Engine) (args : TransitionArgs) (current : WorkflowTaskState)
    (sequence : Nat) (target : TaskState) (files : List EvidenceFile) : PreparedTransition where
  current := current
  gateSource := current.currentState
  sequence := sequence
  token := taskToken args.taskId
  policy := evaluatePolicy engine.bundle (policyInput engine args current sequence)
  target := target
  evidenceItems := args.evidencePaths
  evidenceBindings := bindingsOfFiles args sequence target files

/-- The decision that a call binds to its event. -/
def TransitionArgs.decision (args : TransitionArgs) : Option Mapping :=
  args.decisionResolution.map resolutionBinding

/-- What the previews do not look at: whether the engine may write, the word for the actor, that the
timestamps have whole seconds, the form of the paths, and the size of the event. -/
structure Admissible (engine : Engine) (args : TransitionArgs) (w : World) : Prop where
  writable : engine.readOnly = false
  actor : ∃ actor : Actor, actor.name = args.actor
  createdAtUtc : isUtc args.createdAtUtc = true
  resolvedAtUtc : ∀ d ∈ args.decision, ∃ t : Utc, d.get "resolved_at_utc" = .str t.val
  target : args.toState ≠ TaskState.waitingHuman.name
  planned : ∀ {current events target files},
    readTaskState w.store args.taskId = .ok current → w.store.Logs args.taskId events →
    target.name = args.toState → List.Forall₂ (w.Leads engine) args.evidencePaths files →
    events.length + 1 < 2 ^ 63 ∧
      (∀ b ∈ bindingsOfFiles args (events.length + 1) target files, b.Bindable) ∧
      FitsSqlite (transitionEvent args
        (plannedTransition engine args current (events.length + 1) target files)
        args.decision).toJson

/-- **The bindings of a transition are made from the files that its paths lead to.** -/
theorem evidenceBindings_iff_files {engine : Engine} {args : TransitionArgs} {w : World}
    {sequence : Nat} {target : TaskState} {bindings : List PathBinding} :
    (evidenceBindings engine args sequence target).May (· = w) (.ok bindings) ↔
      ∃ files, List.Forall₂ (w.Leads engine) args.evidencePaths files ∧
        bindings = bindingsOfFiles args sequence target files := by
  rw [evidenceBindings_may]
  simp only [exists_eq_left]
  unfold bindingsOfFiles
  -- the numbers go on behind any number of paths
  generalize args.evidencePaths = paths
  generalize 0 = start
  induction paths generalizing bindings start with
  | nil =>
      rw [List.zipIdx_nil, List.forall₂_nil_left_iff]
      constructor
      · rintro rfl
        exact ⟨[], .nil, rfl⟩
      · rintro ⟨files, hfiles, rfl⟩
        rw [List.forall₂_nil_left_iff.mp hfiles]
        rfl
  | cons path paths ih =>
      rw [List.zipIdx_cons, List.forall₂_cons_left_iff]
      constructor
      · rintro ⟨b, rest, ⟨file, hleads, rfl⟩, hrest, rfl⟩
        obtain ⟨files, hfiles, hmade⟩ := (ih (start + 1)).mp hrest
        exact ⟨file :: files, .cons hleads hfiles, by rw [List.zipIdx_cons, List.map_cons, ← hmade]⟩
      · rintro ⟨files, hfiles, rfl⟩
        obtain ⟨file, rest, hleads, hrest, rfl⟩ := List.forall₂_cons_left_iff.mp hfiles
        exact ⟨_, _, ⟨file, hleads, rfl⟩, (ih (start + 1)).mpr ⟨rest, hrest, rfl⟩,
          by rw [List.zipIdx_cons, List.map_cons]⟩

omit [Platform] in
/-- Paths lead to one list of files. -/
theorem leads_unique {engine : Engine} {w : World} {paths : List EvidencePath}
    {files files' : List EvidenceFile} (h : List.Forall₂ (w.Leads engine) paths files)
    (h' : List.Forall₂ (w.Leads engine) paths files') : files = files' := by
  induction h generalizing files' with
  | nil => exact (List.forall₂_nil_left_iff.mp h').symm
  | cons hleads _ ih =>
      obtain ⟨file', rest', hleads', hrest', rfl⟩ := List.forall₂_cons_left_iff.mp h'
      rw [PathEntry.Leads.unique hleads hleads', ih hrest']

/-- A preparation, read off the arguments, the files and the log. -/
theorem Preparation.exists_planned {engine : Engine} {args : TransitionArgs} {w : World}
    {p : PreparedTransition} (h : Preparation (· = w) engine args p)
    (hbound : TaskBound w.store args.taskId) :
    ∃ events files, readTaskState w.store args.taskId = .ok p.current ∧
      w.store.Logs args.taskId events ∧
      List.Forall₂ (w.Leads engine) args.evidencePaths files ∧
      p = { plannedTransition engine args p.current (events.length + 1) p.target files with
        gateSource := p.gateSource } := by
  obtain ⟨_, rfl, hread⟩ := h.status
  obtain ⟨events, last, hstored, hsequence⟩ := h.storedChain hbound
  obtain ⟨files, hfiles, hbindings⟩ := evidenceBindings_iff_files.mp h.bound
  have hlogs := hstored.logs
  rw [readTaskState_taskId hread] at hlogs
  refine ⟨events, files, hread, hlogs, hfiles, ?_⟩
  obtain ⟨current, gateSource, sequence, token, policy, target, items, bindings⟩ := p
  have htoken := h.token
  have hpolicy := h.policy
  have hitems := h.items
  dsimp only at *
  subst hsequence htoken hpolicy hitems hbindings
  rfl

/-- **A preparation is committable exactly where the arguments are admissible.** -/
theorem admissible_iff_committable {engine : Engine} {args : TransitionArgs} {w : World}
    {p : PreparedTransition} (h : Preparation (· = w) engine args p)
    (hbound : TaskBound w.store args.taskId) (hname : p.target.name = args.toState) :
    Admissible engine args w ↔ engine.readOnly = false ∧ p.target ≠ .waitingHuman ∧
      Committable args p args.decision := by
  obtain ⟨events, files, hread, hlogs, hfiles, hp⟩ := h.exists_planned hbound
  have hbindings : p.evidenceBindings = bindingsOfFiles args (events.length + 1) p.target files := by
    rw [hp]
    rfl
  have hsequence : p.sequence = events.length + 1 := by
    rw [hp]
    rfl
  have hevent : transitionEvent args p args.decision = transitionEvent args
      (plannedTransition engine args p.current (events.length + 1) p.target files)
      args.decision := by
    rw [hp]
    rfl
  constructor
  · intro hadmissible
    obtain ⟨hroom, hbindable, hfits⟩ := hadmissible.planned hread hlogs hname hfiles
    refine ⟨hadmissible.writable, fun hwaiting => hadmissible.target ?_,
      ⟨hadmissible.actor, hadmissible.createdAtUtc, ?_, hadmissible.resolvedAtUtc⟩, ?_, ?_⟩
    · rw [← hname, hwaiting]
    · rw [hbindings]
      exact hbindable
    · rw [hsequence]
      exact hroom
    · rw [hevent]
      exact hfits
  · rintro ⟨hwritable, hwaiting, hcommittable⟩
    refine ⟨hwritable, hcommittable.actor, hcommittable.createdAtUtc, hcommittable.resolved,
      fun htarget => hwaiting (TaskState.name_injective (hname.trans htarget)), ?_⟩
    intro current events' target files' hread' hlogs' hname' hfiles'
    obtain rfl : p.current = current := Except.ok.inj (hread.symm.trans hread')
    obtain rfl := hlogs.unique hlogs'
    obtain rfl : p.target = target := TaskState.name_injective (hname.trans hname'.symm)
    obtain rfl := leads_unique hfiles hfiles'
    rw [← hbindings, ← hevent, ← hsequence]
    exact ⟨hcommittable.bounded, hcommittable.bindable, hcommittable.fits⟩

/-! ## Section 4: What is committed -/

/-- The arguments of a call without a resolution. -/
def TransitionArgs.direct (args : TransitionArgs) : TransitionArgs :=
  { args with decisionResolution := none }

theorem prepare_direct (engine : Engine) (args : TransitionArgs) :
    prepareTransitionValidation engine args.direct = prepareTransitionValidation engine args := rfl

/-- The closure of a prepared transition was validated in its preparation. -/
theorem Preparation.closure {engine : Engine} {args : TransitionArgs} {w : World}
    {p : PreparedTransition} (h : Preparation (· = w) engine args p) :
    (revalidateClosure engine p.gateSource p.target p.evidenceItems p.evidenceBindings
      p.current).run w = .ok () := by
  have hagain := h.revalidated
  unfold revalidatePrepared at hagain
  split at hagain
  next hready =>
    -- an entry into `RC_READY` is no closure
    have hopen : p.target ≠ .closed := by
      rw [hready]
      decide
    simp [revalidateClosure, hopen, Query.run, pure]
  next hready =>
    rw [h.items]
    exact Query.may_eq_iff.mp hagain

/-- A prepared transition that neither starts nor ends in a pause passes the checks of the call. -/
theorem passes_direct {engine : Engine} {args : TransitionArgs} {w : World} {p : PreparedTransition}
    (hwritable : engine.readOnly = false)
    (hprepared : (prepareTransitionValidation engine args).run w = .ok p)
    (htarget : p.target ≠ .waitingHuman) (hsource : p.current.currentState ≠ .waitingHuman)
    (hgiven : args.decisionResolution = none)
    (hrequest : requestOutcome
      (validateTransitionRequest (transitionRequest args p none).toJson) = .ok ()) :
    AdvancePasses engine args w p none w.decisions w.decisions where
  writable := hwritable
  prepared := hprepared
  decided := by
    simp only [transitionDecision, htarget, hsource, hgiven, if_false]
    rfl
  requested := hrequest
  resolved := by
    rw [hgiven]
    rfl
  closure := (prepareTransitionValidation_may.mp (Query.may_eq_iff.mpr hprepared)).closure

/-- So does one that is committable: its request is valid. -/
theorem passes_of_committable (hhex : HexDigests) {engine : Engine} {args : TransitionArgs}
    {w : World} {p : PreparedTransition} (hloaded : engine.bundle.Loaded)
    (hwritable : engine.readOnly = false)
    (hprepared : (prepareTransitionValidation engine args).run w = .ok p)
    (htarget : p.target ≠ .waitingHuman) (hsource : p.current.currentState ≠ .waitingHuman)
    (hgiven : args.decisionResolution = none) (hcommittable : Committable args p none) :
    AdvancePasses engine args w p none w.decisions w.decisions := by
  have hp := prepareTransitionValidation_may.mp (Query.may_eq_iff.mpr hprepared)
  have hmade : DecisionMade p none := ⟨by simp [hsource], by simp⟩
  obtain ⟨r, hrequest, hvalid⟩ := hp.preparedFor.exists_request hloaded
    (hhex.recordsFormed hp.preparedFor none) hcommittable.bounded hmade
    hcommittable.toRequestable
  exact passes_direct hwritable hprepared htarget hsource hgiven
    (requestOutcome_eq_ok.mpr ⟨r, validateTransitionRequest_eq_ok_iff.mpr ⟨hrequest, hvalid⟩⟩)

/-- **A prepared direct transition moves the task exactly where the arguments are admissible.** -/
theorem moves_direct_iff (hhex : HexDigests) {engine : Engine} (hloaded : engine.bundle.Loaded)
    {args : TransitionArgs} {w : World} {p : PreparedTransition}
    (hbound : TaskBound w.store args.taskId)
    (hprepared : (prepareTransitionValidation engine args).run w = .ok p)
    (htarget : p.target ≠ .waitingHuman) (hsource : p.current.currentState ≠ .waitingHuman)
    (hgiven : args.decisionResolution = none) :
    (∃ source target, w.Moves ((advance engine args).run w).2 args.taskId source target) ↔
      Admissible engine args w := by
  have hp := prepareTransitionValidation_may.mp (Query.may_eq_iff.mpr hprepared)
  have hname := hp.name_of_ne htarget
  have hnone : args.decision = none := by
    rw [TransitionArgs.decision, hgiven]
    rfl
  rw [admissible_iff_committable hp hbound hname, hnone]
  constructor
  · rintro ⟨source, target, hmoves⟩
    obtain ⟨p', decision, opened, queue, hpasses, hcommittable, -⟩ := exists_passes_of_moves hmoves
    obtain rfl : p = p' := Except.ok.inj (hprepared.symm.trans hpasses.prepared)
    have hdecision : decision = none := by
      cases decision with
      | none => rfl
      | some d => exact absurd (hpasses.decisionMade.resumes.mpr rfl) hsource
    rw [hdecision] at hcommittable
    exact ⟨hpasses.writable, htarget, hcommittable⟩
  · rintro ⟨hwritable, -, hcommittable⟩
    have hpasses := passes_of_committable hhex hloaded hwritable hprepared htarget hsource hgiven
      hcommittable
    exact ⟨_, _, hpasses.moves hloaded hbound (hhex.recordsFormed hp.preparedFor none)
      hcommittable⟩

/-- A resolution that binds can be written to the queue. -/
theorem ResolutionBound.resolveGiven_run {current : WorkflowTaskState} {toState : String}
    {resolution request : Mapping} {w : World}
    (h : ResolutionBound (· = w) current toState resolution request) :
    ∃ queue, (resolveGiven (some resolution)).run w = (.ok (), w.withDecisions queue) := by
  have hvalidated := Query.may_eq_iff.mp h.validated
  have hsame := h.same
  simp only [requireSameResolution, Query.may_bind, Query.may_lift, Query.may_read, exists_eq_left,
    Except.ok.injEq, exists_eq_left'] at hsame
  obtain ⟨_, hpath, hstored⟩ := hsame
  let written := writeOnce w.decisions.resolved (resolution.word "decision_id") resolution
  have hwritten : written.1 = .ok () := by
    show (writeOnce w.decisions.resolved (resolution.word "decision_id") resolution).1 = .ok ()
    unfold writeOnce
    dsimp only
    split
    next hnone => rfl
    next stored hlookup =>
      rw [hlookup] at hstored
      simp only [Query.may_bind, Query.may_lift, parseCanonicalEvidenceJson_eq_ok, require_eq_ok,
        FileContent.canonicalLine.injEq] at hstored
      obtain ⟨record, ⟨rfl, -⟩, rfl⟩ := hstored
      simp
    next hlookup =>
      rw [hlookup] at hstored
      simp [Query.may_bind, Query.may_lift, parseCanonicalEvidenceJson_eq_ok] at hstored
  refine ⟨{ w.decisions with resolved := written.2 }, ?_⟩
  have hquery : (Prog.query (validateResolution resolution)).run w = (.ok request, w) := by
    rw [Prog.run_query, hvalidated]
  have hlift : (Prog.lift (containedPath "resolved" (resolution.word "decision_id")) :
      EngineProg Unit).run w = (.ok (), w) := by
    rw [Prog.run_lift, hpath]
  rw [resolveGiven, Prog.run_mapError_of_ok]
  rw [resolveDecision, Prog.run_bind_of_ok hquery, Prog.run_bind_of_ok hlift, Prog.run_update]
  exact Prod.ext hwritten rfl

/-- A prepared resumption whose resolution binds passes the checks of the call. -/
theorem passes_resume {engine : Engine} {args : TransitionArgs} {w : World} {p : PreparedTransition}
    {bound : Mapping × Mapping} (hwritable : engine.readOnly = false)
    (hprepared : (prepareTransitionValidation engine args).run w = .ok p)
    (htarget : p.target ≠ .waitingHuman)
    (hbound : (waitingHumanResolutionBinding engine p.current p.target.name
      args.decisionResolution).run w = .ok bound)
    (hrequest : requestOutcome
      (validateTransitionRequest (transitionRequest args p (some bound.2)).toJson) = .ok ()) :
    ∃ queue, AdvancePasses engine args w p (some bound.2) w.decisions queue := by
  obtain ⟨resolution, hgiven, -, hresolved⟩ :=
    waitingHumanResolutionBinding_may (Query.may_eq_iff.mpr hbound)
  obtain ⟨queue, hqueue⟩ := hresolved.resolveGiven_run
  refine ⟨queue, hwritable, hprepared, ?_, hrequest, ?_,
    (prepareTransitionValidation_may.mp (Query.may_eq_iff.mpr hprepared)).closure⟩
  · have hquery : (Prog.query (waitingHumanResolutionBinding engine p.current p.target.name
        args.decisionResolution)).run w = (.ok bound, w) := by
      rw [Prog.run_query, hbound]
    rw [transitionDecision, if_neg htarget, if_pos hresolved.waiting, Prog.run_bind_of_ok hquery]
    rfl
  · rw [hgiven]
    exact hqueue

/-- **A prepared resumption moves the task exactly where the arguments are admissible.** -/
theorem moves_resume_iff (hhex : HexDigests) {engine : Engine} (hloaded : engine.bundle.Loaded)
    {args : TransitionArgs} {w : World} {p : PreparedTransition} {bound : Mapping × Mapping}
    (hstored : TaskBound w.store args.taskId)
    (hprepared : (prepareTransitionValidation engine args).run w = .ok p)
    (hname : p.target.name = args.toState)
    (hbound : (waitingHumanResolutionBinding engine p.current args.toState
      args.decisionResolution).run w = .ok bound) :
    (∃ target, target.name = args.toState ∧ target ≠ .waitingHuman ∧
      w.Moves ((advance engine args).run w).2 args.taskId .waitingHuman target) ↔
      Admissible engine args w := by
  have hp := prepareTransitionValidation_may.mp (Query.may_eq_iff.mpr hprepared)
  obtain ⟨resolution, hgiven, hbinding, hresolved⟩ :=
    waitingHumanResolutionBinding_may (Query.may_eq_iff.mpr hbound)
  have hdecision : args.decision = some bound.2 := by
    rw [TransitionArgs.decision, hgiven, hbinding]
    rfl
  rw [admissible_iff_committable hp hstored hname, hdecision]
  rw [← hname] at hbound
  constructor
  · rintro ⟨target, -, htarget, hmoves⟩
    obtain ⟨p', decision, opened, queue, hpasses, hcommittable, -, rfl⟩ :=
      exists_passes_of_moves hmoves
    obtain rfl : p = p' := Except.ok.inj (hprepared.symm.trans hpasses.prepared)
    refine ⟨hpasses.writable, htarget, ?_⟩
    -- the call has bound the same resolution
    obtain ⟨d, rfl⟩ := Option.isSome_iff_exists.mp
      (hpasses.decisionMade.resumes.mp hresolved.waiting)
    have hdecided := hpasses.decided
    have hquery : (Prog.query (waitingHumanResolutionBinding engine p.current p.target.name
        args.decisionResolution)).run w = (.ok bound, w) := by
      rw [Prog.run_query, hbound]
    rw [transitionDecision, if_neg htarget, if_pos hresolved.waiting,
      Prog.run_bind_of_ok hquery] at hdecided
    have hsame : some bound.2 = some d := Except.ok.inj (congrArg Prod.fst hdecided)
    rw [hsame]
    exact hcommittable
  · rintro ⟨hwritable, htarget, hcommittable⟩
    have hformed := hhex.recordsFormed hp.preparedFor (some bound.2)
    have hmade : DecisionMade p (some bound.2) := by
      refine ⟨by simp [hresolved.waiting], fun d hd => ?_⟩
      obtain rfl := Option.mem_some_iff.mp hd
      exact ⟨resolution, bound.1, hbinding, hresolved.answers, hresolved.ofTask,
        hresolved.decisionId, by rw [hresolved.resumeState, hname]⟩
    obtain ⟨r, hrequest, hvalid⟩ := hp.preparedFor.exists_request hloaded hformed
      hcommittable.bounded hmade hcommittable.toRequestable
    obtain ⟨queue, hpasses⟩ := passes_resume hwritable hprepared htarget hbound
      (requestOutcome_eq_ok.mpr ⟨r, validateTransitionRequest_eq_ok_iff.mpr ⟨hrequest, hvalid⟩⟩)
    have hmoves := hpasses.moves hloaded hstored hformed hcommittable
    rw [hresolved.waiting] at hmoves
    exact ⟨p.target, hname, htarget, hmoves⟩

/-- The resolution that a resumption has bound. -/
theorem AdvancePasses.exists_bound {engine : Engine} {args : TransitionArgs} {w : World}
    {p : PreparedTransition} {decision : Option Mapping} {opened queue : DecisionFiles}
    (h : AdvancePasses engine args w p decision opened queue)
    (hsource : p.current.currentState = .waitingHuman) (htarget : p.target ≠ .waitingHuman) :
    ∃ bound, (waitingHumanResolutionBinding engine p.current p.target.name
      args.decisionResolution).run w = .ok bound := by
  have hdecided := h.decided
  rw [transitionDecision, if_neg htarget, if_pos hsource] at hdecided
  rcases Prog.run_bind_cases (Prog.query (waitingHumanResolutionBinding engine p.current
    p.target.name args.decisionResolution)) (fun bound => pure (some bound.2)) w with
    ⟨_, -, hrun⟩ | ⟨bound, hbound, -⟩
  · rw [hrun] at hdecided
    cases congrArg Prod.fst hdecided
  · rw [Prog.run_query] at hbound
    exact ⟨bound, hbound⟩

end Acgps
