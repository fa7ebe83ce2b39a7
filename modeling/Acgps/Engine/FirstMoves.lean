import Acgps.Engine.Previews
import Acgps.Policy.Reference

/-!
# First moves

An intake in a world without the task, and the first transition behind it.

## Main Definitions

* `IntakePasses` - every check of an intake of a new task
* `FirstMove` - a call that takes a new task to its classification
* `demoWorld` - a world that a run reaches: one file, and one task behind its intake

## Key Theorems

* `IntakePasses.run_world` - what an intake that passes its checks leaves
* `FirstMove.prepared` - the first transition of a task can be prepared
-/

namespace Acgps

open Checked Interleaving

section Calls

variable [Platform]

/-! ## Section 1: The intake -/

/-- The request that an intake makes. -/
def intakeRequest (record : Mapping) (actor : String) : Mapping :=
  initializationRequest record (.str actor) (record.get "task_id") (record.get "project_id")
    (taskToken (record.word "task_id"))

/-- The proof that an intake keeps. -/
def intakeProof (record : Mapping) (actor : String) : Mapping :=
  initializationRecord (intakeRequest record actor) (initializationResult
    (intakeRequest record actor)
    (creationEventRecord record actor ("evt-" ++ taskToken (record.word "task_id") ++ "-0001")))

/-- Every check of an intake of a new task. -/
structure IntakePasses (engine : Engine) (record : Mapping) (actor : String) (w : World) :
    Prop where
  writable : engine.readOnly = false
  contract : validateContract .taskIntake record.toJson = .ok ()
  project : record.get "project_id" = .str engine.projectName
  requested : requestOutcome (validateTaskInitializationRequest
    (intakeRequest record actor).toJson) = .ok ()
  proofFits : FitsSqlite (intakeProof record actor).toJson
  requestFits : FitsSqlite (intakeRequest record actor).toJson
  unproved : w.initializations.lookup (record.word "task_id") = none
  absent : w.store.selectTaskState (record.word "task_id") = none

/-- The world with the proof of an intake. -/
def World.withProof (w : World) (record : Mapping) (actor : String) : World :=
  { w with initializations := w.initializations
      ++ [(record.word "task_id", ⟨intakeProof record actor, intakeRequest record actor⟩)] }

/-- **An intake that passes its checks** keeps its proof and writes the first event. -/
theorem IntakePasses.run_world {engine : Engine} {record : Mapping} {actor : String} {w : World}
    (h : IntakePasses engine record actor w) :
    ((intake engine record actor).run w).2 = creationWrite record actor (w.withProof record actor) := by
  have hlift : ∀ {result : Outcome Unit}, result = .ok () →
      (Prog.lift result : EngineProg Unit).run w = (.ok (), w) := by
    intro result hresult
    rw [Prog.run_lift, hresult]
  have hread : (Prog.query (readInitializationRecord (record.word "task_id"))).run w
      = (.ok none, w) := by
    rw [Prog.run_query]
    show (Except.ok ((w.initializations.lookup (record.word "task_id")).map _), w) = _
    rw [h.unproved]
    rfl
  have habsent : (Prog.query (Query.read (fun w : World =>
      require ((none : Option Mapping) ≠ none ∨ w.store.selectTaskState (record.word "task_id") = none)
        (engineError "WORKFLOW_AUDIT_CORRUPT: historical task initialization proof is missing")))
      : EngineProg Unit).run w = (.ok (), w) := by
    rw [Prog.run_query]
    exact Prod.ext (require_eq_ok.mpr (.inr h.absent)) rfl
  have hwrite : (Prog.mapError asStoreError (writeInitializationRecord (record.word "task_id")
      (intakeProof record actor) (intakeRequest record actor))).run w
      = (.ok (), w.withProof record actor) := by
    apply Prog.run_mapError_of_ok
    have htexts : (do
        let _ ← sqliteJsonText (intakeProof record actor).toJson "WORKFLOW_INVALID_INPUT"
          "idempotency_record"
        sqliteJsonText (intakeRequest record actor).toJson "WORKFLOW_INVALID_INPUT"
          "canonical_request" : Outcome SqliteText)
        = .ok (.canonical (intakeRequest record actor).toJson) :=
      bind_eq_ok.mpr ⟨_, sqliteJsonText_eq_ok.mpr ⟨h.proofFits, rfl⟩,
        sqliteJsonText_eq_ok.mpr ⟨h.requestFits, rfl⟩⟩
    rw [writeInitializationRecord, Prog.run_update]
    simp only [h.unproved, htexts]
    rfl
  unfold intake
  rw [Prog.run_bind_of_ok (hlift (by simp [requireWritable, h.writable])),
    Prog.run_bind_of_ok (hlift (by rw [h.contract]; rfl)),
    Prog.run_bind_of_ok (hlift (require_eq_ok.mpr h.project))]
  refine (congrArg Prod.snd (Prog.run_bind_of_ok (hlift h.requested))).trans ?_
  refine (congrArg Prod.snd (Prog.run_bind_of_ok hread)).trans ?_
  refine (congrArg Prod.snd (Prog.run_bind_of_ok habsent)).trans ?_
  refine (congrArg Prod.snd (Prog.run_bind_of_ok hwrite)).trans ?_
  -- whatever the commit returns, the last read leaves its world alone
  rcases Prog.run_bind_cases (commitRecords (creationEventRecord record actor _)
    (creationStateRecord record actor _)) _ (w.withProof record actor) with
    ⟨_, -, hrun⟩ | ⟨_, -, hrun⟩
  · exact congrArg Prod.snd hrun
  · exact (congrArg Prod.snd hrun).trans (by rw [Prog.run_query]; rfl)

/-! ## Section 2: The first transition -/

/-- A call that takes a task behind its creation to its classification: the reference bundle needs
no more for it than some evidence. -/
structure FirstMove (engine : Engine) (args : TransitionArgs) (w : World) (e : AuditEvent)
    (current : WorkflowTaskState) : Prop where
  bundle : engine.bundle = referenceBundle
  profile : engine.profileId = "demo"
  created : StoredChain w.store [e] e current
  taskId : args.taskId = current.taskId.val
  draft : current.currentState = .draft
  toState : args.toState = TaskState.readyForClassification.name
  riskTriggers : args.riskTriggers = []
  humanTriggers : args.humanTriggers = []
  taskAttributes : args.taskAttributes = []
  createdAtUtc : isRfc3339Utc args.createdAtUtc = true
  evaluationText : PlainText (recordId "eval" (taskToken args.taskId) 2)
  projectText : PlainText current.projectId.val
  taskText : PlainText args.taskId
  evidence : args.evidencePaths ≠ []

namespace FirstMove

variable {engine : Engine} {args : TransitionArgs} {w : World} {e : AuditEvent}
  {current : WorkflowTaskState}

omit [Platform] in
/-- What the reference bundle decides about a task behind its creation. -/
theorem decision_draft :
    authorizedTarget TaskState.readyForClassification.name current
        (decision referenceBundle ⟨.draft, [], [], .ofPairs [], some "demo"⟩)
      = .ok .readyForClassification := by
  have hopen : (decision referenceBundle ⟨.draft, [], [], .ofPairs [], some "demo"⟩).failClosed
      = false := by decide +kernel
  have hungated : (decision referenceBundle ⟨.draft, [], [], .ofPairs [], some "demo"⟩).humanGate
      = false := by decide +kernel
  have hlisted : TaskState.readyForClassification ∈ (decision referenceBundle
      ⟨.draft, [], [], .ofPairs [], some "demo"⟩).authorizedTransitions := by decide +kernel
  simp only [authorizedTarget, bind_eq_ok, require_eq_ok, expect_eq_ok, actualTarget, hopen,
    hungated, Option.filter_eq_some_iff, TaskState.ofName_eq_some_iff]
  exact ⟨(), trivial, by simp, by simpa using hlisted⟩

/-- The request for the evaluation is well formed. -/
theorem request (h : FirstMove engine args w e current) :
    ReferenceRequest (policyInput engine args current 2) false where
  evaluationId := h.evaluationText
  projectId := h.projectText
  taskId := h.taskText
  createdAtUtc := h.createdAtUtc
  profile := h.profile
  riskTriggers := h.riskTriggers
  humanTriggers := h.humanTriggers
  taskAttributes := h.taskAttributes

/-- **The first transition of a task can be prepared.** -/
theorem prepared (h : FirstMove engine args w e current) {files : List EvidenceFile}
    (hfiles : List.Forall₂ (w.Leads engine) args.evidencePaths files) :
    (prepareTransitionValidation engine args).run w
      = .ok (plannedTransition engine args current 2 .readyForClassification files) := by
  have hread := h.created.readTaskState_eq
  rw [← h.taskId] at hread
  have hrows := h.created.chain.readAuditEvents h.created.auditRows
  rw [← h.taskId] at hrows
  have hpolicy : (evaluatePolicy engine.bundle (policyInput engine args current 2)).result
      = decision referenceBundle ⟨.draft, [], [], .ofPairs [], some "demo"⟩ := by
    rw [h.bundle, evaluatePolicy_reference h.request, h.request.input_eq,
      show (policyInput engine args current 2).currentState = _ from h.draft]
    rfl
  rw [← Query.may_eq_iff, prepareTransitionValidation_may]
  refine
    { status := ⟨w, rfl, hread⟩
      gateSource := transitionGateSourceState_may.mpr ?_
      sequence := ⟨[e], may_audit.mpr ⟨current, ⟨w, rfl, hread⟩, w, rfl, ?_⟩, rfl⟩
      token := rfl
      policy := rfl
      target := ?_
      actor := ?_
      evidence := h.evidence
      validated := ⟨none, ?_, by simp⟩
      bound := evidenceBindings_iff_files.mpr ⟨files, hfiles, rfl⟩
      revalidated := ?_
      items := rfl }
  · have hrunning : current.currentState ≠ .waitingHuman := by
      rw [h.draft]
      decide
    exact (if_neg hrunning).mpr rfl
  · rw [h.created.generation_eq]
    exact hrows
  · rw [plannedTransition, hpolicy, h.toState]
    exact decision_draft
  · rw [plannedTransition, h.draft]
    rfl
  · rw [plannedTransition, h.draft, validateGateEvidence]
    exact Query.may_mapError.mpr rfl
  · show (revalidatePrepared engine current.currentState .readyForClassification _ _ current).May _ _
    rw [h.draft]
    exact Query.may_pure.mpr rfl

end FirstMove

end Calls

/-! ## Section 3: A task behind its intake -/

/-- A digest that tells transitions from everything else. -/
def demoSha (value : Json) : String :=
  if value.field "event_type" = .str "TRANSITION_ACCEPTED" then unarySha 1 else unarySha 0

theorem demoSha_of_ne {value : Json}
    (h : value.field "event_type" ≠ .str "TRANSITION_ACCEPTED") : demoSha value = unarySha 0 :=
  if_neg h

theorem isSha256_demoSha (value : Json) : isSha256 (demoSha value) = true := by
  unfold demoSha
  split
  · exact isSha256_unaryOne
  · exact isSha256_unaryZero

theorem length_demoToken : "0000000000000000".toList.length = 16 ∧
    "0000000000000000".toList.all isLowerHex = true := by decide

/-- A platform with that digest. -/
@[reducible] def demoPlatform : Platform where
  canonicalSha := demoSha
  taskToken := fun _ => "0000000000000000"
  fileSha := fun _ => unarySha 0
  casefold := id
  repr := fun _ => ""
  floatEq := fun _ _ => false

theorem demoPlatform_hex :
    letI := demoPlatform
    HexDigests := by
  let _ := demoPlatform
  exact ⟨isSha256_demoSha, fun _ => isSha256_unaryZero, fun _ => length_demoToken⟩

theorem referenceBundle_loaded : referenceBundle.Loaded :=
  ⟨isSha256_unaryZero, referenceBundle_accepted.targets⟩

/-- An engine of the reference bundle. -/
def demoEngine : Engine where
  bundle := referenceBundle
  profileId := "demo"
  projectName := "project-a"
  projectRoot := "/project-a"
  pathText := fun _ => "note.json"
  readOnly := false

theorem noteName_ne : "note.json" ≠ "" := by decide

/-- The file of the project. -/
def noteFile : EvidenceFile where
  resolved := "/project-a/note.json"
  location := ⟨.project, "note.json", noteName_ne⟩
  content := .canonicalLine ⟨[], Mapping.sorted_nil⟩

/-- A project with one file, which every path but a relative one leads to. -/
def noteFiles : Files where
  entry := fun path => match path with
    | .sibling _ _ => ⟨false, false, .missing⟩
    | _ => ⟨false, false, .file noteFile.resolved (some noteFile.location) noteFile.content⟩
  located := by
    intro path resolved l content h
    cases path <;> simp_all
  beside := by
    intros
    rfl

/-- The world before the intake. -/
def noteWorld : World := { World.empty with files := fun _ => noteFiles }

/-- An intake with plain texts and empty lists. -/
def demoIntake : Mapping where
  entries :=
    [("acceptance_criteria", Json.strs []), ("affected_surfaces", Json.strs []),
      ("business_context", .str "none"), ("created_at_utc", .str "2026-01-01T00:00:00Z"),
      ("in_scope", Json.strs []), ("known_constraints", Json.strs []),
      ("known_risks", Json.strs []), ("out_of_scope", Json.strs []),
      ("project_id", .str "project-a"), ("requested_by", .str "owner"),
      ("requested_outcome", .str "outcome"), ("schema_version", .int 1),
      ("source_paths", Json.strs []), ("task_id", .str "task-1"), ("title", .str "title")]
  sorted := by
    show ["acceptance_criteria", "affected_surfaces", "business_context", "created_at_utc",
      "in_scope", "known_constraints", "known_risks", "out_of_scope", "project_id", "requested_by",
      "requested_outcome", "schema_version", "source_paths", "task_id", "title"].Pairwise (· < ·)
    decide +kernel

/-- The intake meets its contract. -/
theorem demoIntake_valid : validateContract .taskIntake demoIntake.toJson = .ok () := by
  have hplain : ∀ {name s : String} {c : Char},
      (isPlainField (joinPath "" name) && !isTimestampField (joinPath "" name)) = true →
      s.toList.head? = some c → c.isLower = true →
      validateField (joinPath "" name) (.str s) (.ofType .str) = [] := by
    intro name s c hfield hhead hlower
    simp only [Bool.and_eq_true, Bool.not_eq_true'] at hfield
    exact validateField_plain hfield.1 hfield.2 (plainText_of_head hhead (.inr hlower))
  have hlist : ∀ name, validateField (joinPath "" name) (Json.strs []) .strings = [] := by
    intro name
    simp [validateField, FieldSpec.strings, matchesExpectedType, PyType.accepts, validateAllowed,
      FieldTable.isTable, validateRuntimeSemantics, Json.strs, Json.asList, enumeratePaths]
  have hkeys : ∀ key ∈ demoIntake.keys, key ∈ Contract.taskIntake.rows.map Prod.fst := by
    have hall : demoIntake.keys.all (fun key =>
        (Contract.taskIntake.rows.map Prod.fst).contains key) = true := by decide +kernel
    intro key hkey
    simpa using List.all_eq_true.mp hall key hkey
  have hinstant : isPlainField (joinPath "" "created_at_utc") = true := by decide +kernel
  refine validateContract_eq_ok_iff.mpr ⟨demoIntake, rfl, rfl, ?_, rfl⟩
  rw [Contract.table]
  apply validateFields_eq_nil hkeys
  simp only [Contract.rows, List.forall_mem_cons, List.not_mem_nil, false_implies, implies_true,
    and_true]
  exact ⟨⟨rfl, rfl⟩, ⟨rfl, hplain (by decide +kernel) rfl (by decide)⟩,
    ⟨rfl, hplain (by decide +kernel) rfl (by decide)⟩,
    ⟨rfl, hplain (by decide +kernel) rfl (by decide)⟩,
    ⟨rfl, hplain (by decide +kernel) rfl (by decide)⟩,
    ⟨rfl, hplain (by decide +kernel) rfl (by decide)⟩,
    ⟨rfl, hlist _⟩, ⟨rfl, hlist _⟩, ⟨rfl, hlist _⟩, ⟨rfl, hlist _⟩, ⟨rfl, hlist _⟩,
    ⟨rfl, hlist _⟩, ⟨rfl, hlist _⟩, ⟨rfl, hplain (by decide +kernel) rfl (by decide)⟩,
    rfl, validateField_timestamp hinstant (by decide)⟩

theorem isSafeId_demoEvent : isSafeId "evt-0000000000000000-0001" = true := by decide +kernel

theorem isSafeId_demoProject : isSafeId "project-a" = true := by decide

theorem isUtc_demoCreation : isUtc "2026-01-01T00:00:00Z" = true := by decide

/-- The first event of the task. -/
def demoCreation : AuditEvent :=
  creationEvent ⟨"project-a", isSafeId_demoProject⟩ ⟨"task-1", isSafeId_task⟩
    ⟨"evt-0000000000000000-0001", isSafeId_demoEvent⟩ .controller
    ⟨"2026-01-01T00:00:00Z", isUtc_demoCreation⟩

theorem commitPair_demoCreation :
    letI := demoPlatform
    CommitPair demoCreation (stateOfCreation demoCreation) := by
  let _ := demoPlatform
  apply commitPair_creation
  apply demoSha_of_ne
  decide +kernel

theorem demoIntake_passes :
    letI := demoPlatform
    IntakePasses demoEngine demoIntake "CONTROLLER" noteWorld := by
  let _ := demoPlatform
  refine
    { writable := rfl
      contract := demoIntake_valid
      project := rfl
      requested := ?_
      proofFits := ?_
      requestFits := ?_
      unproved := rfl
      absent := rfl }
  · let r : InitializationRequest :=
      { initializationId := ⟨"init-0000000000000000", by decide +kernel⟩
        taskId := demoCreation.taskId
        projectId := demoCreation.projectId
        actor := .controller
        idempotencyKey := ⟨"intake-0000000000000000", by decide⟩
        taskIntakeBinding :=
          { bindingId := ⟨"intake-0000000000000000", by decide +kernel⟩
            evidenceKind := ⟨"task_intake", by decide⟩
            source := .embedded ⟨demoIntake.toJson, Mapping.toJson_ne_null _⟩
            contentSha256 := ⟨demoSha demoIntake.toJson, isSha256_demoSha _⟩
            sizeBytes := demoIntake.toJson.dumps.length
            createdAtUtc := some demoCreation.createdAtUtc }
        createdAtUtc := demoCreation.createdAtUtc }
    apply requestOutcome_eq_ok.mpr
    exact ⟨r, validateTaskInitializationRequest_eq_ok_iff.mpr ⟨rfl, rfl, rfl⟩⟩
  · apply FitsSqlite.of_quickWidth
    · decide +kernel
    · decide +kernel
  · apply FitsSqlite.of_quickWidth
    · decide +kernel
    · decide +kernel

/-- The world behind the intake. -/
def demoWorld : World :=
  letI := demoPlatform
  { noteWorld.withProof demoIntake "CONTROLLER" with
    store := ControlStore.empty.write demoCreation (stateOfCreation demoCreation) }

theorem demoWorld_eq :
    letI := demoPlatform
    ((intake demoEngine demoIntake "CONTROLLER").run noteWorld).2 = demoWorld := by
  let _ := demoPlatform
  have hhash : creationEventHash demoIntake "CONTROLLER" demoCreation.eventId.val = unarySha 0 := by
    rw [creationEventHash]
    apply demoSha_of_ne
    decide +kernel
  have hevent : creationEventRecord demoIntake "CONTROLLER" demoCreation.eventId.val
      = demoCreation.toMapping := by
    rw [creationEventRecord, hhash]
    rfl
  have hstate : creationStateRecord demoIntake "CONTROLLER" demoCreation.eventId.val
      = (stateOfCreation demoCreation).toMapping := by
    simp only [creationStateRecord, hhash]
    rfl
  have hstore : (commitTaskStateAndAudit noteWorld.store demoCreation.toJson
      (stateOfCreation demoCreation).toJson noteWorld.exportFault).2
      = ControlStore.empty.write demoCreation (stateOfCreation demoCreation) := by
    refine (CommitCall.run_store ⟨_, _, _⟩ _).trans ?_
    exact congrArg Prod.snd (commitRows_creation commitPair_demoCreation rfl)
  rw [demoIntake_passes.run_world]
  show commitWrite (creationEventRecord demoIntake "CONTROLLER" demoCreation.eventId.val)
    (creationStateRecord demoIntake "CONTROLLER" demoCreation.eventId.val) _ = _
  rw [hevent, hstate, demoWorld, ← hstore]
  rfl

/-- **A run reaches the world behind the intake.** -/
theorem demoWorld_reachable :
    letI := demoPlatform
    demoWorld.Reachable (fun _ => True) := by
  let _ := demoPlatform
  have hfiles : Reaches (fun c : { c : Call // True } => c.val.program) World.AddsFiles
      (fun _ _ _ => True) World.empty ⟨noteWorld, []⟩ := by
    apply Reaches.init.env
    exact ⟨rfl, rfl, rfl, fun _ _ _ _ _ h => by cases h⟩
  obtain ⟨running, hreach⟩ := hfiles.call ⟨.intake demoEngine demoIntake "CONTROLLER", trivial⟩
  rw [← demoWorld_eq]
  exact ⟨running, hreach⟩

/-! ## Section 4: The transition behind the intake -/

/-- A call that takes the task to its classification. -/
def demoArgs (createdAtUtc : String) : TransitionArgs where
  taskId := "task-1"
  toState := TaskState.readyForClassification.name
  actor := "CONTROLLER"
  evidencePaths := [.given "note.json"]
  createdAtUtc := createdAtUtc
  riskTriggers := []
  humanTriggers := []
  taskAttributes := []
  decisionResolution := none

theorem demoWorld_leads (createdAtUtc : String) :
    List.Forall₂ (demoWorld.Leads demoEngine) (demoArgs createdAtUtc).evidencePaths [noteFile] :=
  .cons ⟨rfl, rfl⟩ .nil

theorem storedChain_demoWorld :
    letI := demoPlatform
    StoredChain demoWorld.store [demoCreation] demoCreation (stateOfCreation demoCreation) := by
  let _ := demoPlatform
  exact StoredChain.creation commitPair_demoCreation rfl

theorem demoArgs_firstMove {createdAtUtc : String} (hutc : isRfc3339Utc createdAtUtc = true) :
    letI := demoPlatform
    FirstMove demoEngine (demoArgs createdAtUtc) demoWorld demoCreation
      (stateOfCreation demoCreation) := by
  let _ := demoPlatform
  have htask : PlainText "task-1" := plainText_of_head (c := 't') rfl (by decide)
  have heval : PlainText (recordId "eval" "0000000000000000" 2) :=
    plainText_of_head (c := 'e') (by decide +kernel) (by decide)
  exact
    { bundle := rfl
      profile := rfl
      created := storedChain_demoWorld
      taskId := rfl
      draft := rfl
      toState := rfl
      riskTriggers := rfl
      humanTriggers := rfl
      taskAttributes := rfl
      createdAtUtc := hutc
      evaluationText := heval
      projectText := plainText_of_head (c := 'p') rfl (by decide)
      taskText := htask
      evidence := by simp [demoArgs] }

/-- The transition of a timestamp in whole seconds. -/
def demoArgs₁ : TransitionArgs := demoArgs "2026-01-01T00:00:01Z"

theorem demoArgs₁_firstMove :
    letI := demoPlatform
    FirstMove demoEngine demoArgs₁ demoWorld demoCreation (stateOfCreation demoCreation) :=
  demoArgs_firstMove (by decide)

/-- What the policy says about it. -/
def demoPolicy : PolicyEvaluation where
  evaluationId := recordId "eval" "0000000000000000" 2
  projectId := "project-a"
  taskId := "task-1"
  policyBundleDigest := some (unarySha 0)
  result := decision referenceBundle ⟨.draft, [], [], .ofPairs [], some "demo"⟩
  createdAtUtc := "2026-01-01T00:00:01Z"

/-- The prepared transition. -/
def demoTransition : PreparedTransition :=
  letI := demoPlatform
  { plannedTransition demoEngine demoArgs₁ (stateOfCreation demoCreation) 2 .readyForClassification
      [noteFile] with policy := demoPolicy }

theorem demoTransition_prepared :
    letI := demoPlatform
    (prepareTransitionValidation demoEngine demoArgs₁).run demoWorld = .ok demoTransition := by
  let _ := demoPlatform
  have hpolicy : evaluatePolicy demoEngine.bundle
      (policyInput demoEngine demoArgs₁ (stateOfCreation demoCreation) 2) = demoPolicy := by
    rw [show demoEngine.bundle = referenceBundle from rfl,
      evaluatePolicy_reference demoArgs₁_firstMove.request]
    rfl
  rw [demoArgs₁_firstMove.prepared (demoWorld_leads _), demoTransition, ← hpolicy]
  rfl

theorem demoTransition_committable :
    letI := demoPlatform
    Committable demoArgs₁ demoTransition none := by
  let _ := demoPlatform
  refine ⟨⟨⟨.controller, rfl⟩, isUtc_secondEvent, ?_, by simp⟩, by decide, ?_⟩
  · intro b hb
    obtain rfl := List.mem_singleton.mp hb
    exact ⟨by decide +kernel, by decide +kernel⟩
  · apply FitsSqlite.of_quickWidth
    · decide +kernel
    · decide +kernel

/-- The call passes its checks. -/
theorem demoTransition_passes :
    letI := demoPlatform
    AdvancePasses demoEngine demoArgs₁ demoWorld demoTransition none demoWorld.decisions
      demoWorld.decisions := by
  let _ := demoPlatform
  exact passes_of_committable demoPlatform_hex referenceBundle_loaded rfl demoTransition_prepared
    (by decide) (by decide) rfl demoTransition_committable

theorem demoTransition_formed :
    letI := demoPlatform
    RecordsFormed demoArgs₁ demoTransition none := by
  let _ := demoPlatform
  exact demoPlatform_hex.recordsFormed demoTransition_passes.preparation.preparedFor none

/-- **The call moves the task.** -/
theorem demoWorld_moves :
    letI := demoPlatform
    demoWorld.Moves ((advance demoEngine demoArgs₁).run demoWorld).2 "task-1" .draft
      .readyForClassification := by
  let _ := demoPlatform
  exact demoTransition_passes.moves referenceBundle_loaded (demoWorld_reachable.taskBound _)
    demoTransition_formed demoTransition_committable

end Acgps
