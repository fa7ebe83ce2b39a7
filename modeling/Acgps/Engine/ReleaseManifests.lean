import Acgps.Engine.GateEvidence
import Mathlib.Algebra.Order.BigOperators.Group.List

/-!
# Release candidate manifests

The review adapter hashes the artifacts of a release candidate, reads its records, and writes a
manifest into the directory that holds them. The verifier reads the manifest back and checks every
file again.

## Main Definitions

* `ReleaseTree` - the files under an output directory, and where paths lead
* `buildReleaseCandidateManifest`, `verifyReleaseCandidateManifest` - the builder and the verifier
* `ManifestApart` - nothing that is hashed or read back lies where the manifest goes
* `RoundTrip` - what the verifier and the hashes should say afterwards

## Key Theorems

* `regularFile_replaced` - **the write changes one file only**
* `checkedManifest_eq_ok` - what a manifest that was built rests on
* `release_manifest_round_trip` - **the round trip holds iff the manifest replaces no evidence**
-/

namespace Acgps

open Checked

/-! ## Section 1: The output directory -/

/-- What lies at a location. -/
inductive Node where
  | missing
  | directory
  | file (content : FileContent)

/-- The files under an output directory. `probe` follows a path to the location it leads to,
`relativeTo` names a location under the directory, and `linkFree` says that no component of the
path of the manifest is a link. The path of a location under the directory leads to it. -/
structure ReleaseTree where
  outputDir : String
  probe : String → Option String
  isSymlink : String → Bool
  relativeTo : String → Option String
  node : String → Node
  manifestLocation : String
  linkFree : Bool
  resolved_join : ∀ location rel, relativeTo location = some rel → node location ≠ .missing →
    probe (outputDir ++ "/" ++ rel) = some location ∧
      isSymlink (outputDir ++ "/" ++ rel) = false
  manifest_join : linkFree = true →
    probe (outputDir ++ "/" ++ "release-candidate.json") = some manifestLocation ∧
      isSymlink (outputDir ++ "/" ++ "release-candidate.json") = false
  manifest_relative : relativeTo manifestLocation = some "release-candidate.json"

namespace ReleaseTree

/-- `root / rel`. -/
def join (tree : ReleaseTree) (rel : String) : String := tree.outputDir ++ "/" ++ rel

/-- `_relative_regular_file`, with the location and the bytes of the file. -/
def regularFile (tree : ReleaseTree) (path : String) : Outcome (String × String × FileContent) :=
  let irregular := reviewError
    [.text "evidence file must be a regular file under output_dir: ", .text path]
  let missing := reviewError [.text "required evidence file is missing: ", .text path]
  match tree.probe path with
  | none => .error missing
  | some location =>
      match tree.node location with
      | .missing => .error missing
      | .directory => .error irregular
      | .file content => do
          require (tree.isSymlink path = false) irregular
          let rel ← expect (tree.relativeTo location) irregular
          return (rel, location, content)

/-- `_read_mapping`, which follows links and leaves the directory. -/
def readMapping (tree : ReleaseTree) (path : String) : Outcome Mapping :=
  match (tree.probe path).map tree.node with
  | some (.file content) => loadReviewMapping content path
  | _ => .error (reviewError [.text "evidence is unreadable: ", .text path])

/-- The manifest takes the place of whatever file there was. -/
def replaced (tree : ReleaseTree) (content : FileContent) (h : tree.linkFree = true) :
    ReleaseTree where
  outputDir := tree.outputDir
  probe := tree.probe
  isSymlink := tree.isSymlink
  relativeTo := tree.relativeTo
  node := fun location => if location = tree.manifestLocation then .file content
    else tree.node location
  manifestLocation := tree.manifestLocation
  linkFree := tree.linkFree
  resolved_join := by
    intro location rel hrel hnode
    by_cases hmanifest : location = tree.manifestLocation
    · subst hmanifest
      obtain rfl := Option.some.inj (tree.manifest_relative.symm.trans hrel)
      exact tree.manifest_join h
    · rw [if_neg hmanifest] at hnode
      exact tree.resolved_join location rel hrel hnode
  manifest_join := tree.manifest_join
  manifest_relative := tree.manifest_relative

end ReleaseTree

/-! ## Section 2: The builder -/

/-- The arguments of `build_release_candidate_manifest` beside its output directory. -/
structure ReleaseRequest where
  projectId : String
  rcId : String
  version : String
  sourcePath : String
  verificationPaths : List String
  reviewPaths : List String
  rollbackPath : String
  createdAtUtc : String
  buildArtifactPaths : List String

/-- An artifact of a manifest. -/
structure ReleaseArtifact where
  path : String
  sha256 : String

/-- The artifact as a mapping. -/
def ReleaseArtifact.toMapping (artifact : ReleaseArtifact) : Mapping where
  entries := [("path", .str artifact.path), ("sha256", .str artifact.sha256)]
  sorted := by
    show ["path", "sha256"].Pairwise (· < ·)
    decide +kernel

/-- The artifact as a value. -/
def ReleaseArtifact.toJson (artifact : ReleaseArtifact) : Json := artifact.toMapping.toJson

@[simp] theorem ReleaseArtifact.toJson_path (artifact : ReleaseArtifact) :
    artifact.toJson.word "path" = artifact.path := by
  rw [Json.word, toJson, Json.field_toJson]
  rfl

@[simp] theorem ReleaseArtifact.toJson_sha256 (artifact : ReleaseArtifact) :
    artifact.toJson.field "sha256" = .str artifact.sha256 := by
  rw [toJson, Json.field_toJson]
  rfl

/-- The manifest of a release candidate. -/
def releaseManifest (request : ReleaseRequest) (source : ReleaseArtifact)
    (builds : List ReleaseArtifact) (verifications reviews : List String) (rollback : String) :
    Mapping where
  entries :=
    [("build_artifacts", .arr (builds.map ReleaseArtifact.toJson)),
      ("created_at_utc", .str request.createdAtUtc), ("human_release_authorization", .null),
      ("known_limitations", .arr []), ("project_id", .str request.projectId),
      ("rc_id", .str request.rcId), ("residual_risks", .arr []),
      ("review_closures", Json.strs reviews), ("rollback_plan_path", .str rollback),
      ("schema_version", .int 1), ("source_artifact", source.toJson), ("status", .str "RC_READY"),
      ("verification_records", Json.strs verifications), ("version", .str request.version)]
  sorted := by
    show ["build_artifacts", "created_at_utc", "human_release_authorization", "known_limitations",
      "project_id", "rc_id", "residual_risks", "review_closures", "rollback_plan_path",
      "schema_version", "source_artifact", "status", "verification_records",
      "version"].Pairwise (· < ·)
    decide +kernel

section Adapter

variable [Platform]

/-- One turn of the loop over the build artifacts. -/
def addBuildArtifact (tree : ReleaseTree) (sourceRel : String) (found : List ReleaseArtifact)
    (path : String) : Outcome (List ReleaseArtifact) := do
  let (rel, _, content) ← tree.regularFile path
  require (rel ∉ found.map ReleaseArtifact.path ∧ rel ≠ sourceRel)
    (reviewError "release candidate artifact paths must be unique")
  return found ++ [⟨rel, fileSha content⟩]

/-- A verification record of the project that recommends the release. -/
def checkReleaseVerification (record : Mapping) (name projectId : String)
    (recommends belongs : Text) : Outcome Unit := do
  validateReviewRecord .verificationRecord record name
  require (record.get "recommendation" = .str "VERIFIED") (reviewError recommends)
  require (record.get "project_id" = .str projectId) (reviewError belongs)

/-- One turn of the loop over the verification records. -/
def readReleaseVerification (tree : ReleaseTree) (projectId path : String) : Outcome String := do
  let (rel, location, content) ← tree.regularFile path
  let record ← loadReviewMapping content location
  checkReleaseVerification record location projectId
    "release candidate requires VERIFIED evidence"
    "verification evidence project_id does not match the release candidate"
  return rel

/-- One turn of the loop of `validate_review_findings`. -/
def readReleaseFinding (tree : ReleaseTree) (path : String) : Outcome Mapping := do
  let record ← tree.readMapping path
  validateReviewRecord .reviewFinding record path
  require (isOpenBlocking record = false)
    (reviewError [.text "blocking review finding remains open: ",
      .text (record.word "finding_id")])
  return record

/-- `validate_review_findings`. -/
def readReleaseFindings (tree : ReleaseTree) (paths : List String) : Outcome (List Mapping) := do
  let records ← paths.mapM (readReleaseFinding tree)
  require (records ≠ []) (reviewError "at least one review finding is required")
  return records

/-- `build_release_candidate_manifest` up to its write. -/
def checkedManifest (tree : ReleaseTree) (request : ReleaseRequest) : Outcome Mapping := do
  let (sourceRel, _, source) ← tree.regularFile request.sourcePath
  let builds ← request.buildArtifactPaths.foldlM (addBuildArtifact tree sourceRel) []
  let verifications ←
    request.verificationPaths.mapM (readReleaseVerification tree request.projectId)
  let _ ← readReleaseFindings tree request.reviewPaths
  let reviews ← request.reviewPaths.mapM tree.regularFile
  let (rollback, _, _) ← tree.regularFile request.rollbackPath
  let manifest := releaseManifest request ⟨sourceRel, fileSha source⟩ builds verifications
    (reviews.map Prod.fst) rollback
  validateReviewRecord .releaseCandidateManifest manifest (tree.join "release-candidate.json")
  return manifest

/-- `write_state_atomic(manifest_path, manifest)`. -/
def writeManifest (tree : ReleaseTree) (manifest : Mapping) : Outcome ReleaseTree :=
  if h : tree.linkFree = true then
    match tree.node tree.manifestLocation with
    | .directory => .error (.interpreter "IsADirectoryError" "Is a directory")
    | .missing | .file _ => .ok (tree.replaced (.canonicalLine manifest) h)
  else .error (storeError "WORKFLOW_INVALID_INPUT" "path" "path contains a symlink component")

/-- `build_release_candidate_manifest`, with the files afterwards. The path that it returns is that
of `release-candidate.json`. -/
def buildReleaseCandidateManifest (tree : ReleaseTree) (request : ReleaseRequest) :
    Outcome ReleaseTree := do
  let manifest ← checkedManifest tree request
  writeManifest tree manifest

/-! ## Section 3: The verifier -/

/-- An artifact has the digest that the manifest states. -/
def checkArtifact (tree : ReleaseTree) (artifact : Json) : Outcome Unit := do
  let (_, _, content) ← tree.regularFile (tree.join (artifact.word "path"))
  require (.str (fileSha content) = artifact.field "sha256")
    (reviewError [.text "artifact hash mismatch: ", .text (artifact.word "path")])

/-- A verification record that a manifest names. -/
def checkManifestVerification (tree : ReleaseTree) (projectId : String)
    (expectedTaskId : Option String) (rel : String) : Outcome Unit := do
  let (_, location, content) ← tree.regularFile (tree.join rel)
  let record ← loadReviewMapping content location
  checkReleaseVerification record location projectId
    "verification evidence no longer recommends VERIFIED"
    "verification evidence project_id does not match the manifest"
  require (∀ taskId ∈ expectedTaskId, record.get "task_id" = .str taskId)
    (reviewError "verification evidence task_id does not match the current task")

/-- What the verifier expects of a manifest, by the keyword arguments of the call. -/
structure ReleaseExpectation where
  projectId : Option String
  taskId : Option String
  buildArtifacts : Bool

/-- The fields of a manifest that are checked before any file is looked at. -/
def checkManifestFields (manifest : Mapping) (name : String) (expected : ReleaseExpectation) :
    Outcome Unit := do
  validateReviewRecord .releaseCandidateManifest manifest name
  require (manifest.get "status" = .str "RC_READY")
    (reviewError "release candidate manifest status must be RC_READY")
  require (manifest.get "human_release_authorization" = .null)
    (reviewError "RC_READY must not claim human release authorization")
  require (∀ projectId ∈ expected.projectId, manifest.get "project_id" = .str projectId)
    (reviewError "release candidate project_id does not match the current project")
  require ((manifest.get "verification_records").isFalsy = false ∧
      (manifest.get "review_closures").isFalsy = false)
    (reviewError "RC_READY requires verification and independent review evidence")
  require (expected.buildArtifacts = false ∨ (manifest.get "build_artifacts").isFalsy = false)
    (reviewError "release candidate requires at least one build artifact")

/-- `verify_release_candidate_manifest` on a manifest of the directory. -/
def verifyReleaseCandidateManifest (tree : ReleaseTree) (name : String)
    (expected : ReleaseExpectation) : Outcome Bool := do
  let manifest ← tree.readMapping (tree.join name)
  checkManifestFields manifest (tree.join name) expected
  forM (manifestArtifacts manifest) (checkArtifact tree)
  forM (manifest.get "verification_records").strings
    (checkManifestVerification tree (manifest.word "project_id") expected.taskId)
  let _ ← readReleaseFindings tree ((manifest.get "review_closures").strings.map tree.join)
  let _ ← tree.regularFile (tree.join (manifest.word "rollback_plan_path"))
  return true

/-! ## Section 4: Files before and after the write -/

namespace ReleaseTree

omit [Platform] in
/-- A regular file under the directory, with its relative path. -/
structure Holds (tree : ReleaseTree) (location rel : String) (content : FileContent) : Prop where
  file : tree.node location = .file content
  relative : tree.relativeTo location = some rel

omit [Platform] in
theorem regularFile_eq_ok_iff {tree : ReleaseTree} {path rel location : String}
    {content : FileContent} :
    tree.regularFile path = .ok (rel, location, content) ↔
      tree.probe path = some location ∧ tree.isSymlink path = false ∧
        tree.Holds location rel content := by
  have hholds : tree.Holds location rel content ↔
      tree.node location = .file content ∧ tree.relativeTo location = some rel :=
    ⟨fun h => ⟨h.file, h.relative⟩, fun h => ⟨h.1, h.2⟩⟩
  rw [hholds]
  unfold regularFile
  cases hprobe : tree.probe path with
  | none => exact iff_of_false nofun nofun
  | some found =>
      dsimp only
      cases hnode : tree.node found with
      | missing =>
          refine iff_of_false nofun ?_
          rintro ⟨hfound, -, hfile, -⟩
          cases hfound
          exact absurd (hnode.symm.trans hfile) nofun
      | directory =>
          refine iff_of_false nofun ?_
          rintro ⟨hfound, -, hfile, -⟩
          cases hfound
          exact absurd (hnode.symm.trans hfile) nofun
      | file bytes =>
          simp only [bind_eq_ok, require_eq_ok, exists_const, expect_eq_ok, pure_eq_ok,
            Prod.mk.injEq, Option.some.injEq]
          constructor
          · rintro ⟨hlink, found', hrel, rfl, rfl, rfl⟩
            exact ⟨rfl, hlink, hnode, hrel⟩
          · rintro ⟨rfl, hlink, hfile, hrel⟩
            rw [hnode] at hfile
            cases hfile
            exact ⟨hlink, rel, hrel, rfl, rfl, rfl⟩

omit [Platform] in
/-- The path of a file under the directory leads to it. -/
theorem Holds.regularFile_join {tree : ReleaseTree} {location rel : String}
    {content : FileContent} (h : tree.Holds location rel content) :
    tree.regularFile (tree.join rel) = .ok (rel, location, content) := by
  have hnode : tree.node location ≠ .missing := by
    rw [h.file]
    exact nofun
  obtain ⟨hprobe, hlink⟩ := tree.resolved_join location rel h.relative hnode
  exact regularFile_eq_ok_iff.mpr ⟨hprobe, hlink, h⟩

omit [Platform] in
/-- What is read at the path of a file is its bytes. -/
theorem Holds.readMapping_join {tree : ReleaseTree} {location rel : String}
    {content : FileContent} (h : tree.Holds location rel content) :
    tree.readMapping (tree.join rel) = loadReviewMapping content (tree.join rel) := by
  obtain ⟨hprobe, -, -⟩ := regularFile_eq_ok_iff.mp h.regularFile_join
  rw [readMapping, hprobe, Option.map_some, h.file]

section Replaced

variable {tree : ReleaseTree} {written : FileContent} {hfree : tree.linkFree = true}

omit [Platform] in
/-- Other files stay as they are. -/
theorem Holds.replaced {location rel : String} {content : FileContent}
    (h : tree.Holds location rel content) (hne : location ≠ tree.manifestLocation) :
    (tree.replaced written hfree).Holds location rel content :=
  ⟨by simpa only [ReleaseTree.replaced, if_neg hne] using h.file, h.relative⟩

omit [Platform] in
/-- The manifest is where it was written. -/
theorem holds_manifest :
    (tree.replaced written hfree).Holds tree.manifestLocation "release-candidate.json" written :=
  ⟨by simp only [ReleaseTree.replaced, if_true], tree.manifest_relative⟩

omit [Platform] in
/-- A file that was there is there, with its bytes or with those of the manifest. -/
theorem Holds.exists_replaced {location rel : String} {content : FileContent}
    (h : tree.Holds location rel content) :
    ∃ content', (tree.replaced written hfree).Holds location rel content' := by
  by_cases hmanifest : location = tree.manifestLocation
  · subst hmanifest
    obtain rfl := Option.some.inj (tree.manifest_relative.symm.trans h.relative)
    exact ⟨written, holds_manifest⟩
  · exact ⟨content, h.replaced hmanifest⟩

end Replaced

end ReleaseTree

/-! ## Section 5: What a manifest rests on -/

omit [Platform] in
theorem validateReviewRecord_eq_ok {contract : Contract} {record : Mapping} {name : String}
    {u : Unit} : validateReviewRecord contract record name = .ok u ↔
      validateContract contract record.toJson = .ok u := by
  simp [validateReviewRecord]

/-- An artifact was hashed where a path leads. -/
def Hashed (tree : ReleaseTree) (path : String) (artifact : ReleaseArtifact) : Prop :=
  ∃ location content, tree.regularFile path = .ok (artifact.path, location, content) ∧
    artifact.sha256 = fileSha content

/-- The loop over the build artifacts hashes one after another. -/
theorem addBuildArtifact_foldlM {tree : ReleaseTree} {sourceRel : String} :
    ∀ {paths : List String} {found builds : List ReleaseArtifact},
      paths.foldlM (addBuildArtifact tree sourceRel) found = .ok builds →
      ∃ more, builds = found ++ more ∧ List.Forall₂ (Hashed tree) paths more := by
  intro paths
  induction paths with
  | nil =>
      intro found builds h
      rw [List.foldlM_nil, pure_eq_ok] at h
      exact ⟨[], by rw [h, List.append_nil], .nil⟩
  | cons path paths ih =>
      intro found builds h
      rw [List.foldlM_cons, bind_eq_ok] at h
      obtain ⟨next, hnext, hrest⟩ := h
      simp only [addBuildArtifact, bind_eq_ok, require_eq_ok, exists_const, pure_eq_ok,
        Prod.exists] at hnext
      obtain ⟨rel, location, content, hfile, _, rfl⟩ := hnext
      obtain ⟨more, rfl, hmore⟩ := ih hrest
      exact ⟨⟨rel, fileSha content⟩ :: more, by rw [List.append_assoc, List.singleton_append],
        .cons ⟨location, content, hfile, rfl⟩ hmore⟩

/-- The parts of a manifest, each with the check that it comes from. -/
structure ManifestParts (tree : ReleaseTree) (request : ReleaseRequest) where
  source : ReleaseArtifact
  builds : List ReleaseArtifact
  verifications : List String
  findings : List Mapping
  reviews : List (String × String × FileContent)
  rollback : String × String × FileContent
  sourceHashed : Hashed tree request.sourcePath source
  buildsHashed : List.Forall₂ (Hashed tree) request.buildArtifactPaths builds
  verified : List.Forall₂
    (fun path rel => readReleaseVerification tree request.projectId path = .ok rel)
    request.verificationPaths verifications
  reviewed : readReleaseFindings tree request.reviewPaths = .ok findings
  reviewFiles : List.Forall₂ (fun path file => tree.regularFile path = .ok file)
    request.reviewPaths reviews
  rollbackFile : tree.regularFile request.rollbackPath = .ok rollback
  accepted : validateContract .releaseCandidateManifest (releaseManifest request source builds
    verifications (reviews.map Prod.fst) rollback.1).toJson = .ok ()

/-- The manifest of its parts. -/
def ManifestParts.manifest {tree : ReleaseTree} {request : ReleaseRequest}
    (parts : ManifestParts tree request) : Mapping :=
  releaseManifest request parts.source parts.builds parts.verifications
    (parts.reviews.map Prod.fst) parts.rollback.1

/-- **What a manifest that was built rests on.** -/
theorem checkedManifest_eq_ok {tree : ReleaseTree} {request : ReleaseRequest} {manifest : Mapping}
    (h : checkedManifest tree request = .ok manifest) :
    ∃ parts : ManifestParts tree request, manifest = parts.manifest := by
  simp only [checkedManifest, bind_eq_ok, Prod.exists, mapM_eq_ok_iff, pure_eq_ok,
    validateReviewRecord_eq_ok] at h
  obtain ⟨sourceRel, location, source, hsource, builds, hbuilds, verifications, hverified,
    findings, hreviewed, reviews, hreviewFiles, rollback, rollbackLocation, rollbackContent,
    hrollback, _, haccepted, rfl⟩ := h
  obtain ⟨more, hbuildsEq, hhashed⟩ := addBuildArtifact_foldlM hbuilds
  rw [List.nil_append] at hbuildsEq
  subst hbuildsEq
  exact ⟨⟨⟨sourceRel, fileSha source⟩, builds, verifications, findings, reviews,
    (rollback, rollbackLocation, rollbackContent), ⟨location, source, hsource, rfl⟩, hhashed,
    hverified, hreviewed, hreviewFiles, hrollback, haccepted⟩, rfl⟩

/-- A manifest that was built, and the files afterwards. -/
theorem buildReleaseCandidateManifest_eq_ok {tree tree' : ReleaseTree} {request : ReleaseRequest}
    (h : buildReleaseCandidateManifest tree request = .ok tree') :
    ∃ (parts : ManifestParts tree request) (hfree : tree.linkFree = true),
      tree' = tree.replaced (.canonicalLine parts.manifest) hfree := by
  simp only [buildReleaseCandidateManifest, bind_eq_ok] at h
  obtain ⟨manifest, hmanifest, hwrite⟩ := h
  obtain ⟨parts, rfl⟩ := checkedManifest_eq_ok hmanifest
  unfold writeManifest at hwrite
  split at hwrite
  next hfree =>
    refine ⟨parts, hfree, ?_⟩
    split at hwrite
    · cases hwrite
    · exact (Except.ok.inj hwrite).symm
    · exact (Except.ok.inj hwrite).symm
  next => cases hwrite

/-! ## Section 6: The round trip -/

section Fields

variable {tree : ReleaseTree} {request : ReleaseRequest}

theorem ManifestParts.manifest_status (parts : ManifestParts tree request) :
    parts.manifest.get "status" = .str "RC_READY" := rfl

theorem ManifestParts.get_verifications (parts : ManifestParts tree request) :
    parts.manifest.get "verification_records" = Json.strs parts.verifications := rfl

theorem ManifestParts.get_reviews (parts : ManifestParts tree request) :
    parts.manifest.get "review_closures" = Json.strs (parts.reviews.map Prod.fst) := rfl

end Fields

/-- The entries of the manifest that the verifier goes through. -/
theorem ManifestParts.get_eq {tree : ReleaseTree} {request : ReleaseRequest}
    (parts : ManifestParts tree request) :
    manifestArtifacts parts.manifest
        = parts.source.toJson :: parts.builds.map ReleaseArtifact.toJson ∧
      (parts.manifest.get "verification_records").strings = parts.verifications ∧
      (parts.manifest.get "review_closures").strings = parts.reviews.map Prod.fst ∧
      parts.manifest.word "rollback_plan_path" = parts.rollback.1 ∧
      parts.manifest.word "project_id" = request.projectId := by
  have hstrings : ∀ words : List String, (Json.strs words).strings = words := by
    intro words
    induction words with
    | nil => rfl
    | cons word words ih => exact congrArg (List.cons word) ih
  exact ⟨rfl, hstrings _, hstrings _, rfl, rfl⟩

/-- No manifest states the digest of its own text. -/
def NoSelfDigest : Prop :=
  ∀ manifest : Mapping, ∀ artifact ∈ manifestArtifacts manifest,
    artifact.field "sha256" ≠ .str (fileSha (.canonicalLine manifest))

/-- Neither an artifact nor a record of the request lies where the manifest goes. -/
def ManifestApart (tree : ReleaseTree) (request : ReleaseRequest) : Prop :=
  ∀ path ∈ request.sourcePath :: (request.buildArtifactPaths ++ request.verificationPaths
    ++ request.reviewPaths), tree.probe path ≠ some tree.manifestLocation

/-- The verifier accepts the manifest, and each artifact hash is that of the file at its path. -/
structure RoundTrip (tree : ReleaseTree) (request : ReleaseRequest) : Prop where
  verified : verifyReleaseCandidateManifest tree "release-candidate.json"
    ⟨some request.projectId, none, false⟩ = .ok true
  hashes : ∀ manifest, tree.readMapping (tree.join "release-candidate.json") = .ok manifest →
    ∀ artifact ∈ manifestArtifacts manifest, ∃ rel location content,
      tree.regularFile (tree.join (artifact.word "path")) = .ok (rel, location, content) ∧
        artifact.field "sha256" = .str (fileSha content)

omit [Platform] in
/-- The manifest is read back. -/
theorem readMapping_manifest {tree : ReleaseTree} {hfree : tree.linkFree = true}
    (manifest : Mapping) :
    (tree.replaced (.canonicalLine manifest) hfree).readMapping
      ((tree.replaced (.canonicalLine manifest) hfree).join "release-candidate.json")
        = .ok manifest := by
  rw [ReleaseTree.holds_manifest.readMapping_join]
  simp [loadReviewMapping, FileContent.loads, mapError, expect]

/-- An artifact that was hashed at another location still has its digest. -/
theorem Hashed.check {tree : ReleaseTree} (written : FileContent) (hfree : tree.linkFree = true)
    {path : String} {artifact : ReleaseArtifact} (h : Hashed tree path artifact)
    (hapart : tree.probe path ≠ some tree.manifestLocation) :
    ∃ location content, (tree.replaced written hfree).regularFile
        ((tree.replaced written hfree).join artifact.path)
          = .ok (artifact.path, location, content) ∧ artifact.sha256 = fileSha content := by
  obtain ⟨location, content, hfile, hsha⟩ := h
  obtain ⟨hprobe, -, hholds⟩ := ReleaseTree.regularFile_eq_ok_iff.mp hfile
  have hne : location ≠ tree.manifestLocation := fun heq => hapart (heq ▸ hprobe)
  exact ⟨location, content, (hholds.replaced hne).regularFile_join, hsha⟩

omit [Platform] in
/-- A verification record at another location is accepted again. -/
theorem readReleaseVerification_check {tree : ReleaseTree} {written : FileContent}
    {hfree : tree.linkFree = true} {projectId path rel : String}
    (h : readReleaseVerification tree projectId path = .ok rel)
    (hapart : tree.probe path ≠ some tree.manifestLocation) :
    checkManifestVerification (tree.replaced written hfree) projectId none rel = .ok () := by
  simp only [readReleaseVerification, bind_eq_ok, Prod.exists, pure_eq_ok] at h
  obtain ⟨rel', location, content, hfile, record, hrecord, _, hcheck, rfl⟩ := h
  obtain ⟨hprobe, -, hholds⟩ := ReleaseTree.regularFile_eq_ok_iff.mp hfile
  have hne : location ≠ tree.manifestLocation := fun heq => hapart (heq ▸ hprobe)
  simp only [checkReleaseVerification, bind_eq_ok, require_eq_ok, exists_const,
    validateReviewRecord_eq_ok] at hcheck
  obtain ⟨hvalid, hrecommends, hproject⟩ := hcheck
  simp only [checkManifestVerification, checkReleaseVerification, bind_eq_ok, require_eq_ok,
    exists_const, validateReviewRecord_eq_ok, Prod.exists]
  exact ⟨rel', location, content, (hholds.replaced hne).regularFile_join, record, hrecord,
    ⟨hvalid, hrecommends, hproject⟩, by simp⟩

omit [Platform] in
theorem loadReviewMapping_eq_ok {content : FileContent} {name : String} {record : Mapping} :
    loadReviewMapping content name = .ok record ↔ content.loads = .ok record.toJson := by
  simp only [loadReviewMapping, bind_eq_ok, mapError_eq_ok, expect_eq_ok,
    Mapping.asMapping_eq_some]
  constructor
  · rintro ⟨_, hloads, rfl⟩
    exact hloads
  · intro hloads
    exact ⟨_, hloads, rfl⟩

omit [Platform] in
/-- What the file at a path holds is read at any path of the file. -/
theorem readMapping_eq_ok {tree : ReleaseTree} {path rel location : String}
    {content : FileContent} {record : Mapping}
    (hfile : tree.regularFile path = .ok (rel, location, content)) :
    tree.readMapping path = .ok record ↔ content.loads = .ok record.toJson := by
  obtain ⟨hprobe, -, hholds⟩ := ReleaseTree.regularFile_eq_ok_iff.mp hfile
  rw [ReleaseTree.readMapping, hprobe, Option.map_some, hholds.file]
  exact loadReviewMapping_eq_ok

omit [Platform] in
/-- A finding is accepted by what its file holds. -/
theorem readReleaseFinding_eq_ok {tree : ReleaseTree} {path rel location : String}
    {content : FileContent} {record : Mapping}
    (hfile : tree.regularFile path = .ok (rel, location, content)) :
    readReleaseFinding tree path = .ok record ↔ content.loads = .ok record.toJson ∧
      validateContract .reviewFinding record.toJson = .ok () ∧ isOpenBlocking record = false := by
  simp only [readReleaseFinding, bind_eq_ok, readMapping_eq_ok hfile, validateReviewRecord_eq_ok,
    require_eq_ok, exists_const, pure_eq_ok]
  constructor
  · rintro ⟨_, hloads, _, hvalid, hsettled, rfl⟩
    exact ⟨hloads, hvalid, hsettled⟩
  · rintro ⟨hloads, hvalid, hsettled⟩
    exact ⟨record, hloads, (), hvalid, hsettled, rfl⟩

omit [Platform] in
/-- Findings at other locations are accepted again, by induction on their paths. -/
theorem readReleaseFinding_replaced {tree : ReleaseTree} {written : FileContent}
    {hfree : tree.linkFree = true} {paths : List String}
    {files : List (String × String × FileContent)} {findings : List Mapping}
    (hfiles : List.Forall₂ (fun path file => tree.regularFile path = .ok file) paths files)
    (hfindings : List.Forall₂ (fun path record => readReleaseFinding tree path = .ok record)
      paths findings)
    (hapart : ∀ path ∈ paths, tree.probe path ≠ some tree.manifestLocation) :
    List.Forall₂
      (fun path record => readReleaseFinding (tree.replaced written hfree) path = .ok record)
      (files.map (fun file => (tree.replaced written hfree).join file.1)) findings := by
  induction hfiles generalizing findings with
  | nil =>
      cases hfindings
      exact .nil
  | @cons path file paths files hfile _ ih =>
      obtain ⟨rel, location, content⟩ := file
      obtain ⟨hhead, hrest⟩ := List.forall_mem_cons.mp hapart
      cases hfindings with
      | cons hrecord hrecords =>
          obtain ⟨hprobe, -, hholds⟩ := ReleaseTree.regularFile_eq_ok_iff.mp hfile
          have hne : location ≠ tree.manifestLocation := fun heq => hhead (heq ▸ hprobe)
          refine .cons ?_ (ih hrecords hrest)
          exact (readReleaseFinding_eq_ok (hholds.replaced hne).regularFile_join).mpr
            ((readReleaseFinding_eq_ok hfile).mp hrecord)

/-- The lists that a release needs are not empty. -/
theorem ManifestParts.lists_ne_nil {tree : ReleaseTree} {request : ReleaseRequest}
    (parts : ManifestParts tree request) :
    parts.verifications ≠ [] ∧ parts.reviews ≠ [] := by
  obtain ⟨data, hdata, -, -, hconditions⟩ := validateContract_eq_ok_iff.mp parts.accepted
  obtain rfl := Mapping.toJson_injective hdata
  have hnil : validateReleaseCandidateManifestFields parts.manifest = [] :=
    Except.ok.inj hconditions
  rw [validateReleaseCandidateManifestFields, if_neg (by simp [ManifestParts.manifest_status]),
    List.flatMap_eq_nil_iff] at hnil
  have hverifications := issueUnless_eq_nil.mp (hnil "verification_records" (by simp))
  have hreviews := issueUnless_eq_nil.mp (hnil "review_closures" (by simp))
  constructor
  · intro h
    rw [parts.get_verifications, h] at hverifications
    cases hverifications
  · intro h
    rw [parts.get_reviews, h] at hreviews
    cases hreviews

omit [Platform] in
/-- A list of words that is not empty is not falsy. -/
private theorem isFalsy_strs {words : List String} (h : words ≠ []) :
    (Json.strs words).isFalsy = false := by
  cases words with
  | nil => exact absurd rfl h
  | cons word words => rfl

/-- The fields of the manifest are those of a release candidate. -/
theorem ManifestParts.checkFields {tree : ReleaseTree} {request : ReleaseRequest}
    (parts : ManifestParts tree request) (name : String) :
    checkManifestFields parts.manifest name ⟨some request.projectId, none, false⟩ = .ok () := by
  obtain ⟨hverifications, hreviews⟩ := parts.lists_ne_nil
  have hreviews' : parts.reviews.map Prod.fst ≠ [] := fun h => hreviews (List.map_eq_nil_iff.mp h)
  simp only [checkManifestFields, bind_eq_ok, require_eq_ok, validateReviewRecord_eq_ok]
  refine ⟨(), parts.accepted, (), rfl, (), rfl, (), ?_, (), ⟨?_, ?_⟩, .inl trivial⟩
  · intro projectId hprojectId
    cases hprojectId
    rfl
  · rw [parts.get_verifications]
    exact isFalsy_strs hverifications
  · rw [parts.get_reviews]
    exact isFalsy_strs hreviews'

/-- **What the verifier checks of the manifest after the write.** -/
theorem ManifestParts.verify_iff {tree : ReleaseTree} {request : ReleaseRequest}
    (parts : ManifestParts tree request) {hfree : tree.linkFree = true} {tree' : ReleaseTree}
    (htree : tree' = tree.replaced (.canonicalLine parts.manifest) hfree) :
    verifyReleaseCandidateManifest tree' "release-candidate.json"
        ⟨some request.projectId, none, false⟩ = .ok true ↔
      (∀ artifact ∈ parts.source :: parts.builds, checkArtifact tree' artifact.toJson = .ok ()) ∧
      (∀ rel ∈ parts.verifications,
        checkManifestVerification tree' request.projectId none rel = .ok ()) ∧
      (∃ findings,
        readReleaseFindings tree' (parts.reviews.map (fun file => tree'.join file.1))
          = .ok findings) ∧
      ∃ file, tree'.regularFile (tree'.join parts.rollback.1) = .ok file := by
  obtain ⟨hartifacts, hverifications, hreviews, hrollback, hproject⟩ := parts.get_eq
  have hread : tree'.readMapping (tree'.join "release-candidate.json") = .ok parts.manifest := by
    subst htree
    exact readMapping_manifest _
  have hfields := parts.checkFields (tree'.join "release-candidate.json")
  have hall : (∀ artifact ∈ manifestArtifacts parts.manifest,
      checkArtifact tree' artifact = .ok ()) ↔
      ∀ artifact ∈ parts.source :: parts.builds, checkArtifact tree' artifact.toJson = .ok () := by
    rw [hartifacts, ← List.map_cons, List.forall_mem_map]
  simp only [verifyReleaseCandidateManifest, bind_eq_ok, forM_eq_ok_iff, pure_eq_ok]
  constructor
  · rintro ⟨manifest, hmanifest, _, -, _, hchecked, _, hverified, findings, hfindings, file, hfile,
      -⟩
    obtain rfl := Except.ok.inj (hread.symm.trans hmanifest)
    rw [hverifications, hproject] at hverified
    rw [hreviews, List.map_map] at hfindings
    rw [hrollback] at hfile
    exact ⟨hall.mp hchecked, hverified, ⟨findings, hfindings⟩, file, hfile⟩
  · rintro ⟨hchecked, hverified, ⟨findings, hfindings⟩, file, hfile⟩
    refine ⟨_, hread, (), hfields, (), hall.mpr hchecked, (), ?_, findings, ?_, file, ?_, trivial⟩
    · rw [hverifications, hproject]
      exact hverified
    · rw [hreviews, List.map_map]
      exact hfindings
    · rw [hrollback]
      exact hfile

/-- **The manifest passes the verifier** when it replaced nothing that it names. -/
theorem ManifestParts.verify {tree : ReleaseTree} {request : ReleaseRequest}
    (parts : ManifestParts tree request) (hfree : tree.linkFree = true)
    (hapart : ManifestApart tree request) :
    verifyReleaseCandidateManifest (tree.replaced (.canonicalLine parts.manifest) hfree)
      "release-candidate.json" ⟨some request.projectId, none, false⟩ = .ok true := by
  rw [ManifestApart, List.forall_mem_cons, List.forall_mem_append, List.forall_mem_append] at hapart
  obtain ⟨hsource, ⟨hbuilds, hverifications⟩, hreviews⟩ := hapart
  have hchecked : ∀ {path : String} {artifact : ReleaseArtifact}, Hashed tree path artifact →
      tree.probe path ≠ some tree.manifestLocation →
      checkArtifact (tree.replaced (.canonicalLine parts.manifest) hfree) artifact.toJson
        = .ok () := by
    intro path artifact hhashed hne
    obtain ⟨location, content, hfile, hsha⟩ :=
      hhashed.check (.canonicalLine parts.manifest) hfree hne
    simp only [checkArtifact, bind_eq_ok, require_eq_ok, Prod.exists,
      ReleaseArtifact.toJson_path, ReleaseArtifact.toJson_sha256]
    exact ⟨artifact.path, location, content, hfile, congrArg Json.str hsha.symm⟩
  refine (parts.verify_iff rfl).mpr ⟨?_, ?_, ⟨parts.findings, ?_⟩, ?_⟩
  · refine List.forall_mem_cons.mpr
      ⟨hchecked parts.sourceHashed hsource, fun artifact hartifact => ?_⟩
    obtain ⟨path, hpath, hhashed⟩ := exists_of_mem_forall₂ parts.buildsHashed hartifact
    exact hchecked hhashed (hbuilds path hpath)
  · intro rel hrel
    obtain ⟨path, hpath, hread⟩ := exists_of_mem_forall₂ parts.verified hrel
    exact readReleaseVerification_check hread (hverifications path hpath)
  · have hreviewed := parts.reviewed
    simp only [readReleaseFindings, bind_eq_ok, require_eq_ok, exists_const, pure_eq_ok,
      mapM_eq_ok_iff] at hreviewed ⊢
    obtain ⟨records, hrecords, hsome, rfl⟩ := hreviewed
    exact ⟨_, readReleaseFinding_replaced parts.reviewFiles hrecords hreviews, hsome, rfl⟩
  · have hrollback := parts.rollbackFile
    obtain ⟨-, -, hholds⟩ := ReleaseTree.regularFile_eq_ok_iff.mp hrollback
    obtain ⟨content, hreplaced⟩ := hholds.exists_replaced
    exact ⟨_, hreplaced.regularFile_join⟩

/-- A manifest is neither a verification record nor a review finding: their ids are missing. -/
theorem ManifestParts.not_record {tree : ReleaseTree} {request : ReleaseRequest}
    (parts : ManifestParts tree request) :
    validateContract .verificationRecord parts.manifest.toJson ≠ .ok () ∧
      validateContract .reviewFinding parts.manifest.toJson ≠ .ok () := by
  constructor
  · intro h
    have hrow : ("verification_id", FieldSpec.ofType .str) ∈ Contract.verificationRecord.rows := by
      simp [Contract.rows]
    have hid := (get_of_validateContract h hrow).1
    have hno : parts.manifest.has "verification_id" = false := rfl
    rw [hno] at hid
    cases hid
  · intro h
    have hrow : ("finding_id", FieldSpec.ofType .str) ∈ Contract.reviewFinding.rows := by
      simp [Contract.rows]
    have hid := (get_of_validateContract h hrow).1
    have hno : parts.manifest.has "finding_id" = false := rfl
    rw [hno] at hid
    cases hid

omit [Platform] in
/-- A file at the place of the manifest is the manifest. -/
theorem regularFile_replaced {tree : ReleaseTree} (manifest : Mapping)
    (hfree : tree.linkFree = true) {path rel location : String} {content : FileContent}
    (hfile : tree.regularFile path = .ok (rel, location, content))
    (hover : tree.probe path = some tree.manifestLocation) :
    (tree.replaced (.canonicalLine manifest) hfree).regularFile
      ((tree.replaced (.canonicalLine manifest) hfree).join rel)
        = .ok (rel, tree.manifestLocation, .canonicalLine manifest) := by
  obtain ⟨hprobe, -, hholds⟩ := ReleaseTree.regularFile_eq_ok_iff.mp hfile
  obtain rfl := Option.some.inj (hover.symm.trans hprobe)
  obtain rfl := Option.some.inj (tree.manifest_relative.symm.trans hholds.relative)
  exact ReleaseTree.holds_manifest.regularFile_join

/-- An artifact that the manifest replaced does not have its digest any more. -/
theorem ManifestParts.artifact_apart {tree : ReleaseTree} {request : ReleaseRequest}
    (parts : ManifestParts tree request) {hfree : tree.linkFree = true} (hself : NoSelfDigest)
    {path : String} {artifact : ReleaseArtifact}
    (hartifact : artifact ∈ parts.source :: parts.builds) (hhashed : Hashed tree path artifact)
    (hcheck : checkArtifact (tree.replaced (.canonicalLine parts.manifest) hfree) artifact.toJson
      = .ok ()) : tree.probe path ≠ some tree.manifestLocation := by
  intro hover
  obtain ⟨_, _, hfile, -⟩ := hhashed
  have hmanifest := regularFile_replaced parts.manifest hfree hfile hover
  simp only [checkArtifact, bind_eq_ok, require_eq_ok, Prod.exists, ReleaseArtifact.toJson_path,
    hmanifest, Except.ok.injEq, Prod.mk.injEq] at hcheck
  obtain ⟨_, _, content, ⟨-, -, rfl⟩, hsame⟩ := hcheck
  refine hself parts.manifest artifact.toJson ?_ hsame.symm
  rw [parts.get_eq.1, ← List.map_cons]
  exact List.mem_map_of_mem hartifact

/-- A verification record that the manifest replaced is refused. -/
theorem ManifestParts.verification_apart {tree : ReleaseTree} {request : ReleaseRequest}
    (parts : ManifestParts tree request) {hfree : tree.linkFree = true} {path rel : String}
    (hread : readReleaseVerification tree request.projectId path = .ok rel)
    (hcheck : checkManifestVerification (tree.replaced (.canonicalLine parts.manifest) hfree)
      request.projectId none rel = .ok ()) : tree.probe path ≠ some tree.manifestLocation := by
  intro hover
  simp only [readReleaseVerification, bind_eq_ok, Prod.exists, pure_eq_ok] at hread
  obtain ⟨rel', location, content, hfile, _, _, _, _, rfl⟩ := hread
  have hmanifest := regularFile_replaced parts.manifest hfree hfile hover
  simp only [checkManifestVerification, checkReleaseVerification, bind_eq_ok, Prod.exists,
    hmanifest, Except.ok.injEq, Prod.mk.injEq, loadReviewMapping_eq_ok,
    validateReviewRecord_eq_ok] at hcheck
  obtain ⟨_, _, content', ⟨-, -, rfl⟩, record, hrecord, _, ⟨_, hvalid, -⟩, -⟩ := hcheck
  rw [← Except.ok.inj hrecord] at hvalid
  exact parts.not_record.1 hvalid

/-- A review finding that the manifest replaced is refused. -/
theorem ManifestParts.review_apart {tree : ReleaseTree} {request : ReleaseRequest}
    (parts : ManifestParts tree request) {hfree : tree.linkFree = true} {path : String}
    {file : String × String × FileContent} {record : Mapping}
    (hfile : tree.regularFile path = .ok file)
    (hrecord : readReleaseFinding (tree.replaced (.canonicalLine parts.manifest) hfree)
      ((tree.replaced (.canonicalLine parts.manifest) hfree).join file.1) = .ok record) :
    tree.probe path ≠ some tree.manifestLocation := by
  intro hover
  obtain ⟨rel, location, content⟩ := file
  have hmanifest := regularFile_replaced parts.manifest hfree hfile hover
  obtain ⟨hloads, hvalid, -⟩ := (readReleaseFinding_eq_ok hmanifest).mp hrecord
  rw [← Except.ok.inj hloads] at hvalid
  exact parts.not_record.2 hvalid

/-- **The round trip holds iff the manifest replaces no evidence.** The paths that matter are those
of the artifacts and of the records; a rollback plan may lie anywhere. -/
theorem release_manifest_round_trip {tree tree' : ReleaseTree} {request : ReleaseRequest}
    (h : buildReleaseCandidateManifest tree request = .ok tree') :
    (ManifestApart tree request → RoundTrip tree' request) ∧
      (NoSelfDigest → RoundTrip tree' request → ManifestApart tree request) := by
  obtain ⟨parts, hfree, rfl⟩ := buildReleaseCandidateManifest_eq_ok h
  constructor
  · intro hapart
    have hverify := parts.verify hfree hapart
    refine ⟨hverify, fun manifest hmanifest artifact hartifact => ?_⟩
    obtain rfl := Except.ok.inj ((readMapping_manifest parts.manifest).symm.trans hmanifest)
    rw [parts.get_eq.1, ← List.map_cons] at hartifact
    obtain ⟨found, hfound, rfl⟩ := List.mem_map.mp hartifact
    have hcheck := ((parts.verify_iff rfl).mp hverify).1 found hfound
    simp only [checkArtifact, bind_eq_ok, require_eq_ok, Prod.exists] at hcheck
    obtain ⟨rel, location, content, hfile, hsame⟩ := hcheck
    exact ⟨rel, location, content, hfile, hsame.symm⟩
  · intro hself htrip
    obtain ⟨hartifacts, hverifications, ⟨findings, hfindings⟩, -⟩ :=
      (parts.verify_iff rfl).mp htrip.verified
    rw [ManifestApart, List.forall_mem_cons, List.forall_mem_append, List.forall_mem_append]
    refine ⟨?_, ⟨?_, ?_⟩, ?_⟩
    · exact parts.artifact_apart hself List.mem_cons_self parts.sourceHashed
        (hartifacts _ List.mem_cons_self)
    · intro path hpath
      obtain ⟨artifact, hartifact, hhashed⟩ := exists_of_mem_forall₂ parts.buildsHashed.flip hpath
      exact parts.artifact_apart hself (List.mem_cons_of_mem _ hartifact) hhashed
        (hartifacts _ (List.mem_cons_of_mem _ hartifact))
    · intro path hpath
      obtain ⟨rel, hrel, hread⟩ := exists_of_mem_forall₂ parts.verified.flip hpath
      exact parts.verification_apart hread (hverifications rel hrel)
    · intro path hpath
      obtain ⟨file, hfile, hread⟩ := exists_of_mem_forall₂ parts.reviewFiles.flip hpath
      simp only [readReleaseFindings, bind_eq_ok, mapM_eq_ok_iff] at hfindings
      obtain ⟨records, hrecords, -⟩ := hfindings
      obtain ⟨record, -, hrecord⟩ := exists_of_mem_forall₂ hrecords.flip
        (List.mem_map_of_mem (f := fun file : String × String × FileContent =>
          (tree.replaced (.canonicalLine parts.manifest) hfree).join file.1) hfile)
      exact parts.review_apart hread hrecord

end Adapter

/-! ## Section 7: A release -/

/-- The digests that a manifest states. -/
def statedDigests (manifest : Mapping) : List String :=
  (manifestArtifacts manifest).filterMap (fun artifact => (artifact.field "sha256").asStr)

/-- A digest of files under which no manifest states its own: one for plain files, and another one
for records, longer than all that a record states if it states that. -/
def releaseSha : FileContent → String
  | .other _ _ => unarySha 0
  | .canonicalLine record =>
      if unarySha 1 ∈ statedDigests record then
        codeText ((statedDigests record).map String.length).sum
      else unarySha 1

/-- A platform with that digest. -/
@[reducible] def releasePlatform : Platform where
  canonicalSha := fun _ => unarySha 0
  taskToken := fun _ => "0000000000000000"
  fileSha := releaseSha
  casefold := id
  repr := fun _ => ""
  floatEq := fun _ _ => false

theorem noSelfDigest_release :
    letI := releasePlatform
    NoSelfDigest := by
  let _ := releasePlatform
  intro manifest artifact hartifact hself
  have hstated : releaseSha (.canonicalLine manifest) ∈ statedDigests manifest :=
    List.mem_filterMap.mpr ⟨artifact, hartifact, by rw [hself]; rfl⟩
  by_cases hone : unarySha 1 ∈ statedDigests manifest
  · rw [releaseSha, if_pos hone] at hstated
    have hle := List.single_le_sum (l := (statedDigests manifest).map String.length)
      (fun _ _ => Nat.zero_le _) _ (List.mem_map_of_mem hstated)
    simp [codeText] at hle
  · rw [releaseSha, if_neg hone] at hstated
    exact hone hstated

/-- The output directory with some files, and no links. -/
def sampleReleaseTree (files : List (String × FileContent)) : ReleaseTree where
  outputDir := "out"
  probe := some
  isSymlink := fun _ => false
  relativeTo := fun location =>
    ("release-candidate.json" :: files.map Prod.fst).find?
      (fun rel => "out" ++ "/" ++ rel = location)
  node := fun location =>
    match files.find? (fun file => "out" ++ "/" ++ file.1 = location) with
    | some file => .file file.2
    | none => .missing
  manifestLocation := "out" ++ "/" ++ "release-candidate.json"
  linkFree := true
  resolved_join := by
    intro location rel hrel _
    have hjoin := List.find?_some hrel
    exact ⟨congrArg some (of_decide_eq_true hjoin), rfl⟩
  manifest_join := fun _ => ⟨rfl, rfl⟩
  manifest_relative := List.find?_cons_of_pos (decide_eq_true rfl)

/-- A verification record that recommends the release. -/
def sampleVerification : Mapping where
  entries :=
    [("baseline_hash", .str (unarySha 0)),
      ("checks", .arr [.obj [("command", .str "pytest"), ("exit_code", .int 0),
        ("name", .str "tests"), ("output_path", .str "out.txt"),
        ("result_summary", .str "passed")]]),
      ("failed_requirements", .arr []), ("project_id", .str "project-a"),
      ("recommendation", .str "VERIFIED"), ("requirements_checked", Json.strs ["R-1"]),
      ("schema_version", .int 1), ("task_id", .str "task-1"),
      ("verification_id", .str "V-1"), ("verified_at_utc", .str "2026-01-01T00:00:00Z"),
      ("verifier_role", .str "VERIFIER")]
  sorted := by
    show ["baseline_hash", "checks", "failed_requirements", "project_id", "recommendation",
      "requirements_checked", "schema_version", "task_id", "verification_id", "verified_at_utc",
      "verifier_role"].Pairwise (· < ·)
    decide +kernel

/-- A review finding that blocks nothing. -/
def sampleFinding : Mapping where
  entries :=
    [("category", .str "style"), ("disposition", .str "ACCEPTED"),
      ("evidence_paths", Json.strs ["review.txt"]), ("finding_id", .str "F-1"),
      ("impact", .str "none"), ("rationale", .null), ("recommendation", .str "keep"),
      ("review_id", .str "RV-1"), ("schema_version", .int 1), ("severity", .str "P3"),
      ("status", .str "CLOSED"), ("summary", .str "fine"),
      ("verification_required", Json.strs ["tests"])]
  sorted := by
    show ["category", "disposition", "evidence_paths", "finding_id", "impact", "rationale",
      "recommendation", "review_id", "schema_version", "severity", "status", "summary",
      "verification_required"].Pairwise (· < ·)
    decide +kernel

/-- An output directory with a source at a path, a record of each kind and a rollback plan. -/
def sampleFiles (source : String) : List (String × FileContent) :=
  [(source, .other [1] (.error .malformed)),
    ("verification.json", .canonicalLine sampleVerification),
    ("review.json", .canonicalLine sampleFinding), ("rollback.md", .other [] (.error .malformed))]

/-- The release of that directory. -/
def sampleRelease (source : String) : ReleaseRequest where
  projectId := "project-a"
  rcId := "rc-1"
  version := "1.0"
  sourcePath := "out/" ++ source
  verificationPaths := ["out/verification.json"]
  reviewPaths := ["out/review.json"]
  rollbackPath := "out/rollback.md"
  createdAtUtc := "2026-01-01T00:00:00Z"
  buildArtifactPaths := []

/-- Both directories are released: the one with its source in a file of its own, and the one with
its source where the manifest goes. -/
theorem sampleRelease_built :
    letI := releasePlatform
    ∀ source ∈ ["source.txt", "release-candidate.json"], (buildReleaseCandidateManifest
      (sampleReleaseTree (sampleFiles source)) (sampleRelease source)).isOk = true := by
  let _ := releasePlatform
  decide +kernel

/-- The build of a release with its source in a file of its own makes the round trip, and so nothing
lies where the manifest goes. -/
theorem release_manifest_round_trip_apart :
    letI := releasePlatform
    ∃ tree', buildReleaseCandidateManifest (sampleReleaseTree (sampleFiles "source.txt"))
        (sampleRelease "source.txt") = .ok tree' ∧
      RoundTrip tree' (sampleRelease "source.txt") ∧
      ManifestApart (sampleReleaseTree (sampleFiles "source.txt"))
        (sampleRelease "source.txt") := by
  let _ := releasePlatform
  have hapart : ManifestApart (sampleReleaseTree (sampleFiles "source.txt"))
      (sampleRelease "source.txt") := by
    unfold ManifestApart
    decide
  obtain ⟨tree', hbuilt⟩ := exists_ok_of_isOk (sampleRelease_built "source.txt" (by simp))
  obtain ⟨htrip, hapart'⟩ := release_manifest_round_trip hbuilt
  exact ⟨tree', hbuilt, htrip hapart, hapart' noSelfDigest_release (htrip hapart)⟩

/-- **A source where the manifest goes is replaced by it.** The build succeeds, and the verifier
refuses what it has built. -/
theorem source_replaced_by_manifest :
    letI := releasePlatform
    ∃ tree', buildReleaseCandidateManifest (sampleReleaseTree (sampleFiles "release-candidate.json"))
        (sampleRelease "release-candidate.json") = .ok tree' ∧
      ¬ RoundTrip tree' (sampleRelease "release-candidate.json") := by
  let _ := releasePlatform
  obtain ⟨tree', hbuilt⟩ := exists_ok_of_isOk (sampleRelease_built "release-candidate.json" (by simp))
  refine ⟨tree', hbuilt, fun htrip => ?_⟩
  obtain ⟨parts, hfree, rfl⟩ := buildReleaseCandidateManifest_eq_ok hbuilt
  have hchecks := ((parts.verify_iff rfl).mp htrip.verified).1
  exact parts.artifact_apart noSelfDigest_release List.mem_cons_self parts.sourceHashed
    (hchecks _ List.mem_cons_self) rfl

end Acgps
