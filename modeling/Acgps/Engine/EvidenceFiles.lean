import Acgps.Engine.World

/-!
# Evidence files

How the engine reads a piece of evidence: from a path it was given, or from the binding of an
earlier event. Where a file is and what it holds is one read.

## Main Definitions

* `Snapshot` - the logical path, the size and the digest of the bytes that were read
* `readCanonicalEvidenceJson`, `readEvidenceJsonSnapshot` - the readers of a path
* `readBoundCanonicalEvidenceJson`, `readBoundEvidenceJsonSnapshot` - the readers of a binding
* `PathBinding` - the binding that an event gets for a path

## Key Theorems

* `may_readCanonicalEvidenceJson` and its siblings - what each reader can return
* `PathBinding.snapshot_of_toJson_eq` - a binding of an event keeps the snapshot it was made from
-/

namespace Acgps

open Checked Interleaving

variable [Platform]

/-! ## Section 1: What was read -/

/-- The bytes that were read: `(logical_path, size_bytes, sha256)`. -/
structure Snapshot where
  path : String
  sizeBytes : Nat
  sha256 : String
  deriving DecidableEq

/-- Bytes of the size and the digest of a snapshot. -/
structure Snapshot.Holds (snapshot : Snapshot) (content : FileContent) : Prop where
  size : content.sizeBytes = snapshot.sizeBytes
  sha : fileSha content = snapshot.sha256

/-- A regular file below one of the trees. -/
structure EvidenceFile where
  resolved : String
  location : Location
  content : FileContent

/-- The snapshot of a file. -/
def EvidenceFile.snapshot (file : EvidenceFile) : Snapshot :=
  ⟨file.location.logical, file.content.sizeBytes, fileSha file.content⟩

/-- A path leads to a file below one of the trees, and is no link. -/
structure PathEntry.Leads (entry : PathEntry) (file : EvidenceFile) : Prop where
  noLink : entry.isSymlink = false
  target : entry.target = .file file.resolved (some file.location) file.content

omit [Platform] in
theorem PathEntry.Leads.unique {entry : PathEntry} {file file' : EvidenceFile}
    (h : entry.Leads file) (h' : entry.Leads file') : file = file' := by
  have htarget := h.target.symm.trans h'.target
  obtain ⟨resolved, location, content⟩ := file
  simp only [PathTarget.file.injEq, Option.some.injEq] at htarget
  obtain ⟨rfl, rfl, rfl⟩ := htarget
  rfl

omit [Platform] in
/-- The path of the location of a file leads to the same file. -/
theorem Files.leads_rooted {files : Files} {path : EvidencePath} {file : EvidenceFile}
    (h : (files.entry path).Leads file) :
    (files.entry (.rooted file.location)).Leads file :=
  ⟨(files.located h.target).1, (files.located h.target).2⟩

/-- `_evidence_location`, with the bytes of the file. -/
def evidenceLocation (name : String) (entry : PathEntry) : Outcome EvidenceFile := do
  require (entry.isSymlink = false)
    (engineError [.text "evidence path must not be a symlink: ", .text name])
  match entry.target with
  | .missing => .error (engineError [.text "evidence path is missing: ", .text name])
  | .notRegular => .error (engineError [.text "evidence path is not a regular file: ", .text name])
  | .file _ none _ =>
      .error (engineError "evidence must be contained by the managed project or ACGPS state root")
  | .file resolved (some location) content => .ok ⟨resolved, location, content⟩

omit [Platform] in
@[simp] theorem evidenceLocation_eq_ok {name : String} {entry : PathEntry} {file : EvidenceFile} :
    evidenceLocation name entry = .ok file ↔ entry.Leads file := by
  obtain ⟨isSymlink, withinParent, target⟩ := entry
  obtain ⟨resolved, location, content⟩ := file
  simp only [evidenceLocation, bind_eq_ok, require_eq_ok, exists_const]
  constructor
  · rintro ⟨hlink, h⟩
    refine ⟨hlink, ?_⟩
    split at h <;> simp_all
  · rintro ⟨hlink, htarget⟩
    change target = _ at htarget
    subst htarget
    exact ⟨hlink, rfl⟩

/-- Where a path leads and what is there. -/
def readEvidence (engine : Engine) (path : EvidencePath) : EngineQuery EvidenceFile :=
  Query.read (fun w =>
    evidenceLocation (engine.pathText path) ((w.files engine.projectRoot).entry path))

/-- In a world, a path leads to a file. -/
def World.Leads (w : World) (engine : Engine) (path : EvidencePath) (file : EvidenceFile) : Prop :=
  ((w.files engine.projectRoot).entry path).Leads file

omit [Platform] in
@[simp] theorem may_readEvidence {S : World → Prop} {engine : Engine} {path : EvidencePath}
    {file : EvidenceFile} :
    (readEvidence engine path).May S (.ok file) ↔ ∃ w, S w ∧ w.Leads engine path file := by
  simp [readEvidence, World.Leads]

/-! ## Section 2: Parsing -/

mutual

/-- The key that `reject_duplicate_pairs` refuses first: the objects inside a value are parsed
before it. -/
def collidingKey : Json → Option String
  | .arr items => collidingItem items
  | .obj members => (collidingMember members).or (collidingHere [] members)
  | _ => none

/-- The first collision in the items of a list. -/
def collidingItem : List Json → Option String
  | [] => none
  | item :: rest => (collidingKey item).or (collidingItem rest)

/-- The first collision in the values of an object. -/
def collidingMember : List (String × Json) → Option String
  | [] => none
  | (_, value) :: rest => (collidingKey value).or (collidingMember rest)

/-- The first key that an earlier key of the same object folds to. -/
def collidingHere (folded : List String) : List (String × Json) → Option String
  | [] => none
  | (key, _) :: rest =>
      if casefold key ∈ folded then some key else collidingHere (casefold key :: folded) rest

end

/-- `evidence is unreadable`. -/
def unreadable (name : String) : Failure :=
  engineError [.text "evidence is unreadable: ", .text name]

/-- `evidence must be a mapping`. -/
def notMapping (name : String) : Failure :=
  engineError [.text "evidence must be a mapping: ", .text name]

/-- `_parse_strict_evidence_json`. -/
def parseStrictEvidenceJson (content : FileContent) (name : String) : Outcome Mapping := do
  let value ← mapError (fun _ => unreadable name) content.loads
  match collidingKey value with
  | some key =>
      .error (engineError
        [.text "evidence has a duplicate or case-fold-colliding JSON key: ", .text key])
  | none => expect value.asMapping (notMapping name)

/-- `_parse_canonical_evidence_json`. -/
def parseCanonicalEvidenceJson (content : FileContent) (name : String) : Outcome Mapping := do
  let record ← parseStrictEvidenceJson content name
  match content with
  | .canonicalLine _ => .ok record
  | .other _ _ =>
      .error (engineError
        [.text "evidence must use canonical JSON bytes with one terminal LF: ", .text name])

/-- A record with no colliding keys. -/
def NoCollision (record : Mapping) : Prop := collidingKey record.toJson = none

@[simp] theorem parseCanonicalEvidenceJson_eq_ok {content : FileContent} {name : String}
    {record : Mapping} :
    parseCanonicalEvidenceJson content name = .ok record ↔
      content = .canonicalLine record ∧ NoCollision record := by
  cases content with
  | other payload loads => simp [parseCanonicalEvidenceJson]
  | canonicalLine stored =>
      simp only [parseCanonicalEvidenceJson, parseStrictEvidenceJson, FileContent.loads, bind_eq_ok,
        mapError_eq_ok, Except.ok.injEq, exists_eq_left', FileContent.canonicalLine.injEq,
        NoCollision]
      constructor
      · rintro ⟨_, hparse, rfl⟩
        split at hparse
        · simp at hparse
        next hnone =>
          obtain rfl : stored = _ := by simpa using hparse
          exact ⟨rfl, hnone⟩
      · rintro ⟨rfl, hnone⟩
        exact ⟨stored, by simp [hnone], rfl⟩

/-- `json.loads`, where only a mapping is of use. -/
def loadEvidenceJson (content : FileContent) (name : String) : Outcome Mapping := do
  let value ← mapError (fun _ => unreadable name) content.loads
  expect value.asMapping (notMapping name)

omit [Platform] in
@[simp] theorem loadEvidenceJson_eq_ok {content : FileContent} {name : String} {record : Mapping} :
    loadEvidenceJson content name = .ok record ↔ content.loads = .ok record.toJson := by
  simp [loadEvidenceJson]

/-! ## Section 3: Reading a path -/

/-- `_read_canonical_evidence_json`. -/
def readCanonicalEvidenceJson (engine : Engine) (path : EvidencePath) :
    EngineQuery (Mapping × Snapshot) := do
  let file ← readEvidence engine path
  let record ← Query.lift (parseCanonicalEvidenceJson file.content (engine.pathText path))
  return (record, file.snapshot)

/-- `_read_evidence_json_snapshot`. -/
def readEvidenceJsonSnapshot (engine : Engine) (path : EvidencePath) :
    EngineQuery (Mapping × Snapshot) := do
  let file ← readEvidence engine path
  let record ← Query.lift (loadEvidenceJson file.content (engine.pathText path))
  return (record, file.snapshot)

@[simp] theorem may_readCanonicalEvidenceJson {S : World → Prop} {engine : Engine}
    {path : EvidencePath} {record : Mapping} {snapshot : Snapshot} :
    (readCanonicalEvidenceJson engine path).May S (.ok (record, snapshot)) ↔
      ∃ file, (∃ w, S w ∧ w.Leads engine path file) ∧ file.content = .canonicalLine record ∧
        NoCollision record ∧ file.snapshot = snapshot := by
  simp only [readCanonicalEvidenceJson, Query.may_bind, may_readEvidence, Query.may_lift,
    parseCanonicalEvidenceJson_eq_ok, Query.may_pure, Prod.mk.injEq]
  constructor
  · rintro ⟨file, hleads, _, ⟨hcontent, hkeys⟩, rfl, rfl⟩
    exact ⟨file, hleads, hcontent, hkeys, rfl⟩
  · rintro ⟨file, hleads, hcontent, hkeys, rfl⟩
    exact ⟨file, hleads, record, ⟨hcontent, hkeys⟩, rfl, rfl⟩

@[simp] theorem may_readEvidenceJsonSnapshot {S : World → Prop} {engine : Engine}
    {path : EvidencePath} {record : Mapping} {snapshot : Snapshot} :
    (readEvidenceJsonSnapshot engine path).May S (.ok (record, snapshot)) ↔
      ∃ file, (∃ w, S w ∧ w.Leads engine path file) ∧ file.content.loads = .ok record.toJson ∧
        file.snapshot = snapshot := by
  simp only [readEvidenceJsonSnapshot, Query.may_bind, may_readEvidence, Query.may_lift,
    loadEvidenceJson_eq_ok, Query.may_pure, Prod.mk.injEq]
  constructor
  · rintro ⟨file, hleads, _, hcontent, rfl, rfl⟩
    exact ⟨file, hleads, hcontent, rfl⟩
  · rintro ⟨file, hleads, hcontent, rfl⟩
    exact ⟨file, hleads, record, hcontent, rfl, rfl⟩

/-! ## Section 4: Reading a binding -/

/-- The snapshot that a binding states; an embedded record has none. -/
def EvidenceBinding.snapshot? (binding : EvidenceBinding) : Option Snapshot :=
  match binding.source with
  | .path path => some ⟨path.val, binding.sizeBytes, binding.contentSha256.val⟩
  | .embedded _ => none

/-- The location that a binding states, with its snapshot. -/
def boundLocation (bound : Option Snapshot) : Outcome (Snapshot × Location) := do
  let snapshot ← expect bound (engineError "bound evidence binding must reference a path")
  let location ← expect (Location.ofLogical snapshot.path)
    (engineError "bound evidence binding path is invalid")
  return (snapshot, location)

/-- The comparison of a file with the binding it was found by. -/
def requireBound (file : EvidenceFile) (snapshot : Snapshot) : Outcome Unit :=
  require (file.snapshot = snapshot) (engineError "bound evidence binding content changed")

/-- `_read_bound_canonical_evidence_json`. -/
def readBoundCanonicalEvidenceJson (engine : Engine) (bound : Option Snapshot) :
    EngineQuery (Mapping × Snapshot) := do
  let (snapshot, location) ← Query.lift (boundLocation bound)
  let file ← readEvidence engine (.rooted location)
  Query.lift (requireBound file snapshot)
  let record ← Query.lift (parseCanonicalEvidenceJson file.content file.resolved)
  return (record, file.snapshot)

/-- `_read_bound_evidence_json_snapshot`: the text is parsed before the digests are compared. -/
def readBoundEvidenceJsonSnapshot (engine : Engine) (bound : Option Snapshot) :
    EngineQuery (Mapping × Snapshot) := do
  let (snapshot, location) ← Query.lift (boundLocation bound)
  let file ← readEvidence engine (.rooted location)
  let value ← Query.lift (mapError (fun _ => unreadable file.resolved) file.content.loads)
  Query.lift (requireBound file snapshot)
  let record ← Query.lift (expect value.asMapping (notMapping file.resolved))
  return (record, file.snapshot)

/-- `_bound_evidence_path`: the path of the location. -/
def boundEvidencePath (engine : Engine) (bound : Option Snapshot) : EngineQuery EvidencePath := do
  let (snapshot, location) ← Query.lift (boundLocation bound)
  let file ← readEvidence engine (.rooted location)
  Query.lift (requireBound file snapshot)
  return .rooted location

/-- In a world, the file that a binding names has the bytes that it states. -/
def World.LeadsBound (w : World) (engine : Engine) (bound : Option Snapshot)
    (file : EvidenceFile) : Prop :=
  bound = some file.snapshot ∧ w.Leads engine (.rooted file.location) file

omit [Platform] in
@[simp] theorem boundLocation_eq_ok {bound : Option Snapshot} {snapshot : Snapshot}
    {location : Location} :
    boundLocation bound = .ok (snapshot, location) ↔
      bound = some snapshot ∧ Location.ofLogical snapshot.path = some location := by
  simp only [boundLocation, bind_eq_ok, expect_eq_ok, pure_eq_ok, Prod.mk.injEq]
  constructor
  · rintro ⟨_, hbound, _, hlocation, rfl, rfl⟩
    exact ⟨hbound, hlocation⟩
  · rintro ⟨hbound, hlocation⟩
    exact ⟨snapshot, hbound, location, hlocation, rfl, rfl⟩

/-- A file found by the path of a binding and with its snapshot lies where the path says. -/
theorem leadsBound_iff {S : World → Prop} {engine : Engine} {bound : Option Snapshot}
    {file : EvidenceFile} :
    (∃ snapshot location, (bound = some snapshot ∧ Location.ofLogical snapshot.path = some location) ∧
        (∃ w, S w ∧ w.Leads engine (.rooted location) file) ∧ file.snapshot = snapshot) ↔
      ∃ w, S w ∧ w.LeadsBound engine bound file := by
  have hlogical : Location.ofLogical file.snapshot.path = some file.location :=
    Location.ofLogical_logical file.location
  constructor
  · rintro ⟨snapshot, location, ⟨hbound, hlocation⟩, ⟨w, hw, hleads⟩, rfl⟩
    obtain rfl : file.location = location := Option.some.inj (hlogical.symm.trans hlocation)
    exact ⟨w, hw, hbound, hleads⟩
  · rintro ⟨w, hw, hbound, hleads⟩
    exact ⟨_, _, ⟨hbound, hlogical⟩, ⟨w, hw, hleads⟩, rfl⟩

@[simp] theorem may_readBoundCanonicalEvidenceJson {S : World → Prop} {engine : Engine}
    {bound : Option Snapshot} {record : Mapping} {snapshot : Snapshot} :
    (readBoundCanonicalEvidenceJson engine bound).May S (.ok (record, snapshot)) ↔
      ∃ file, (∃ w, S w ∧ w.LeadsBound engine bound file) ∧ file.content = .canonicalLine record ∧
        NoCollision record ∧ file.snapshot = snapshot := by
  simp only [readBoundCanonicalEvidenceJson, Query.may_bind, Query.may_lift, may_readEvidence,
    requireBound, require_eq_ok, parseCanonicalEvidenceJson_eq_ok, Query.may_pure, Prod.mk.injEq,
    Prod.exists, boundLocation_eq_ok, exists_const, ← leadsBound_iff]
  constructor
  · rintro ⟨s, l, hbound, file, hleads, hsame, _, ⟨hcontent, hkeys⟩, rfl, rfl⟩
    exact ⟨file, ⟨s, l, hbound, hleads, hsame⟩, hcontent, hkeys, rfl⟩
  · rintro ⟨file, ⟨s, l, hbound, hleads, hsame⟩, hcontent, hkeys, rfl⟩
    exact ⟨s, l, hbound, file, hleads, hsame, record, ⟨hcontent, hkeys⟩, rfl, rfl⟩

@[simp] theorem may_readBoundEvidenceJsonSnapshot {S : World → Prop} {engine : Engine}
    {bound : Option Snapshot} {record : Mapping} {snapshot : Snapshot} :
    (readBoundEvidenceJsonSnapshot engine bound).May S (.ok (record, snapshot)) ↔
      ∃ file, (∃ w, S w ∧ w.LeadsBound engine bound file) ∧
        file.content.loads = .ok record.toJson ∧ file.snapshot = snapshot := by
  simp only [readBoundEvidenceJsonSnapshot, Query.may_bind, Query.may_lift, may_readEvidence,
    requireBound, require_eq_ok, mapError_eq_ok, expect_eq_ok, Mapping.asMapping_eq_some,
    Query.may_pure, Prod.mk.injEq, Prod.exists, boundLocation_eq_ok, exists_const,
    ← leadsBound_iff]
  constructor
  · rintro ⟨s, l, hbound, file, hleads, _, hcontent, hsame, _, rfl, rfl, rfl⟩
    exact ⟨file, ⟨s, l, hbound, hleads, hsame⟩, hcontent, rfl⟩
  · rintro ⟨file, ⟨s, l, hbound, hleads, hsame⟩, hcontent, rfl⟩
    exact ⟨s, l, hbound, file, hleads, record.toJson, hcontent, hsame, record, rfl, rfl, rfl⟩

@[simp] theorem may_boundEvidencePath {S : World → Prop} {engine : Engine}
    {bound : Option Snapshot} {path : EvidencePath} :
    (boundEvidencePath engine bound).May S (.ok path) ↔
      ∃ file, (∃ w, S w ∧ w.LeadsBound engine bound file) ∧ path = .rooted file.location := by
  simp only [boundEvidencePath, Query.may_bind, Query.may_lift, may_readEvidence, requireBound,
    require_eq_ok, Query.may_pure, Prod.exists, boundLocation_eq_ok, exists_const,
    ← leadsBound_iff]
  constructor
  · rintro ⟨s, l, ⟨hbound, hlocation⟩, file, hleads, rfl, rfl⟩
    have hlogical := Location.ofLogical_logical file.location
    obtain rfl : file.location = l := Option.some.inj (hlogical.symm.trans hlocation)
    exact ⟨file, ⟨_, _, ⟨hbound, hlocation⟩, hleads, rfl⟩, rfl⟩
  · rintro ⟨file, ⟨s, l, ⟨hbound, hlocation⟩, hleads, rfl⟩, rfl⟩
    have hlogical := Location.ofLogical_logical file.location
    obtain rfl : file.location = l := Option.some.inj (hlogical.symm.trans hlocation)
    exact ⟨_, _, ⟨hbound, hlocation⟩, file, hleads, rfl, rfl⟩

/-! ## Section 5: Binding a path -/

/-- The binding that a transition makes for a path. -/
structure PathBinding where
  bindingId : String
  evidenceKind : String
  snapshot : Snapshot
  createdAtUtc : String

/-- The binding as a mapping. -/
def PathBinding.toMapping (b : PathBinding) : Mapping where
  entries :=
    [("binding_id", .str b.bindingId), ("content_sha256", .str b.snapshot.sha256),
      ("created_at_utc", .str b.createdAtUtc), ("embedded_record", .null),
      ("embedded_sha256", .null), ("evidence_kind", .str b.evidenceKind),
      ("path", .str b.snapshot.path), ("schema_version", .int 1),
      ("size_bytes", .int b.snapshot.sizeBytes), ("source", .str "path")]
  sorted := evidenceBindingFields_sorted

/-- The binding as a value. -/
def PathBinding.toJson (b : PathBinding) : Json := b.toMapping.toJson

/-- `_path_evidence_binding`. -/
def pathEvidenceBinding (engine : Engine) (path : EvidencePath) (token : String)
    (sequence index : Nat) (target : TaskState) (createdAtUtc : String) :
    EngineQuery PathBinding := do
  let file ← readEvidence engine path
  return ⟨"ev-" ++ token ++ "-" ++ fourDigits sequence ++ "-" ++ twoDigits index,
    "transition_" ++ asciiLower target.name, file.snapshot, createdAtUtc⟩

/-- `_embedded_evidence_binding`. -/
def embeddedEvidenceBinding (bindingId evidenceKind : String) (record : Mapping)
    (createdAtUtc : Json) : Mapping where
  entries :=
    [("binding_id", .str bindingId), ("content_sha256", .str (canonicalSha record.toJson)),
      ("created_at_utc", createdAtUtc), ("embedded_record", record.toJson),
      ("embedded_sha256", .str (canonicalSha record.toJson)), ("evidence_kind", .str evidenceKind),
      ("path", .null), ("schema_version", .int 1), ("size_bytes", .int record.toJson.dumps.length),
      ("source", .str "embedded")]
  sorted := evidenceBindingFields_sorted

/-- **A binding of an event keeps the snapshot** that it was made from. -/
theorem PathBinding.snapshot_of_toJson_eq {b : PathBinding} {e : EvidenceBinding}
    (h : b.toJson = e.toJson) : e.snapshot? = some b.snapshot := by
  have hentries := congrArg Mapping.entries (Mapping.toJson_injective h)
  simp only [PathBinding.toMapping, EvidenceBinding.toMapping, List.cons.injEq, Prod.mk.injEq,
    Json.str.injEq, Json.int.injEq, true_and] at hentries
  obtain ⟨_, hsha, _, _, _, _, hpath, hsize, _⟩ := hentries
  unfold EvidenceBinding.snapshot?
  cases hsource : e.source with
  | path path =>
      rw [hsource] at hpath
      simp only [TaggedSource.pathJson, Json.str.injEq] at hpath
      show some (Snapshot.mk path.val e.sizeBytes e.contentSha256.val) = some b.snapshot
      rw [← hsha, ← hpath, ← Int.ofNat.inj hsize]
  | embedded record =>
      rw [hsource] at hpath
      simp [TaggedSource.pathJson] at hpath

end Acgps
