import Acgps.Data.Loads
import Acgps.Coding.Record

/-!
# The operation events of an executor

The executor writes one JSON event a line; the controller observes operations of its own. The scan
of the two counts every line it cannot account for, turns every observation into a row, and counts
the claims that no observation matched.

## Main Definitions

* `OperationClaim` - what a well-formed event claims
* `EventScan` - the counts and the claims after some lines
* `ObservationScan` - the rows and the matched claims after some observations
* `parseOperationEvents` - the whole scan
-/

namespace Acgps

open Checked

/-! ## Section 1: Records -/

/-- `ControllerOperationObservation`. -/
structure ControllerOperationObservation where
  operationClass : PyStr
  source : PyStr
  eventId : Option PyStr
  executable : Option PyStr
  argv : List PyStr
  cwd : Option PyStr
  pathSet : List PyStr
  evidenceBytes : ByteArray

/-- The claim of an event. -/
structure OperationClaim where
  operationClass : PyStr
  eventId : PyStr
  executable : Option PyStr
  argv : List PyStr
  cwd : Option PyStr
  pathSet : List PyStr
  evidenceSha256 : PyStr
  deriving DecidableEq

/-- The status of a row. -/
inductive RowStatus where
  | pass
  | hold
  deriving DecidableEq

/-- A row of `operation_rows`. -/
structure OperationRow where
  sequence : Nat
  operationClass : PyStr
  source : PyStr
  eventId : Option PyStr
  executable : Option PyStr
  argv : List PyStr
  cwd : Option PyStr
  pathSet : List PyStr
  status : RowStatus
  evidenceSha256 : PyStr

/-- What a row with an event id says about the claim of that id. -/
def OperationRow.claimed (row : OperationRow) : Option OperationClaim :=
  row.eventId.map (fun eventId =>
    ⟨row.operationClass, eventId, row.executable, row.argv, row.cwd, row.pathSet,
      row.evidenceSha256⟩)

/-- `ParsedOperationEvents`. -/
structure ParsedOperationEvents where
  jsonlSha256 : String
  sizeBytes : Nat
  parsedCount : Nat
  unknownCount : Nat
  prohibitedCount : Nat
  finalResponseSha256 : Option String
  operationRows : List OperationRow

/-! ## Section 2: Paths, identifiers and classes -/

/-- `re.match(r"^[A-Za-z]:", item)`. -/
def hasDrive : PyStr → Bool
  | letter :: colon :: _ =>
      ((0x41 ≤ letter && letter ≤ 0x5A) || (0x61 ≤ letter && letter ≤ 0x7A)) && colon = 0x3A
  | _ => false

/-- A relative path without empty, current or parent parts. -/
def isSafeEventPath (item : PyStr) : Bool :=
  item ≠ [] && !item.contains 0x5C && item.head? ≠ some 0x2F && !hasDrive item
    && (item.splitOn 0x2F).all (fun part => part ≠ [] && part ≠ [0x2E] && part ≠ [0x2E, 0x2E])

/-- `_safe_event_paths` of a list of strings: strictly increasing, and every path safe. -/
def safeEventPaths (paths : List PyStr) : Option (List PyStr) :=
  if paths.Pairwise (· < ·) ∧ paths.all isSafeEventPath = true then some paths else none

/-- The class `[A-Z0-9]`. -/
def isIdStart (point : Nat) : Bool :=
  (0x41 ≤ point && point ≤ 0x5A) || (0x30 ≤ point && point ≤ 0x39)

/-- `re.fullmatch(r"[A-Z0-9][A-Z0-9_.-]{0,127}", event_id)`. -/
def isEventId : PyStr → Bool
  | [] => false
  | first :: rest =>
      isIdStart first && rest.length ≤ 127
        && rest.all (fun point => isIdStart point || [0x5F, 0x2E, 0x2D].contains point)

/-- `re.fullmatch(r"[0-9a-f]{64}", evidence_sha256)`. -/
def isEvidenceSha256 (digest : PyStr) : Bool :=
  digest.length = 64
    && digest.all (fun point =>
      (0x30 ≤ point && point ≤ 0x39) || (0x61 ≤ point && point ≤ 0x66))

/-- `_EVENT_CLASS`, with the mark of `_PROCESS_EVENT_TYPES`. -/
def eventClasses : List (String × String × Bool) :=
  [("workspace_read", "WORKSPACE_READ", false),
    ("targeted_text_search", "TARGETED_TEXT_SEARCH", false),
    ("approved_file_patch", "APPROVED_FILE_PATCH", false),
    ("local_check_process", "LOCAL_CHECK_PROCESS", true),
    ("git_read_only_inspection", "GIT_READ_ONLY_INSPECTION", true)]

/-- The value is one of the words. -/
def isOneOf (words : List String) (value : PyStr) : Bool :=
  (words.map PyStr.ofString).contains value

/-- `_EVENT_CLASS.get(event_type)`, with the mark of a process event. The table is a dictionary,
so a list or an object as a key is an error of the interpreter. -/
def eventClass : PyJson → Outcome (Option (PyStr × Bool))
  | .arr _ => .error (.interpreter "TypeError" "unhashable type: 'list'")
  | .obj _ => .error (.interpreter "TypeError" "unhashable type: 'dict'")
  | .str s =>
      .ok ((eventClasses.find? (fun row => PyStr.ofString row.1 = s)).map
        (fun row => (PyStr.ofString row.2.1, row.2.2)))
  | _ => .ok none

/-! ## Section 3: Events -/

/-- The process fields of a process event. -/
def readProcess (event : List (PyStr × PyJson)) : Option (PyStr × List PyStr × PyStr) := do
  let executable ← (PyJson.get event "executable").asStr
  let argv ← (PyJson.get event "argv").asStrs
  guard (argv ≠ [] ∧ ∀ item ∈ argv, item ≠ [])
  let cwd ← (PyJson.get event "cwd").asStr
  some (executable, argv, cwd)

/-- The claim of an event of a known class, whether or not its event id was seen before. -/
def readClaim (operationClass : PyStr) (processEvent : Bool) (event : List (PyStr × PyJson)) :
    Option OperationClaim := do
  let expectedKeys := ["event_id", "type", "paths", "evidence_sha256"]
    ++ if processEvent then ["executable", "argv", "cwd"] else []
  guard (PyJson.hasKeys event expectedKeys = true)
  let paths ← (PyJson.get event "paths").asStrs.bind safeEventPaths
  let eventId ← (PyJson.get event "event_id").asStr
  guard (isEventId eventId = true)
  let evidenceSha256 ← (PyJson.get event "evidence_sha256").asStr
  guard (isEvidenceSha256 evidenceSha256 = true)
  if processEvent then do
    let (executable, argv, cwd) ← readProcess event
    some ⟨operationClass, eventId, some executable, argv, some cwd, paths, evidenceSha256⟩
  else some ⟨operationClass, eventId, none, [], none, paths, evidenceSha256⟩

/-- The claim of an event, `None` when the event is no well-formed claim. -/
def eventClaim (event : List (PyStr × PyJson)) : Outcome (Option OperationClaim) := do
  match ← eventClass (PyJson.get event "type") with
  | none => .ok none
  | some (operationClass, processEvent) => .ok (readClaim operationClass processEvent event)

variable [Interpreter]

/-- The guarded block on a final response, with the digest of a canonical one. A `ValueError` of
any kind counts the line as unknown, a `RecursionError` is not caught. -/
def checkResponse (response : List Char) : Outcome (Option String) :=
  match strictJsonMapping response with
  | .error .recursion => .error (.interpreter "RecursionError" "maximum recursion depth exceeded")
  | .error _ => .ok none
  | .ok members =>
      match validateContract .agentResult (PyJson.obj members).toJson with
      | .ok () =>
          if (PyJson.obj members).dumps ++ ['\n'] = response then
            .ok (some (sha256 (String.ofList response).toUTF8))
          else .ok none
      | .error (.contractValidation _ _) | .error (.unsupportedContractVersion _ _) => .ok none
      | .error failure => .error failure

/-- An event of the type `final_response`, with the digest of an accepted one. The response is
encoded before the guarded block. -/
def finalResponse (found : Option String) (event : List (PyStr × PyJson)) :
    Outcome (Option String) :=
  match PyJson.get event "response" with
  | .str response =>
      if PyJson.hasKeys event ["type", "response"] = true ∧ found = none then do
        let text ← expect response.encode
          (.interpreter "UnicodeEncodeError" "surrogates not allowed")
        checkResponse text
      else .ok none
  | _ => .ok none

/-- The counts and the claims after some lines. `event_ids` is the ids of the claims. -/
structure EventScan where
  parsedCount : Nat
  unknownCount : Nat
  prohibitedCount : Nat
  finalResponseSha256 : Option String
  claims : List OperationClaim

namespace EventScan

/-- Before the first line. -/
def start : EventScan := ⟨0, 0, 0, none, []⟩

/-- `unknown_count += 1`. -/
def addUnknown (scan : EventScan) : EventScan :=
  { scan with unknownCount := scan.unknownCount + 1 }

/-- `prohibited_count += 1`. -/
def addProhibited (scan : EventScan) : EventScan :=
  { scan with prohibitedCount := scan.prohibitedCount + 1 }

/-- `parsed_count += 1`. -/
def addParsed (scan : EventScan) : EventScan :=
  { scan with parsedCount := scan.parsedCount + 1 }

/-- The event ids seen so far. -/
def eventIds (scan : EventScan) : List PyStr := scan.claims.map OperationClaim.eventId

/-- The branches on a parsed event. -/
def readEvent (scan : EventScan) (event : List (PyStr × PyJson)) : Outcome EventScan :=
  if (PyJson.get event "type").asStr = some (PyStr.ofString "final_response") then do
    match ← finalResponse scan.finalResponseSha256 event with
    | some digest => .ok { scan with finalResponseSha256 := some digest }
    | none => .ok scan.addUnknown
  else if (PyJson.get event "type").asStr = some (PyStr.ofString "prohibited") then
    .ok scan.addProhibited
  else do
    match ← eventClaim event with
    | some claim =>
        if claim.eventId ∈ scan.eventIds then .ok scan.addUnknown
        else .ok { scan with claims := scan.claims ++ [claim] }
    | none => .ok scan.addUnknown

/-- One line. Only a `JSONDecodeError` is caught. -/
def readLine (scan : EventScan) (line : List Char) : Outcome EventScan :=
  match loads line with
  | .error .decode => .ok scan.addUnknown
  | .error .value =>
      .error (.interpreter "ValueError" "Exceeds the limit for integer string conversion")
  | .error .recursion =>
      .error (.interpreter "RecursionError" "maximum recursion depth exceeded")
  | .ok (.obj event) => scan.addParsed.readEvent event
  | .ok _ => .ok scan.addUnknown

end EventScan

/-- The characters at which `splitlines` breaks. -/
def isLineBreak (c : Char) : Bool :=
  [0x0A, 0x0B, 0x0C, 0x0D, 0x1C, 0x1D, 0x1E, 0x85, 0x2028, 0x2029].contains c.toNat

/-- `text.splitlines()`. -/
def splitLines : List Char → List (List Char)
  | [] => []
  | '\r' :: '\n' :: rest => [] :: splitLines rest
  | c :: rest =>
      if isLineBreak c then [] :: splitLines rest
      else
        match splitLines rest with
        | [] => [[c]]
        | line :: lines => (c :: line) :: lines

/-- The lines that the loop does not skip. -/
def eventLines (text : String) : List (List Char) := (splitLines text.toList).filter (· ≠ [])

/-! ## Section 4: Observations -/

namespace ControllerOperationObservation

/-- The observation is of a process. -/
def isProcess (o : ControllerOperationObservation) : Bool :=
  isOneOf ["LOCAL_CHECK_PROCESS", "GIT_READ_ONLY_INSPECTION"] o.operationClass

/-- The conditions on an observation alone. -/
def isWellFormed (o : ControllerOperationObservation) : Bool :=
  isOneOf codingOperationClasses o.operationClass
    && isOneOf ["CONTROLLER_EVENT", "PROCESS_OBSERVATION", "FILESYSTEM_DIFF", "GIT_DIFF"] o.source
    && (safeEventPaths o.pathSet).isSome
    && 0 < o.evidenceBytes.size
    && (!o.isProcess
      || (o.executable.isSome && o.argv ≠ [] && o.argv.all (· ≠ []) && o.cwd.isSome))
    && (o.isProcess || (o.executable = none && o.argv = [] && o.cwd = none))

/-- `_sha256(observation.evidence_bytes)`. -/
def evidenceSha256 (o : ControllerOperationObservation) : PyStr :=
  PyStr.ofString (sha256 o.evidenceBytes)

/-- `expected_claim`, for an observation with an event id. -/
def expectedClaim (o : ControllerOperationObservation) : Option OperationClaim :=
  o.eventId.map (fun eventId =>
    ⟨o.operationClass, eventId, o.executable, o.argv, o.cwd, o.pathSet, o.evidenceSha256⟩)

/-- `claims.get(observation.event_id) == expected_claim`. -/
def matchesClaim (claims : List OperationClaim) (o : ControllerOperationObservation) : Bool :=
  match o.expectedClaim with
  | some expected => claims.find? (fun claim => claim.eventId = expected.eventId) = some expected
  | none => false

/-- `valid` at the end of the loop body. -/
def isValid (claims : List OperationClaim) (o : ControllerOperationObservation) : Bool :=
  o.isWellFormed
    && if o.eventId.isSome then o.matchesClaim claims
      else isOneOf ["PROCESS_OBSERVATION", "FILESYSTEM_DIFF", "GIT_DIFF"] o.source

/-- The row of an observation. -/
def row (claims : List OperationClaim) (sequence : Nat) (o : ControllerOperationObservation) :
    OperationRow where
  sequence := sequence
  operationClass := o.operationClass
  source := o.source
  eventId := o.eventId
  executable := o.executable
  argv := o.argv
  cwd := o.cwd
  pathSet := o.pathSet
  status := if o.isValid claims then .pass else .hold
  evidenceSha256 := o.evidenceSha256

end ControllerOperationObservation

/-- The rows and the matched claims after some observations. `matched_claims` is a set, so an id
that is added twice counts once. -/
structure ObservationScan where
  unknownCount : Nat
  matchedClaims : List PyStr
  operationRows : List OperationRow

/-- One observation. -/
def ObservationScan.observe (claims : List OperationClaim) (scan : ObservationScan)
    (o : ControllerOperationObservation) : ObservationScan where
  unknownCount := scan.unknownCount + if o.isValid claims then 0 else 1
  matchedClaims :=
    scan.matchedClaims ++ if o.matchesClaim claims then o.eventId.toList else []
  operationRows := scan.operationRows ++ [o.row claims scan.operationRows.length]

/-- `parse_operation_events`. -/
def parseOperationEvents (payload : ByteArray)
    (controllerObservations : List ControllerOperationObservation) :
    Outcome ParsedOperationEvents :=
  match String.fromUTF8? payload with
  | none => .ok ⟨sha256 payload, payload.size, 0, 1, 0, none, []⟩
  | some text => do
      let scan ← (eventLines text).foldlM EventScan.readLine EventScan.start
      let observed := controllerObservations.foldl (ObservationScan.observe scan.claims)
        ⟨scan.unknownCount, [], []⟩
      let unmatched := scan.claims.filter (fun claim => !observed.matchedClaims.contains claim.eventId)
      .ok ⟨sha256 payload, payload.size, scan.parsedCount, observed.unknownCount + unmatched.length,
        scan.prohibitedCount, scan.finalResponseSha256, observed.operationRows⟩

end Acgps
