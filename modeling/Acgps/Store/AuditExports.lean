import Acgps.Lib.Lines
import Acgps.Data.JsonText
import Acgps.Store.CommitHistory

/-!
# Audit exports

After the COMMIT the line of an event is appended to the export of its generation, unless it is
there. A crash can cut the write short; the exact replay of the commit looks for the whole line
and appends it again.

## Main Definitions

* `ensureAuditExportLine` - `_ensure_audit_export_line` on the bytes of an export
* `ExportedStore`, `commitAndExport` - the tables with the exports beside them, and a commit
* `ReplayReconciles` - what a replay and the commits after it should leave

## Key Theorems

* `ensureAuditExportLine_fileOf`, `ensureAuditExportLine_torn` - what one call does
* `runExports_steps` - **a file of lines stays a file of lines over every run**
* `export_reconciled_iff` - **the replay repairs the export iff nothing or the whole line was
  written**
-/

namespace Acgps

open Checked Lines

/-! ## Section 1: Canonical texts are lines -/

private theorem isLine_of_isFloatChar {text : List Char}
    (h : ∀ c ∈ text, isFloatChar c = true) : IsLine text := by
  have hfeed : isFloatChar '\n' = false := by decide
  have hreturn : isFloatChar '\r' = false := by decide
  intro c hc
  have hfloat := h c hc
  constructor
  · rintro rfl
    rw [hfeed] at hfloat
    cases hfloat
  · rintro rfl
    rw [hreturn] at hfloat
    cases hfloat

private theorem isLine_unicodeEscape (n : Nat) : IsLine (unicodeEscape n) := by
  have hdigit : ∀ m < 16, hexDigit m ≠ '\n' ∧ hexDigit m ≠ '\r' := by decide
  intro c hc
  simp only [unicodeEscape, List.mem_cons, List.not_mem_nil, or_false] at hc
  rcases hc with rfl | rfl | rfl | rfl | rfl | rfl
  · decide
  · decide
  · exact hdigit _ (by omega)
  · exact hdigit _ (by omega)
  · exact hdigit _ (by omega)
  · exact hdigit _ (by omega)

private theorem isLine_escapeChar (c : Char) : IsLine (escapeChar c) := by
  have hpair : ∀ a b : Char, a ≠ '\n' ∧ a ≠ '\r' → b ≠ '\n' ∧ b ≠ '\r' → IsLine [a, b] := by
    intro a b ha hb d hd
    simp only [List.mem_cons, List.not_mem_nil, or_false] at hd
    rcases hd with rfl | rfl
    · exact ha
    · exact hb
  apply escapeChar_cases IsLine
  · have hescapes : ∀ b ∈ ['"', '\\', 'n', 'r', 't', 'b', 'f'], b ≠ '\n' ∧ b ≠ '\r' := by simp
    intro b hb
    exact hpair _ _ (by decide) (hescapes b hb)
  · intro _ _ hfeed hreturn d hd
    rw [List.mem_singleton.mp hd]
    exact ⟨hfeed, hreturn⟩
  · exact isLine_unicodeEscape
  · intro m n
    exact (isLine_unicodeEscape m).append (isLine_unicodeEscape n)

private theorem isLine_cons {c : Char} {text : List Char} (hc : c ≠ '\n' ∧ c ≠ '\r')
    (h : IsLine text) : IsLine (c :: text) := by
  intro d hd
  rcases List.mem_cons.mp hd with rfl | hd
  · exact hc
  · exact h d hd

private theorem isLine_singleton {c : Char} (hc : c ≠ '\n' ∧ c ≠ '\r') : IsLine [c] :=
  isLine_cons hc nofun

private theorem isLine_dumpsStr (s : String) : IsLine (dumpsStr s) := by
  apply isLine_cons (by decide)
  apply IsLine.append _ (isLine_singleton (by decide))
  intro d hd
  obtain ⟨c, _, hc⟩ := List.mem_flatMap.mp hd
  exact isLine_escapeChar c d hc

private theorem isLine_toString (n : Int) : IsLine (toString n).toList := by
  have hdigits : ∀ m : Nat, IsLine (Nat.repr m).toList := by
    intro m
    apply isLine_of_isFloatChar
    intro c hc
    rw [Nat.repr, String.toList_ofList] at hc
    have hdigit : c.isDigit = true := Nat.isDigit_of_mem_toDigits (by decide) (by decide) hc
    simp [isFloatChar, Char.isAlphanum, hdigit]
  cases n with
  | ofNat m => exact hdigits m
  | negSucc m =>
      show IsLine ("-" ++ Nat.repr (m + 1)).toList
      rw [String.toList_append]
      exact IsLine.append (isLine_singleton (by decide)) (hdigits _)

namespace Json

mutual

/-- **The canonical text of a value is one line.** -/
theorem isLine_dumps : ∀ v : Json, IsLine v.dumps
  | .null => isLine_of_all (by decide)
  | .bool true => isLine_of_all (by decide)
  | .bool false => isLine_of_all (by decide)
  | .int n => isLine_toString n
  | .float repr => isLine_of_isFloatChar (List.all_eq_true.mp repr.property)
  | .str s => isLine_dumpsStr s
  | .arr items =>
      isLine_cons (by decide) ((isLine_dumpsItems items).append (isLine_singleton (by decide)))
  | .obj members =>
      isLine_cons (by decide)
        ((isLine_dumpsMembers members).append (isLine_singleton (by decide)))

private theorem isLine_dumpsItems : ∀ items : List Json, IsLine (dumpsItems items)
  | [] => nofun
  | [v] => isLine_dumps v
  | v :: w :: rest =>
      (isLine_dumps v).append (isLine_cons (by decide) (isLine_dumpsItems (w :: rest)))

private theorem isLine_dumpsMembers : ∀ members : List (String × Json),
    IsLine (dumpsMembers members)
  | [] => nofun
  | [(k, v)] => (isLine_dumpsStr k).append (isLine_cons (by decide) (isLine_dumps v))
  | (k, v) :: w :: rest =>
      (isLine_dumpsStr k).append (isLine_cons (by decide) ((isLine_dumps v).append
        (isLine_cons (by decide) (isLine_dumpsMembers (w :: rest)))))

end

end Json

/-! ## Section 2: One export -/

/-- `_ensure_audit_export_line`, with the bytes of the export before and after, or `none` for a
file that is not there. The texts are ASCII, so their characters are their bytes. -/
def ensureAuditExportLine (file : Option (List Char)) (eventJson : List Char) :
    Outcome (List Char) :=
  let line := eventJson ++ ['\n']
  let lines := splitKeepends (file.getD [])
  if line ∈ lines then
    if 1 < lines.count line then
      .error (auditCorruptError "audit_event" "audit export contains duplicate event")
    else .ok (file.getD [])
  else .ok (file.getD [] ++ line)

/-- What a call does to the lines of an export: nothing, or a new line at the end. -/
def ExportStep (lines lines' : List (List Char)) : Prop :=
  lines' = lines ∨ ∃ line, IsLine line ∧ line ∉ lines ∧ lines' = lines ++ [line]

/-- **A call on a file of lines** leaves a file of lines, with the line of the event once. -/
theorem ensureAuditExportLine_fileOf {file : Option (List Char)} {lines : List (List Char)}
    {json bytes : List Char} (hfile : file.getD [] = fileOf lines)
    (hlines : ∀ line ∈ lines, IsLine line) (hjson : IsLine json)
    (h : ensureAuditExportLine file json = .ok bytes) :
    ∃ lines', bytes = fileOf lines' ∧ ExportStep lines lines' ∧ lines'.count json = 1 := by
  have hcount := count_splitKeepends_fileOf hlines json
  have hmem : json ++ ['\n'] ∈ splitKeepends (fileOf lines) ↔ json ∈ lines := by
    rw [← List.count_pos_iff, hcount, List.count_pos_iff]
  simp only [ensureAuditExportLine, hfile, hmem, hcount] at h
  split_ifs at h with hknown hrepeated
  · cases h
    have hpos := List.count_pos_iff.mpr hknown
    exact ⟨lines, rfl, .inl rfl, by omega⟩
  · cases h
    refine ⟨lines ++ [json], (fileOf_concat lines json).symm, .inr ⟨json, hjson, hknown, rfl⟩, ?_⟩
    rw [List.count_append, List.count_eq_zero_of_not_mem hknown, List.count_singleton_self]

/-- A call on a file that ends with the line of the event leaves it as it is. -/
theorem ensureAuditExportLine_whole {file : Option (List Char)} {lines : List (List Char)}
    {json : List Char} (hfile : file.getD [] = fileOf (lines ++ [json]))
    (hlines : ∀ line ∈ lines, IsLine line) (hjson : IsLine json) (hnew : json ∉ lines) :
    ensureAuditExportLine file json = .ok (fileOf (lines ++ [json])) := by
  have hcount := count_splitKeepends_fileOf (isLine_concat hlines hjson) json
  rw [List.count_append, List.count_eq_zero_of_not_mem hnew, List.count_singleton_self] at hcount
  have hfound : json ++ ['\n'] ∈ splitKeepends (fileOf (lines ++ [json])) := by
    rw [← List.count_pos_iff, hcount]
    exact Nat.zero_lt_one
  rw [ensureAuditExportLine, hfile, if_pos hfound, hcount, if_neg (Nat.lt_irrefl 1)]

/-- **A call on a file that ends in a torn line** continues the torn line. -/
theorem ensureAuditExportLine_torn {file : Option (List Char)} {lines : List (List Char)}
    {torn json : List Char} (hfile : file.getD [] = fileOf lines ++ torn)
    (hlines : ∀ line ∈ lines, IsLine line) (htorn : IsLine torn) (hnew : json ∉ lines) :
    ensureAuditExportLine file json = .ok (fileOf (lines ++ [torn ++ json])) := by
  have hnotFound := mt (mem_splitKeepends_torn hlines htorn).mp hnew
  rw [fileOf_concat, ensureAuditExportLine, hfile, if_neg hnotFound]
  simp

/-! ## Section 3: Commits with their exports -/

variable [Digest]

/-- The tables, and the export of each generation of each task. -/
structure ExportedStore where
  store : ControlStore
  exports : String → Nat → Option (List Char)

namespace ExportedStore

/-- The bytes of the export that an event belongs to. -/
def exportOf (db : ExportedStore) (e : AuditEvent) : List Char :=
  (db.exports e.taskId.val e.generation.val).getD []

/-- The exports with new bytes for the generation of an event. -/
def setExport (db : ExportedStore) (e : AuditEvent) (bytes : List Char) : ExportedStore :=
  { db with exports := fun taskId generation =>
      if taskId = e.taskId.val ∧ generation = e.generation.val then some bytes
      else db.exports taskId generation }

end ExportedStore

/-- `commit_task_state_and_audit` with the export of its event. -/
def commitAndExport (db : ExportedStore) (event state : Json) : Outcome Bool × ExportedStore :=
  match prepareCommit event state with
  | .error failure => (.error failure, db)
  | .ok (e, s) =>
      match commitTransaction db.store e s with
      | (.error failure, store) => (.error failure, { db with store := store })
      | (.ok committed, store) =>
          let db := { db with store := store }
          match ensureAuditExportLine (db.exports e.taskId.val e.generation.val)
              e.toJson.dumps with
          | .error failure => (.error failure, db)
          | .ok bytes => (.ok committed, db.setExport e bytes)

/-- A run of commits. -/
def runExports (db : ExportedStore) (calls : List (Json × Json)) : ExportedStore :=
  calls.foldl (fun db call => (commitAndExport db call.1 call.2).2) db

theorem runExports_append (db : ExportedStore) (a b : List (Json × Json)) :
    runExports db (a ++ b) = runExports (runExports db a) b := by
  rw [runExports, List.foldl_append]
  rfl

/-- **What a call can do**: it raises and touches no export, or its event's export is ensured. -/
theorem commitAndExport_cases (db : ExportedStore) (event state : Json) :
    (∃ failure, (commitAndExport db event state).1 = .error failure ∧
      (commitAndExport db event state).2.exports = db.exports) ∨
    ∃ e s committed store bytes, prepareCommit event state = .ok (e, s) ∧
      commitTransaction db.store e s = (.ok committed, store) ∧
      ensureAuditExportLine (db.exports e.taskId.val e.generation.val) e.toJson.dumps = .ok bytes ∧
      commitAndExport db event state
        = (.ok committed, ExportedStore.setExport { db with store := store } e bytes) := by
  unfold commitAndExport
  cases hprepare : prepareCommit event state with
  | error failure => exact .inl ⟨failure, rfl, rfl⟩
  | ok pair =>
      obtain ⟨e, s⟩ := pair
      dsimp only
      cases hrows : commitTransaction db.store e s with
      | mk outcome store =>
          cases outcome with
          | error failure => exact .inl ⟨failure, rfl, rfl⟩
          | ok committed =>
              dsimp only
              cases hensure : ensureAuditExportLine
                  (db.exports e.taskId.val e.generation.val) e.toJson.dumps with
              | error failure => exact .inl ⟨failure, rfl, rfl⟩
              | ok bytes => exact .inr ⟨e, s, committed, store, bytes, rfl, hrows, hensure, rfl⟩

/-- Two events of one generation of one task have one export. -/
def AuditEvent.SharesExport (e e' : AuditEvent) : Prop :=
  e.taskId = e'.taskId ∧ e.generation = e'.generation

omit [Digest] in
/-- An export that is set is the export of its events. -/
theorem ExportedStore.exportOf_setExport {db : ExportedStore} {e e' : AuditEvent}
    (h : e.SharesExport e') (bytes : List Char) : (db.setExport e' bytes).exportOf e = bytes := by
  simp [exportOf, setExport, h.1, h.2]

omit [Digest] in
/-- Other exports stay as they are. -/
theorem ExportedStore.exportOf_setExport_ne {db : ExportedStore} {e e' : AuditEvent}
    (h : ¬ e.SharesExport e') (bytes : List Char) :
    (db.setExport e' bytes).exportOf e = db.exportOf e := by
  have hkey : ¬ (e.taskId.val = e'.taskId.val ∧ e.generation.val = e'.generation.val) :=
    fun hval => h ⟨Subtype.ext hval.1, Subtype.ext hval.2⟩
  simp only [exportOf, setExport, if_neg hkey]

/-- **One commit** leaves the export of a generation a file of lines, and a commit that returns has
its line there once. -/
theorem commitAndExport_step {db : ExportedStore} {e : AuditEvent} {lines : List (List Char)}
    (hfile : db.exportOf e = fileOf lines) (hlines : ∀ line ∈ lines, IsLine line)
    (event state : Json) :
    ∃ lines', (commitAndExport db event state).2.exportOf e = fileOf lines' ∧
      ExportStep lines lines' ∧
      ∀ (later : AuditEvent) (s : WorkflowTaskState) (committed : Bool),
        prepareCommit event state = .ok (later, s) → e.SharesExport later →
        (commitAndExport db event state).1 = .ok committed →
        lines'.count later.toJson.dumps = 1 := by
  rcases commitAndExport_cases db event state with
    ⟨failure, hfailure, hexports⟩ | ⟨e', s, committed, store, bytes, hprepare, _, hensure, hcall⟩
  · refine ⟨lines, ?_, .inl rfl, ?_⟩
    · rw [ExportedStore.exportOf, hexports]
      exact hfile
    · intro later s committed _ _ hok
      rw [hfailure] at hok
      cases hok
  · by_cases hshares : e.SharesExport e'
    · rw [ExportedStore.exportOf, hshares.1, hshares.2] at hfile
      obtain ⟨lines', rfl, hstep, hcount⟩ :=
        ensureAuditExportLine_fileOf hfile hlines (Json.isLine_dumps _) hensure
      refine ⟨lines', ?_, hstep, ?_⟩
      · rw [hcall]
        exact ExportedStore.exportOf_setExport hshares _
      · intro later s' _ hlater _ _
        rw [hprepare] at hlater
        cases hlater
        exact hcount
    · refine ⟨lines, ?_, .inl rfl, ?_⟩
      · rw [hcall, ExportedStore.exportOf_setExport_ne hshares]
        exact hfile
      · intro later s' _ hlater hother _
        rw [hprepare] at hlater
        cases hlater
        exact absurd hother hshares

omit [Digest] in
theorem ExportStep.isLine {lines lines' : List (List Char)} (h : ExportStep lines lines')
    (hlines : ∀ line ∈ lines, IsLine line) : ∀ line ∈ lines', IsLine line := by
  rcases h with rfl | ⟨new, hnew, _, rfl⟩
  · exact hlines
  · exact isLine_concat hlines hnew

/-- The lines that are there stay in front, and none of them comes a second time. -/
def LinesKept (lines lines' : List (List Char)) : Prop :=
  lines <+: lines' ∧ ∀ line ∈ lines, lines'.count line = lines.count line

omit [Digest] in
theorem LinesKept.refl (lines : List (List Char)) : LinesKept lines lines :=
  ⟨List.prefix_rfl, fun _ _ => rfl⟩

omit [Digest] in
theorem LinesKept.trans {a b c : List (List Char)} (h : LinesKept a b) (h' : LinesKept b c) :
    LinesKept a c := by
  refine ⟨h.1.trans h'.1, fun line hline => ?_⟩
  rw [h'.2 line (h.1.subset hline), h.2 line hline]

omit [Digest] in
theorem ExportStep.kept {lines lines' : List (List Char)} (h : ExportStep lines lines') :
    LinesKept lines lines' := by
  rcases h with rfl | ⟨new, _, hnew, rfl⟩
  · exact .refl _
  · refine ⟨List.prefix_append _ _, fun line hline => ?_⟩
    have hne : line ≠ new := fun heq => hnew (heq ▸ hline)
    rw [List.count_append, List.count_eq_zero_of_not_mem (l := [new]) (by simpa using hne),
      Nat.add_zero]

/-- **A file of lines stays a file of lines over every run**, by induction on the calls. -/
theorem runExports_steps {e : AuditEvent} (calls : List (Json × Json)) :
    ∀ {db : ExportedStore} {lines : List (List Char)}, db.exportOf e = fileOf lines →
      (∀ line ∈ lines, IsLine line) →
      ∃ lines', (runExports db calls).exportOf e = fileOf lines' ∧
        (∀ line ∈ lines', IsLine line) ∧ LinesKept lines lines' := by
  induction calls with
  | nil =>
      intro db lines hfile hlines
      exact ⟨lines, hfile, hlines, .refl lines⟩
  | cons call calls ih =>
      intro db lines hfile hlines
      obtain ⟨next, hnext, hstep, -⟩ := commitAndExport_step hfile hlines call.1 call.2
      obtain ⟨lines', hlines', hall, hkept⟩ := ih hnext (hstep.isLine hlines)
      exact ⟨lines', hlines', hall, hstep.kept.trans hkept⟩

/-! ## Section 4: Replays -/

/-- What the replay of a commit should leave: behind the earlier lines the line of the event, and
over every run of later commits these lines in front, and the line of every commit of the
generation that returns once among the whole lines. -/
structure ReplayReconciles (db : ExportedStore) (e : AuditEvent)
    (earlier : List (List Char)) : Prop where
  lines : terminatedLines (db.exportOf e) = earlier ++ [e.toJson.dumps]
  kept : ∀ calls : List (Json × Json),
    earlier ++ [e.toJson.dumps] <+: terminatedLines ((runExports db calls).exportOf e)
  later : ∀ (before after : List (Json × Json)) (call : Json × Json) (e' : AuditEvent)
    (s : WorkflowTaskState) (committed : Bool),
    prepareCommit call.1 call.2 = .ok (e', s) → e.SharesExport e' →
    (commitAndExport (runExports db before) call.1 call.2).1 = .ok committed →
    (terminatedLines ((runExports db (before ++ call :: after)).exportOf e)).count
      e'.toJson.dumps = 1

/-- A file of lines that ends with the line of the event is what a replay should leave. -/
theorem replayReconciles_of_fileOf {db : ExportedStore} {e : AuditEvent}
    {earlier : List (List Char)} (hfile : db.exportOf e = fileOf (earlier ++ [e.toJson.dumps]))
    (hearlier : ∀ line ∈ earlier, IsLine line) : ReplayReconciles db e earlier := by
  have hlines := isLine_concat hearlier (Json.isLine_dumps e.toJson)
  constructor
  · rw [hfile, terminatedLines_fileOf hlines]
  · intro calls
    obtain ⟨lines', hlines', hall, hkept⟩ := runExports_steps calls hfile hlines
    rw [hlines', terminatedLines_fileOf hall]
    exact hkept.1
  · intro before after call e' s committed hprepare hshares hok
    obtain ⟨middle, hmiddle, hmiddleLines, -⟩ := runExports_steps before hfile hlines
    obtain ⟨next, hnext, hstep, hcount⟩ :=
      commitAndExport_step hmiddle hmiddleLines call.1 call.2
    have hone := hcount e' s committed hprepare hshares hok
    obtain ⟨final, hfinal, hfinalLines, hkept⟩ :=
      runExports_steps after hnext (hstep.isLine hmiddleLines)
    have hrun : runExports db (before ++ call :: after)
        = runExports (commitAndExport (runExports db before) call.1 call.2).2 after := by
      rw [runExports_append]
      rfl
    rw [hrun, hfinal, terminatedLines_fileOf hfinalLines,
      hkept.2 _ (List.count_pos_iff.mp (by omega)), hone]

/-- An exact replay of a committed pair writes no row, and ensures the line. -/
theorem commitAndExport_replay {db : ExportedStore} {e : AuditEvent} {s : WorkflowTaskState}
    {bytes : List Char} (hpair : CommitPair e s) (hcommitted : decideCommit db.store e s = .ok false)
    (hensure : ensureAuditExportLine (db.exports e.taskId.val e.generation.val) e.toJson.dumps
      = .ok bytes) :
    commitAndExport db e.toJson s.toJson = (.ok false, db.setExport e bytes) := by
  have hprepare := prepareCommit_eq_ok.mpr ⟨rfl, rfl, hpair⟩
  simp only [commitAndExport, hprepare, commitTransaction, hcommitted, hensure]

/-- **The replay repairs the export iff nothing or the whole line was written.** The event is
committed, its line is not among the earlier ones, and the crash left a prefix of it. -/
theorem export_reconciled_iff {db : ExportedStore} {e : AuditEvent} {s : WorkflowTaskState}
    {earlier : List (List Char)} {torn : List Char} (hpair : CommitPair e s)
    (hcommitted : decideCommit db.store e s = .ok false)
    (hearlier : ∀ line ∈ earlier, IsLine line) (hnew : e.toJson.dumps ∉ earlier)
    (htorn : torn <+: e.toJson.dumps ++ ['\n'])
    (hfile : db.exportOf e = fileOf earlier ++ torn) :
    ReplayReconciles (commitAndExport db e.toJson s.toJson).2 e earlier ↔
      torn = [] ∨ torn = e.toJson.dumps ++ ['\n'] := by
  have hline := Json.isLine_dumps e.toJson
  rcases List.prefix_concat_iff.mp htorn with rfl | hpart
  · -- the whole line was written, and is found
    rw [← fileOf_concat] at hfile
    have hcall := commitAndExport_replay hpair hcommitted
      (ensureAuditExportLine_whole hfile hearlier hline hnew)
    refine iff_of_true ?_ (Or.inr rfl)
    rw [hcall]
    exact replayReconciles_of_fileOf (ExportedStore.exportOf_setExport ⟨rfl, rfl⟩ _) hearlier
  · -- the line is torn, and what is appended continues it
    have hlineTorn : IsLine torn := fun c hc => hline c (hpart.subset hc)
    have hcall := commitAndExport_replay hpair hcommitted
      (ensureAuditExportLine_torn hfile hearlier hlineTorn hnew)
    rw [hcall]
    constructor
    · intro hreconciled
      left
      have hlines := hreconciled.lines
      have hall : ∀ line ∈ earlier ++ [torn ++ e.toJson.dumps], IsLine line :=
        isLine_concat hearlier (hlineTorn.append hline)
      rw [ExportedStore.exportOf_setExport ⟨rfl, rfl⟩, terminatedLines_fileOf hall,
        List.append_cancel_left_eq, List.singleton_inj] at hlines
      exact List.append_left_eq_self.mp hlines
    · intro hwritten
      rcases hwritten with rfl | hwhole
      · exact replayReconciles_of_fileOf (ExportedStore.exportOf_setExport ⟨rfl, rfl⟩ _) hearlier
      · exact absurd rfl (hlineTorn '\n' (by simp [hwhole])).1

/-- The first creation is committed, and the crash left `torn` in its export. -/
def crashedStore (torn : List Char) : ExportedStore :=
  letI := firstDigest
  ⟨ControlStore.empty.write firstCreation (stateOfCreation firstCreation), fun _ _ => some torn⟩

omit [Digest] in
theorem decideCommit_crashedStore (torn : List Char) :
    letI := firstDigest
    decideCommit (crashedStore torn).store firstCreation (stateOfCreation firstCreation)
      = .ok false := by
  let _ := firstDigest
  exact decideCommit_eq_false.mpr ⟨by decide, by decide, rfl, rfl⟩

omit [Digest] in
/-- A crash before the first byte. -/
theorem export_reconciled_untouched :
    letI := firstDigest
    ReplayReconciles (commitAndExport (crashedStore []) firstCreation.toJson
      (stateOfCreation firstCreation).toJson).2 firstCreation [] := by
  let _ := firstDigest
  have hfile : (crashedStore []).exportOf firstCreation = fileOf [] ++ [] := rfl
  refine (export_reconciled_iff commitPair_firstCreation (decideCommit_crashedStore [])
    (by simp) (by simp) List.nil_prefix hfile).mpr (.inl rfl)

omit [Digest] in
/-- A crash behind the first byte: the replay returns, and glues the line to the torn one. -/
theorem torn_export_glued :
    letI := firstDigest
    CommitPair firstCreation (stateOfCreation firstCreation) ∧
      decideCommit (crashedStore ['\x7b']).store firstCreation (stateOfCreation firstCreation)
        = .ok false ∧
      ['\x7b'] <+: firstCreation.toJson.dumps ++ ['\n'] ∧
      (crashedStore ['\x7b']).exportOf firstCreation = fileOf [] ++ ['\x7b'] ∧
      (commitAndExport (crashedStore ['\x7b']) firstCreation.toJson
        (stateOfCreation firstCreation).toJson).1 = .ok false ∧
      ¬ ReplayReconciles (commitAndExport (crashedStore ['\x7b']) firstCreation.toJson
        (stateOfCreation firstCreation).toJson).2 firstCreation [] := by
  let _ := firstDigest
  have hline := Json.isLine_dumps firstCreation.toJson
  have hbrace : IsLine ['\x7b'] := isLine_of_all (by decide)
  have hfile : (some ['\x7b']).getD [] = fileOf [] ++ ['\x7b'] := rfl
  have hcall := commitAndExport_replay commitPair_firstCreation
    (decideCommit_crashedStore ['\x7b'])
    (ensureAuditExportLine_torn hfile (by simp) hbrace (by simp))
  refine ⟨commitPair_firstCreation, decideCommit_crashedStore _, ?_, rfl, ?_, ?_⟩
  · exact ⟨_, rfl⟩
  · rw [hcall]
  · intro hreconciled
    have hlines := hreconciled.lines
    rw [hcall, ExportedStore.exportOf_setExport ⟨rfl, rfl⟩, List.nil_append,
      terminatedLines_fileOf (by simpa using hbrace.append hline), List.nil_append,
      List.singleton_inj] at hlines
    exact absurd (List.append_left_eq_self.mp hlines) (by simp)

end Acgps
