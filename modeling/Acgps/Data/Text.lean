import Acgps.Data.Json

/-!
# Text: messages, identifiers, digests, timestamps and paths

The character-level checks that every record validator shares, and the types of the strings that
passed one of them.

## Main Definitions

* `Text` - the text of a message, with the values of `!r` placeholders kept as values
* `SafeId`, `Sha256Hex`, `Utc` - strings that match `SAFE_ID_RE`, `SHA256_RE` and `UTC_RE`
* `utcInstant` - the instant a timestamp names
* `isSafeRelativePath` - the test both contract modules make on a relative path
-/

namespace Acgps

/-! ## Section 1: Messages -/

/-- A piece of a formatted message: literal text, or a value that an f-string prints with `!r`. -/
inductive Piece where
  | text (s : String)
  | repr (value : Json)
  | reprTuple (values : List Json)
  deriving DecidableEq

/-- The text of a message. -/
abbrev Text := List Piece

instance : Coe String Text := ⟨fun s => [.text s]⟩

/-- `type(value).__name__`. -/
def Json.typeName : Json → String
  | .null => "NoneType"
  | .bool _ => "bool"
  | .int _ => "int"
  | .float _ => "float"
  | .str _ => "str"
  | .arr _ => "list"
  | .obj _ => "dict"

/-- `_join`: the path of a field below another path. -/
def joinPath (pre path : String) : String :=
  if pre = "" then path else pre ++ "." ++ path

/-- The path of a list item. -/
def itemPath (path : String) (index : Nat) : String :=
  path ++ "[" ++ toString index ++ "]"

/-! ## Section 2: Exceptions -/

/-- A finding of a contract check. -/
structure ValidationIssue where
  path : String
  message : Text
  deriving DecidableEq

/-- A finding of a workflow record check. -/
structure WorkflowIssue where
  code : String
  path : String
  message : Text
  deriving DecidableEq

/-- What a call can raise. `interpreter` is an exception no module of the program defines. -/
inductive Failure where
  | contractValidation (contractName : String) (issues : List ValidationIssue)
  | unsupportedContractVersion (contractName : String) (version : Int)
  | workflowStore (issue : WorkflowIssue)
  | decisionQueue (message : Text)
  | reviewEvidence (message : Text)
  | policyEvaluation (message : Text)
  | workflowEngine (message : Text)
  | interpreter (className : String) (message : Text)
  deriving DecidableEq

/-- The findings of a contract check, separated by semicolons. -/
def issueDetails : List ValidationIssue → Text
  | [] => []
  | [issue] => .text issue.path :: .text ": " :: issue.message
  | issue :: rest => (.text issue.path :: .text ": " :: issue.message) ++ .text "; " :: issueDetails rest

/-- `str(exc)`. -/
def Failure.str : Failure → Text
  | .contractValidation contractName issues =>
      .text contractName :: .text " failed validation: " :: issueDetails issues
  | .unsupportedContractVersion contractName version =>
      [.text "unsupported version for ", .text contractName, .text ": ", .text (toString version)]
  | .workflowStore issue => .text issue.code :: .text ": " :: .text issue.path :: .text ": " :: issue.message
  | .decisionQueue message | .reviewEvidence message | .policyEvaluation message
  | .workflowEngine message | .interpreter _ message => message

/-- The outcome of a call. -/
abbrev Outcome (α : Type) := Except Failure α

/-! ## Section 3: Characters -/

/-- Code points of the decimal digit zero of every script in the Unicode character database. -/
def decimalZeros : List Nat :=
  [0x30, 0x660, 0x6f0, 0x7c0, 0x966, 0x9e6, 0xa66, 0xae6, 0xb66, 0xbe6, 0xc66, 0xce6, 0xd66,
    0xde6, 0xe50, 0xed0, 0xf20, 0x1040, 0x1090, 0x17e0, 0x1810, 0x1946, 0x19d0, 0x1a80, 0x1a90,
    0x1b50, 0x1bb0, 0x1c40, 0x1c50, 0xa620, 0xa8d0, 0xa900, 0xa9d0, 0xa9f0, 0xaa50, 0xabf0,
    0xff10, 0x104a0, 0x10d30, 0x11066, 0x110f0, 0x11136, 0x111d0, 0x112f0, 0x11450, 0x114d0,
    0x11650, 0x116c0, 0x11730, 0x118e0, 0x11950, 0x11c50, 0x11d50, 0x11da0, 0x16a60, 0x16ac0,
    0x16b50, 0x1d7ce, 0x1d7d8, 0x1d7e2, 0x1d7ec, 0x1d7f6, 0x1e140, 0x1e2f0, 0x1e950, 0x1fbf0]

/-- The value of a character that the regular expression class `\d` matches. -/
def decimalValue (c : Char) : Option Nat :=
  (decimalZeros.find? (fun first => first ≤ c.toNat && c.toNat < first + 10)).map (c.toNat - ·)

/-- The class `\d`. -/
def isDecimal (c : Char) : Bool := (decimalValue c).isSome

/-- `str.isspace` of one character. -/
def isSpace (c : Char) : Bool :=
  [0x9, 0xa, 0xb, 0xc, 0xd, 0x1c, 0x1d, 0x1e, 0x1f, 0x20, 0x85, 0xa0, 0x1680, 0x2000, 0x2001,
    0x2002, 0x2003, 0x2004, 0x2005, 0x2006, 0x2007, 0x2008, 0x2009, 0x200a, 0x2028, 0x2029,
    0x202f, 0x205f, 0x3000].contains c.toNat

theorem isDecimal_of_isDigit {c : Char} (h : c.isDigit = true) : isDecimal c = true := by
  have hcode : 48 ≤ c.toNat ∧ c.toNat < 48 + 10 := by
    simp only [Char.isDigit, Bool.and_eq_true, decide_eq_true_eq, UInt32.le_iff_toNat_le] at h
    change 48 ≤ c.toNat ∧ c.toNat ≤ 57 at h
    omega
  simp [isDecimal, decimalValue, decimalZeros, hcode.1, hcode.2]

/-- `not value.strip()`. -/
def isBlank (s : String) : Bool := s.toList.all isSpace

/-- The class `[0-9a-f]`. -/
def isLowerHex (c : Char) : Bool := c.isDigit || ('a' ≤ c && c ≤ 'f')

/-- The class `[A-Za-z0-9_.-]`. -/
def isIdChar (c : Char) : Bool := c.isAlphanum || c = '_' || c = '.' || c = '-'

/-! ## Section 4: Identifiers and digests -/

/-- `SAFE_ID_RE.fullmatch`. -/
def isSafeId (s : String) : Bool :=
  match s.toList with
  | [] => false
  | c :: rest => c.isAlphanum && rest.length ≤ 127 && rest.all isIdChar

/-- `SHA256_RE.fullmatch`. -/
def isSha256 (s : String) : Bool :=
  s.toList.length = 64 && s.toList.all isLowerHex

/-- A safe non-empty identifier. -/
abbrev SafeId := { s : String // isSafeId s = true }

/-- A lowercase SHA-256 hex string. -/
abbrev Sha256Hex := { s : String // isSha256 s = true }

/-! ## Section 5: Timestamps -/

/-- A text against a template whose `#` stands for one digit. -/
def matchesTemplate (digit : Char → Bool) : List Char → List Char → Bool
  | [], [] => true
  | t :: ts, c :: cs => (if t = '#' then digit c else c = t) && matchesTemplate digit ts cs
  | _, _ => false

/-- A template takes more when its digits may be of more kinds. -/
theorem matchesTemplate_mono {digit digit' : Char → Bool}
    (h : ∀ c, digit c = true → digit' c = true) :
    ∀ {template cs : List Char}, matchesTemplate digit template cs = true →
      matchesTemplate digit' template cs = true
  | [], [], _ => rfl
  | [], _ :: _, hmatch => hmatch
  | _ :: _, [], hmatch => hmatch
  | t :: template, c :: cs, hmatch => by
      simp only [matchesTemplate, Bool.and_eq_true] at hmatch ⊢
      refine ⟨?_, matchesTemplate_mono h hmatch.2⟩
      have hfirst := hmatch.1
      split at hfirst
      next hdigit => rw [if_pos hdigit]; exact h c hfirst
      next hdigit => rw [if_neg hdigit]; exact hfirst

/-- The template of `UTC_RE`. -/
def utcTemplate : List Char := "####-##-##T##:##:##Z".toList

/-- The template with milliseconds that the contracts also accept. -/
def utcMillisTemplate : List Char := "####-##-##T##:##:##.###Z".toList

/-- The number of days of a month. -/
def daysInMonth (year month : Nat) : Nat :=
  if month = 2 then
    if year % 4 = 0 ∧ (year % 100 ≠ 0 ∨ year % 400 = 0) then 29 else 28
  else if month = 4 ∨ month = 6 ∨ month = 9 ∨ month = 11 then 30
  else 31

/-- The calendar fields of a timestamp. -/
structure UtcFields where
  year : Nat
  month : Nat
  day : Nat
  hour : Nat
  minute : Nat
  second : Nat
  millisecond : Nat
  deriving DecidableEq

/-- A number written in decimal digits of any script. -/
def decimalNumber (cs : List Char) : Nat :=
  cs.foldl (fun n c => 10 * n + (decimalValue c).getD 0) 0

/-- A two-digit `strptime` field: the directives spell their first digit in ASCII, and their
second one too except after the first digits that `anyUnits` names. -/
def strptimeField (anyUnits : Nat → Bool) (cs : List Char) : Option Nat :=
  match cs with
  | [t, u] =>
      if t.isDigit && (u.isDigit || anyUnits (t.toNat - 48)) then some (decimalNumber cs) else none
  | _ => none

/-- `datetime.strptime(value, "%Y-%m-%dT%H:%M:%SZ")` (with `.%f` before the `Z` when there is a
fraction), on a text that matches the template. -/
def strptimeUtc (cs : List Char) : Option UtcFields := do
  let year := decimalNumber (cs.take 4)
  let month ← strptimeField (fun _ => false) ((cs.drop 5).take 2)
  let day ← strptimeField (fun t => t = 1 || t = 2) ((cs.drop 8).take 2)
  let hour ← strptimeField (fun t => t ≤ 1) ((cs.drop 11).take 2)
  let minute ← strptimeField (fun t => t ≤ 5) ((cs.drop 14).take 2)
  let second ← strptimeField (fun t => t ≤ 5) ((cs.drop 17).take 2)
  let fraction := ((cs.drop 20).take 3)
  if 1 ≤ year && 1 ≤ month && month ≤ 12 && 1 ≤ day && day ≤ daysInMonth year month
      && hour ≤ 23 && minute ≤ 59 && second ≤ 59 && fraction.all Char.isDigit then
    some ⟨year, month, day, hour, minute, second, decimalNumber fraction⟩
  else none

/-- A canonical whole-second UTC timestamp: it matches `UTC_RE`, names an existing instant and is
what `strftime` prints for it. -/
def isUtc (s : String) : Bool :=
  matchesTemplate Char.isDigit utcTemplate s.toList && (strptimeUtc s.toList).isSome

/-- A canonical RFC 3339 UTC timestamp in whole seconds. -/
abbrev Utc := { s : String // isUtc s = true }

/-- `_is_rfc3339_utc`: milliseconds are allowed, and `\d` matches digits of every script. -/
def isRfc3339Utc (s : String) : Bool :=
  (matchesTemplate isDecimal utcTemplate s.toList
      || matchesTemplate isDecimal utcMillisTemplate s.toList)
    && (strptimeUtc s.toList).isSome

/-- The instants of UTC, in milliseconds of a calendar with 31-day months: enough to order them. -/
def UtcFields.instant (f : UtcFields) : Nat :=
  (((((f.year * 12 + (f.month - 1)) * 31 + (f.day - 1)) * 24 + f.hour) * 60 + f.minute) * 60
    + f.second) * 1000 + f.millisecond

/-- `_utc_instant` on a text that is RFC 3339 for the contracts: `fromisoformat` reads ASCII
digits only. -/
def utcInstant (s : String) : Option Nat :=
  if matchesTemplate Char.isDigit utcTemplate s.toList
      || matchesTemplate Char.isDigit utcMillisTemplate s.toList then
    (strptimeUtc s.toList).map UtcFields.instant
  else none

/-! ## Section 6: Paths -/

/-- `re.match(r"^[A-Za-z]:", value)`. -/
def hasDriveLetter (s : String) : Bool :=
  match s.toList with
  | c :: ':' :: _ => c.isAlpha
  | _ => false

/-- A part in `("", ".", "..")`. -/
def isDotPart (part : List Char) : Bool :=
  part = [] || part = ['.'] || part = ['.', '.']

/-- `_is_safe_relative_path`. -/
def isSafeRelativePath (s : String) : Bool :=
  if s = "" || s.toList.contains '\\' then false
  else if s.toList.head? = some '/' || hasDriveLetter s then false
  else (s.toList.splitOn '/').all (fun part => !isDotPart part)

/-- `_is_windows_absolute_path`. -/
def isWindowsAbsolutePath (s : String) : Bool :=
  match s.toList with
  | c :: ':' :: '\\' :: rest =>
      c.isAlpha && !rest.contains '\x00'
        && (rest = [] || (rest.splitOn '\\').all (fun part => !isDotPart part))
  | _ => false

end Acgps
