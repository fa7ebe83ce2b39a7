import Acgps.Data.JsonCode
import Acgps.Platform
import Mathlib.Data.List.TakeWhile

/-!
# What json.loads makes of an untrusted text

The lines an executor writes are decoded by the standard library before any check of the program
sees them. Their strings may hold lone surrogates, their objects may repeat keys, and a scan that
fails may fail in more than one way.

## Main Definitions

* `PyStr` - a Python string as its code points
* `PyJson` - a decoded value
* `Interpreter` - the limits of the interpreter, and digests of bytes
* `loads`, `strictJsonMapping` - `json.loads`, and `_strict_json_mapping`

## Key Theorems

* `PyStr.encode_ofString` - the text of a string encodes back to itself
-/

namespace Acgps

open Checked

/-! ## Section 1: Strings and values -/

/-- A Python string: its code points, lone surrogates included. -/
abbrev PyStr := List Nat

instance PyStr.lawfulBEq : LawfulBEq PyStr := inferInstance

namespace PyStr

/-- A string literal. -/
def ofString (s : String) : PyStr := s.toList.map Char.toNat

/-- One character of `value.encode("utf-8")`, which refuses a surrogate. -/
def encodePoint (point : Nat) : Option Char :=
  if point.isValidChar then some (Char.ofNat point) else none

/-- The text that `value.encode("utf-8")` spells. -/
def encode (value : PyStr) : Option (List Char) := value.mapM encodePoint

/-- The string with every surrogate replaced. No check of a contract tells two characters apart
that are neither spaces nor in its vocabulary, so a contract may read the replaced string. -/
def replaced (value : PyStr) : String :=
  String.ofList (value.map (fun point => (encodePoint point).getD (Char.ofNat 0xFFFD)))

/-- **A text encodes back to itself.** -/
theorem encode_ofString (s : String) : encode (ofString s) = some s.toList := by
  have hpoints : ∀ text : List Char, (text.map Char.toNat).mapM encodePoint = some text := by
    intro text
    induction text with
    | nil => rfl
    | cons c rest ih =>
        have hc : encodePoint c.toNat = some c := by
          rw [encodePoint, if_pos (show c.toNat.isValidChar from c.valid), Char.ofNat_toNat]
        rw [List.map_cons, List.mapM_cons, hc, ih]
        rfl
  exact hpoints s.toList

end PyStr

/-- A value that `json.loads` returns. An object lists its members in the order in which their
keys came first; a float is kept as the numeral it was written as. -/
inductive PyJson where
  | null
  | bool (b : Bool)
  | int (n : Int)
  | float (numeral : List Char)
  | str (s : PyStr)
  | arr (items : List PyJson)
  | obj (members : List (PyStr × PyJson))

namespace PyJson

instance : Inhabited PyJson := ⟨.null⟩

/-- `isinstance(value, str)`, with the string itself. -/
def asStr : PyJson → Option PyStr
  | .str s => some s
  | _ => none

/-- `isinstance(value, list)` with only strings inside, with the strings. -/
def asStrs : PyJson → Option (List PyStr)
  | .arr items => items.mapM asStr
  | _ => none

/-- `record.get(key)` on the members of an object. -/
def get (members : List (PyStr × PyJson)) (key : String) : PyJson :=
  (members.lookup (PyStr.ofString key)).getD .null

/-- `set(record) == {...}`. -/
def hasKeys (members : List (PyStr × PyJson)) (expected : List String) : Bool :=
  members.all (fun member => (expected.map PyStr.ofString).contains member.1)
    && expected.all (fun key => (members.map Prod.fst).contains (PyStr.ofString key))

end PyJson

/-! ## Section 2: The interpreter -/

/-- Why a call of `json.loads` fails: a `JSONDecodeError`, another `ValueError`, or a
`RecursionError`. -/
inductive LoadsError where
  | decode
  | value
  | recursion
  deriving DecidableEq

/-- The interpreter under the event scan: the digest of bytes, the printed form of a float, and
the texts whose nesting exhausts the stack that the scan finds. -/
class Interpreter extends Platform where
  sha256 : ByteArray → String
  floatRepr : List Char → FloatText
  loadsRecursion : List Char → Bool
  strictLoadsRecursion : List Char → Bool

export Interpreter (sha256)

theorem isFloatChar_zero : "0.0".toList.all isFloatChar = true := by decide

/-- An interpreter with one digest for everything and a deep stack. -/
@[reducible] def smallestInterpreter : Interpreter where
  canonicalSha := fun _ => unarySha 0
  taskToken := fun _ => "0000000000000000"
  fileSha := fun _ => unarySha 0
  casefold := id
  repr := fun _ => ""
  floatEq := fun _ _ => false
  sha256 := fun _ => unarySha 0
  floatRepr := fun _ => ⟨"0.0", isFloatChar_zero⟩
  loadsRecursion := fun _ => false
  strictLoadsRecursion := fun _ => false

/-- The default of `sys.int_info.default_max_str_digits`. -/
def maxStrDigits : Nat := 4300

/-! ## Section 3: The scanner -/

/-- The blanks between JSON tokens. -/
def isJsonSpace (c : Char) : Bool := c = ' ' || c = '\t' || c = '\n' || c = '\r'

/-- `WHITESPACE.match(text).end()`. -/
def skipSpace (text : List Char) : List Char := text.dropWhile isJsonSpace

theorem length_skipSpace_le (text : List Char) : (skipSpace text).length ≤ text.length :=
  List.length_dropWhile_le _ _

/-- The value of a hexadecimal digit of either case. -/
def hexValue (c : Char) : Option Nat :=
  if c.isDigit then some (c.toNat - 48)
  else if 'a' ≤ c ∧ c ≤ 'f' then some (c.toNat - 87)
  else if 'A' ≤ c ∧ c ≤ 'F' then some (c.toNat - 55)
  else none

/-- The four digits of a unicode escape. -/
def hexUnit (digits : List Char) : Except LoadsError Nat :=
  expect ((digits.mapM hexValue).map (fun values => values.foldl (fun unit v => unit * 16 + v) 0))
    .decode

/-- The character after a backslash. -/
def escapedChar : Char → Option Nat
  | '"' => some 0x22
  | '\\' => some 0x5C
  | '/' => some 0x2F
  | 'b' => some 0x08
  | 'f' => some 0x0C
  | 'n' => some 0x0A
  | 'r' => some 0x0D
  | 't' => some 0x09
  | _ => none

/-- A high surrogate right before a low one makes one character. -/
def joinSurrogates : List Nat → PyStr
  | high :: low :: rest =>
      if 0xD800 ≤ high ∧ high < 0xDC00 ∧ 0xDC00 ≤ low ∧ low < 0xE000 then
        (0x10000 + (high - 0xD800) * 0x400 + (low - 0xDC00)) :: joinSurrogates rest
      else high :: joinSurrogates (low :: rest)
  | units => units

/-- What is left of a text once a scanner has taken at least one character. -/
abbrev Rest (text : List Char) := { rest : List Char // rest.length < text.length }

/-- The same rest, of a longer text. -/
def Rest.of {text longer : List Char} (rest : Rest text) (h : text.length ≤ longer.length) :
    Rest longer :=
  ⟨rest.val, rest.property.trans_le h⟩

/-- The code units of a string literal, from behind its opening quote. -/
def scanUnits : (text : List Char) → Except LoadsError (List Nat × Rest text)
  | [] => .error .decode
  | '"' :: rest => .ok ([], ⟨rest, by simp⟩)
  | '\\' :: 'u' :: a :: b :: c :: d :: rest => do
      let unit ← hexUnit [a, b, c, d]
      let (units, rest) ← scanUnits rest
      .ok (unit :: units, rest.of (by simp only [List.length_cons]; omega))
  | '\\' :: c :: rest => do
      let unit ← expect (escapedChar c) .decode
      let (units, rest) ← scanUnits rest
      .ok (unit :: units, rest.of (by simp only [List.length_cons]; omega))
  | c :: rest => do
      require (0x20 ≤ c.toNat) .decode
      let (units, rest) ← scanUnits rest
      .ok (c.toNat :: units, rest.of (by simp only [List.length_cons]; omega))

/-- `scanstring`, in strict mode. -/
def scanString (text : List Char) : Except LoadsError (PyStr × Rest text) := do
  let (units, rest) ← scanUnits text
  .ok (joinSurrogates units, rest)

/-- The leading digits of a text, and what follows them. -/
def spanDigits (text : List Char) : List Char × List Char :=
  (text.takeWhile Char.isDigit, text.dropWhile Char.isDigit)

/-- The integer part of a numeral: a single zero, or digits that do not start with one. -/
def scanInteger : (text : List Char) → Option (List Char × Rest text)
  | '0' :: rest => some (['0'], ⟨rest, by simp⟩)
  | c :: rest =>
      if c.isDigit then
        some (c :: rest.takeWhile Char.isDigit,
          ⟨rest.dropWhile Char.isDigit, Nat.lt_succ_of_le (List.length_dropWhile_le _ _)⟩)
      else none
  | [] => none

/-- The fraction of a numeral, which may be missing. -/
def scanFraction : List Char → List Char × List Char
  | '.' :: d :: rest =>
      if d.isDigit then ('.' :: d :: (spanDigits rest).1, (spanDigits rest).2)
      else ([], '.' :: d :: rest)
  | text => ([], text)

/-- The exponent of a numeral, which may be missing. -/
def scanExponent : List Char → List Char × List Char
  | e :: rest =>
      let sign := rest.takeWhile (fun c => c = '+' || c = '-')
      let digits := spanDigits (rest.drop sign.length)
      if (e = 'e' ∨ e = 'E') ∧ sign.length ≤ 1 ∧ digits.1 ≠ [] then
        (e :: (sign ++ digits.1), digits.2)
      else ([], e :: rest)
  | [] => ([], [])

theorem length_scanFraction_le (text : List Char) :
    (scanFraction text).2.length ≤ text.length := by
  unfold scanFraction
  split
  next d rest =>
      split
      next hdigit =>
        have hrest := List.length_dropWhile_le Char.isDigit rest
        simp only [spanDigits, List.length_cons]
        omega
      next hdigit => exact le_rfl
  next htext => exact le_rfl

theorem length_scanExponent_le (text : List Char) :
    (scanExponent text).2.length ≤ text.length := by
  unfold scanExponent
  split
  next e rest =>
      dsimp only
      split
      next hexponent =>
        refine (List.length_dropWhile_le _ _).trans ?_
        simp only [List.length_drop, List.length_cons]
        omega
      next hexponent => exact le_rfl
  next => exact le_rfl

/-- The value of a run of digits. -/
def digitsValue (digits : List Char) : Nat :=
  digits.foldl (fun n c => n * 10 + (c.toNat - 48)) 0

/-- A numeral without its sign: an integer of too many digits is refused when it is converted. -/
def scanUnsigned (negative : Bool) (text : List Char) : Except LoadsError (PyJson × Rest text) := do
  let (digits, rest) ← expect (scanInteger text) .decode
  let fraction := scanFraction rest.val
  let exponent := scanExponent fraction.2
  let rest : Rest text :=
    ⟨exponent.2, ((length_scanExponent_le _).trans (length_scanFraction_le _)).trans_lt
      rest.property⟩
  if fraction.1 = [] ∧ exponent.1 = [] then do
    require (digits.length ≤ maxStrDigits) .value
    let value : Int := digitsValue digits
    .ok (.int (if negative then -value else value), rest)
  else
    let sign := if negative then ['-'] else []
    .ok (.float (sign ++ digits ++ fraction.1 ++ exponent.1), rest)

/-- `_match_number_unicode`. -/
def scanNumber : (text : List Char) → Except LoadsError (PyJson × Rest text)
  | '-' :: rest => do
      let (value, last) ← scanUnsigned true rest
      .ok (value, last.of (Nat.le_succ _))
  | text => scanUnsigned false text

/-- The constants that a scan knows. -/
def constants : List (List Char × PyJson) :=
  [(['n', 'u', 'l', 'l'], .null), (['t', 'r', 'u', 'e'], .bool true),
    (['f', 'a', 'l', 's', 'e'], .bool false), (['N', 'a', 'N'], .float ['N', 'a', 'N']),
    (['I', 'n', 'f', 'i', 'n', 'i', 't', 'y'],
      .float ['I', 'n', 'f', 'i', 'n', 'i', 't', 'y']),
    (['-', 'I', 'n', 'f', 'i', 'n', 'i', 't', 'y'],
      .float ['-', 'I', 'n', 'f', 'i', 'n', 'i', 't', 'y'])]

/-- The constant a text starts with. -/
def scanConstant (text : List Char) : Option (PyJson × Rest text) :=
  constants.findSome? (fun entry =>
    if h : 0 < entry.1.length ∧ entry.1.length ≤ text.length ∧ entry.1.isPrefixOf text = true then
      some (entry.2, ⟨text.drop entry.1.length, by rw [List.length_drop]; omega⟩)
    else none)

mutual

/-- `scan_once`, at the first character of a value. -/
def scanOnce (hook : List (PyStr × PyJson) → Except LoadsError PyJson) (text : List Char) :
    Except LoadsError (PyJson × Rest text) :=
  match text with
  | '"' :: rest => do
      let (s, last) ← scanString rest
      .ok (.str s, last.of (Nat.le_succ _))
  | '[' :: rest =>
      have hlength := length_skipSpace_le rest
      match hskip : skipSpace rest with
      | ']' :: last => .ok (.arr [], ⟨last, by simp only [hskip, List.length_cons] at *; omega⟩)
      | _ => do
          let (items, last) ← scanItems hook (skipSpace rest)
          .ok (.arr items, last.of (hlength.trans (Nat.le_succ _)))
  | '\x7b' :: rest =>
      have hlength := length_skipSpace_le rest
      match hskip : skipSpace rest with
      | '\x7d' :: last => do
          let value ← hook []
          .ok (value, ⟨last, by simp only [hskip, List.length_cons] at *; omega⟩)
      | _ => do
          let (pairs, last) ← scanMembers hook (skipSpace rest)
          let value ← hook pairs
          .ok (value, last.of (hlength.trans (Nat.le_succ _)))
  | text =>
      match scanConstant text with
      | some constant => .ok constant
      | none => scanNumber text
termination_by 2 * text.length
decreasing_by all_goals simp only [List.length_cons]; omega

/-- The items of an array, from the first character of one. -/
def scanItems (hook : List (PyStr × PyJson) → Except LoadsError PyJson) (text : List Char) :
    Except LoadsError (List PyJson × Rest text) := do
  let (item, rest) ← scanOnce hook text
  have hlength := length_skipSpace_le rest.val
  have hrest := rest.property
  match hskip : skipSpace rest.val with
  | ']' :: last => .ok ([item], ⟨last, by simp only [hskip, List.length_cons] at hlength; omega⟩)
  | ',' :: next => do
      have hnext := length_skipSpace_le next
      let (items, last) ← scanItems hook (skipSpace next)
      .ok (item :: items, last.of (by simp only [hskip, List.length_cons] at hlength; omega))
  | _ => .error .decode
termination_by 2 * text.length + 1
decreasing_by
  · omega
  · simp only [hskip, List.length_cons] at hlength
    omega

/-- The members of an object, from the opening quote of a key. -/
def scanMembers (hook : List (PyStr × PyJson) → Except LoadsError PyJson) (text : List Char) :
    Except LoadsError (List (PyStr × PyJson) × Rest text) :=
  match text with
  | '"' :: start => do
      let (key, rest) ← scanString start
      have hlength := length_skipSpace_le rest.val
      have hrest := rest.property
      match hskip : skipSpace rest.val with
      | ':' :: colon => do
          have hcolon := length_skipSpace_le colon
          let (value, rest) ← scanOnce hook (skipSpace colon)
          have hlength' := length_skipSpace_le rest.val
          have hrest' := rest.property
          match hskip' : skipSpace rest.val with
          | '\x7d' :: last =>
              .ok ([(key, value)], ⟨last, by
                simp only [hskip, hskip', List.length_cons] at *; omega⟩)
          | ',' :: next => do
              have hnext := length_skipSpace_le next
              let (pairs, last) ← scanMembers hook (skipSpace next)
              .ok ((key, value) :: pairs, last.of (by
                simp only [hskip, hskip', List.length_cons] at *; omega))
          | _ => .error .decode
      | _ => .error .decode
  | _ => .error .decode
termination_by 2 * text.length + 1
decreasing_by
  · simp only [hskip, List.length_cons] at *
    omega
  · simp only [hskip, hskip', List.length_cons] at *
    omega

end

/-! ## Section 4: Calls of json.loads -/

/-- `JSONDecoder.decode` with an `object_pairs_hook`. -/
def decode (hook : List (PyStr × PyJson) → Except LoadsError PyJson) (text : List Char) :
    Except LoadsError PyJson := do
  require (text.head? ≠ some '\ufeff') .decode
  let (value, rest) ← scanOnce hook (skipSpace text)
  require (skipSpace rest.val = []) .decode
  .ok value

/-- One assignment to a dictionary: a key that is there keeps its place. -/
def assign (members : List (PyStr × PyJson)) (pair : PyStr × PyJson) : List (PyStr × PyJson) :=
  if (members.map Prod.fst).contains pair.1 then
    members.map (fun member => if member.1 = pair.1 then pair else member)
  else members ++ [pair]

/-- The dictionary of the pairs of an object: the last value of a key counts. -/
def dictOfPairs (pairs : List (PyStr × PyJson)) : Except LoadsError PyJson :=
  .ok (.obj (pairs.foldl assign []))

variable [Interpreter]

/-- `json.loads(text)`. -/
def loads (text : List Char) : Except LoadsError PyJson := do
  require (Interpreter.loadsRecursion text = false) .recursion
  decode dictOfPairs text

/-- `key.casefold()`, which folds one character at a time. -/
def PyStr.casefold (key : PyStr) : PyStr :=
  key.flatMap (fun point =>
    match encodePoint point with
    | some c => ofString (Platform.casefold (String.singleton c))
    | none => [point])

/-- `reject_duplicate_pairs`. -/
def rejectDuplicatePairs (pairs : List (PyStr × PyJson)) : Except LoadsError PyJson := do
  let keys := pairs.map Prod.fst
  require (keys.Nodup ∧ (keys.map PyStr.casefold).Nodup) .value
  .ok (.obj pairs)

/-- `_strict_json_mapping`, with the members of the mapping. -/
def strictJsonMapping (text : List Char) : Except LoadsError (List (PyStr × PyJson)) := do
  require (Interpreter.strictLoadsRecursion text = false) .recursion
  match ← decode rejectDuplicatePairs text with
  | .obj members => .ok members
  | _ => .error .value

/-! ## Section 5: Decoded values as records -/

namespace PyJson

mutual

/-- The value as the contracts read it. -/
def toJson : PyJson → Json
  | .null => .null
  | .bool b => .bool b
  | .int n => .int n
  | .float numeral => .float (Interpreter.floatRepr numeral)
  | .str s => .str s.replaced
  | .arr items => .arr (toJsonItems items)
  | .obj members => (Mapping.ofPairs (toJsonMembers members)).toJson

/-- The items of a list. -/
def toJsonItems : List PyJson → List Json
  | [] => []
  | item :: rest => toJson item :: toJsonItems rest

/-- The members of an object. -/
def toJsonMembers : List (PyStr × PyJson) → List (String × Json)
  | [] => []
  | (key, value) :: rest => (key.replaced, toJson value) :: toJsonMembers rest

end

/-- One code point inside a string literal under `ensure_ascii`. -/
def escapePoint (point : Nat) : List Char :=
  match PyStr.encodePoint point with
  | some c => escapeChar c
  | none => unicodeEscape point

/-- A string literal. -/
def dumpsStr (s : PyStr) : List Char :=
  '"' :: (s.flatMap escapePoint ++ ['"'])

mutual

/-- The characters of `canonical_json_bytes(value)`. -/
def dumps : PyJson → List Char
  | .null => ['n', 'u', 'l', 'l']
  | .bool true => ['t', 'r', 'u', 'e']
  | .bool false => ['f', 'a', 'l', 's', 'e']
  | .int n => (toString n).toList
  | .float numeral => (Interpreter.floatRepr numeral).val.toList
  | .str s => dumpsStr s
  | .arr items => '[' :: ([','].intercalate (dumpsItems items) ++ [']'])
  | .obj members =>
      let sorted := (dumpsMembers members).insertionSort (fun a b => a.1 ≤ b.1)
      '\x7b' :: ([','].intercalate (sorted.map (fun m => dumpsStr m.1 ++ ':' :: m.2)) ++ ['\x7d'])

/-- The texts of the items of a list. -/
def dumpsItems : List PyJson → List (List Char)
  | [] => []
  | item :: rest => dumps item :: dumpsItems rest

/-- The keys of an object with the texts of their values. -/
def dumpsMembers : List (PyStr × PyJson) → List (PyStr × List Char)
  | [] => []
  | (key, value) :: rest => (key, dumps value) :: dumpsMembers rest

end

end PyJson

end Acgps
