import Acgps.Workflow.Checks

/-!
# The platform

What the engine takes from the Python standard library and does not compute itself: digests, case
folding, the printed form of a value, and what a file holds.

## Main Definitions

* `FileContent` - the bytes of an evidence file, as far as the engine can tell them apart
* `Platform` - SHA-256 over files and identifiers, `str.casefold`, `repr`, equality of floats
* `Json.pyEq` - `==` on values
* `Text.render` - a message as a string
-/

namespace Acgps

/-! ## Section 1: Files -/

/-- Why `json.loads(payload.decode("utf-8"))` fails. -/
inductive LoadFailure where
  | undecodable
  | malformed
  deriving DecidableEq

/-- The bytes of a file: the canonical text of a mapping with one line feed after it, or other
bytes with what `json.loads` makes of them. -/
inductive FileContent where
  | canonicalLine (record : Mapping)
  | other (payload : List UInt8) (loads : Except LoadFailure Json)

namespace FileContent

/-- `json.loads(payload.decode("utf-8"))`. -/
def loads : FileContent → Except LoadFailure Json
  | canonicalLine record => .ok record.toJson
  | other _ loads => loads

/-- `len(payload)`. -/
def sizeBytes : FileContent → Nat
  | canonicalLine record => record.toJson.dumps.length + 1
  | other payload _ => payload.length

end FileContent

/-! ## Section 2: The standard library -/

/-- The functions of the standard library that the engine calls. `taskToken` is the first sixteen
digits of the SHA-256 of a task id, and `floatEq` compares a float with another number. -/
class Platform extends Digest where
  taskToken : String → String
  fileSha : FileContent → String
  casefold : String → String
  repr : Json → String
  floatEq : FloatText → Json → Bool

export Platform (taskToken fileSha casefold)

variable [Platform]

mutual

/-- `a == b`: `True` and `1` are equal, and a float may equal either. -/
def Json.pyEq : Json → Json → Bool
  | .float r, .bool b => Platform.floatEq r (.bool b)
  | .float r, .int n => Platform.floatEq r (.int n)
  | .float r, .float r' => Platform.floatEq r (.float r')
  | .bool b, .float r => Platform.floatEq r (.bool b)
  | .int n, .float r => Platform.floatEq r (.int n)
  | .bool b, .int n => n = b.toInt
  | .int n, .bool b => n = b.toInt
  | .null, .null => true
  | .bool b, .bool b' => b = b'
  | .int n, .int n' => n = n'
  | .str s, .str s' => s = s'
  | .arr items, .arr items' => Json.pyEqItems items items'
  | .obj members, .obj members' => Json.pyEqMembers members members'
  | _, _ => false

/-- `==` on lists. -/
def Json.pyEqItems : List Json → List Json → Bool
  | [], [] => true
  | a :: as, b :: bs => Json.pyEq a b && Json.pyEqItems as bs
  | _, _ => false

/-- `==` on dictionaries, whose members are in key order. -/
def Json.pyEqMembers : List (String × Json) → List (String × Json) → Bool
  | [], [] => true
  | (k, a) :: as, (l, b) :: bs => k = l && (Json.pyEq a b && Json.pyEqMembers as bs)
  | _, _ => false

end

/-- A piece of a message as an f-string prints it. -/
def Piece.render : Piece → String
  | text s => s
  | repr value => Platform.repr value
  | reprTuple values =>
      "(" ++ ", ".intercalate (values.map Platform.repr)
        ++ (if values.length = 1 then ",)" else ")")

/-- A message as a string. -/
def Text.render (message : Text) : String := String.join (message.map Piece.render)

/-- `word.lower()` on an ASCII word. -/
def asciiLower (word : String) : String := String.ofList (word.toList.map Char.toLower)

/-- A number with leading zeros, as the format `04d` prints it. -/
def fourDigits (n : Nat) : String :=
  String.ofList (List.replicate (4 - (Nat.toDigits 10 n).length) '0' ++ Nat.toDigits 10 n)

/-- A number with a leading zero, as the format `02d` prints it. -/
def twoDigits (n : Nat) : String :=
  String.ofList (List.replicate (2 - (Nat.toDigits 10 n).length) '0' ++ Nat.toDigits 10 n)

end Acgps
