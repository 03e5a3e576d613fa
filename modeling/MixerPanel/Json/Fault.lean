import MixerPanel.Json.Basic
import MixerPanel.Text.Quoted

/-!
# Why a text or a value is refused

## Main Definitions

* `Json.Fault` — the ways in which a text fails to be JSON
* `Json.Found` — what stands where something else was wanted
* `Json.Mismatch` — the ways in which JSON fails to have the wanted shape
* `Json.ReadError` — either of the two, with its `message` and its `category`
-/

namespace MixerPanel.Json

/-- The three classes of errors: text that ends too early, text that is not JSON, and JSON of the
wrong shape. -/
inductive Category where
  | ended
  | malformed
  | mismatch
deriving DecidableEq, Repr

/-- A way in which a text fails to be JSON. -/
inductive Fault where
  | endInList
  | endInObject
  | endInString
  | endInValue
  | expectedColon
  | expectedCommaOrListEnd
  | expectedCommaOrObjectEnd
  | expectedIdent
  | expectedValue
  | invalidEscape
  | invalidNumber
  | numberOutOfRange
  | controlCharacter
  | keyNotString
  | loneSurrogate
  | unfinishedSurrogatePair
  | trailingComma
  | trailingCharacters
  | nestedTooDeeply
deriving DecidableEq, Repr

namespace Fault

/-- The wording of a fault. -/
def message : Fault → String
  | endInList => "EOF while parsing a list"
  | endInObject => "EOF while parsing an object"
  | endInString => "EOF while parsing a string"
  | endInValue => "EOF while parsing a value"
  | expectedColon => "expected `:`"
  | expectedCommaOrListEnd => "expected `,` or `]`"
  | expectedCommaOrObjectEnd => "expected `,` or `\x7d`"
  | expectedIdent => "expected ident"
  | expectedValue => "expected value"
  | invalidEscape => "invalid escape"
  | invalidNumber => "invalid number"
  | numberOutOfRange => "number out of range"
  | controlCharacter => "control character (\\u0000-\\u001F) found while parsing a string"
  | keyNotString => "key must be a string"
  | loneSurrogate => "lone leading surrogate in hex escape"
  | unfinishedSurrogatePair => "unexpected end of hex escape"
  | trailingComma => "trailing comma"
  | trailingCharacters => "trailing characters"
  | nestedTooDeeply => "recursion limit exceeded"

/-- A fault is either an early end or something that is not JSON. -/
def category : Fault → Category
  | endInList | endInObject | endInString | endInValue => .ended
  | _ => .malformed

end Fault

/-- What stands where something else was wanted. -/
inductive Found where
  | null
  | bool (b : Bool)
  | number (n : Number)
  | string (s : String)
  | sequence
  | map
  /-- A name without a content. -/
  | nameAlone
deriving DecidableEq, Repr

/-- The written form of a number. -/
def Number.toChars : Number → List Char
  | .natural n => Nat.toDigits 10 n.toNat
  | .negative k => '-' :: Nat.toDigits 10 (k.val + 1)
  | .real x => x.toChars

namespace Found

/-- The wording for what was found. -/
def message : Found → String
  | null => "null"
  | bool b => "boolean `" ++ (if b then "true" else "false") ++ "`"
  | number (.real x) => "floating point `" ++ String.ofList x.toChars ++ "`"
  | number n => "integer `" ++ String.ofList n.toChars ++ "`"
  | string s => "string " ++ Text.quoted s
  | sequence => "sequence"
  | map => "map"
  | nameAlone => "unit variant"

end Found

/-- A way in which JSON fails to have the wanted shape. -/
inductive Mismatch where
  /-- A value of another kind. -/
  | wrongType (found : Found) (expected : String)
  /-- A value of the right kind that is out of bounds. -/
  | wrongValue (found : Found) (expected : String)
  /-- A list with another number of items. -/
  | wrongLength (length : Nat) (expected : String)
  /-- An object without a member it needs. -/
  | missingField (name : String)
  /-- An object with a member it has already. -/
  | duplicateField (name : String)
  /-- A name that is none of the known ones. -/
  | unknownVariant (name : String) (known : List String)
deriving DecidableEq, Repr

namespace Mismatch

/-- A name between backquotes. -/
def backquoted (name : String) : String := "`" ++ name ++ "`"

/-- The wording for a choice between names: one alone, two joined by "or", more in a list. -/
def oneOf : List String → String
  | [] => "there are no variants"
  | [a] => "expected " ++ backquoted a
  | [a, b] => "expected " ++ backquoted a ++ " or " ++ backquoted b
  | names => "expected one of " ++ ", ".intercalate (names.map backquoted)

/-- The wording of a mismatch. -/
def message : Mismatch → String
  | wrongType found expected => "invalid type: " ++ found.message ++ ", expected " ++ expected
  | wrongValue found expected => "invalid value: " ++ found.message ++ ", expected " ++ expected
  | wrongLength length expected => "invalid length " ++ toString length ++ ", expected " ++ expected
  | missingField name => "missing field " ++ backquoted name
  | duplicateField name => "duplicate field " ++ backquoted name
  | unknownVariant name known => "unknown variant " ++ backquoted name ++ ", " ++ oneOf known

end Mismatch

/-- Why something could not be read. -/
inductive ReadError where
  | fault (f : Fault)
  | mismatch (m : Mismatch)
deriving DecidableEq, Repr

namespace ReadError

/-- The wording of an error. -/
def message : ReadError → String
  | fault f => f.message
  | mismatch m => m.message

/-- The class of an error. -/
def category : ReadError → Category
  | fault f => f.category
  | mismatch _ => .mismatch

end ReadError

/-- The result of reading. -/
abbrev Result (α : Type) := Except ReadError α

/-- Refuses with a fault. -/
def Result.fault {α : Type} (f : Fault) : Result α := .error (.fault f)

/-- Refuses with a mismatch. -/
def Result.mismatch {α : Type} (m : Mismatch) : Result α := .error (.mismatch m)

end MixerPanel.Json
