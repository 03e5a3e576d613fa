import MixerPanel.Json.Quotation

/-!
# The written form of a value

Without blanks, the members of an object in the order in which the value holds them.

## Main Definitions

* `Json.toChars` — the characters of the written form
* `Json.write` — the written form as a text
-/

namespace MixerPanel.Json

mutual

/-- The characters of the written form. -/
def toChars : Json → List Char
  | .null => ['n', 'u', 'l', 'l']
  | .bool true => ['t', 'r', 'u', 'e']
  | .bool false => ['f', 'a', 'l', 's', 'e']
  | .number n => n.toChars
  | .string s => Quotation.write s
  | .list items => '[' :: itemsToChars items ++ [']']
  | .object members => '\x7b' :: membersToChars members ++ ['\x7d']

/-- The written forms of the items of a list, with commas between them. -/
def itemsToChars : List Json → List Char
  | [] => []
  | [item] => toChars item
  | item :: rest => toChars item ++ ',' :: itemsToChars rest

/-- The written forms of the members of an object, with commas between them. -/
def membersToChars : List (String × Json) → List Char
  | [] => []
  | [(key, value)] => Quotation.write key ++ ':' :: toChars value
  | (key, value) :: rest => Quotation.write key ++ ':' :: toChars value ++ ',' :: membersToChars rest

end

/-- The written form of a value. -/
def write (j : Json) : String := String.ofList j.toChars

end MixerPanel.Json
