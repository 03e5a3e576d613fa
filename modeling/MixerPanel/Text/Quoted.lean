import MixerPanel.Text.Combining

/-!
# Quoted text

Log lines and error messages show text between quotation marks, in a form in which every character
can be told from its neighbours.

## Main Definitions

* `Text.quoted` — a text between quotation marks
* `Text.quotedOption` — a text that may be absent, as `Some("…")` or `None`
-/

namespace MixerPanel.Text

/-- The digits of a code point in base sixteen, lower case. -/
def hexDigits (code : Nat) : List Char :=
  Nat.toDigits 16 code

/-- A character by its code point: `\u`, an opening brace, the digits in base sixteen, a closing brace. -/
def codePoint (c : Char) : List Char :=
  ['\\', 'u', '\x7b'] ++ hexDigits c.toNat ++ ['\x7d']

/-- How one character stands in quoted text. The quotation mark and the backslash are escaped, the
common controls have letters, and what has no visible form or attaches to its neighbour is written
by its code point. -/
def quotedChar (c : Char) : List Char :=
  if c = '"' then ['\\', '"']
  else if c = '\\' then ['\\', '\\']
  else if c = '\n' then ['\\', 'n']
  else if c = '\t' then ['\\', 't']
  else if c = '\r' then ['\\', 'r']
  else if c = '\x00' then ['\\', '0']
  else if isCombining c || isUnprintable c then codePoint c
  else [c]

/-- A text between quotation marks. -/
def quoted (s : String) : String :=
  String.ofList ('"' :: s.toList.flatMap quotedChar ++ ['"'])

/-- A text that may be absent. -/
def quotedOption : Option String → String
  | none => "None"
  | some s => "Some(" ++ quoted s ++ ")"

end MixerPanel.Text
