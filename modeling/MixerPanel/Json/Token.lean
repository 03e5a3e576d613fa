import MixerPanel.Json.Numeral
import MixerPanel.Json.Quotation

/-!
# Tokens of a JSON text

## Main Definitions

* `Json.Token` — a mark, an atom, a quotation, or a character that starts no token
* `Json.tokens` — the tokens of a text
-/

namespace MixerPanel.Json

/-- A token of a JSON text. -/
inductive Token where
  | openList
  | closeList
  | openObject
  | closeObject
  | colon
  | comma
  | atom (a : Lexeme Atom)
  | quotation (s : Lexeme String)
  /-- A character that starts no token. -/
  | stray

/-- Whether a character may stand anywhere between tokens. -/
def isBlank (c : Char) : Bool := c == ' ' || c == '\n' || c == '\t' || c == '\r'

/-- The marks, each a token of one character. -/
def mark? (c : Char) : Option Token :=
  if c = '[' then some .openList
  else if c = ']' then some .closeList
  else if c = '\x7b' then some .openObject
  else if c = '\x7d' then some .closeObject
  else if c = ':' then some .colon
  else if c = ',' then some .comma
  else none

/-- The fixed word that a character starts: its other letters and its value. -/
def word? (c : Char) : Option (List Char × Atom) :=
  if c = 'n' then some (['u', 'l', 'l'], .null)
  else if c = 't' then some (['r', 'u', 'e'], .bool true)
  else if c = 'f' then some (['a', 'l', 's', 'e'], .bool false)
  else none

/-- The token of a fixed word, from the fault in its spelling, if there is one. -/
def wordToken (a : Atom) : Option Fault → Token
  | none => .atom (.ok a)
  | some f => .atom (.broken f)

/-- The token that a character starts, and the text after it. -/
def readToken (c : Char) (rest : List Char) : Token × List Char :=
  match mark? c, word? c with
  | some mark, _ => (mark, rest)
  | none, some (word, a) => (wordToken a (spell word rest).1, (spell word rest).2)
  | none, none =>
    if c = '"' then
      (.quotation (Quotation.read rest).1, (Quotation.read rest).2)
    else if c = '-' ∨ (Numeral.digit? c).isSome then
      (.atom ((Numeral.read (c :: rest)).1.map .number), (Numeral.read (c :: rest)).2)
    else
      (.stray, rest)

/-- A token takes at least its first character. -/
theorem length_readToken_le (c : Char) (rest : List Char) :
    (readToken c rest).2.length ≤ rest.length := by
  unfold readToken
  split
  · exact Nat.le_refl _
  · exact length_spell_le _ _
  · split
    · exact Quotation.length_read_le rest
    · split
      · next h => exact Nat.le_of_lt_succ (Numeral.length_read_lt h)
      · exact Nat.le_refl _

/-- The tokens of a text. -/
def tokens : List Char → List Token
  | [] => []
  | c :: rest =>
    if isBlank c then tokens rest
    else (readToken c rest).1 :: tokens (readToken c rest).2
termination_by text => text.length
decreasing_by
  · simp
  · exact Nat.lt_succ_of_le (length_readToken_le c rest)

end MixerPanel.Json
