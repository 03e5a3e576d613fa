import MixerPanel.Json.Lexeme

/-!
# Texts between quotation marks

## Main Definitions

* `Json.Quotation.Piece` — a character, or the number of a 16-bit unit
* `Json.Quotation.scan` — the pieces up to where a quotation stops, and why it stops there
* `Json.Quotation.join` — the text that the pieces stand for
* `Json.Quotation.read` — the token that starts after a quotation mark
* `Json.Quotation.write` — the written form of a text

## Design Notes

A character beyond 16 bits may be written as two units, a leading and a trailing surrogate. Whether
the units pair up matters only to one who needs the text, so they are first collected and then
joined.
-/

namespace MixerPanel.Json.Quotation

/-- One element of a quotation. -/
inductive Piece where
  | char (c : Char)
  /-- A 16-bit unit, written by its number. -/
  | unit (n : Nat)
deriving DecidableEq, Repr

/-- Why a quotation stops. -/
inductive Stop where
  | closed
  | ended
  | controlCharacter
  | unknownEscape
  | invalidDigits
deriving DecidableEq, Repr

/-- The fault in a stop, if there is one. -/
def Stop.fault? : Stop → Option Fault
  | closed => none
  | ended => some .endInString
  | controlCharacter => some .controlCharacter
  | unknownEscape | invalidDigits => some .invalidEscape

/-- The character that a backslash and a letter stand for. -/
def escaped? (c : Char) : Option Char :=
  if c = '"' then some '"'
  else if c = '\\' then some '\\'
  else if c = '/' then some '/'
  else if c = 'b' then some '\x08'
  else if c = 'f' then some '\x0c'
  else if c = 'n' then some '\n'
  else if c = 'r' then some '\r'
  else if c = 't' then some '\t'
  else none

/-- The value of a digit in base sixteen, in either case. -/
def hexDigit? (c : Char) : Option Nat :=
  if '0' ≤ c ∧ c ≤ '9' then some (c.toNat - '0'.toNat)
  else if 'a' ≤ c ∧ c ≤ 'f' then some (c.toNat - 'a'.toNat + 10)
  else if 'A' ≤ c ∧ c ≤ 'F' then some (c.toNat - 'A'.toNat + 10)
  else none

/-- The unit with four digits in base sixteen. -/
def unit? (a b c d : Char) : Option Nat := do
  return (((← hexDigit? a) * 16 + (← hexDigit? b)) * 16 + (← hexDigit? c)) * 16 + (← hexDigit? d)

/-- Where the four digits of a unit are not all there: an early end only if fewer than four bytes
are left. -/
def shortUnit (rest : List Char) : Stop :=
  if (String.ofList rest).utf8ByteSize < 4 then .ended else .invalidDigits

/-- The pieces from the head of a text up to where the quotation stops, and the text after it. -/
def scan : List Char → List Piece × Stop × List Char
  | [] => ([], .ended, [])
  | '"' :: rest => ([], .closed, rest)
  | ['\\'] => ([], .ended, [])
  | '\\' :: 'u' :: a :: b :: c :: d :: rest =>
    match unit? a b c d with
    | some n => let (pieces, stop) := scan rest; (.unit n :: pieces, stop)
    | none => ([], .invalidDigits, rest)
  | '\\' :: 'u' :: rest => ([], shortUnit rest, [])
  | '\\' :: letter :: rest =>
    match escaped? letter with
    | some c => let (pieces, stop) := scan rest; (.char c :: pieces, stop)
    | none => ([], .unknownEscape, rest)
  | c :: rest =>
    if c.toNat < 0x20 then ([], .controlCharacter, rest)
    else let (pieces, stop) := scan rest; (.char c :: pieces, stop)

/-- Whether a unit is the first of a pair. -/
def IsLeading (n : Nat) : Prop := 0xD800 ≤ n ∧ n ≤ 0xDBFF

/-- Whether a unit is the second of a pair. -/
def IsTrailing (n : Nat) : Prop := 0xDC00 ≤ n ∧ n ≤ 0xDFFF

instance (n : Nat) : Decidable (IsLeading n) := inferInstanceAs (Decidable (_ ∧ _))

instance (n : Nat) : Decidable (IsTrailing n) := inferInstanceAs (Decidable (_ ∧ _))

/-- The character that a pair of units stands for. -/
def pair (leading trailing : Nat) : Char :=
  Char.ofNat ((leading - 0xD800) * 0x400 + (trailing - 0xDC00) + 0x10000)

/-- What is wrong after a leading unit that is the last piece. -/
def afterLeading : Stop → Fault
  | .ended => .endInString
  | .invalidDigits => .invalidEscape
  | _ => .unfinishedSurrogatePair

/-- The text that the pieces of a quotation stand for. -/
def join : List Piece → Stop → Except Fault (List Char)
  | [], stop =>
    match stop.fault? with
    | some f => .error f
    | none => .ok []
  | .char c :: rest, stop => (join rest stop).map (c :: ·)
  | .unit n :: .unit m :: rest, stop =>
    if IsTrailing n then .error .loneSurrogate
    else if IsLeading n then
      if IsTrailing m then (join rest stop).map (pair n m :: ·) else .error .loneSurrogate
    else (join (.unit m :: rest) stop).map (Char.ofNat n :: ·)
  | [.unit n], stop =>
    if IsTrailing n then .error .loneSurrogate
    else if IsLeading n then .error (afterLeading stop)
    else (join [] stop).map (Char.ofNat n :: ·)
  | .unit n :: rest, stop =>
    if IsTrailing n then .error .loneSurrogate
    else if IsLeading n then .error .unfinishedSurrogatePair
    else (join rest stop).map (Char.ofNat n :: ·)

/-- A quotation whose pieces are joined was closed. -/
theorem fault?_of_join {pieces : List Piece} {stop : Stop} (joined : (join pieces stop).isOk) :
    stop.fault? = none := by
  fun_induction join pieces stop <;> simp_all [isOk_map, isOk_error]

/-- The token that the pieces of a quotation make. -/
def lexeme (pieces : List Piece) (stop : Stop) : Lexeme String :=
  ⟨(join pieces stop).map String.ofList, stop.fault?,
    fun isOk => fault?_of_join (isOk_map String.ofList _ ▸ isOk)⟩

/-- Reads the token that starts after a quotation mark: the token, and the text after it. -/
def read (text : List Char) : Lexeme String × List Char :=
  let (pieces, stop, rest) := scan text
  (lexeme pieces stop, rest)

/-- Reading never adds to the text. -/
theorem length_scan_le (text : List Char) : (scan text).2.2.length ≤ text.length := by
  fun_induction scan text <;> simp_all <;> omega

theorem length_read_le (text : List Char) : (read text).2.length ≤ text.length :=
  length_scan_le text

/-- A unit written by its number: four digits in base sixteen, lower case. -/
def unitChars (n : Nat) : List Char :=
  let digits := Nat.toDigits 16 n
  ['\\', 'u'] ++ List.replicate (4 - digits.length) '0' ++ digits

/-- How one character is written: the quotation mark, the backslash and the control characters are
escaped, and nothing else is. -/
def charChars (c : Char) : List Char :=
  if c = '"' then ['\\', '"']
  else if c = '\\' then ['\\', '\\']
  else if c = '\x08' then ['\\', 'b']
  else if c = '\x0c' then ['\\', 'f']
  else if c = '\n' then ['\\', 'n']
  else if c = '\r' then ['\\', 'r']
  else if c = '\t' then ['\\', 't']
  else if c.toNat < 0x20 then unitChars c.toNat
  else [c]

/-- The written form of a text. -/
def write (s : String) : List Char :=
  '"' :: s.toList.flatMap charChars ++ ['"']

end MixerPanel.Json.Quotation
