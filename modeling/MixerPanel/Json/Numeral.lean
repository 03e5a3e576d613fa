import MixerPanel.Json.Lexeme

/-!
# Numerals

A numeral is an optional minus sign, digits without a leading zero, and optionally a fraction and an
exponent.

## Main Definitions

* `Json.Numeral` — the parts of a numeral
* `Json.Numeral.value` — the number it stands for
* `Json.Numeral.read` — reads a numeral at the head of a text

## Design Notes

The digits of a numeral are collected in a word of 64 bits. A digit of the whole part that no longer
fits counts a power of ten, and the digits of the fraction from the first that does not fit are
dropped. An integer that fits is kept exactly; every other numeral is scaled by its power of ten.
-/

namespace MixerPanel.Json

/-- The parts of a numeral. -/
structure Numeral where
  /-- Whether it starts with a minus sign. -/
  negative : Bool
  /-- The digits before the point. -/
  whole : List Nat
  /-- The digits after the point, if there is one. -/
  fraction : Option (List Nat)
  /-- The exponent, if there is one. -/
  exponent : Option Int
deriving DecidableEq, Repr

namespace Numeral

/-- Collects digits while they fit the word: what is collected, and the number of digits left. -/
def collect (significand : Nat) : List Nat → Nat × Nat
  | [] => (significand, 0)
  | d :: rest =>
    if significand * 10 + d < UInt64.size then collect (significand * 10 + d) rest
    else (significand, rest.length + 1)

/-- The integer with a sign and a magnitude, as a real if it is out of range. Zero with a minus sign
is a real too. -/
def integer? (negative : Bool) (magnitude : Nat) : Option Number :=
  if negative then
    if h : 0 < magnitude ∧ magnitude ≤ 0x8000000000000000 then
      some (.negative ⟨magnitude - 1, by omega⟩)
    else
      (Binary64.ofDecimal? true magnitude 0).map .real
  else if magnitude < UInt64.size then
    some (.natural (UInt64.ofNat magnitude))
  else
    (Binary64.ofDecimal? false magnitude 0).map .real

/-- The number that a numeral stands for, `none` beyond the finite numbers. -/
def value (n : Numeral) : Option Number :=
  let (whole, dropped) := collect 0 n.whole
  if n.fraction = none ∧ n.exponent = none ∧ dropped = 0 then
    integer? n.negative whole
  else
    let fraction := n.fraction.getD []
    let (significand, unread) := collect whole fraction
    let places : Int := (fraction.length - unread : Nat)
    (Binary64.ofDecimal? n.negative significand (dropped - places + n.exponent.getD 0)).map .real

/-- The value of a decimal digit. -/
def digit? (c : Char) : Option Nat :=
  if '0' ≤ c ∧ c ≤ '9' then some (c.toNat - '0'.toNat) else none

/-- The digits at the head of a text, and the text after them. -/
def digits : List Char → List Nat × List Char
  | [] => ([], [])
  | c :: rest =>
    match digit? c with
    | some d => (d :: (digits rest).1, (digits rest).2)
    | none => ([], c :: rest)

/-- The natural number with the given digits. -/
def ofDigits (ds : List Nat) : Nat := ds.foldl (fun n d => n * 10 + d) 0

/-- How a numeral can be cut off: by the end of the text, or by a character that cannot follow. -/
inductive Break where
  | ended
  | garbled
deriving DecidableEq, Repr

/-- The break where a digit was due and the text goes on as given. -/
def breakAt : List Char → Break
  | [] => .ended
  | _ => .garbled

/-- Reads the sign of an exponent, which may be absent: whether it is a minus. -/
def readSign : List Char → Bool × List Char
  | '-' :: rest => (true, rest)
  | '+' :: rest => (false, rest)
  | text => (false, text)

/-- Reads the sign and the digits of an exponent, after its mark. -/
def readExponent (text : List Char) : Except Break Int × List Char :=
  let (negative, rest) := readSign text
  let (ds, after) := digits rest
  if ds.isEmpty then (.error (breakAt after), after)
  else (.ok (if negative then -(ofDigits ds : Int) else ofDigits ds), after)

/-- Reads the exponent of a numeral whose digits are read, if there is one. -/
def readTail (n : Numeral) (text : List Char) : Except Break Numeral × List Char :=
  match text with
  | c :: rest =>
    if c = 'e' ∨ c = 'E' then
      let (exponent, after) := readExponent rest
      (exponent.map fun e => { n with exponent := some e }, after)
    else (.ok n, text)
  | [] => (.ok n, [])

/-- Reads the fraction and the exponent of a numeral whose whole digits are read. -/
def readFraction (n : Numeral) (text : List Char) : Except Break Numeral × List Char :=
  match text with
  | '.' :: rest =>
    let (ds, after) := digits rest
    if ds.isEmpty then (.error (breakAt after), after)
    else readTail { n with fraction := some ds } after
  | _ => readTail n text

/-- Reads a numeral after its sign. -/
def readMagnitude (negative : Bool) (text : List Char) : Except Break Numeral × List Char :=
  let (ds, after) := digits text
  match ds with
  | [] => (.error (breakAt after), after)
  | 0 :: _ :: _ => (.error .garbled, after)
  | _ => readFraction ⟨negative, ds, none, none⟩ after

/-- The token that a numeral, or its break, makes. A text that ends inside a numeral is an early end
to one who needs the number, and no number to one who passes over it. -/
def lexeme : Except Break Numeral → Lexeme Number
  | .ok n =>
    match n.value with
    | some x => .ok x
    | none => .faulty .numberOutOfRange none
  | .error .ended => .faulty .endInValue (some .invalidNumber)
  | .error .garbled => .broken .invalidNumber

/-- Reads the numeral at the head of a text: the token, and the text after it. -/
def read (text : List Char) : Lexeme Number × List Char :=
  let (n, after) :=
    match text with
    | '-' :: rest => readMagnitude true rest
    | _ => readMagnitude false text
  (lexeme n, after)

/-! ## Reading never adds to the text -/

theorem length_digits_le (text : List Char) : (digits text).2.length ≤ text.length := by
  induction text with
  | nil => simp [digits]
  | cons c rest ih =>
    simp only [digits]
    split
    · simp only [List.length_cons]; omega
    · simp

theorem length_readSign_le (text : List Char) : (readSign text).2.length ≤ text.length := by
  unfold readSign
  split <;> simp

theorem length_readExponent_le (text : List Char) :
    (readExponent text).2.length ≤ text.length := by
  have h := Nat.le_trans (length_digits_le (readSign text).2) (length_readSign_le text)
  unfold readExponent
  dsimp only
  split <;> exact h

theorem length_readTail_le (n : Numeral) (text : List Char) :
    (readTail n text).2.length ≤ text.length := by
  unfold readTail
  split
  · split
    · exact Nat.le_succ_of_le (length_readExponent_le _)
    · simp
  · simp

theorem length_readFraction_le (n : Numeral) (text : List Char) :
    (readFraction n text).2.length ≤ text.length := by
  unfold readFraction
  split
  · dsimp only
    split
    · exact Nat.le_succ_of_le (length_digits_le _)
    · exact Nat.le_succ_of_le (Nat.le_trans (length_readTail_le _ _) (length_digits_le _))
  · exact length_readTail_le _ _

theorem length_readMagnitude_le (negative : Bool) (text : List Char) :
    (readMagnitude negative text).2.length ≤ text.length := by
  unfold readMagnitude
  dsimp only
  split
  · exact length_digits_le _
  · exact length_digits_le _
  · exact Nat.le_trans (length_readFraction_le _ _) (length_digits_le _)

/-- A numeral's first character is read. -/
theorem length_read_lt {c : Char} {rest : List Char} (h : c = '-' ∨ (digit? c).isSome) :
    (read (c :: rest)).2.length < (c :: rest).length := by
  unfold read
  dsimp only
  split
  · next heq =>
    cases heq
    exact Nat.lt_succ_of_le (length_readMagnitude_le _ _)
  · next hne =>
    obtain ⟨d, hd⟩ : ∃ d, digit? c = some d := by
      rcases h with rfl | h
      · exact absurd rfl (hne rest)
      · exact Option.isSome_iff_exists.1 h
    unfold readMagnitude
    have hlen := length_digits_le rest
    simp only [digits, hd, List.length_cons]
    split
    · simp_all
    · simp only; omega
    · have := length_readFraction_le ⟨false, d :: (digits rest).1, none, none⟩ (digits rest).2
      omega

end Numeral

end MixerPanel.Json
