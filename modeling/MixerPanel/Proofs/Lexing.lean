import Mathlib.Data.List.Basic
import Mathlib.Tactic.IntervalCases
import MixerPanel.Json.Token
import MixerPanel.Json.Writer

/-!
# Tokens

A token can be taken off the head of a text as soon as its first character is known, and what was
written is a token that says the same: the characters of a quotation are those of the text, the
escaped ones included, and the digits of a numeral are those of the integer, up to the limits of 64
bits.

* `Quotation.lexeme_map_piece` — the quotation of a text
* `Numeral.lexeme_natural`, `Numeral.lexeme_negative` — the numeral of an integer
* `tokens_mark`, `tokens_word`, `tokens_numeral` — the tokens of a text, one by one
-/

namespace MixerPanel.Json

/-! ## Quotations -/

namespace Quotation

/-- The piece that is scanned where a character was written: a control character without a letter of
its own is written by its number. -/
def piece (c : Char) : Piece :=
  if c.toNat < 0x20 ∧ c ∉ ['\x08', '\x0c', '\n', '\r', '\t'] then .unit c.toNat else .char c

theorem unitChars_of_lt : ∀ n < 0x20,
    unitChars n = ['\\', 'u', '0', '0', Nat.digitChar (n / 16), Nat.digitChar (n % 16)] := by
  decide

theorem unit?_of_lt : ∀ n < 0x20,
    unit? '0' '0' (Nat.digitChar (n / 16)) (Nat.digitChar (n % 16)) = some n := by
  decide

/-- A unit below the surrogates is a character by itself, whatever comes after it. -/
theorem join_unit {n : Nat} (low : n < 0xD800) (pieces : List Piece) (stop : Stop) :
    join (.unit n :: pieces) stop = (join pieces stop).map (Char.ofNat n :: ·) := by
  have notTrailing : ¬ IsTrailing n := by unfold IsTrailing; omega
  have notLeading : ¬ IsLeading n := by unfold IsLeading; omega
  match pieces with
  | [] => simp [join, notTrailing, notLeading]
  | .unit m :: rest => simp [join, notTrailing, notLeading]
  | .char c :: rest => simp [join, notTrailing, notLeading]

theorem join_map_piece (cs : List Char) : join (cs.map piece) .closed = .ok cs := by
  induction cs with
  | nil => rfl
  | cons c cs ih =>
      rw [List.map_cons, piece]
      split_ifs with numbered
      · rw [join_unit (by omega), ih, Char.ofNat_toNat]
        rfl
      · rw [join, ih]
        rfl

/-- **The quotation of a text** says that text. -/
theorem lexeme_map_piece (s : String) : lexeme (s.toList.map piece) .closed = .ok s := by
  refine Lexeme.eq_ok_of_content ?_
  show (join _ _).map String.ofList = _
  rw [join_map_piece]
  exact congrArg _ String.ofList_toList

end Quotation

/-! ## Numerals -/

/-- A number that is written without a fraction and an exponent. -/
def Number.IsInteger : Number → Prop
  | .real _ => False
  | _ => True

namespace Numeral

/-- The value of a character, if it is a digit. -/
def digitValue (c : Char) : Nat := c.toNat - '0'.toNat

/-- The digits of a natural number. -/
def decimal (n : Nat) : List Nat := (Nat.toDigits 10 n).map digitValue

theorem digit?_of_isDigit {c : Char} (isDigit : c.isDigit) : digit? c = some (digitValue c) := by
  have bounds : '0' ≤ c ∧ c ≤ '9' := by simpa [Char.isDigit, Char.le_def] using isDigit
  simp [digit?, bounds, digitValue]

theorem foldl_decimal (n : Nat) : (decimal n).foldl (fun n d => n * 10 + d) 0 = n := by
  rw [decimal, List.foldl_map]
  have value := Nat.ofDigitChars_ten_toDigits (n := n)
  rw [Nat.ofDigitChars_eq_foldl] at value
  simpa only [Nat.mul_comm 10, digitValue] using value

/-- Digits whose number fits the word are all collected. -/
theorem collect_eq {ds : List Nat} {significand : Nat}
    (fits : ds.foldl (fun n d => n * 10 + d) significand < UInt64.size) :
    collect significand ds = (ds.foldl (fun n d => n * 10 + d) significand, 0) := by
  induction ds generalizing significand with
  | nil => rfl
  | cons d ds ih =>
      have grows : ∀ (ds : List Nat) (n : Nat), n ≤ ds.foldl (fun n d => n * 10 + d) n := by
        intro ds
        induction ds with
        | nil => exact fun n => Nat.le_refl n
        | cons d ds ih => exact fun n => Nat.le_trans (by omega) (ih (n * 10 + d))
      have first : significand * 10 + d < UInt64.size := Nat.lt_of_le_of_lt (grows ds _) fits
      rw [collect, if_pos first]
      exact ih fits

/-- No number but zero starts with a zero. -/
theorem head?_toDigits {n : Nat} (positive : n ≠ 0) : (Nat.toDigits 10 n).head? ≠ some '0' := by
  induction n using Nat.strongRecOn with
  | ind n ih =>
      rw [Nat.toDigits_eq_if (by decide)]
      split_ifs with single
      · simpa using positive
      · rw [List.head?_append_of_ne_nil _ Nat.toDigits_ne_nil]
        exact ih (n / 10) (by omega) (by omega)

/-- A zero in front is the only digit there is. -/
theorem toDigits_of_head? {n : Nat} (zero : (Nat.toDigits 10 n).head? = some '0') :
    Nat.toDigits 10 n = ['0'] := by
  by_cases isZero : n = 0
  · subst isZero
    rfl
  · exact absurd zero (head?_toDigits isZero)

/-- The digits of no number but zero start with a zero. -/
theorem head?_decimal {n : Nat} (positive : n ≠ 0) : (decimal n).head? ≠ some 0 := by
  rw [decimal, List.head?_map]
  intro leading
  obtain ⟨c, first, isZero⟩ := Option.map_eq_some_iff.mp leading
  have isDigit : c.isDigit :=
    Nat.isDigit_of_mem_toDigits (n := n) (b := 10) (by decide) (by decide)
      (List.mem_of_head? first)
  have zero : c = '0' := by
    have least : '0'.toNat ≤ c.toNat := by
      simpa [Char.isDigit, Char.le_def, UInt32.le_iff_toNat_le] using
        (Bool.and_eq_true_iff.mp isDigit).1
    have most : c.toNat - '0'.toNat = 0 := isZero
    exact Char.toNat_inj.mp (by omega)
  exact head?_toDigits positive (zero ▸ first)

/-- A numeral of digits only stands for the integer with these digits. -/
theorem value_decimal (negative : Bool) {n : Nat} (fits : n < UInt64.size) :
    value ⟨negative, decimal n, none, none⟩ = integer? negative n := by
  have stays : (decimal n).foldl (fun n d => n * 10 + d) 0 < UInt64.size := by
    rwa [foldl_decimal]
  have collected := collect_eq stays
  rw [foldl_decimal] at collected
  simp [value, collected]

theorem read_minus (rest : List Char) :
    read ('-' :: rest) = (lexeme (readMagnitude true rest).1, (readMagnitude true rest).2) := rfl

theorem read_of_ne_minus {c : Char} {rest : List Char} (other : c ≠ '-') :
    read (c :: rest) = (lexeme (readMagnitude false (c :: rest)).1,
      (readMagnitude false (c :: rest)).2) := by
  unfold read
  dsimp only
  split
  · next same => cases same; exact absurd rfl other
  · rfl

theorem ne_of_isDigit {c d : Char} (isDigit : c.isDigit) (other : d.isDigit = false) : c ≠ d := by
  rintro rfl
  rw [isDigit] at other
  cases other

/-- **The numeral of an integer** says that integer. -/
theorem lexeme_natural (n : UInt64) :
    lexeme (.ok ⟨false, decimal n.toNat, none, none⟩) = .ok (.natural n) := by
  have fits : n.toNat < UInt64.size := n.toNat_lt
  simp [lexeme, value_decimal false fits, integer?, fits]

theorem lexeme_negative (k : Fin 0x8000000000000000) :
    lexeme (.ok ⟨true, decimal (k.val + 1), none, none⟩) = .ok (.negative k) := by
  have fits : k.val + 1 < UInt64.size := Nat.lt_trans (Nat.succ_lt_succ k.isLt) (by decide)
  have bound : k.val + 1 ≤ 0x8000000000000000 := k.isLt
  simp [lexeme, value_decimal true fits, integer?, bound]

end Numeral

/-! ## Tokens -/

theorem isBlank_of_mark {c : Char} {mark : Token} (isMark : mark? c = some mark) :
    isBlank c = false := by
  unfold mark? at isMark
  split_ifs at isMark <;> subst c <;> rfl

theorem tokens_mark {c : Char} {t : Token} (isMark : mark? c = some t) (rest : List Char) :
    tokens (c :: rest) = t :: tokens rest := by
  rw [tokens, isBlank_of_mark isMark]
  simp [readToken, isMark]

theorem spell_append (word rest : List Char) : spell word (word ++ rest) = (none, rest) := by
  induction word with
  | nil => rfl
  | cons w word ih => simp [spell, ih]

theorem tokens_word {c : Char} {word : List Char} {a : Atom} (isWord : word? c = some (word, a))
    (rest : List Char) : tokens (c :: word ++ rest) = .atom (.ok a) :: tokens rest := by
  have plain : isBlank c = false ∧ mark? c = none := by
    unfold word? at isWord
    split_ifs at isWord <;> subst c <;> exact ⟨rfl, rfl⟩
  rw [List.cons_append, tokens, plain.1]
  simp [readToken, plain.2, isWord, spell_append, wordToken]

theorem Numeral.exists_digitChar {c : Char} (isDigit : c.isDigit) :
    ∃ n < 10, c = Nat.digitChar n := by
  have bounds : '0'.toNat ≤ c.toNat ∧ c.toNat ≤ '9'.toNat := by
    simpa [Char.isDigit, UInt32.le_iff_toNat_le] using isDigit
  have small : c.toNat - '0'.toNat < 10 :=
    Nat.sub_lt_left_of_lt_add bounds.1 (Nat.lt_of_le_of_lt bounds.2 (by decide))
  refine ⟨c.toNat - '0'.toNat, small, Char.toNat_inj.mp ?_⟩
  rw [Nat.toNat_digitChar_of_lt_ten small]
  exact (Nat.add_sub_of_le bounds.1).symm

theorem tokens_numeral {c : Char} (starts : c = '-' ∨ c.isDigit) (rest : List Char) :
    tokens (c :: rest) = .atom ((Numeral.read (c :: rest)).1.map .number)
      :: tokens (Numeral.read (c :: rest)).2 := by
  have token : isBlank c = false ∧ readToken c rest
      = (.atom ((Numeral.read (c :: rest)).1.map .number), (Numeral.read (c :: rest)).2) := by
    rcases starts with rfl | isDigit
    · exact ⟨rfl, rfl⟩
    · obtain ⟨n, small, rfl⟩ := Numeral.exists_digitChar isDigit
      interval_cases n <;> exact ⟨rfl, rfl⟩
  rw [tokens, token.1, token.2]
  rfl

end MixerPanel.Json
