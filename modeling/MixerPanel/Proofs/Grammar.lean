import MixerPanel.Proofs.Conveyance
import MixerPanel.Proofs.Lexing

/-!
# The grammar of JSON texts

What a JSON text is does not depend on how it is laid out here.  The grammar is stated as it is
usually given, with blanks between any two tokens, every escape, numerals with a fraction and an
exponent, and no limit of nesting.  Each rule takes something from the head of a text and leaves the
rest of it, and says what the outline of the part is that it takes.

A text is JSON by its grammar alone.  A numeral beyond the finite numbers and a surrogate without
its partner are well-formed, although there is no value that they stand for.

* `Spelled.Value`, `Spelled.Items`, `Spelled.Members` — the grammar, from `Spelled.Blanks`,
  `Spelled.Numeral` and `Spelled.Chars`
* `Spells` — the whole text spells an outline
* `layOut_of_spells` — the layout of such a text is the outline, and nothing is left over
* `pass_of_spells` — such a text can be passed over, whatever its numerals and surrogates stand for

The layout is a machine with a stack, so the induction over the grammar speaks about the machine in
the middle of a text: with a value due under any stack and with any rest that cannot belong to the
value, it ends where the outline of the value is settled.
-/

namespace MixerPanel.Json

open Outline Layout

/-! ## What can be passed over -/

theorem Lexeme.pass_eq_ok_iff {α : Type} {l : Lexeme α} : l.pass = .ok () ↔ l.obstacle = none := by
  cases obstacle : l.obstacle <;> simp [Lexeme.pass, obstacle, Result.fault]

namespace Outline

theorem not_pass_fault (f : Fault) : pass (.fault f) ≠ .ok () := nofun

theorem passItems_eq_ok_iff {items : List Outline} :
    passItems items = .ok () ↔ ∀ o ∈ items, pass o = .ok () := by
  induction items with
  | nil => simp [passItems]
  | cons o items ih => simp [passItems, then_eq_ok_iff, ih]

theorem passMembers_eq_ok_iff {members : List (Lexeme String × Outline)} :
    passMembers members = .ok () ↔
      ∀ member ∈ members, member.1.pass = .ok () ∧ pass member.2 = .ok () := by
  induction members with
  | nil => simp [passMembers]
  | cons member members ih => simp [passMembers, then_eq_ok_iff, ih, and_assoc]

/-- A list can be passed over if its items can and it is closed. -/
theorem pass_list_eq_ok_iff {items : List Outline} {ending : ListEnd} :
    pass (.list items ending) = .ok () ↔ (∀ o ∈ items, pass o = .ok ()) ∧ ending = .closed := by
  cases ending <;>
    simp [pass, then_eq_ok_iff, passItems_eq_ok_iff, check, ListEnd.obstacle, ListEnd.fault?,
      Result.fault]

/-- An object can be passed over if its members can and it is closed. -/
theorem pass_object_eq_ok_iff {members : List (Lexeme String × Outline)} {ending : ObjectEnd} :
    pass (.object members ending) = .ok () ↔
      (∀ member ∈ members, member.1.pass = .ok () ∧ pass member.2 = .ok ()) ∧
        ending = .closed := by
  cases ending <;>
    simp [pass, then_eq_ok_iff, passMembers_eq_ok_iff, check, ObjectEnd.obstacle,
      ObjectEnd.fault?, Result.fault]

end Outline

/-! ## The grammar -/

namespace Spelled

/-- Any number of blanks. -/
inductive Blanks : List Char → List Char → Prop
  | nil (t : List Char) : Blanks t t
  | cons {c : Char} {l t : List Char} (blank : isBlank c = true) (more : Blanks l t) :
      Blanks (c :: l) t

/-- One digit or more. -/
inductive Digits : List Char → List Nat → List Char → Prop
  | one {c : Char} {d : Nat} (digit : Numeral.digit? c = some d) (t : List Char) :
      Digits (c :: t) [d] t
  | cons {c : Char} {d : Nat} {l t : List Char} {ds : List Nat}
      (digit : Numeral.digit? c = some d) (more : Digits l ds t) : Digits (c :: l) (d :: ds) t

/-- The digits before the point, without a leading zero. -/
inductive Whole : List Char → List Nat → List Char → Prop
  | zero (t : List Char) : Whole ('0' :: t) [0] t
  | positive {l t : List Char} {d : Nat} {ds : List Nat} (digits : Digits l (d :: ds) t)
      (nonzero : d ≠ 0) : Whole l (d :: ds) t

/-- The point and the digits after it, which may be absent. -/
inductive Fraction : List Char → Option (List Nat) → List Char → Prop
  | absent (t : List Char) : Fraction t none t
  | present {l t : List Char} {ds : List Nat} (digits : Digits l ds t) :
      Fraction ('.' :: l) (some ds) t

/-- The sign of an exponent, which may be absent: whether it is a minus. -/
inductive Sign : List Char → Bool → List Char → Prop
  | absent (t : List Char) : Sign t false t
  | plus (t : List Char) : Sign ('+' :: t) false t
  | minus (t : List Char) : Sign ('-' :: t) true t

/-- The exponent, which may be absent. -/
inductive Exponent : List Char → Option Int → List Char → Prop
  | absent (t : List Char) : Exponent t none t
  | present {mark : Char} {l l' t : List Char} {negative : Bool} {ds : List Nat}
      (isMark : mark = 'e' ∨ mark = 'E') (sign : Sign l negative l') (digits : Digits l' ds t) :
      Exponent (mark :: l)
        (some (if negative then -(Numeral.ofDigits ds : Int) else Numeral.ofDigits ds)) t

/-- A numeral after its sign. -/
inductive Magnitude (negative : Bool) : List Char → Json.Numeral → List Char → Prop
  | mk {l l₁ l₂ t : List Char} {whole : List Nat} {fraction : Option (List Nat)}
      {exponent : Option Int} (isWhole : Whole l whole l₁) (isFraction : Fraction l₁ fraction l₂)
      (isExponent : Exponent l₂ exponent t) :
      Magnitude negative l ⟨negative, whole, fraction, exponent⟩ t

/-- A numeral. -/
inductive Numeral : List Char → Json.Numeral → List Char → Prop
  | unsigned {l t : List Char} {n : Json.Numeral} (magnitude : Magnitude false l n t) :
      Numeral l n t
  | signed {l t : List Char} {n : Json.Numeral} (magnitude : Magnitude true l n t) :
      Numeral ('-' :: l) n t

/-- What follows the first mark of a quotation, up to the last. -/
inductive Chars : List Char → List Quotation.Piece → List Char → Prop
  | closed (t : List Char) : Chars ('"' :: t) [] t
  | plain {c : Char} {l t : List Char} {pieces : List Quotation.Piece} (notMark : c ≠ '"')
      (notEscape : c ≠ '\\') (notControl : 0x20 ≤ c.toNat) (more : Chars l pieces t) :
      Chars (c :: l) (.char c :: pieces) t
  | escape {letter c : Char} {l t : List Char} {pieces : List Quotation.Piece}
      (escaped : Quotation.escaped? letter = some c) (more : Chars l pieces t) :
      Chars ('\\' :: letter :: l) (.char c :: pieces) t
  | unit {a b c d : Char} {n : Nat} {l t : List Char} {pieces : List Quotation.Piece}
      (isUnit : Quotation.unit? a b c d = some n) (more : Chars l pieces t) :
      Chars ('\\' :: 'u' :: a :: b :: c :: d :: l) (.unit n :: pieces) t

/-- The token that a quotation with the given pieces is. -/
abbrev quoted (pieces : List Quotation.Piece) : Lexeme String := Quotation.lexeme pieces .closed

/-- The token that a numeral is. -/
abbrev numbered (n : Json.Numeral) : Lexeme Atom := (Json.Numeral.lexeme (.ok n)).map .number

/-- A key, with the colon after it and the blanks around the two. -/
inductive Key : List Char → Lexeme String → List Char → Prop
  | mk {l l₁ l₂ l₃ t : List Char} {pieces : List Quotation.Piece} (before : Blanks l ('"' :: l₁))
      (chars : Chars l₁ pieces l₂) (after : Blanks l₂ (':' :: l₃)) (gap : Blanks l₃ t) :
      Key l (quoted pieces) t

mutual

/-- A value. -/
inductive Value : List Char → Outline → List Char → Prop
  | null (t : List Char) : Value ('n' :: 'u' :: 'l' :: 'l' :: t) (.atom (.ok .null)) t
  | true (t : List Char) : Value ('t' :: 'r' :: 'u' :: 'e' :: t) (.atom (.ok (.bool true))) t
  | false (t : List Char) :
      Value ('f' :: 'a' :: 'l' :: 's' :: 'e' :: t) (.atom (.ok (.bool false))) t
  | number {l t : List Char} {n : Json.Numeral} (numeral : Numeral l n t) :
      Value l (.atom (numbered n)) t
  | quotation {l t : List Char} {pieces : List Quotation.Piece} (chars : Chars l pieces t) :
      Value ('"' :: l) (.quotation (quoted pieces)) t
  | emptyList {l t : List Char} (blanks : Blanks l (']' :: t)) :
      Value ('[' :: l) (.list [] .closed) t
  | list {l t : List Char} {items : List Outline} (inside : Items l items t) :
      Value ('[' :: l) (.list items .closed) t
  | emptyObject {l t : List Char} (blanks : Blanks l ('\x7d' :: t)) :
      Value ('\x7b' :: l) (.object [] .closed) t
  | object {l t : List Char} {members : List (Lexeme String × Outline)}
      (inside : Members l members t) : Value ('\x7b' :: l) (.object members .closed) t

/-- The items of a list, one or more, up to its end. -/
inductive Items : List Char → List Outline → List Char → Prop
  | last {l l₁ l₂ t : List Char} {o : Outline} (before : Blanks l l₁) (value : Value l₁ o l₂)
      (after : Blanks l₂ (']' :: t)) : Items l [o] t
  | cons {l l₁ l₂ l₃ t : List Char} {o : Outline} {items : List Outline} (before : Blanks l l₁)
      (value : Value l₁ o l₂) (after : Blanks l₂ (',' :: l₃)) (more : Items l₃ items t) :
      Items l (o :: items) t

/-- The members of an object, one or more, up to its end. -/
inductive Members : List Char → List (Lexeme String × Outline) → List Char → Prop
  | last {l l₁ l₂ t : List Char} {key : Lexeme String} {o : Outline} (isKey : Key l key l₁)
      (value : Value l₁ o l₂) (after : Blanks l₂ ('\x7d' :: t)) : Members l [(key, o)] t
  | cons {l l₁ l₂ l₃ t : List Char} {key : Lexeme String} {o : Outline}
      {members : List (Lexeme String × Outline)} (isKey : Key l key l₁) (value : Value l₁ o l₂)
      (after : Blanks l₂ (',' :: l₃)) (more : Members l₃ members t) :
      Members l ((key, o) :: members) t

end

end Spelled

/-- The whole text is a value with the given outline, with blanks around it. -/
inductive Spells (text : String) (o : Outline) : Prop
  | mk {l₁ l₂ : List Char} (before : Spelled.Blanks text.toList l₁) (value : Spelled.Value l₁ o l₂)
      (after : Spelled.Blanks l₂ [])

namespace Spelled

/-! ## The tokens of a spelled text -/

theorem Blanks.tokens_eq {l t : List Char} (blanks : Blanks l t) : tokens l = tokens t := by
  induction blanks with
  | nil => rfl
  | cons blank _ ih => rw [Json.tokens, if_pos blank, ih]

/-! ### Numerals -/

/-- The text does not go on with a digit. -/
def NoDigit (l : List Char) : Prop := ∀ c ∈ l.head?, Json.Numeral.digit? c = none

/-- What follows a numeral cannot belong to it. -/
def Stops (l : List Char) : Prop :=
  NoDigit l ∧ ∀ c ∈ l.head?, c ≠ '.' ∧ c ≠ 'e' ∧ c ≠ 'E'

theorem Digits.digits_eq {l t : List Char} {ds : List Nat} (spelled : Digits l ds t)
    (noDigit : NoDigit t) : Json.Numeral.digits l = (ds, t) := by
  induction spelled with
  | @one c d digit t =>
      have nothing : Json.Numeral.digits t = ([], t) := by
        cases t with
        | nil => rfl
        | cons c t => rw [Json.Numeral.digits, noDigit c rfl]
      simp [Json.Numeral.digits, digit, nothing]
  | cons digit _ ih => simp [Json.Numeral.digits, digit, ih noDigit]

theorem Digits.ne_nil {l t : List Char} {ds : List Nat} (spelled : Digits l ds t) : ds ≠ [] := by
  cases spelled <;> exact List.cons_ne_nil _ _

theorem Sign.readSign_eq {l l' : List Char} {negative : Bool} (sign : Sign l negative l')
    {ds : List Nat} {t : List Char} (digits : Digits l' ds t) :
    Json.Numeral.readSign l = (negative, l') := by
  cases sign with
  | plus | minus => rfl
  | absent =>
      -- a digit is no sign
      cases digits with
      | one digit | cons digit =>
          rw [Json.Numeral.readSign]
          · rintro rest ⟨⟩
            cases digit
          · rintro rest ⟨⟩
            cases digit

section

variable {l t : List Char} {exponent : Option Int}

theorem Exponent.noDigit (spelled : Exponent l exponent t) (stops : Stops t) : NoDigit l := by
  cases spelled with
  | absent => exact stops.1
  | present isMark => rintro c ⟨⟩; rcases isMark with rfl | rfl <;> rfl

theorem Exponent.readTail_eq (spelled : Exponent l exponent t) (stops : Stops t) (negative : Bool)
    (whole : List Nat) (fraction : Option (List Nat)) :
    Json.Numeral.readTail ⟨negative, whole, fraction, none⟩ l
      = (.ok ⟨negative, whole, fraction, exponent⟩, t) := by
  cases spelled with
  | absent =>
      cases l with
      | nil => rfl
      | cons c l =>
          obtain ⟨-, notSmall, notBig⟩ := stops.2 c rfl
          simp [Json.Numeral.readTail, notSmall, notBig]
  | present isMark sign digits =>
      simp [Json.Numeral.readTail, isMark, Json.Numeral.readExponent, sign.readSign_eq digits,
        digits.digits_eq stops.1, digits.ne_nil]

variable {l₁ : List Char} {fraction : Option (List Nat)}

theorem Fraction.noDigit (spelled : Fraction l fraction l₁) (noDigit : NoDigit l₁) :
    NoDigit l := by
  cases spelled with
  | absent => exact noDigit
  | present => rintro c ⟨⟩; rfl

theorem Fraction.readFraction_eq (spelled : Fraction l fraction l₁) (tail : Exponent l₁ exponent t)
    (stops : Stops t) (negative : Bool) (whole : List Nat) :
    Json.Numeral.readFraction ⟨negative, whole, none, none⟩ l
      = (.ok ⟨negative, whole, fraction, exponent⟩, t) := by
  cases spelled with
  | absent =>
      rw [Json.Numeral.readFraction]
      · exact tail.readTail_eq stops _ _ _
      · -- no exponent starts with a point, and neither does what follows
        rintro rest rfl
        cases tail with
        | absent => exact (stops.2 '.' rfl).1 rfl
        | present isMark => exact absurd isMark (by decide)
  | present digits =>
      simp [Json.Numeral.readFraction, digits.digits_eq (tail.noDigit stops), digits.ne_nil,
        tail.readTail_eq stops]

theorem Whole.readMagnitude_eq {whole : List Nat} (spelled : Whole l whole l₁)
    (noDigit : NoDigit l₁) (negative : Bool) :
    Json.Numeral.readMagnitude negative l
      = Json.Numeral.readFraction ⟨negative, whole, none, none⟩ l₁ := by
  cases spelled with
  | zero =>
      have digits := (Digits.one (c := '0') rfl l₁).digits_eq noDigit
      simp [Json.Numeral.readMagnitude, digits]
  | @positive _ _ d ds digits nonzero =>
      simp only [Json.Numeral.readMagnitude, digits.digits_eq noDigit]
      split
      · next none => cases none
      · next leading => cases leading; exact absurd rfl nonzero
      · rfl

end

theorem Magnitude.readMagnitude_eq {negative : Bool} {l t : List Char} {n : Json.Numeral}
    (spelled : Magnitude negative l n t) (stops : Stops t) :
    Json.Numeral.readMagnitude negative l = (.ok n, t) := by
  obtain ⟨isWhole, isFraction, isExponent⟩ := spelled
  rw [isWhole.readMagnitude_eq (isFraction.noDigit (isExponent.noDigit stops)),
    isFraction.readFraction_eq isExponent stops]

/-- A numeral starts with a digit, after its sign. -/
theorem Magnitude.exists_digit {negative : Bool} {l t : List Char} {n : Json.Numeral}
    (spelled : Magnitude negative l n t) :
    ∃ c rest, l = c :: rest ∧ (Json.Numeral.digit? c).isSome := by
  obtain ⟨isWhole, -, -⟩ := spelled
  cases isWhole with
  | zero t => exact ⟨_, _, rfl, rfl⟩
  | positive digits =>
      cases digits with
      | one digit | cons digit => exact ⟨_, _, rfl, by rw [digit]; rfl⟩

theorem isDigit_of_digit? {c : Char} (digit : (Json.Numeral.digit? c).isSome) : c.isDigit := by
  unfold Json.Numeral.digit? at digit
  split_ifs at digit with bounds
  · simpa [Char.isDigit, Char.le_def] using bounds
  · cases digit

/-- **A spelled numeral** is one token. -/
theorem Numeral.tokens_eq {l t : List Char} {n : Json.Numeral} (spelled : Numeral l n t)
    (stops : Stops t) : tokens l = .atom (numbered n) :: tokens t := by
  cases spelled with
  | unsigned magnitude =>
      obtain ⟨c, rest, rfl, digit⟩ := magnitude.exists_digit
      have isDigit := isDigit_of_digit? digit
      rw [tokens_numeral (.inr isDigit),
        Json.Numeral.read_of_ne_minus (Json.Numeral.ne_of_isDigit isDigit rfl),
        magnitude.readMagnitude_eq stops]
  | signed magnitude =>
      rw [tokens_numeral (.inl rfl), Json.Numeral.read_minus, magnitude.readMagnitude_eq stops]

/-! ### Quotations -/

theorem Chars.scan_eq {l t : List Char} {pieces : List Quotation.Piece} (spelled : Chars l pieces t) :
    Quotation.scan l = (pieces, .closed, t) := by
  induction spelled with
  | closed => rfl
  | plain notMark notEscape notControl _ ih =>
      rw [Quotation.scan]
      · simp [Nat.not_lt.mpr notControl, ih]
      all_goals simp_all
  | @escape letter c l t pieces escaped _ ih =>
      have notUnit : letter ≠ 'u' := by
        rintro rfl
        cases escaped
      rw [Quotation.scan]
      · simp [escaped, ih]
      all_goals simp_all
  | unit isUnit _ ih => simp [Quotation.scan, isUnit, ih]

theorem Chars.read_eq {l t : List Char} {pieces : List Quotation.Piece} (spelled : Chars l pieces t) :
    Quotation.read l = (quoted pieces, t) := by
  rw [Quotation.read, spelled.scan_eq]

/-- **A spelled quotation** is one token. -/
theorem Chars.tokens_eq {l t : List Char} {pieces : List Quotation.Piece} (spelled : Chars l pieces t) :
    tokens ('"' :: l) = .quotation (quoted pieces) :: tokens t := by
  have token : readToken '"' l = (.quotation (quoted pieces), t) := by
    show (Token.quotation (Quotation.read l).1, (Quotation.read l).2) = _
    rw [spelled.read_eq]
  rw [Json.tokens, token]
  rfl

end Spelled

/-! ## The layout of a spelled text -/

/-- A value may start here: what is due under a stack, and the stack once the value has started. -/
inductive Awaits : Due → List Frame → List Frame → Prop
  | value (stack : List Frame) : Awaits .value stack stack
  | firstItem (stack : List Frame) : Awaits .firstItem stack (.list [] :: stack)
  | nextItem (items : List Outline) (stack : List Frame) :
      Awaits (.nextItem items) stack (.list items :: stack)

/-- A key may stand here: with what is due, and the members so far, the last first. -/
inductive AwaitsKey : Due → List (Lexeme String × Outline) → Prop
  | firstKey : AwaitsKey .firstKey []
  | nextKey (members : List (Lexeme String × Outline)) : AwaitsKey (.nextKey members) members

theorem Awaits.step_eq {d : Due} {stack frames : List Frame} (awaits : Awaits d stack frames)
    (t : Token) (other : t ≠ .closeList) : step stack d t = start frames t := by
  cases awaits with
  | value => rfl
  | firstItem => cases t <;> first | rfl | exact absurd rfl other
  | nextItem => cases t <;> first | rfl | exact absurd rfl other

theorem Awaits.run_cons {d : Due} {stack frames : List Frame} (awaits : Awaits d stack frames)
    (t : Token) (other : t ≠ .closeList) (rest : List Token) :
    run (.due d stack) (t :: rest) = run (start frames t) rest :=
  congrArg (run · rest) (awaits.step_eq t other)

theorem AwaitsKey.step_quotation {d : Due} {members : List (Lexeme String × Outline)}
    (awaits : AwaitsKey d members) (stack : List Frame) (key : Lexeme String) :
    step stack d (.quotation key) = .due (.colon members key) stack := by
  cases awaits <;> rfl

namespace Spelled

theorem Blanks.stops {l t : List Char} (blanks : Blanks l t) (stops : Stops t) : Stops l := by
  cases blanks with
  | nil => exact stops
  | @cons c l t blank more =>
      simp only [isBlank, Bool.or_eq_true, beq_iff_eq] at blank
      rcases blank with ((rfl | rfl) | rfl) | rfl <;>
        exact ⟨by rintro c ⟨⟩; rfl, by rintro c ⟨⟩; decide⟩

theorem stops_nil : Stops [] := ⟨nofun, nofun⟩

theorem stops_comma (t : List Char) : Stops (',' :: t) :=
  ⟨by rintro c ⟨⟩; rfl, by rintro c ⟨⟩; decide⟩

theorem stops_closeList (t : List Char) : Stops (']' :: t) :=
  ⟨by rintro c ⟨⟩; rfl, by rintro c ⟨⟩; decide⟩

theorem stops_closeObject (t : List Char) : Stops ('\x7d' :: t) :=
  ⟨by rintro c ⟨⟩; rfl, by rintro c ⟨⟩; decide⟩

/-- A mark is found behind blanks. -/
theorem Blanks.tokens_mark {l t : List Char} {c : Char} {m : Token} (blanks : Blanks l (c :: t))
    (isMark : mark? c = some m) : tokens l = m :: tokens t := by
  rw [blanks.tokens_eq, Json.tokens_mark isMark]

/-- A key and its colon are two tokens. -/
theorem Key.tokens_eq {l t : List Char} {key : Lexeme String} (spelled : Key l key t) :
    tokens l = .quotation key :: .colon :: tokens t := by
  obtain ⟨before, chars, after, gap⟩ := spelled
  rw [before.tokens_eq, chars.tokens_eq, after.tokens_mark rfl, gap.tokens_eq]

mutual

/-- **A spelled value is laid out** as its outline, wherever a value may start and whatever follows
that cannot belong to it. -/
theorem run_value : ∀ {l t : List Char} {o : Outline}, Value l o t → Stops t →
    ∀ {d : Due} {stack frames : List Frame}, Awaits d stack frames →
      run (.due d stack) (tokens l) = run (settle o frames) (tokens t)
  | _, _, _, .null t, _, d, stack, _, awaits => by
      have word := congrArg (run (.due d stack)) (tokens_word (c := 'n') rfl t)
      exact word.trans (awaits.run_cons (.atom _) nofun _)
  | _, _, _, .true t, _, d, stack, _, awaits => by
      have word := congrArg (run (.due d stack)) (tokens_word (c := 't') rfl t)
      exact word.trans (awaits.run_cons (.atom _) nofun _)
  | _, _, _, .false t, _, d, stack, _, awaits => by
      have word := congrArg (run (.due d stack)) (tokens_word (c := 'f') rfl t)
      exact word.trans (awaits.run_cons (.atom _) nofun _)
  | _, _, _, .number numeral, stops, _, _, _, awaits => by
      rw [numeral.tokens_eq stops]
      exact awaits.run_cons (.atom _) nofun _
  | _, _, _, .quotation chars, _, _, _, _, awaits => by
      rw [chars.tokens_eq]
      exact awaits.run_cons (.quotation _) nofun _
  | _, _, _, .emptyList blanks, _, _, _, _, awaits => by
      rw [Json.tokens_mark (t := .openList) rfl, blanks.tokens_mark (m := .closeList) rfl]
      exact awaits.run_cons .openList nofun _
  | _, _, _, .list inside, _, _, _, frames, awaits => by
      rw [Json.tokens_mark (t := .openList) rfl]
      exact (awaits.run_cons .openList nofun _).trans (run_items inside (.firstItem frames))
  | _, _, _, .emptyObject blanks, _, _, _, _, awaits => by
      rw [Json.tokens_mark (t := .openObject) rfl, blanks.tokens_mark (m := .closeObject) rfl]
      exact awaits.run_cons .openObject nofun _
  | _, _, _, .object inside, _, _, _, frames, awaits => by
      rw [Json.tokens_mark (t := .openObject) rfl]
      exact (awaits.run_cons .openObject nofun _).trans (run_members inside .firstKey frames)

/-- The items that are left of a list, with those before them on the stack. -/
theorem run_items : ∀ {l t : List Char} {items : List Outline}, Items l items t →
    ∀ {d : Due} {before : List Outline} {stack : List Frame},
      Awaits d stack (.list before :: stack) →
        run (.due d stack) (tokens l)
          = run (settle (.list (before.reverse ++ items) .closed) stack) (tokens t)
  | _, t, _, .last blanks value after, _, before, stack, awaits => by
      rw [blanks.tokens_eq, run_value value (after.stops (stops_closeList t)) awaits, settle,
        after.tokens_mark (m := .closeList) rfl, run, step, List.reverse_cons]
  | _, _, _, .cons blanks value after more, _, before, stack, awaits => by
      -- the first item is settled on top of those before it, and the others follow it
      rw [blanks.tokens_eq, run_value value (after.stops (stops_comma _)) awaits, settle,
        after.tokens_mark (m := .comma) rfl, run, step,
        run_items more (.nextItem _ stack), List.reverse_cons, List.append_assoc]
      rfl

/-- The members that are left of an object, with those before them on the stack. -/
theorem run_members : ∀ {l t : List Char} {members : List (Lexeme String × Outline)},
    Members l members t → ∀ {d : Due} {before : List (Lexeme String × Outline)},
      AwaitsKey d before → ∀ stack : List Frame,
        run (.due d stack) (tokens l)
          = run (settle (.object (before.reverse ++ members) .closed) stack) (tokens t)
  | _, t, _, .last isKey value after, _, before, awaits, stack => by
      rw [isKey.tokens_eq, run, awaits.step_quotation, run, step,
        run_value value (after.stops (stops_closeObject t)) (.value _), settle,
        after.tokens_mark (m := .closeObject) rfl, run, step, List.reverse_cons]
  | _, _, _, .cons isKey value after more, _, before, awaits, stack => by
      rw [isKey.tokens_eq, run, awaits.step_quotation, run, step,
        run_value value (after.stops (stops_comma _)) (.value _), settle,
        after.tokens_mark (m := .comma) rfl, run, step,
        run_members more (.nextKey _) stack, List.reverse_cons, List.append_assoc]
      rfl

end

/-! ## Passing over a spelled text -/

theorem pass_numbered (n : Json.Numeral) : (numbered n).pass = .ok () := by
  cases value : n.value <;>
    simp [numbered, Json.Numeral.lexeme, value, Lexeme.map, Lexeme.pass, Lexeme.ok, Lexeme.faulty]

@[simp] theorem pass_quoted (pieces : List Quotation.Piece) : (quoted pieces).pass = .ok () := rfl

mutual

/-- **A spelled value can be passed over.** -/
theorem pass_value : ∀ {l t : List Char} {o : Outline}, Value l o t → pass o = .ok ()
  | _, _, _, .null _ | _, _, _, .true _ | _, _, _, .false _ => rfl
  | _, _, _, .emptyList _ | _, _, _, .emptyObject _ | _, _, _, .quotation _ => rfl
  | _, _, _, .number _ => pass_numbered _
  | _, _, _, .list inside => pass_list_eq_ok_iff.mpr ⟨pass_items inside, rfl⟩
  | _, _, _, .object inside => pass_object_eq_ok_iff.mpr ⟨pass_members inside, rfl⟩

theorem pass_items : ∀ {l t : List Char} {items : List Outline}, Items l items t →
    ∀ o ∈ items, pass o = .ok ()
  | _, _, _, .last _ value _ => by simpa using pass_value value
  | _, _, _, .cons _ value _ more => List.forall_mem_cons.mpr ⟨pass_value value, pass_items more⟩

theorem pass_members : ∀ {l t : List Char} {members : List (Lexeme String × Outline)},
    Members l members t → ∀ member ∈ members, member.1.pass = .ok () ∧ pass member.2 = .ok ()
  | _, _, _, .last ⟨_, _, _, _⟩ value _ => by simpa using pass_value value
  | _, _, _, .cons ⟨_, _, _, _⟩ value _ more =>
      List.forall_mem_cons.mpr ⟨⟨rfl, pass_value value⟩, pass_members more⟩

end

end Spelled

/-- **The layout of a text that is JSON** is the outline that it spells, and nothing comes after. -/
theorem layOut_of_spells {text : String} {o : Outline} (spells : Spells text o) :
    layOut text = ⟨o, false⟩ := by
  obtain ⟨before, value, after⟩ := spells
  rw [layOut, before.tokens_eq, Spelled.run_value value (after.stops Spelled.stops_nil) (.value []),
    after.tokens_eq, tokens]
  rfl

theorem pass_of_spells {text : String} {o : Outline} (spells : Spells text o) :
    pass o = .ok () := by
  obtain ⟨-, value, -⟩ := spells
  exact Spelled.pass_value value

end MixerPanel.Json
