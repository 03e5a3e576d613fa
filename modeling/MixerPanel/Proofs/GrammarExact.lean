import MixerPanel.Proofs.Grammar

/-!
# Only texts that are JSON can be passed over

A text that is JSON by its grammar is laid out without a fault.  The converse is here: where the
layout can be passed over and nothing is left over, the text is JSON.  So the way on which members
that nobody looks at are passed over accepts the texts of the grammar, and no others.

The layout keeps what it has met, faults included, so whatever is in its state at some time is in
the outline at the end.  If that can be passed over, every token was well-formed when it was read,
and every step went on with what the grammar asks for.

* `Spelled.IsToken` — a well-formed token at the head of a text
* `Layout.passable_of_run` — nothing ever was faulty, if the outline in the end can be passed over
* `Spelled.Comes` — what the grammar knows of the text before the place that the layout came to;
  `Spelled.comes_step` carries it over a token
* `spells_iff` — a text spells an outline exactly if the outline is its layout, with nothing left
  over, and can be passed over
-/

namespace MixerPanel.Json

open Outline Layout

namespace Spelled

/-! ## Numerals -/

/-- The digits that are read are spelled, unless there is none. -/
theorem digits_cases (l : List Char) :
    Json.Numeral.digits l = ([], l) ∨
      Digits l (Json.Numeral.digits l).1 (Json.Numeral.digits l).2 := by
  induction l with
  | nil => exact .inl rfl
  | cons c l ih =>
      cases digit : Json.Numeral.digit? c with
      | none => exact .inl (by simp [Json.Numeral.digits, digit])
      | some d =>
          refine .inr ?_
          simp only [Json.Numeral.digits, digit]
          rcases ih with none | more
          · rw [none]
            exact .one digit l
          · exact .cons digit more

theorem sign_readSign (l : List Char) :
    Sign l (Json.Numeral.readSign l).1 (Json.Numeral.readSign l).2 := by
  unfold Json.Numeral.readSign
  split
  · exact .minus _
  · exact .plus _
  · exact .absent _

theorem exponent_of_readTail {negative : Bool} {whole : List Nat} {fraction : Option (List Nat)}
    {l t : List Char} {n : Json.Numeral}
    (read : Json.Numeral.readTail ⟨negative, whole, fraction, none⟩ l = (.ok n, t)) :
    ∃ exponent, Exponent l exponent t ∧ n = ⟨negative, whole, fraction, exponent⟩ := by
  unfold Json.Numeral.readTail at read
  split at read
  · next c l =>
      split_ifs at read with isMark
      · have sign := sign_readSign l
        rcases digits_cases (Json.Numeral.readSign l).2 with none | digits
        · simp [Json.Numeral.readExponent, none] at read
        · simp [Json.Numeral.readExponent, digits.ne_nil] at read
          obtain ⟨rfl, rfl⟩ := read
          exact ⟨_, .present isMark sign digits, rfl⟩
      · simp only [Prod.mk.injEq, Except.ok.injEq] at read
        obtain ⟨rfl, rfl⟩ := read
        exact ⟨none, .absent _, rfl⟩
  · simp only [Prod.mk.injEq, Except.ok.injEq] at read
    obtain ⟨rfl, rfl⟩ := read
    exact ⟨none, .absent _, rfl⟩

theorem fraction_of_readFraction {negative : Bool} {whole : List Nat} {l t : List Char}
    {n : Json.Numeral}
    (read : Json.Numeral.readFraction ⟨negative, whole, none, none⟩ l = (.ok n, t)) :
    ∃ fraction exponent l₁, Fraction l fraction l₁ ∧ Exponent l₁ exponent t ∧
      n = ⟨negative, whole, fraction, exponent⟩ := by
  unfold Json.Numeral.readFraction at read
  split at read
  · next l =>
      rcases digits_cases l with none | digits
      · simp [none] at read
      · simp only [List.isEmpty_iff, digits.ne_nil, if_false] at read
        obtain ⟨exponent, spelled, rfl⟩ := exponent_of_readTail read
        exact ⟨_, exponent, _, .present digits, spelled, rfl⟩
  · obtain ⟨exponent, spelled, rfl⟩ := exponent_of_readTail read
    exact ⟨none, exponent, l, .absent l, spelled, rfl⟩

/-- The only digit without a value is the zero. -/
theorem eq_zero_of_digit? {c : Char} (digit : Json.Numeral.digit? c = some 0) : c = '0' := by
  unfold Json.Numeral.digit? at digit
  split_ifs at digit with bounds
  have least : '0'.toNat ≤ c.toNat := bounds.1
  have most : c.toNat - '0'.toNat = 0 := Option.some.inj digit
  exact Char.toNat_inj.mp (by omega)

/-- **Whatever is read as a numeral** is spelled as one. -/
theorem magnitude_of_readMagnitude {negative : Bool} {l t : List Char} {n : Json.Numeral}
    (read : Json.Numeral.readMagnitude negative l = (.ok n, t)) : Magnitude negative l n t := by
  unfold Json.Numeral.readMagnitude at read
  rcases digits_cases l with none | digits
  · simp [none] at read
  · generalize Json.Numeral.digits l = found at read digits
    obtain ⟨ds, after⟩ := found
    dsimp only at read digits
    split at read
    · cases read
    · cases read
    · next notNone notLeading =>
        obtain ⟨fraction, exponent, l₁, isFraction, isExponent, rfl⟩ :=
          fraction_of_readFraction read
        have isWhole : Whole l ds after := by
          cases ds with
          | nil => exact absurd rfl digits.ne_nil
          | cons d rest =>
              by_cases zero : d = 0
              · -- a zero is the only digit then, or it would be a leading one
                subst zero
                cases digits with
                | one digit => exact eq_zero_of_digit? digit ▸ .zero _
                | cons digit more =>
                    obtain ⟨next, rest, rfl⟩ := List.exists_cons_of_ne_nil more.ne_nil
                    exact absurd rfl (notLeading next rest)
              · exact .positive digits zero
        exact ⟨isWhole, isFraction, isExponent⟩

theorem magnitude_of_obstacle {negative : Bool} {l : List Char}
    (passable : (Json.Numeral.lexeme (Json.Numeral.readMagnitude negative l).1).obstacle = none) :
    ∃ n, (Json.Numeral.readMagnitude negative l).1 = .ok n ∧
      Magnitude negative l n (Json.Numeral.readMagnitude negative l).2 := by
  cases read : (Json.Numeral.readMagnitude negative l).1 with
  | ok n => exact ⟨n, rfl, magnitude_of_readMagnitude (Prod.ext read rfl)⟩
  | error b =>
      rw [read] at passable
      cases b <;> cases passable

/-- What is read is a numeral, if it can be passed over. -/
theorem numeral_of_read {c : Char} {l : List Char}
    (passable : (Json.Numeral.read (c :: l)).1.obstacle = none) :
    ∃ n, Numeral (c :: l) n (Json.Numeral.read (c :: l)).2 ∧
      (Json.Numeral.read (c :: l)).1 = Json.Numeral.lexeme (.ok n) := by
  by_cases minus : c = '-'
  · subst minus
    rw [Json.Numeral.read_minus] at passable ⊢
    obtain ⟨n, isNumeral, magnitude⟩ := magnitude_of_obstacle passable
    exact ⟨n, .signed magnitude, congrArg Json.Numeral.lexeme isNumeral⟩
  · rw [Json.Numeral.read_of_ne_minus minus] at passable ⊢
    obtain ⟨n, isNumeral, magnitude⟩ := magnitude_of_obstacle passable
    exact ⟨n, .unsigned magnitude, congrArg Json.Numeral.lexeme isNumeral⟩

/-! ## Quotations and words -/

theorem chars_of_scan {l t : List Char} {pieces : List Quotation.Piece}
    (scanned : Quotation.scan l = (pieces, .closed, t)) : Chars l pieces t := by
  fun_induction Quotation.scan l generalizing pieces with
  | case1 | case3 | case5 | case8 | case9 => cases scanned
  | case2 => cases scanned; exact .closed _
  | case6 rest =>
      have stop : Quotation.shortUnit rest = .closed := congrArg (·.2.1) scanned
      unfold Quotation.shortUnit at stop
      split_ifs at stop
  | case4 a b c d rest n isUnit pieces stop scan ih =>
      cases scanned
      exact .unit isUnit (ih scan)
  | case7 letter rest _ _ c escaped pieces stop scan ih =>
      cases scanned
      exact .escape escaped (ih scan)
  | case10 c rest notMark notLast _ _ notEscape control pieces stop scan ih =>
      cases scanned
      have plain : c ≠ '\\' := by
        intro isEscape
        cases rest with
        | nil => exact notLast isEscape rfl
        | cons letter rest => exact notEscape letter rest isEscape rfl
      exact .plain notMark plain (Nat.le_of_not_lt control) (ih scan)

theorem stop_of_fault? {stop : Quotation.Stop} (none : stop.fault? = none) : stop = .closed := by
  cases stop <;> first | rfl | cases none

theorem eq_append_of_spell {word l t : List Char} (spelled : spell word l = (none, t)) :
    l = word ++ t := by
  fun_induction spell word l with
  | case1 text => simpa using spelled
  | case2 => cases spelled
  | case3 w word l ih => rw [ih spelled, List.cons_append]
  | case4 => cases spelled

/-! ## Tokens -/

/-- A well-formed token at the head of a text. -/
inductive IsToken : List Char → Token → List Char → Prop
  | openList (t : List Char) : IsToken ('[' :: t) .openList t
  | closeList (t : List Char) : IsToken (']' :: t) .closeList t
  | openObject (t : List Char) : IsToken ('\x7b' :: t) .openObject t
  | closeObject (t : List Char) : IsToken ('\x7d' :: t) .closeObject t
  | colon (t : List Char) : IsToken (':' :: t) .colon t
  | comma (t : List Char) : IsToken (',' :: t) .comma t
  | atom {l t : List Char} {a : Lexeme Atom} (value : Value l (.atom a) t) : IsToken l (.atom a) t
  | quotation {l t : List Char} {pieces : List Quotation.Piece} (chars : Chars l pieces t) :
      IsToken ('"' :: l) (.quotation (quoted pieces)) t

theorem isToken_of_mark {c : Char} {m : Token} (isMark : mark? c = some m) (t : List Char) :
    IsToken (c :: t) m t := by
  unfold mark? at isMark
  split_ifs at isMark <;> subst c <;> cases isMark <;> constructor

theorem isToken_of_word {c : Char} {word : List Char} {a : Atom} (isWord : word? c = some (word, a))
    (t : List Char) : IsToken (c :: (word ++ t)) (.atom (.ok a)) t := by
  unfold word? at isWord
  split_ifs at isWord <;> subst c <;> cases isWord <;> exact .atom (by constructor)

end Spelled

/-- A token that can be passed over. -/
def Token.Passable : Token → Prop
  | .atom a => a.pass = .ok ()
  | .quotation s => s.pass = .ok ()
  | .stray => False
  | _ => True

namespace Spelled

/-- **A token that is read** is well-formed, if it can be passed over. -/
theorem isToken_of_readToken {c : Char} {l : List Char} (passable : (readToken c l).1.Passable) :
    IsToken (c :: l) (readToken c l).1 (readToken c l).2 := by
  unfold readToken at passable ⊢
  split at passable
  · next isMark => exact isToken_of_mark isMark l
  · next word a notMark isWord =>
      cases fault : (spell word l).1 with
      | some f =>
          rw [fault] at passable
          cases passable
      | none =>
          have split := eq_append_of_spell (Prod.ext fault rfl)
          have token := isToken_of_word isWord (spell word l).2
          rw [← split] at token
          simpa [wordToken] using token
  · split_ifs at passable ⊢ with quote starts
    · subst quote
      have closed := stop_of_fault? (Lexeme.pass_eq_ok_iff.mp passable)
      have chars := chars_of_scan (Prod.ext rfl (Prod.ext closed rfl))
      rw [chars.read_eq]
      exact .quotation chars
    · obtain ⟨n, numeral, isLexeme⟩ := numeral_of_read (Lexeme.pass_eq_ok_iff.mp passable)
      dsimp only
      rw [isLexeme]
      exact .atom (.number numeral)
    · cases passable

/-- The tokens of a text are those of its blanks, none, or there is a first one behind them. -/
theorem tokens_cases (l : List Char) :
    Blanks l [] ∧ tokens l = [] ∨
      ∃ c rest, Blanks l (c :: rest) ∧
        tokens l = (readToken c rest).1 :: tokens (readToken c rest).2 := by
  fun_induction tokens l with
  | case1 => exact .inl ⟨.nil _, rfl⟩
  | case2 c l blank ih =>
      rcases ih with ⟨blanks, none⟩ | ⟨c', rest, blanks, first⟩
      · exact .inl ⟨.cons blank blanks, none⟩
      · exact .inr ⟨c', rest, .cons blank blanks, first⟩
  | case3 c rest notBlank => exact .inr ⟨c, rest, .nil _, rfl⟩

theorem blanks_of_tokens {l : List Char} (none : tokens l = []) : Blanks l [] := by
  rcases tokens_cases l with ⟨blanks, -⟩ | ⟨c, rest, -, first⟩
  · exact blanks
  · rw [none] at first
    cases first

/-- The first token of a text is well-formed, if it can be passed over. -/
theorem isToken_of_tokens {l : List Char} {m : Token} {rest : List Token}
    (first : tokens l = m :: rest) (passable : m.Passable) :
    ∃ l' t, Blanks l l' ∧ IsToken l' m t ∧ tokens t = rest := by
  rcases tokens_cases l with ⟨-, none⟩ | ⟨c, after, blanks, split⟩
  · rw [none] at first
    cases first
  · rw [split] at first
    cases first
    exact ⟨_, _, blanks, isToken_of_readToken passable, rfl⟩

end Spelled

/-! ## What is in the state of the layout -/

namespace Layout

/-- Nothing in what there is of the innermost list or object is faulty. -/
def Due.Passable : Due → Prop
  | .value | .firstItem | .firstKey => True
  | .nextItem items | .itemSeparator items => ∀ o ∈ items, pass o = .ok ()
  | .nextKey members | .memberSeparator members =>
      ∀ member ∈ members, member.1.pass = .ok () ∧ pass member.2 = .ok ()
  | .colon members key =>
      (∀ member ∈ members, member.1.pass = .ok () ∧ pass member.2 = .ok ()) ∧ key.pass = .ok ()

/-- Nothing in what is unfinished is faulty. -/
def Frame.Passable : Frame → Prop
  | .list items => ∀ o ∈ items, pass o = .ok ()
  | .object members key =>
      (∀ member ∈ members, member.1.pass = .ok () ∧ pass member.2 = .ok ()) ∧ key.pass = .ok ()

/-- Nothing in the state is faulty. -/
def State.Passable : State → Prop
  | .due d stack => d.Passable ∧ ∀ frame ∈ stack, frame.Passable
  | .complete root | .broken root => pass root = .ok ()

/-- What is closed at a fault cannot be passed over. -/
theorem not_pass_close (frame : Frame) (o : Outline) : pass (frame.close o) ≠ .ok () := by
  intro passed
  cases frame with
  | list items => cases (pass_list_eq_ok_iff.mp passed).2
  | object members key => cases (pass_object_eq_ok_iff.mp passed).2

theorem pass_foldl_close {stack : List Frame} {o : Outline}
    (passed : pass (stack.foldl Frame.close o) = .ok ()) : stack = [] ∧ pass o = .ok () := by
  induction stack generalizing o with
  | nil => exact ⟨rfl, passed⟩
  | cons frame up ih => exact absurd (ih passed).2 (not_pass_close frame o)

theorem not_passable_cut_fault (f : Fault) (stack : List Frame) :
    ¬ (cut stack (.fault f)).Passable :=
  fun passable => not_pass_fault f (pass_foldl_close passable).2

theorem ending_of_cut_list {stack : List Frame} {items : List Outline} {ending : ListEnd}
    (passable : (cut stack (.list items ending)).Passable) : ending = .closed :=
  (pass_list_eq_ok_iff.mp (pass_foldl_close passable).2).2

theorem ending_of_cut_object {stack : List Frame} {members : List (Lexeme String × Outline)}
    {ending : ObjectEnd} (passable : (cut stack (.object members ending)).Passable) :
    ending = .closed :=
  (pass_object_eq_ok_iff.mp (pass_foldl_close passable).2).2

theorem passable_settle {o : Outline} {stack : List Frame} :
    (settle o stack).Passable ↔ pass o = .ok () ∧ ∀ frame ∈ stack, frame.Passable := by
  match stack with
  | [] => simp [settle, State.Passable]
  | .list items :: up => simp [settle, State.Passable, Due.Passable, Frame.Passable, and_assoc]
  | .object members key :: up =>
      simp [settle, State.Passable, Due.Passable, Frame.Passable]
      tauto

theorem not_pass_atEnd (d : Due) : pass d.atEnd ≠ .ok () := by
  cases d <;> simp [Due.atEnd, not_pass_fault, pass_list_eq_ok_iff, pass_object_eq_ok_iff]

theorem passable_of_start {stack : List Frame} {m : Token} (passable : (start stack m).Passable) :
    (∀ frame ∈ stack, frame.Passable) ∧ m.Passable := by
  cases m with
  | atom | quotation => exact (passable_settle.mp passable).symm
  | openList | openObject => exact ⟨passable.2, trivial⟩
  | _ => exact absurd passable (not_passable_cut_fault _ stack)

/-- **What a step leaves** has in it what there was, and the token. -/
theorem passable_of_step {stack : List Frame} {d : Due} {m : Token}
    (passable : (step stack d m).Passable) : (State.due d stack).Passable ∧ m.Passable := by
  cases d with
  | value =>
      obtain ⟨up, token⟩ := passable_of_start passable
      exact ⟨⟨trivial, up⟩, token⟩
  | firstItem =>
      by_cases close : m = .closeList
      · subst close
        exact ⟨⟨trivial, (passable_settle.mp passable).2⟩, trivial⟩
      · rw [(Awaits.firstItem stack).step_eq m close] at passable
        obtain ⟨up, token⟩ := passable_of_start passable
        exact ⟨⟨trivial, (List.forall_mem_cons.mp up).2⟩, token⟩
  | nextItem items =>
      by_cases close : m = .closeList
      · subst close
        cases ending_of_cut_list passable
      · rw [(Awaits.nextItem items stack).step_eq m close] at passable
        obtain ⟨up, token⟩ := passable_of_start passable
        exact ⟨List.forall_mem_cons.mp up, token⟩
  | itemSeparator items =>
      cases m with
      | comma => exact ⟨passable, trivial⟩
      | closeList =>
          obtain ⟨closed, up⟩ := passable_settle.mp passable
          refine ⟨⟨fun o mem => ?_, up⟩, trivial⟩
          exact (pass_list_eq_ok_iff.mp closed).1 o (List.mem_reverse.mpr mem)
      | _ => cases ending_of_cut_list passable
  | firstKey =>
      cases m with
      | quotation key => exact ⟨⟨trivial, passable.2⟩, passable.1.2⟩
      | closeObject => exact ⟨⟨trivial, (passable_settle.mp passable).2⟩, trivial⟩
      | _ => cases ending_of_cut_object passable
  | nextKey members =>
      cases m with
      | quotation key => exact ⟨⟨passable.1.1, passable.2⟩, passable.1.2⟩
      | _ => cases ending_of_cut_object passable
  | colon members key =>
      cases m with
      | colon => exact ⟨(List.forall_mem_cons.mp passable.2), trivial⟩
      | _ => cases ending_of_cut_object passable
  | memberSeparator members =>
      cases m with
      | comma => exact ⟨passable, trivial⟩
      | closeObject =>
          obtain ⟨closed, up⟩ := passable_settle.mp passable
          refine ⟨⟨fun member mem => ?_, up⟩, trivial⟩
          exact (pass_object_eq_ok_iff.mp closed).1 member (List.mem_reverse.mpr mem)
      | _ => cases ending_of_cut_object passable

/-- **What can be passed over in the end** never was faulty. -/
theorem passable_of_run {s : State} {ts : List Token} (passed : pass (run s ts).root = .ok ()) :
    s.Passable := by
  induction ts generalizing s with
  | nil =>
      cases s with
      | complete root | broken root => exact passed
      | due d stack => exact absurd (pass_foldl_close passed).2 (not_pass_atEnd d)
  | cons m ts ih =>
      cases s with
      | complete root | broken root => exact passed
      | due d stack => exact (passable_of_step (ih passed)).1

end Layout

/-! ## The text so far -/

namespace Spelled

/-- Items up to a place where another one may stand, the last first. -/
inductive ItemsTo (l₀ : List Char) : List Outline → List Char → Prop
  | nil : ItemsTo l₀ [] l₀
  | snoc {l l₁ l₂ t : List Char} {before : List Outline} {o : Outline}
      (prior : ItemsTo l₀ before l) (blanks : Blanks l l₁) (value : Value l₁ o l₂)
      (after : Blanks l₂ (',' :: t)) : ItemsTo l₀ (o :: before) t

/-- Members up to a place where another one may stand, the last first. -/
inductive MembersTo (l₀ : List Char) : List (Lexeme String × Outline) → List Char → Prop
  | nil : MembersTo l₀ [] l₀
  | snoc {l l₁ l₂ t : List Char} {before : List (Lexeme String × Outline)} {key : Lexeme String}
      {o : Outline} (prior : MembersTo l₀ before l) (isKey : Key l key l₁) (value : Value l₁ o l₂)
      (after : Blanks l₂ (',' :: t)) : MembersTo l₀ ((key, o) :: before) t

/-- Behind the items so far come the others. -/
theorem ItemsTo.items {l₀ l t : List Char} {before more : List Outline}
    (prior : ItemsTo l₀ before l) (items : Items l more t) :
    Items l₀ (before.reverse ++ more) t := by
  induction prior generalizing more t with
  | nil => exact items
  | snoc _ blanks value after ih =>
      rw [List.reverse_cons, List.append_assoc]
      exact ih (.cons blanks value after items)

theorem MembersTo.members {l₀ l t : List Char} {before more : List (Lexeme String × Outline)}
    (prior : MembersTo l₀ before l) (members : Members l more t) :
    Members l₀ (before.reverse ++ more) t := by
  induction prior generalizing more t with
  | nil => exact members
  | snoc _ isKey value after ih =>
      rw [List.reverse_cons, List.append_assoc]
      exact ih (.cons isKey value after members)

/-- A value may stand here, with its blanks, under the stack of what was opened before. -/
inductive Opens (text : List Char) : List Frame → List Char → Prop
  | nil : Opens text [] text
  | list {stack : List Frame} {l l₀ t : List Char} {before : List Outline}
      (up : Opens text stack l) (blanks : Blanks l ('[' :: l₀)) (prior : ItemsTo l₀ before t) :
      Opens text (.list before :: stack) t
  | object {stack : List Frame} {l l₀ l₁ t : List Char} {before : List (Lexeme String × Outline)}
      {key : Lexeme String} (up : Opens text stack l) (blanks : Blanks l ('\x7b' :: l₀))
      (prior : MembersTo l₀ before l₁) (isKey : Key l₁ key t) :
      Opens text (.object before key :: stack) t

/-- Reading the text as the grammar has it, the layout came to the state, with that rest still to be
read. -/
inductive Comes (text : List Char) : State → List Char → Prop
  | awaits {d : Due} {stack frames : List Frame} {l : List Char} (awaits : Awaits d stack frames)
      (opens : Opens text frames l) : Comes text (.due d stack) l
  | itemSeparator {stack : List Frame} {before : List Outline} {o : Outline} {l l₁ t : List Char}
      (opens : Opens text (.list before :: stack) l) (blanks : Blanks l l₁)
      (value : Value l₁ o t) : Comes text (.due (.itemSeparator (o :: before)) stack) t
  | awaitsKey {d : Due} {stack : List Frame} {before : List (Lexeme String × Outline)}
      {l l₀ t : List Char} (awaits : AwaitsKey d before) (opens : Opens text stack l)
      (blanks : Blanks l ('\x7b' :: l₀)) (prior : MembersTo l₀ before t) :
      Comes text (.due d stack) t
  | colon {stack : List Frame} {before : List (Lexeme String × Outline)}
      {pieces : List Quotation.Piece} {l l₀ l₁ l₂ t : List Char} (opens : Opens text stack l)
      (blanks : Blanks l ('\x7b' :: l₀)) (prior : MembersTo l₀ before l₁)
      (gap : Blanks l₁ ('"' :: l₂)) (chars : Chars l₂ pieces t) :
      Comes text (.due (.colon before (quoted pieces)) stack) t
  | memberSeparator {stack : List Frame} {before : List (Lexeme String × Outline)}
      {key : Lexeme String} {o : Outline} {l l₁ t : List Char}
      (opens : Opens text (.object before key :: stack) l) (blanks : Blanks l l₁)
      (value : Value l₁ o t) : Comes text (.due (.memberSeparator ((key, o) :: before)) stack) t
  | complete {o : Outline} {l t : List Char} (blanks : Blanks text l) (value : Value l o t) :
      Comes text (.complete o) t

variable {text l l₁ t : List Char} {stack : List Frame}

theorem Blanks.trans {l l₁ t : List Char} (first : Blanks l l₁) (second : Blanks l₁ t) :
    Blanks l t := by
  induction first with
  | nil => exact second
  | cons blank _ ih => exact .cons blank (ih second)

theorem Key.trans {key : Lexeme String} (isKey : Key l key l₁) (blanks : Blanks l₁ t) :
    Key l key t := by
  obtain ⟨before, chars, after, gap⟩ := isKey
  exact ⟨before, chars, after, gap.trans blanks⟩

theorem comes_settle {o : Outline} (opens : Opens text stack l) (blanks : Blanks l l₁)
    (value : Value l₁ o t) : Comes text (settle o stack) t := by
  match stack with
  | [] =>
      cases opens
      exact .complete blanks value
  | .list _ :: _ => exact .itemSeparator opens blanks value
  | .object _ _ :: _ => exact .memberSeparator opens blanks value

theorem comes_start {m : Token} (opens : Opens text stack l) (blanks : Blanks l l₁)
    (token : IsToken l₁ m t) (passable : (start stack m).Passable) :
    Comes text (start stack m) t := by
  cases token with
  | atom value => exact comes_settle opens blanks value
  | quotation chars => exact comes_settle opens blanks (.quotation chars)
  | openList => exact .awaits (.firstItem stack) (.list opens blanks .nil)
  | openObject => exact .awaitsKey .firstKey opens blanks .nil
  | _ => exact absurd passable (not_passable_cut_fault _ stack)

/-- **One step of the layout** takes a well-formed token to what the grammar asks for. -/
theorem comes_step {d : Due} {m : Token} (comes : Comes text (.due d stack) l)
    (blanks : Blanks l l₁) (token : IsToken l₁ m t) (passable : (step stack d m).Passable) :
    Comes text (step stack d m) t := by
  cases comes with
  | @awaits _ _ frames _ awaits opens =>
      by_cases close : m = .closeList
      · subst close
        cases token
        -- only a list that was just opened may be closed where an item is due
        cases awaits with
        | value => exact absurd passable (not_passable_cut_fault _ stack)
        | nextItem => cases ending_of_cut_list passable
        | firstItem =>
            cases opens with
            | list up opened prior =>
                cases prior
                exact comes_settle up opened (.emptyList blanks)
      · rw [awaits.step_eq m close] at passable ⊢
        exact comes_start opens blanks token passable
  | itemSeparator opens gap value =>
      obtain - | ⟨up, opened, prior⟩ := opens
      cases token with
      | comma => exact .awaits (.nextItem _ stack) (.list up opened (.snoc prior gap value blanks))
      | closeList =>
          have items := prior.items (.last gap value blanks)
          rw [← List.reverse_cons] at items
          exact comes_settle up opened (.list items)
      | _ => cases ending_of_cut_list passable
  | awaitsKey awaits opens opened prior =>
      cases awaits with
      | firstKey =>
          cases prior
          cases token with
          | quotation chars => exact .colon opens opened .nil blanks chars
          | closeObject => exact comes_settle opens opened (.emptyObject blanks)
          | _ => cases ending_of_cut_object passable
      | nextKey =>
          cases token with
          | quotation chars => exact .colon opens opened prior blanks chars
          | _ => cases ending_of_cut_object passable
  | colon opens opened prior gap chars =>
      cases token with
      | colon =>
          exact .awaits (.value _) (.object opens opened prior (.mk gap chars blanks (.nil t)))
      | _ => cases ending_of_cut_object passable
  | memberSeparator opens gap value =>
      obtain - | - | ⟨up, opened, prior, isKey⟩ := opens
      cases token with
      | comma =>
          have more := prior.snoc (isKey.trans gap) value blanks
          exact .awaitsKey (.nextKey _) up opened more
      | closeObject =>
          have members := prior.members (.last (isKey.trans gap) value blanks)
          rw [← List.reverse_cons] at members
          exact comes_settle up opened (.object members)
      | _ => cases ending_of_cut_object passable

/-- **A run of the layout** to the end of the text finds a value in it, if the outline can be passed
over. -/
theorem exists_value_of_run {s : State} {o : Outline} (comes : Comes text s l)
    (ends : run s (tokens l) = ⟨o, false⟩) (passed : pass o = .ok ()) :
    ∃ l₁ l₂, Blanks text l₁ ∧ Value l₁ o l₂ ∧ Blanks l₂ [] := by
  generalize isTokens : tokens l = ts at ends
  induction ts generalizing s l with
  | nil =>
      cases s with
      | complete root =>
          cases ends
          cases comes with
          | complete blanks value => exact ⟨_, _, blanks, value, blanks_of_tokens isTokens⟩
      | broken root => cases comes
      | due d stack =>
          cases ends
          exact absurd (pass_foldl_close passed).2 (not_pass_atEnd d)
  | cons m ts ih =>
      cases s with
      | complete root => cases ends
      | broken root => cases comes
      | due d stack =>
          have ends : run (step stack d m) ts = ⟨o, false⟩ := ends
          have passable : (step stack d m).Passable :=
            passable_of_run ((congrArg (fun layout => pass layout.root) ends).trans passed)
          obtain ⟨l₁, t, blanks, token, isRest⟩ :=
            isToken_of_tokens isTokens (passable_of_step passable).2
          exact ih (comes_step comes blanks token passable) isRest ends

end Spelled

/-- **A text is JSON** with a given outline exactly if that is its layout, with nothing left over,
and can be passed over. -/
theorem spells_iff {text : String} {o : Outline} :
    Spells text o ↔ layOut text = ⟨o, false⟩ ∧ pass o = .ok () := by
  constructor
  · intro spells
    exact ⟨layOut_of_spells spells, pass_of_spells spells⟩
  · rintro ⟨laidOut, passed⟩
    obtain ⟨l₁, l₂, before, value, after⟩ :=
      Spelled.exists_value_of_run (.awaits (.value []) .nil) laidOut passed
    exact ⟨before, value, after⟩

end MixerPanel.Json
