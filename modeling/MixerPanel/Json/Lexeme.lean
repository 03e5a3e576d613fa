import MixerPanel.Json.Fault

/-!
# The reading of one token

A token may be needed for its content, or only passed over on the way to what follows it. Passing
over asks less: a number out of range and a surrogate without its partner are no faults then. So
whatever can be read can be passed over, and every token carries the proof of it.

## Main Definitions

* `Json.Lexeme` — a token's content, and whether the token can be passed over
* `Json.Atom` — the values that are neither text nor nested
* `Json.spell` — reads the rest of a fixed word
-/

namespace MixerPanel.Json

theorem isOk_error {ε α : Type} (e : ε) : (Except.error e : Except ε α).isOk = false := rfl

theorem isOk_map {ε α β : Type} (f : α → β) (e : Except ε α) : (e.map f).isOk = e.isOk := by
  cases e <;> rfl

/-- The reading of one token. -/
structure Lexeme (α : Type) where
  /-- What the token says. -/
  content : Except Fault α
  /-- The fault that is met even when the token is only passed over. -/
  obstacle : Option Fault
  /-- Passing over asks less than reading. -/
  obstacle_of_isOk : content.isOk → obstacle = none

namespace Lexeme

/-- A token without a fault. -/
def ok {α : Type} (a : α) : Lexeme α := ⟨.ok a, none, fun _ => rfl⟩

/-- A token that has a fault when it is read, and maybe one when it is passed over. -/
def faulty {α : Type} (f : Fault) (obstacle : Option Fault) : Lexeme α :=
  ⟨.error f, obstacle, fun isOk => absurd isOk Bool.false_ne_true⟩

/-- A token that has the same fault in either use. -/
def broken {α : Type} (f : Fault) : Lexeme α := faulty f (some f)

/-- A token with another content. -/
def map {α β : Type} (f : α → β) (l : Lexeme α) : Lexeme β :=
  ⟨l.content.map f, l.obstacle, fun isOk => l.obstacle_of_isOk (isOk_map f l.content ▸ isOk)⟩

@[simp] theorem content_ok {α : Type} (a : α) : (ok a).content = .ok a := rfl

@[simp] theorem obstacle_ok {α : Type} (a : α) : (ok a).obstacle = none := rfl

@[simp] theorem map_ok {α β : Type} (f : α → β) (a : α) : (ok a).map f = ok (f a) := rfl

/-- A token is known by its content, if it has one. -/
theorem eq_ok_of_content {α : Type} {l : Lexeme α} {a : α} (content : l.content = .ok a) :
    l = ok a := by
  obtain ⟨found, obstacle, obstacle_of_isOk⟩ := l
  obtain rfl : found = .ok a := content
  obtain rfl : obstacle = none := obstacle_of_isOk rfl
  rfl

end Lexeme

/-- A value that is neither text nor nested. -/
inductive Atom where
  | null
  | bool (b : Bool)
  | number (n : Number)
deriving DecidableEq, Repr

/-- The value that an atom is. -/
def Atom.toJson : Atom → Json
  | null => .null
  | bool b => .bool b
  | number n => .number n

/-- What an atom is called where something else was wanted. -/
def Atom.found : Atom → Found
  | null => .null
  | bool b => .bool b
  | number n => .number n

/-- Reads the rest of a fixed word: the first fault, if any, and the text after the characters that
were looked at. -/
def spell : List Char → List Char → Option Fault × List Char
  | [], text => (none, text)
  | _ :: _, [] => (some .endInValue, [])
  | w :: word, c :: text => if w = c then spell word text else (some .expectedIdent, text)

/-- Reading a word never adds to the text. -/
theorem length_spell_le (word text : List Char) : (spell word text).2.length ≤ text.length := by
  fun_induction spell word text with
  | case1 => simp
  | case2 => simp
  | case3 _ _ _ ih => simp only [List.length_cons]; omega
  | case4 => simp

end MixerPanel.Json
