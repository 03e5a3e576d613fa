import MixerPanel.Json.Pointer
import MixerPanel.Proofs.Lexing

/-!
# Written pointers

A pointer is written with a slash before each of its steps.  A slash or a tilde in a step is
escaped, so that any text may be a step, and so may a number, which names the item of a list.

* `Pointer.write` — the pointer with given steps
* `Pointer.steps?_write` — its steps are those that it was written with
* `index?_toString` — a number names the item at its place
-/

namespace MixerPanel

namespace Json

namespace Pointer

/-- How a character is written in a step. -/
def escape (c : Char) : List Char :=
  if c = '~' then ['~', '0'] else if c = '/' then ['~', '1'] else [c]

/-- The characters of the pointer with the given steps. -/
def chars : List String → List Char
  | [] => []
  | step :: rest => '/' :: (step.toList.flatMap escape ++ chars rest)

/-- The pointer with the given steps. -/
def write (steps : List String) : String := String.ofList (chars steps)

theorem unescape_escape (step : List Char) : unescape (step.flatMap escape) = step := by
  induction step with
  | nil => rfl
  | cons c rest ih =>
      rw [List.flatMap_cons, escape]
      split_ifs with tilde slash
      · subst tilde
        exact congrArg ('~' :: ·) ih
      · subst slash
        exact congrArg ('/' :: ·) ih
      · rw [List.singleton_append, unescape, ih]
        · rintro _ rfl
          exact absurd rfl tilde
        · rintro _ rfl
          exact absurd rfl tilde

theorem slash_not_mem_escape (step : List Char) : '/' ∉ step.flatMap escape := by
  rw [List.mem_flatMap]
  rintro ⟨c, -, mem⟩
  unfold escape at mem
  split_ifs at mem with tilde slash
  · simp at mem
  · simp at mem
  · exact slash (List.mem_singleton.mp mem).symm

theorem splitSlashes_of_plain {part : List Char} (plain : '/' ∉ part) :
    splitSlashes part = [part] := by
  induction part with
  | nil => rfl
  | cons c rest ih =>
      rw [List.mem_cons, not_or] at plain
      rw [splitSlashes, if_neg (Ne.symm plain.1), ih plain.2]

theorem splitSlashes_append {part : List Char} (plain : '/' ∉ part) (rest : List Char) :
    splitSlashes (part ++ '/' :: rest) = part :: splitSlashes rest := by
  induction part with
  | nil => rfl
  | cons c part ih =>
      rw [List.mem_cons, not_or] at plain
      rw [List.cons_append, splitSlashes, if_neg (Ne.symm plain.1), ih plain.2]

theorem splitSlashes_chars (step : String) (rest : List String) :
    splitSlashes (step.toList.flatMap escape ++ chars rest)
      = (step :: rest).map fun step => step.toList.flatMap escape := by
  induction rest generalizing step with
  | nil => rw [chars, List.append_nil, splitSlashes_of_plain (slash_not_mem_escape _)]; rfl
  | cons next rest ih =>
      rw [chars, splitSlashes_append (slash_not_mem_escape _), ih next]
      rfl

/-- **A written pointer** has the steps it was written with. -/
theorem steps?_write (steps : List String) : steps? (write steps) = some steps := by
  cases steps with
  | nil => rfl
  | cons step rest =>
      rw [steps?, write, String.toList_ofList, chars]
      simp only [splitSlashes_chars, List.map_map, Option.some.injEq]
      refine List.map_id'' (fun step => ?_) _
      show String.ofList (unescape _) = step
      rw [unescape_escape, String.ofList_toList]

end Pointer

/-- **The index that a number names** is the number. -/
theorem index?_toString (n : Nat) : index? (toString n) = some n := by
  have digits : (toString n).toList = Nat.toDigits 10 n := String.toList_ofList
  have each : (Nat.toDigits 10 n).all (fun c => '0' ≤ c && c ≤ '9') = true := by
    rw [List.all_eq_true]
    intro c mem
    have isDigit := Nat.isDigit_of_mem_toDigits (by decide) (by decide) mem
    simpa [Char.isDigit, Char.le_def] using isDigit
  have noLeadingZero :
      ¬ ((Nat.toDigits 10 n).head? = some '0' ∧ (Nat.toDigits 10 n).length ≠ 1) := by
    rintro ⟨zero, long⟩
    rw [Numeral.toDigits_of_head? zero] at long
    exact long rfl
  have value : (Nat.toDigits 10 n).foldl (fun n c => n * 10 + (c.toNat - '0'.toNat)) 0 = n := by
    have value := Numeral.foldl_decimal n
    rwa [Numeral.decimal, List.foldl_map] at value
  have some : ¬ ((Nat.toDigits 10 n).isEmpty = true ∨
      (!(Nat.toDigits 10 n).all fun c => '0' ≤ c && c ≤ '9') = true) := by
    simp [each, Nat.toDigits_ne_nil]
  simp only [index?, digits]
  rw [if_neg some, if_neg noLeadingZero, value]

end Json

end MixerPanel
