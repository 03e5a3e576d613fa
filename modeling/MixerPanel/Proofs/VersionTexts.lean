import MixerPanel.Device.Version
import MixerPanel.Proofs.Delays
import MixerPanel.Proofs.Lexing

/-!
# Texts of versions

A version is shown as four numerals with points between them.  A numeral has no zeros in front, so
that a number can be written in one way only, and there is no point in a numeral, so that a text
splits into its numerals in one way only.  Nothing is lost in a text, and no two versions share one.

* `Version.Numeral` — digits that write a number, without zeros in front
* `Version.numeral_iff` — a number has one numeral, its decimal digits
* `Version.Shows` — a text shows a version: four numerals, joined by points
* `Version.ofText?` — reads a text back, within 32 bits for each number
* `version_texts_unambiguous` — which text shows a version, and which version a text shows
-/

namespace MixerPanel

namespace Version

/-! ## Numerals -/

/-- Digits that write a number, without zeros in front of others. -/
structure Numeral (digits : List Char) (n : UInt32) : Prop where
  nonempty : digits ≠ []
  each : ∀ c ∈ digits, c.isDigit = true
  plain : digits.head? = some '0' → digits = ['0']
  value : Nat.ofDigitChars 10 digits 0 = n.toNat

/-- The number that a numeral writes, if there are no zeros in front and it fits in 32 bits. -/
def numeral? (digits : List Char) : Option UInt32 :=
  if digits.head? = some '0' ∧ digits ≠ ['0'] then none else Config.readDigits? digits

section Numeral

variable {digits : List Char} {n : UInt32}

/-- **Digits without zeros in front** are the decimal digits of their value. -/
theorem toDigits_ofDigitChars (nonempty : digits ≠ []) (each : ∀ c ∈ digits, c.isDigit = true)
    (plain : digits.head? = some '0' → digits = ['0']) :
    Nat.toDigits 10 (Nat.ofDigitChars 10 digits 0) = digits := by
  induction digits using List.reverseRecOn with
  | nil => exact absurd rfl nonempty
  | append_singleton front last ih =>
      obtain ⟨d, small, rfl⟩ := Json.Numeral.exists_digitChar (each last (by simp))
      have value : Nat.ofDigitChars 10 (front ++ [Nat.digitChar d]) 0
          = 10 * Nat.ofDigitChars 10 front 0 + d := by
        rw [Nat.ofDigitChars_append, Nat.ofDigitChars_cons_digitChar_of_lt_ten small,
          Nat.ofDigitChars_nil]
      rw [value]
      by_cases single : front = []
      · subst single
        rw [Nat.ofDigitChars_nil, Nat.mul_zero, Nat.zero_add, Nat.toDigits_of_lt_base small,
          List.nil_append]
      · -- a zero in front would be one in front of the last digit
        have noZero : front.head? ≠ some '0' := by
          intro zero
          have alone := plain (by rw [List.head?_append_of_ne_nil _ single, zero])
          have lengths := congrArg List.length alone
          exact single (by simpa using lengths)
        have written := ih single (fun c mem => each c (List.mem_append_left _ mem))
          fun zero => absurd zero noZero
        have positive : 0 < Nat.ofDigitChars 10 front 0 := by
          refine Nat.pos_of_ne_zero fun zero => noZero ?_
          rw [← written, zero]
          rfl
        rw [← Nat.toDigits_append_toDigits (by decide) positive small, written,
          Nat.toDigits_of_lt_base small]

theorem numeral_decimal (n : UInt32) : Numeral (decimal n) n where
  nonempty := Nat.toDigits_ne_nil
  each _ mem := Nat.isDigit_of_mem_toDigits (by decide) (by decide) mem
  plain := Json.Numeral.toDigits_of_head?
  value := Nat.ofDigitChars_ten_toDigits

/-- **A number has one numeral.** -/
theorem numeral_iff : Numeral digits n ↔ digits = decimal n := by
  constructor
  · intro numeral
    rw [decimal, ← numeral.value,
      toDigits_ofDigitChars numeral.nonempty numeral.each numeral.plain]
  · rintro rfl
    exact numeral_decimal n

theorem numeral?_eq_some_iff : numeral? digits = some n ↔ Numeral digits n := by
  unfold numeral?
  split_ifs with padded
  · exact iff_of_false nofun fun numeral => padded.2 (numeral.plain padded.1)
  · rw [Config.readDigits?_eq_some_iff]
    constructor
    · rintro ⟨nonempty, each, value⟩
      exact ⟨nonempty, each, fun zero => by_contra fun other => padded ⟨zero, other⟩, value⟩
    · exact fun numeral => ⟨numeral.nonempty, numeral.each, numeral.value⟩

theorem Numeral.point_not_mem (numeral : Numeral digits n) : '.' ∉ digits :=
  fun mem => absurd (numeral.each '.' mem) (by decide)

end Numeral

/-! ## Numerals between points -/

/-- A text shows a version: the numerals of its four parts, the most significant first, joined by
points. -/
def Shows (text : String) (v : Version) : Prop :=
  ∃ major minor patch build : List Char,
    text.toList = major ++ '.' :: (minor ++ '.' :: (patch ++ '.' :: build)) ∧
      Numeral major v.major ∧ Numeral minor v.minor ∧ Numeral patch v.patch ∧
      Numeral build v.build

/-- The version that a text shows. -/
def ofText? (text : String) : Option Version :=
  match text.toList.splitOn '.' with
  | [major, minor, patch, build] => do
    return ⟨← numeral? major, ← numeral? minor, ← numeral? patch, ← numeral? build⟩
  | _ => none

variable {text : String} {v : Version}

theorem shows_iff : Shows text v ↔ text = v.text := by
  simp only [Shows, numeral_iff]
  constructor
  · rintro ⟨major, minor, patch, build, chars, rfl, rfl, rfl, rfl⟩
    exact String.toList_inj.mp (chars.trans String.toList_ofList.symm)
  · rintro rfl
    exact ⟨_, _, _, _, String.toList_ofList, rfl, rfl, rfl, rfl⟩

/-- **A text splits in one way**, because there is no point in a numeral. -/
theorem ofText?_eq_some_iff : ofText? text = some v ↔ Shows text v := by
  have joined : ∀ major minor patch build : List Char,
      major ++ '.' :: (minor ++ '.' :: (patch ++ '.' :: build))
        = ['.'].intercalate [major, minor, patch, build] := fun _ _ _ _ => by
    simp [List.intercalate]
  constructor
  · intro read
    unfold ofText? at read
    split at read
    · next major minor patch build parts =>
        simp only [Option.bind_eq_bind, Option.bind_eq_some_iff, numeral?_eq_some_iff] at read
        obtain ⟨a, isMajor, b, isMinor, c, isPatch, d, isBuild, same⟩ := read
        obtain rfl := Option.some.inj same
        refine ⟨major, minor, patch, build, ?_, isMajor, isMinor, isPatch, isBuild⟩
        rw [joined, ← parts, List.intercalate_splitOn]
    · cases read
  · rintro ⟨major, minor, patch, build, chars, isMajor, isMinor, isPatch, isBuild⟩
    have parts : text.toList.splitOn '.' = [major, minor, patch, build] := by
      rw [chars, joined]
      refine List.splitOn_intercalate '.' ?_ (List.cons_ne_nil _ _)
      simp [isMajor.point_not_mem, isMinor.point_not_mem, isPatch.point_not_mem,
        isBuild.point_not_mem]
    rw [← numeral?_eq_some_iff] at isMajor isMinor isPatch isBuild
    simp [ofText?, parts, isMajor, isMinor, isPatch, isBuild]

/-- Zeros in front are not read. -/
example : ofText? "1.4.2.107" = some ⟨1, 4, 2, 107⟩ ∧ ofText? "1.04.2.107" = none := by decide

end Version

/-- **The texts of versions are unambiguous.**

* The text of a version is the one text that shows it: four decimal numerals without zeros in front,
  joined by three points, whose values are the four parts.
* Read back, this text gives the version, and no other text does.
* No other version has the same text. -/
theorem version_texts_unambiguous (v : Version) :
    (∀ text, Version.Shows text v ↔ text = v.text) ∧
    (∀ text, Version.ofText? text = some v ↔ text = v.text) ∧
    ∀ w : Version, w.text = v.text ↔ w = v := by
  have read : ∀ (w : Version) (text : String), Version.ofText? text = some w ↔ text = w.text :=
    fun w text => Version.ofText?_eq_some_iff.trans Version.shows_iff
  refine ⟨fun text => Version.shows_iff, read v, fun w => ⟨fun same => ?_, fun same => ?_⟩⟩
  · have readAgain := (read v w.text).mpr same
    rw [(read w w.text).mpr rfl] at readAgain
    exact Option.some.inj readAgain
  · rw [same]

end MixerPanel
