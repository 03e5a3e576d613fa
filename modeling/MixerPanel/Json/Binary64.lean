/-!
# Numbers of the format binary64

A finite number of the format is a sign and a magnitude, and every magnitude is a whole multiple of
the smallest one, two to the power −1074. Counting in that unit makes all arithmetic exact
arithmetic of natural numbers followed by one rounding.

## Main Definitions

* `Binary64` — a sign and a magnitude in units of 2⁻¹⁰⁷⁴
* `Binary64.round` — the representable magnitude nearest to a quotient
* `Binary64.ofDecimal?` — a significand scaled by a power of ten
* `Binary64.shortest` — the fewest decimal digits that are nearest to no other number
* `Binary64.toChars` — the written form

## Design Notes

A decimal numeral is read in two roundings: its significand is rounded first, and the scaling by a
power of ten is rounded again. The result can differ from the nearest number in the last place,
and it is this result that a document holds.
-/

namespace MixerPanel.Json

/-- A finite binary64 number: a sign and a magnitude counted in units of 2⁻¹⁰⁷⁴. -/
structure Binary64 where
  /-- Whether the sign is minus; zero has both signs. -/
  negative : Bool
  /-- The magnitude in units of 2⁻¹⁰⁷⁴. -/
  units : Nat
deriving DecidableEq, Repr, Inhabited

namespace Binary64

/-- One, in units. -/
def one : Nat := 1 <<< 1074

/-- The least magnitude beyond the finite ones, in units. -/
def limit : Nat := 1 <<< 2098

/-- The distance from a magnitude to the next one above it: a significand has 53 bits. -/
def gapAbove (units : Nat) : Nat := 1 <<< (units.log2 + 1 - 53)

/-- The distance from a magnitude to the next one below it, which is halved at a power of two. -/
def gapBelow (units : Nat) : Nat :=
  let gap := gapAbove units
  if 1 < gap ∧ units = 1 <<< units.log2 then gap / 2 else gap

/-- The representable magnitude nearest to a quotient; of two equally near, the one with an even
significand. -/
def round (numerator denominator : Nat) : Nat :=
  let gap := gapAbove (numerator / denominator)
  let step := denominator * gap
  let significand := numerator / step
  let remainder := numerator % step
  if step < 2 * remainder ∨ (2 * remainder = step ∧ significand % 2 = 1) then
    (significand + 1) * gap
  else
    significand * gap

/-- The magnitude nearest to a power of ten. -/
def powerOfTen (exponent : Nat) : Nat := round (Nat.pow 10 exponent * one) 1

/-- The magnitude nearest to a product. -/
def mul (a b : Nat) : Nat := round (a * b) one

/-- The magnitude nearest to a quotient of magnitudes. -/
def div (a b : Nat) : Nat := round (a * one) b

/-- The largest power of ten that is a finite magnitude. -/
def maxTenExponent : Nat := 308

/-- A magnitude scaled by a power of ten, `none` beyond the finite magnitudes. Scaling down by more
than the largest power of ten goes in steps, each rounded. -/
def scale? (units : Nat) (exponent : Int) : Option Nat :=
  if exponent.natAbs ≤ maxTenExponent then
    if 0 ≤ exponent then
      let scaled := mul units (powerOfTen exponent.natAbs)
      if scaled < limit then some scaled else none
    else
      some (div units (powerOfTen exponent.natAbs))
  else if units = 0 then some 0
  else if 0 ≤ exponent then none
  else scale? (div units (powerOfTen maxTenExponent)) (exponent + maxTenExponent)
termination_by exponent.natAbs
decreasing_by simp only [maxTenExponent] at *; omega

/-- The number read from a sign, a significand and a power of ten; `none` beyond the finite numbers. -/
def ofDecimal? (negative : Bool) (significand : Nat) (exponent : Int) : Option Binary64 :=
  (scale? (round (significand * one) 1) exponent).map (Binary64.mk negative)

/-- Whether two numbers have the same value; the two zeros do. -/
def same (a b : Binary64) : Bool :=
  a.units == b.units && (a.negative == b.negative || a.units == 0)

/-- A decimal numeral without a sign: `digits · 10 ^ exponent`. -/
structure Decimal where
  /-- The digits, read as one natural number. -/
  digits : Nat
  /-- The power of ten that the digits count. -/
  exponent : Int
deriving DecidableEq, Repr

/-- The number of decimal digits of a natural number. -/
def digitCount (n : Nat) : Nat := (Nat.toDigits 10 n).length

/-- The least exponent whose power of ten exceeds a positive magnitude. -/
def tenExponent (units : Nat) : Int :=
  if one ≤ units then digitCount (units / one)
  else 1 - (digitCount ((one - 1) / units) : Int)

/-- The decimal with `count` digits that is nearest to the magnitude, if it is nearer to that
magnitude than to any other; of two equally near, the even one. -/
def nearest? (units : Nat) (count : Nat) : Option Decimal :=
  let exponent := tenExponent units - count
  let factor := if exponent < 0 then Nat.pow 10 exponent.natAbs else 1
  let grid := if exponent < 0 then one else one * Nat.pow 10 exponent.natAbs
  let lower := (2 * units - gapBelow units) * factor
  let upper := (2 * units + gapAbove units) * factor
  let even := (units / gapAbove units) % 2 == 0
  let fits (d : Nat) : Bool :=
    let twice := 2 * d * grid
    if even then lower ≤ twice && twice ≤ upper else lower < twice && twice < upper
  let below := units * factor / grid
  let above := below + 1
  match fits below, fits above with
  | true, true =>
    let twice := 2 * units * factor
    let middle := (below + above) * grid
    if twice < middle ∨ (twice = middle ∧ below % 2 = 0) then some ⟨below, exponent⟩
    else some ⟨above, exponent⟩
  | true, false => some ⟨below, exponent⟩
  | false, true => some ⟨above, exponent⟩
  | false, false => none

/-- A decimal without trailing zeros. -/
def Decimal.trim (d : Decimal) : Nat → Decimal
  | 0 => d
  | steps + 1 =>
    if d.digits ≠ 0 ∧ d.digits % 10 = 0 then Decimal.trim ⟨d.digits / 10, d.exponent + 1⟩ steps else d

/-- The shortest decimal that reads back to a positive magnitude: the first count of digits, up to
seventeen, at which one does. -/
def shortest (units : Nat) : Decimal :=
  match (List.range 17).findSome? fun n => nearest? units (n + 1) with
  | some d => d.trim 17
  | none => ⟨units * Nat.pow 5 1074, -1074⟩

/-- The written form of a decimal. Positional with at least one place after the point while the
leading digit counts a power of ten between −5 and 15; otherwise with an exponent whose sign is
always written. -/
def Decimal.toChars (d : Decimal) : List Char :=
  let digits := Nat.toDigits 10 d.digits
  let leading : Int := d.exponent + digits.length - 1
  if -5 ≤ leading ∧ leading ≤ 15 then
    if leading < 0 then
      ['0', '.'] ++ List.replicate (leading.natAbs - 1) '0' ++ digits
    else
      let whole := leading.toNat + 1
      let padded := digits ++ List.replicate (whole - digits.length) '0'
      let fraction := padded.drop whole
      padded.take whole ++ ['.'] ++ (if fraction.isEmpty then ['0'] else fraction)
  else
    let mark := if leading < 0 then ['e', '-'] else ['e', '+']
    let fraction := digits.drop 1
    digits.take 1 ++ (if fraction.isEmpty then [] else '.' :: fraction) ++ mark
      ++ Nat.toDigits 10 leading.natAbs

/-- The written form of a number. -/
def toChars (x : Binary64) : List Char :=
  let magnitude := if x.units = 0 then ['0', '.', '0'] else (shortest x.units).toChars
  if x.negative then '-' :: magnitude else magnitude

end Binary64

end MixerPanel.Json
