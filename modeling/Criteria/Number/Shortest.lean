import Criteria.Number.Rounding

/-!
# Shortest decimals

The text of a binary number: the fewest decimal digits that read back as the
number, of those the nearest, positional while the leading digit stands
between the fourth place after the point and the sixteenth before it.
-/

namespace Criteria

/-- The positive decimal `digits * 10 ^ exponent`. -/
structure Decimal where
  digits : Nat
  exponent : Int
  deriving DecidableEq

namespace Binary64

/-- The numbers that read back as a count of steps, as an interval in quarters
of a step; the ends belong to it if the significand is even. -/
structure Basin where
  lower : Nat
  upper : Nat
  closed : Bool

def basin (steps : Nat) : Basin :=
  let excess := excessDigits steps
  let spacing := Nat.pow 2 excess
  let significand := steps / spacing
  let narrowBelow := decide (significand = Nat.pow 2 52 ∧ 0 < excess)
  { lower := 4 * steps - if narrowBelow then spacing else 2 * spacing
    upper := 4 * steps + 2 * spacing
    closed := decide (significand % 2 = 0) }

/-- A decimal as a quotient of counts of quarter steps. -/
def quarterSteps (decimal : Decimal) : Nat × Nat :=
  if decimal.exponent < 0 then
    (decimal.digits * (4 * stepsPerUnit), Nat.pow 10 decimal.exponent.natAbs)
  else
    (decimal.digits * Nat.pow 10 decimal.exponent.toNat * (4 * stepsPerUnit), 1)

namespace Basin

def contains (basin : Basin) (decimal : Decimal) : Bool :=
  let (numerator, denominator) := quarterSteps decimal
  let low := basin.lower * denominator
  let high := basin.upper * denominator
  if basin.closed then low ≤ numerator && numerator ≤ high
  else low < numerator && numerator < high

end Basin

/-- The exponent of the leading decimal digit of a positive count of steps. -/
def leadingExponent (steps : Nat) : Int :=
  let shifted := steps * Nat.pow 10 400 / stepsPerUnit
  ((Nat.toDigits 10 shifted).length : Int) - 401

/-- The distance of a decimal from a count of steps, times the denominator of
the decimal. -/
def distance (steps : Nat) (decimal : Decimal) : Nat :=
  let (numerator, denominator) := quarterSteps decimal
  let exact := 4 * steps * denominator
  (numerator - exact) + (exact - numerator)

/-- The two decimals with a given exponent that enclose a count of steps. -/
def neighbours (steps : Nat) (exponent : Int) : Decimal × Decimal :=
  let below :=
    if exponent < 0 then steps * Nat.pow 10 exponent.natAbs / stepsPerUnit
    else steps / (stepsPerUnit * Nat.pow 10 exponent.toNat)
  (⟨below, exponent⟩, ⟨below + 1, exponent⟩)

/-- Of the neighbours that read back, the nearer; of two at the same distance,
the even one. -/
def nearestReadingBack (steps : Nat) (exponent : Int) : Option Decimal :=
  let (below, above) := neighbours steps exponent
  let range := basin steps
  match range.contains below, range.contains above with
  | true, true =>
      let downward := distance steps below
      let upward := distance steps above
      if downward < upward then some below
      else if upward < downward then some above
      else if below.digits % 2 = 0 then some below
      else some above
  | true, false => some below
  | false, true => some above
  | false, false => none

/-- Tries ever longer decimals, from one digit to seventeen. -/
def shortest (steps : Nat) : Decimal :=
  let leading := leadingExponent steps
  ((List.range 17).findSome? fun (extra : Nat) =>
    nearestReadingBack steps (leading - (extra : Nat))).getD ⟨steps, 0⟩

/-- Digits without trailing zeros and the count of digits before the point. -/
def significantDigits (decimal : Decimal) : List Char × Int :=
  let digits := Nat.toDigits 10 decimal.digits
  let trimmed := (digits.reverse.dropWhile (· = '0')).reverse
  (trimmed, digits.length + decimal.exponent)

def exponentText (exponent : Int) : String :=
  let digits := toString exponent.natAbs
  let padded := if exponent.natAbs < 10 then "0" ++ digits else digits
  (if exponent < 0 then "e-" else "e+") ++ padded

/-- Digits with the point after the given place, or with an exponent. -/
def decimalText (digits : List Char) (point : Int) : String :=
  if point ≤ -4 ∨ 16 < point then
    let fraction := digits.drop 1
    let mantissa := digits.take 1 ++ if fraction.isEmpty then [] else '.' :: fraction
    String.ofList mantissa ++ exponentText (point - 1)
  else if point ≤ 0 then
    "0." ++ String.ofList (List.replicate point.natAbs '0' ++ digits)
  else
    let whole := digits.take point.toNat
    let padding := List.replicate (point.toNat - digits.length) '0'
    let fraction := digits.drop point.toNat
    String.ofList (whole ++ padding) ++ "."
      ++ if fraction.isEmpty then "0" else String.ofList fraction

/-- The text of a number. -/
def text : Binary64 → String
  | .nan => "nan"
  | .infinite negative => if negative then "-inf" else "inf"
  | .finite negative steps =>
      let unsigned :=
        if steps = 0 then "0.0"
        else
          let (digits, point) := significantDigits (shortest steps)
          decimalText digits point
      if negative then "-" ++ unsigned else unsigned

end Binary64

end Criteria
