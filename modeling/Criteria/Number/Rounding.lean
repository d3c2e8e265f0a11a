import Criteria.Number.Binary64

/-!
# Rounding

Quotients rounded to the nearest whole number, and quotients rounded to the
nearest number of the binary format.  Of two nearest candidates the even one
is taken.
-/

namespace Criteria

/-- The whole number nearest to a quotient, a half going to the even one. -/
def roundedQuotient (numerator denominator : Nat) : Nat :=
  let quotient := numerator / denominator
  let twiceRest := 2 * (numerator % denominator)
  if twiceRest < denominator then quotient
  else if denominator < twiceRest then quotient + 1
  else quotient + quotient % 2

namespace Binary64

/-- How many low binary digits a count loses in order to keep 53. -/
def excessDigits (count : Nat) : Nat :=
  count.log2 - 52

/-- The count of steps, with at most 53 significant binary digits, that is
nearest to a quotient of counts. -/
def nearestCount (numerator denominator : Nat) : Nat :=
  let spacing := Nat.pow 2 (excessDigits (numerator / denominator))
  roundedQuotient numerator (denominator * spacing) * spacing

/-- The number nearest to a quotient of counts of steps; beyond the largest
finite number that is an infinity. -/
def ofCountQuotient (negative : Bool) (numerator denominator : Nat) : Binary64 :=
  let count := nearestCount numerator denominator
  if count < stepLimit then .finite negative count else .infinite negative

/-- The number nearest to a quotient. -/
def ofQuotient (negative : Bool) (numerator denominator : Nat) : Binary64 :=
  ofCountQuotient negative (numerator * stepsPerUnit) denominator

/-- The number nearest to `digits * 10 ^ exponent`.  Exponents far outside the
format's range are answered without computing the power. -/
def ofDecimal (negative : Bool) (digits : Nat) (exponent : Int) : Binary64 :=
  let leading : Int := (Nat.toDigits 10 digits).length + exponent
  if digits = 0 then .finite negative 0
  else if leading > 400 then .infinite negative
  else if leading < -400 then .finite negative 0
  else if exponent < 0 then ofQuotient negative digits (Nat.pow 10 exponent.natAbs)
  else ofQuotient negative (digits * Nat.pow 10 exponent.toNat) 1

/-- The correctly rounded quotient by a positive whole number. -/
def dividedBy (value : Binary64) (divisor : Nat) : Binary64 :=
  match value with
  | .finite negative steps => ofCountQuotient negative steps divisor
  | other => other

/-- The number with the other sign. -/
def negated : Binary64 → Binary64
  | .nan => .nan
  | .infinite negative => .infinite !negative
  | .finite negative steps => .finite (!negative) steps

/-- The rounded product with a whole number, which is rounded first. -/
def times (value : Binary64) (factor : Nat) : Binary64 :=
  match value with
  | .finite negative steps => ofCountQuotient negative (steps * nearestCount factor 1) 1
  | other => other

/-- The rounded sum of two numbers of which none is negative. -/
def plus (left right : Binary64) : Binary64 :=
  match left, right with
  | .finite _ leftSteps, .finite _ rightSteps => ofCountQuotient false (leftSteps + rightSteps) 1
  | .finite .., other => other
  | other, _ => other

end Binary64

namespace Number

/-- The correctly rounded binary quotient by a positive whole number. -/
def dividedBy (number : Number) (divisor : Nat) : Binary64 :=
  match number with
  | .integer value => .ofQuotient (decide (value < 0)) value.natAbs divisor
  | .binary value => value.dividedBy divisor

end Number

end Criteria
