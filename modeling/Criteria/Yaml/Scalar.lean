import Criteria.Calendar.IsoText
import Criteria.Number.Rounding
import Criteria.Text.Numeral
import Criteria.Text.Stretches
import Criteria.Value.Basic
import Criteria.Yaml.Problem

/-!
# Plain scalars as data

What a scalar without quotes denotes by its form: a truth value, a number, null,
a date or a date-time, and otherwise a text.  Numbers may have underscores among
their digits, and sixty for their base if colons separate their parts.
-/

namespace Criteria.Yaml

namespace Scalar

def truthValue? (text : String) : Option Bool :=
  if ["yes", "Yes", "YES", "true", "True", "TRUE", "on", "On", "ON"].contains text then some true
  else if ["no", "No", "NO", "false", "False", "FALSE", "off", "Off", "OFF"].contains text then
    some false
  else none

def isNull (text : String) : Bool :=
  ["", "~", "null", "Null", "NULL"].contains text

/-- Whether a number is negative, and its notation without the sign. -/
def signed (chars : List Char) : Bool × List Char :=
  match chars with
  | '-' :: rest => (true, rest)
  | '+' :: rest => (false, rest)
  | rest => (false, rest)

/-- The digits of a number, underscores left out. -/
def digitsOf (chars : List Char) : List Char :=
  chars.filter (· ≠ '_')

def isDigitOrGap (char : Char) : Bool :=
  char.isDigit || char = '_'

/-- A digit, and only digits and underscores after it. -/
def isGrouped (chars : List Char) : Bool :=
  match chars with
  | first :: rest => first.isDigit && rest.all isDigitOrGap
  | [] => false

/-- A part of a number in base sixty other than the first. -/
def isSixtieth (chars : List Char) : Bool :=
  match chars with
  | [digit] => digit.isDigit
  | [ten, digit] => '0' ≤ ten && ten ≤ '5' && digit.isDigit
  | _ => false

/-- The value of a notation in a base that has a mark of its own.  There may be
no digit among the underscores, which then denote nothing. -/
def marked (base : Nat) (isDigit : Char → Bool) (chars : List Char) :
    Option (Except Problem Nat) :=
  if chars.isEmpty || !chars.all (fun char => isDigit char || char = '_') then none
  else
    let digits := digitsOf chars
    some (if digits.isEmpty then .error .noSuchDatum else .ok (numeral base digits))

/-- The value of the notation of a whole number without its sign. -/
def natural? (chars : List Char) : Option (Except Problem Nat) :=
  match chars with
  | ['0'] => some (.ok 0)
  | '0' :: 'b' :: rest => marked 2 (fun char => char = '0' || char = '1') rest
  | '0' :: 'x' :: rest => marked 16 isHexDigit rest
  | '0' :: rest =>
      if rest.all fun char => isOctalDigit char || char = '_' then
        some (.ok (numeral 8 (digitsOf rest)))
      else none
  | chars =>
      match stretches ':' chars with
      | first :: others =>
          if isGrouped first && others.all isSixtieth then
            some (.ok ((first :: others).foldl
              (fun value part => value * 60 + numeral 10 (digitsOf part)) 0))
          else none
      | [] => none

def integer? (chars : List Char) : Option (Except Problem Int) :=
  let (negative, unsigned) := signed chars
  (natural? unsigned).map fun value => (Binary64.signed negative ·) <$> value

/-- The exponent of ten at the end of a number; its sign must be written. -/
def exponent? (chars : List Char) : Option Int :=
  match chars with
  | [] => some 0
  | mark :: sign :: digits =>
      if (mark = 'e' || mark = 'E') && (sign = '+' || sign = '-')
          && !digits.isEmpty && digits.all Char.isDigit then
        some (Binary64.signed (sign = '-') (numeral 10 digits))
      else none
  | _ => none

/-- The number with digits before and after a point. -/
def pointed (negative : Bool) (whole fraction : List Char) (exponent : Int) : Binary64 :=
  let places := (digitsOf fraction).length
  .ofDecimal negative (numeral 10 (digitsOf (whole ++ fraction))) (exponent - places)

/-- A decimal number with a point; before the point may be nothing unless a sign
is written, but then a digit must follow. -/
def decimal? (chars : List Char) : Option Binary64 := do
  let (negative, unsigned) := signed chars
  let whole := unsigned.takeWhile isDigitOrGap
  let '.' :: tail := unsigned.dropWhile isDigitOrGap | none
  let fraction := tail.takeWhile isDigitOrGap
  guard (isGrouped whole || (whole.isEmpty && unsigned.length = chars.length && isGrouped fraction))
  return pointed negative whole fraction (← exponent? (tail.dropWhile isDigitOrGap))

/-- A sum of numbers times powers of sixty, the last number being the units,
rounded after every step. -/
def sixtiethSum : List Binary64 → Binary64 × Nat
  | [] => (.finite false 0, 1)
  | part :: rest =>
      let (sum, power) := sixtiethSum rest
      (sum.plus (part.times power), power * 60)

/-- A number in base sixty whose last part has a point. -/
def sixtieths? (chars : List Char) : Option Binary64 := do
  let (negative, unsigned) := signed chars
  let whole := unsigned.takeWhile (· ≠ '.')
  let '.' :: fraction := unsigned.dropWhile (· ≠ '.') | none
  let first :: others := stretches ':' whole | none
  guard (isGrouped first && !others.isEmpty && others.all isSixtieth && fraction.all isDigitOrGap)
  let last ← others.getLast?
  let sum := (sixtiethSum ((first :: others.dropLast).map (pointed false · [] 0)
    ++ [pointed false last fraction 0])).1
  return if negative then sum.negated else sum

def special? (text : String) : Option Binary64 :=
  if [".inf", ".Inf", ".INF", "+.inf", "+.Inf", "+.INF"].contains text then some (.infinite false)
  else if ["-.inf", "-.Inf", "-.INF"].contains text then some (.infinite true)
  else if [".nan", ".NaN", ".NAN"].contains text then some .nan
  else none

def binary? (text : String) : Option Binary64 :=
  let chars := text.toList
  (special? text).or ((decimal? chars).or (sixtieths? chars))

/-- Reads one or two digits. -/
def shortNumber (chars : List Char) : Option (Nat × List Char) :=
  (IsoText.digits 2 chars).or (IsoText.digits 1 chars)

/-- The offset at the end of a date-time: none, or one in seconds. -/
def offset? (chars : List Char) : Option (Option Int) :=
  match chars.dropWhile fun char => char = ' ' || char = '\t' with
  | [] => if chars.isEmpty then some none else none
  | ['Z'] => some (some 0)
  | sign :: rest => do
      guard (sign = '+' || sign = '-')
      let (hours, rest) ← shortNumber rest
      let minutes ← match rest with
        | [] => some 0
        | ':' :: rest => IsoText.lastDigits 2 rest
        | _ => none
      some (some (Binary64.signed (sign = '-') (hours * 3600 + minutes * 60)))

/-- The fraction of a second, which may be empty behind its point. -/
def fraction (chars : List Char) : Nat × List Char :=
  match chars with
  | '.' :: rest =>
      (IsoText.microsecondsOf (rest.takeWhile Char.isDigit), rest.dropWhile Char.isDigit)
  | rest => (0, rest)

/-- Blanks, or a letter, between a date and a time. -/
def afterSeparator? (chars : List Char) : Option (List Char) :=
  match chars with
  | 'T' :: rest => some rest
  | 't' :: rest => some rest
  | char :: rest =>
      if char = ' ' || char = '\t' then
        some (rest.dropWhile fun char => char = ' ' || char = '\t')
      else none
  | [] => none

def orNone (datum : Option α) : Except Problem α :=
  match datum with
  | some datum => .ok datum
  | none => .error .noSuchDatum

def offsetOf : Option Int → Except Problem (Option UtcOffset)
  | some seconds => some <$> orNone (UtcOffset.ofSeconds? seconds)
  | none => .ok none

/-- A date in the form `YYYY-MM-DD`. -/
def date? (chars : List Char) : Option (Except Problem Date) := do
  let (year, rest) ← IsoText.digits 4 chars
  let '-' :: rest := rest | none
  let (month, rest) ← IsoText.digits 2 rest
  let '-' :: rest := rest | none
  let day ← IsoText.lastDigits 2 rest
  some (orNone (Date.ofParts? year month day))

/-- A date and a time of day, the latter with seconds, and perhaps an offset. -/
def dateTime? (chars : List Char) : Option (Except Problem DateTime) := do
  let (year, rest) ← IsoText.digits 4 chars
  let '-' :: rest := rest | none
  let (month, rest) ← shortNumber rest
  let '-' :: rest := rest | none
  let (day, rest) ← shortNumber rest
  let (hour, rest) ← shortNumber (← afterSeparator? rest)
  let ':' :: rest := rest | none
  let (minute, rest) ← IsoText.digits 2 rest
  let ':' :: rest := rest | none
  let (second, rest) ← IsoText.digits 2 rest
  let (microsecond, rest) := fraction rest
  let offset ← offset? rest
  some do
    let date ← orNone (Date.ofParts? year month day)
    let time ← orNone (TimeOfDay.ofParts? hour minute second microsecond)
    return ⟨date, time, ← offsetOf offset⟩

/-- The datum that a plain scalar denotes. -/
def datum (text : String) : Except Problem Value :=
  let chars := text.toList
  let known : Option (Except Problem Value) :=
    (.ok ∘ .boolean) <$> truthValue? text
    <|> (.ok ∘ .number ∘ .binary) <$> binary? text
    <|> (Value.integer <$> ·) <$> integer? chars
    <|> (if isNull text then some (.ok .null) else none)
    <|> (Value.date <$> ·) <$> date? chars
    <|> (Value.dateTime <$> ·) <$> dateTime? chars
  known.getD (.ok (.text text))

end Scalar

end Criteria.Yaml
