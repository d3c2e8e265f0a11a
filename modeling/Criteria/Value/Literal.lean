import Criteria.Number.Shortest
import Criteria.Unicode.Printable
import Criteria.Value.Basic

/-!
# Literals

The notation of values in messages.  Texts stand in single quotes, or in double
quotes if they hold a single quote and no double one; characters that cannot be
printed are written by their code.
-/

namespace Criteria

namespace Literal

def hexDigits (width code : Nat) : String :=
  let digits := Nat.toDigits 16 code
  String.ofList (List.replicate (width - digits.length) '0' ++ digits)

/-- A character of a text that stands in the given quotes. -/
def escaped (quote char : Char) : String :=
  if char = quote ∨ char = '\\' then String.ofList ['\\', char]
  else if char = '\t' then "\\t"
  else if char = '\n' then "\\n"
  else if char = '\r' then "\\r"
  else if isPrintable char then String.singleton char
  else if char.toNat < 0x100 then "\\x" ++ hexDigits 2 char.toNat
  else if char.toNat < 0x10000 then "\\u" ++ hexDigits 4 char.toNat
  else "\\U" ++ hexDigits 8 char.toNat

def quoteFor (chars : List Char) : Char :=
  if chars.contains '\'' && !chars.contains '"' then '"' else '\''

def ofText (text : String) : String :=
  let quote := quoteFor text.toList
  String.singleton quote ++ String.join (text.toList.map (escaped quote))
    ++ String.singleton quote

def ofBoolean (value : Bool) : String :=
  if value then "True" else "False"

def ofNumber : Number → String
  | .integer value => toString value
  | .binary value => value.text

def call (name : String) (arguments : List String) : String :=
  name ++ "(" ++ String.intercalate ", " arguments ++ ")"

def ofDate (date : Date) : String :=
  call "datetime.date" [toString date.year, toString date.month, toString date.day]

/-- The span of an offset as whole days and seconds that are not negative. -/
def ofOffset (offset : UtcOffset) : String :=
  if offset.seconds = 0 then "datetime.timezone.utc"
  else
    let days := if offset.seconds < 0 then ["days=-1"] else []
    let seconds := "seconds=" ++ toString (offset.seconds % 86400)
    call "datetime.timezone" [call "datetime.timedelta" (days ++ [seconds])]

def ofDateTime (dateTime : DateTime) : String :=
  let date := dateTime.date
  let time := dateTime.time
  let seconds := if time.second.val = 0 ∧ time.microsecond.val = 0 then [] else [time.second.val]
  let microseconds := if time.microsecond.val = 0 then [] else [time.microsecond.val]
  let numbers := [date.year, date.month, date.day, time.hour.val, time.minute.val]
    ++ seconds ++ microseconds
  let zone := match dateTime.offset with
    | some offset => ["tzinfo=" ++ ofOffset offset]
    | none => []
  call "datetime.datetime" (numbers.map toString ++ zone)

/-- A tuple of one item keeps a comma. -/
def ofTuple (items : List String) : String :=
  match items with
  | [item] => "(" ++ item ++ ",)"
  | items => "(" ++ String.intercalate ", " items ++ ")"

mutual

def ofKey (key : Key) : String :=
  match key with
  | .null => "None"
  | .boolean value => ofBoolean value
  | .number value => ofNumber value
  | .text value => ofText value
  | .date value => ofDate value
  | .dateTime value => ofDateTime value
  | .tuple items => ofTuple (ofKeys items)
termination_by structural key

def ofKeys (keys : List Key) : List String :=
  match keys with
  | [] => []
  | key :: keys => ofKey key :: ofKeys keys
termination_by structural keys

end

mutual

def ofValue (value : Value) : String :=
  match value with
  | .null => "None"
  | .boolean value => ofBoolean value
  | .number value => ofNumber value
  | .text value => ofText value
  | .date value => ofDate value
  | .dateTime value => ofDateTime value
  | .list items => "[" ++ String.intercalate ", " (ofItems items) ++ "]"
  | .tuple items => ofTuple (ofItems items)
  | .mapping entries => "\x7b" ++ String.intercalate ", " (ofEntries entries) ++ "\x7d"
termination_by structural value

def ofItems (items : List Value) : List String :=
  match items with
  | [] => []
  | item :: items => ofValue item :: ofItems items
termination_by structural items

def ofEntries (entries : List (Key × Value)) : List String :=
  match entries with
  | [] => []
  | (key, value) :: entries => (ofKey key ++ ": " ++ ofValue value) :: ofEntries entries
termination_by structural entries

end

end Literal

namespace Key

/-- The plain text of a key, without quotes around a text. -/
def label : Key → String
  | .text value => value
  | .date value => value.isoText
  | .dateTime value => value.isoText ' '
  | key => Literal.ofKey key

end Key

end Criteria
