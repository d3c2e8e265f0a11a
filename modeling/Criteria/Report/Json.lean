import Criteria.Value.Literal

/-!
# JSON output

JSON data with their members in order, and their text: on one line, or indented
by two spaces a level.  Only quotes, backslashes and control characters are
escaped.
-/

namespace Criteria

inductive Json where
  | null
  | boolean (value : Bool)
  | integer (value : Int)
  | text (value : String)
  | array (items : List Json)
  | object (members : List (String × Json))
  deriving Inhabited

namespace Json

def ofText? : Option String → Json
  | some value => .text value
  | none => .null

def escapedChar (char : Char) : String :=
  if char = '"' then "\\\""
  else if char = '\\' then "\\\\"
  else if char = '\n' then "\\n"
  else if char = '\r' then "\\r"
  else if char = '\t' then "\\t"
  else if char.toNat = 8 then "\\b"
  else if char.toNat = 12 then "\\f"
  else if char.toNat < 32 then "\\u" ++ Literal.hexDigits 4 char.toNat
  else String.singleton char

def quoted (text : String) : String :=
  "\"" ++ String.join (text.toList.map escapedChar) ++ "\""

/-- The start of a line at a depth of nesting. -/
def lineStart (depth : Nat) : String :=
  "\n" ++ String.ofList (List.replicate (2 * depth) ' ')

/-- Items on lines of their own between two brackets. -/
def enclosed (opening closing : String) (depth : Nat) (items : List String) : String :=
  if items.isEmpty then opening ++ closing
  else
    opening ++ lineStart (depth + 1)
      ++ String.intercalate ("," ++ lineStart (depth + 1)) items
      ++ lineStart depth ++ closing

mutual

/-- The text of data at a depth of nesting. -/
def renderAt (data : Json) (depth : Nat) : String :=
  match data with
  | .null => "null"
  | .boolean value => if value then "true" else "false"
  | .integer value => toString value
  | .text value => quoted value
  | .array items => enclosed "[" "]" depth (renderItems items (depth + 1))
  | .object members => enclosed "\x7b" "\x7d" depth (renderMembers members (depth + 1))
termination_by structural data

def renderItems (items : List Json) (depth : Nat) : List String :=
  match items with
  | [] => []
  | item :: rest => renderAt item depth :: renderItems rest depth
termination_by structural items

def renderMembers (members : List (String × Json)) (depth : Nat) : List String :=
  match members with
  | [] => []
  | (name, value) :: rest =>
      (quoted name ++ ": " ++ renderAt value depth) :: renderMembers rest depth
termination_by structural members

end

/-- The text of data with a line for every item. -/
def render (data : Json) : String :=
  data.renderAt 0

mutual

/-- The text of data on one line. -/
def line (data : Json) : String :=
  match data with
  | .null => "null"
  | .boolean value => if value then "true" else "false"
  | .integer value => toString value
  | .text value => quoted value
  | .array items => "[" ++ String.intercalate ", " (lineItems items) ++ "]"
  | .object members => "\x7b" ++ String.intercalate ", " (lineMembers members) ++ "\x7d"
termination_by structural data

def lineItems (items : List Json) : List String :=
  match items with
  | [] => []
  | item :: rest => line item :: lineItems rest
termination_by structural items

def lineMembers (members : List (String × Json)) : List String :=
  match members with
  | [] => []
  | (name, value) :: rest => (quoted name ++ ": " ++ line value) :: lineMembers rest
termination_by structural members

end

end Json

end Criteria
