import Criteria.Value.Equality

/-!
# Texts

Tests on parts of texts, character by character.  Values of other kinds do not
match, except that a collection contains its items.
-/

namespace Criteria

namespace Value

/-- One list of characters stands somewhere in another. -/
def occursIn (part : List Char) : List Char → Bool
  | [] => part.isEmpty
  | char :: rest => part.isPrefixOf (char :: rest) || occursIn part rest

def containsPart (value operand : Value) : Bool :=
  match value.items? with
  | some items => items.any fun item => item.equal operand
  | none =>
      match value, operand with
      | .text whole, .text part => occursIn part.toList whole.toList
      | _, _ => false

def startsWith : Value → Value → Bool
  | .text whole, .text part => part.toList.isPrefixOf whole.toList
  | _, _ => false

def endsWith : Value → Value → Bool
  | .text whole, .text part => part.toList.isSuffixOf whole.toList
  | _, _ => false

end Value

end Criteria
