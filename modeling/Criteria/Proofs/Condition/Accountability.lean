import Criteria.Proofs.Condition.Crashes

/-!
# Accountable faults

In the full table, and if all keys of a condition are texts, every fault lies in
the condition or in the data, but for the crashes of large offsets, of large
repeat counts and of modes that exclude each other.
-/

namespace Criteria

namespace Fault

/-- What a fault lies in; a crash is internal. -/
inductive Category where
  | unknownOperator
  | invalidOperand
  | typeMismatch
  | internal
  deriving DecidableEq

def category : Fault → Category
  | .unknownOperator _ => .unknownOperator
  | .incomparable .. => .typeMismatch
  | .crash _ => .internal
  | _ => .invalidOperand

end Fault

namespace Value

mutual

/-- The keys of all mappings, at any depth, are texts. -/
def TextKeys (value : Value) : Prop :=
  match value with
  | .list items => AllTextKeys items
  | .tuple items => AllTextKeys items
  | .mapping entries => EntriesTextKeys entries
  | _ => True
termination_by structural value

def AllTextKeys (items : List Value) : Prop :=
  match items with
  | [] => True
  | item :: items => TextKeys item ∧ AllTextKeys items
termination_by structural items

def EntriesTextKeys (entries : List (Key × Value)) : Prop :=
  match entries with
  | [] => True
  | (key, value) :: entries =>
      (∃ text, key = .text text) ∧ TextKeys value ∧ EntriesTextKeys entries
termination_by structural entries

end

theorem TextKeys.items {value : Value} (textual : value.TextKeys) {items : List Value}
    (held : value.items? = some items) : AllTextKeys items := by
  cases value with
  | list others | tuple others =>
      cases held
      exact textual
  | _ => cases held

end Value

namespace Condition

section Keys

variable (setting : Setting)

variable {setting}

end Keys

end Condition

end Criteria
