import Criteria.Condition.Shape

/-!
# Induction on conditions

The parts of a condition that are conditions themselves: the operand of a clause
is one, its items are conditions of one value if it is a list, and its entries
are clauses or fields of a query if it is a mapping.
-/

namespace Criteria

namespace Condition

/-- Properties of conditions, and of lists of clauses, conditions and fields. -/
structure Motive where
  condition : Value → Prop
  clauses : List (Key × Value) → Prop
  each : List Value → Prop
  fields : List (Key × Value) → Prop

namespace Motive

/-- The properties hold of everything that an operand can be taken for. -/
structure Parts (motive : Motive) (operand : Value) : Prop where
  condition : motive.condition operand
  clauses : ∀ entries, operand = .mapping entries → motive.clauses entries
  each : ∀ conditions, operand.items? = some conditions → motive.each conditions
  fields : ∀ entries, operand = .mapping entries → motive.fields entries

/-- The properties hold of a whole if they hold of its parts. -/
structure Hereditary (motive : Motive) : Prop where
  atom : ∀ condition, condition.entries? = none → motive.condition condition
  mapping : ∀ entries, motive.clauses entries → motive.condition (.mapping entries)
  clausesNil : motive.clauses []
  clausesCons : ∀ key operand rest, motive.Parts operand → motive.clauses rest →
    motive.clauses ((key, operand) :: rest)
  eachNil : motive.each []
  eachCons : ∀ condition rest, motive.condition condition → motive.each rest →
    motive.each (condition :: rest)
  fieldsNil : motive.fields []
  fieldsCons : ∀ key condition rest, motive.condition condition →
    motive.fields rest → motive.fields ((key, condition) :: rest)

namespace Hereditary

mutual

theorem condition {motive : Motive} (hereditary : motive.Hereditary)
    (condition : Value) : motive.condition condition := by
  cases condition with
  | mapping entries => exact hereditary.mapping entries (hereditary.clauses entries)
  | _ => exact hereditary.atom _ rfl

theorem clauses {motive : Motive} (hereditary : motive.Hereditary)
    (clauses : List (Key × Value)) : motive.clauses clauses := by
  cases clauses with
  | nil => exact hereditary.clausesNil
  | cons clause rest =>
      obtain ⟨key, operand⟩ := clause
      apply hereditary.clausesCons key operand rest _ (hereditary.clauses rest)
      cases operand with
      | mapping entries =>
          have entriesClauses := hereditary.clauses entries
          have entriesFields := hereditary.fields entries
          constructor
          · exact hereditary.mapping entries entriesClauses
          · rintro _ ⟨⟩
            exact entriesClauses
          · rintro _ ⟨⟩
          · rintro _ ⟨⟩
            exact entriesFields
      | list items =>
          have itemsEach := hereditary.each items
          constructor
          · exact hereditary.atom _ rfl
          · rintro _ ⟨⟩
          · rintro _ ⟨⟩
            exact itemsEach
          · rintro _ ⟨⟩
      | tuple items =>
          have itemsEach := hereditary.each items
          constructor
          · exact hereditary.atom _ rfl
          · rintro _ ⟨⟩
          · rintro _ ⟨⟩
            exact itemsEach
          · rintro _ ⟨⟩
      | _ => exact ⟨hereditary.atom _ rfl, nofun, nofun, nofun⟩

theorem each {motive : Motive} (hereditary : motive.Hereditary)
    (conditions : List Value) : motive.each conditions := by
  cases conditions with
  | nil => exact hereditary.eachNil
  | cons condition rest =>
      exact hereditary.eachCons condition rest (hereditary.condition condition)
        (hereditary.each rest)

theorem fields {motive : Motive} (hereditary : motive.Hereditary)
    (fields : List (Key × Value)) : motive.fields fields := by
  cases fields with
  | nil => exact hereditary.fieldsNil
  | cons field rest =>
      obtain ⟨key, condition⟩ := field
      exact hereditary.fieldsCons key condition rest (hereditary.condition condition)
        (hereditary.fields rest)

end

/-- Operands are taken for nothing but conditions and lists of parts. -/
theorem parts {motive : Motive} (hereditary : motive.Hereditary)
    (operand : Value) : motive.Parts operand :=
  ⟨hereditary.condition operand, fun entries _ => hereditary.clauses entries,
    fun conditions _ => hereditary.each conditions,
    fun entries _ => hereditary.fields entries⟩

end Hereditary

end Motive

end Condition

end Criteria
