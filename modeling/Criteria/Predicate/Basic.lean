import Criteria.Value.Basic

/-!
# Predicates

A predicate is a name for a query, which sets one condition for each of some
paths.  The order of the paths is kept.
-/

namespace Criteria

/-- Paths and their conditions, no path twice. -/
structure Query where
  fields : List (String × Value)
  distinct : (fields.map Prod.fst).Nodup

namespace Query

def empty : Query := ⟨[], List.nodup_nil⟩

instance : Inhabited Query := ⟨empty⟩

/-- Puts a condition for a path; a path that is there keeps its place. -/
def assign (path : String) (condition : Value) : List (String × Value) → List (String × Value)
  | [] => [(path, condition)]
  | (other, old) :: rest =>
      if other = path then (path, condition) :: rest
      else (other, old) :: assign path condition rest

theorem mem_paths_assign {path found : String} {condition : Value}
    {fields : List (String × Value)}
    (member : found ∈ (assign path condition fields).map Prod.fst) :
    found = path ∨ found ∈ fields.map Prod.fst := by
  induction fields with
  | nil => exact .inl (List.mem_singleton.mp member)
  | cons field rest induction =>
      by_cases same : field.1 = path
      · simp only [assign, same, if_true, List.map_cons, List.mem_cons] at member ⊢
        exact member.imp id .inr
      · simp only [assign, same, if_false, List.map_cons, List.mem_cons] at member ⊢
        rcases member with first | later
        · exact .inr (.inl first)
        · exact (induction later).imp id .inr

theorem nodup_paths_assign {path : String} {condition : Value}
    {fields : List (String × Value)} (distinct : (fields.map Prod.fst).Nodup) :
    ((assign path condition fields).map Prod.fst).Nodup := by
  induction fields with
  | nil => exact List.nodup_cons.mpr ⟨List.not_mem_nil, List.nodup_nil⟩
  | cons field rest induction =>
      have parts := List.nodup_cons.mp distinct
      by_cases same : field.1 = path
      · simp only [assign, same, if_true, List.map_cons]
        exact List.nodup_cons.mpr ⟨same ▸ parts.1, parts.2⟩
      · simp only [assign, same, if_false, List.map_cons]
        refine List.nodup_cons.mpr ⟨fun member => ?_, induction parts.2⟩
        exact (mem_paths_assign member).elim same parts.1

/-- The query with a condition put for a path. -/
def set (query : Query) (path : String) (condition : Value) : Query :=
  ⟨assign path condition query.fields, nodup_paths_assign query.distinct⟩

/-- The query that a list of conditions makes when they are put one by one. -/
def ofList (fields : List (String × Value)) : Query :=
  fields.foldl (fun query field => query.set field.1 field.2) empty

/-- The query as a mapping. -/
def toEntries (query : Query) : List (Key × Value) :=
  query.fields.map fun field => (.text field.1, field.2)

end Query

structure Predicate where
  id : String
  query : Query
  deriving Inhabited

end Criteria
