import Mathlib.Data.List.Forall2
import Criteria.Proofs.Value.Equality
import Criteria.Schema.Specification

/-!
# The grammar of specifications

Reading succeeds exactly on the data of a grammar, which is written here without
reference to the readers.  What is read keeps the ids, the members, the conditions
and the order of all of them.
-/

namespace Criteria

namespace Query

theorem assign_of_not_mem {path : String} {condition : Value} {fields : List (String × Value)}
    (new : path ∉ fields.map Prod.fst) :
    assign path condition fields = fields ++ [(path, condition)] := by
  induction fields with
  | nil => rfl
  | cons field rest induction =>
      simp only [List.map_cons, List.mem_cons, not_or] at new
      rw [assign, if_neg (Ne.symm new.1), induction new.2, List.cons_append]

theorem fields_foldl_set {fields : List (String × Value)} {query : Query}
    (distinct : ((query.fields ++ fields).map Prod.fst).Nodup) :
    (fields.foldl (fun query field => query.set field.1 field.2) query).fields =
      query.fields ++ fields := by
  induction fields generalizing query with
  | nil => exact (List.append_nil _).symm
  | cons field rest induction =>
      have new : field.1 ∉ query.fields.map Prod.fst := by
        intro member
        rw [List.map_append, List.map_cons] at distinct
        exact (List.nodup_append.mp distinct).2.2 _ member _ List.mem_cons_self rfl
      have put : (query.set field.1 field.2).fields = query.fields ++ [field] :=
        assign_of_not_mem new
      have keptDistinct : (((query.set field.1 field.2).fields ++ rest).map Prod.fst).Nodup := by
        rwa [put, List.append_assoc, List.singleton_append]
      rw [List.foldl_cons, induction keptDistinct, put, List.append_assoc, List.singleton_append]

/-- Conditions for different paths stay what they are and where they are. -/
theorem fields_ofList {fields : List (String × Value)}
    (distinct : (fields.map Prod.fst).Nodup) : (ofList fields).fields = fields :=
  @fields_foldl_set fields empty distinct

theorem ofList_fields (query : Query) : ofList query.fields = query := by
  have same := fields_ofList query.distinct
  generalize ofList query.fields = written at same ⊢
  cases written
  cases query
  cases same
  rfl

end Query

namespace Schema

/-! ### Accepted data -/

section Accepted

/-- All keys are names of fields. -/
def OnlyFields (names : List String) (entries : List (Key × Value)) : Prop :=
  ∀ entry ∈ entries, ∃ name ∈ names, entry.1 = .text name

/-- A field is left out, or what it holds is accepted. -/
def OptionalField (Accepted : Value → Prop) (name : String) (entries : List (Key × Value)) :
    Prop :=
  ∀ value, field? name entries = some value → Accepted value

/-- A list or a tuple of accepted items. -/
def IsSequence (Accepted : Value → Prop) (value : Value) : Prop :=
  ∃ items, value.items? = some items ∧ ∀ item ∈ items, Accepted item

inductive IsQuery : Value → Prop where
  | mapping {entries : List (Key × Value)}
      (paths : ∀ entry ∈ entries, ∃ path, entry.1 = .text path) : IsQuery (.mapping entries)

inductive IsPredicate : Value → Prop where
  | mapping {entries : List (Key × Value)} {id : String}
      (only : OnlyFields ["id", "query"] entries)
      (named : field? "id" entries = some (.text id))
      (query : OptionalField IsQuery "query" entries) : IsPredicate (.mapping entries)

inductive IsMember : Value → Prop where
  | bare (id : String) : IsMember (.text id)
  | predicate {value : Value} (accepted : IsPredicate value) : IsMember value

/-- A text that says “and” or “or”, in any letter case and between blanks. -/
inductive IsJunction : Value → Prop where
  | text {written : String}
      (named : upperCase (String.ofList (stripBlanks written.toList)) ∈ ["AND", "OR"]) :
      IsJunction (.text written)

inductive IsGroup : Value → Prop where
  | mapping {entries : List (Key × Value)} {id : String}
      (only : OnlyFields ["id", "junction", "members"] entries)
      (named : field? "id" entries = some (.text id))
      (junction : OptionalField IsJunction "junction" entries)
      (members : OptionalField (IsSequence IsMember) "members" entries) : IsGroup (.mapping entries)

inductive IsSpecification : Value → Prop where
  | mapping {entries : List (Key × Value)} {id : String}
      (only : OnlyFields ["id", "predicates", "groups"] entries)
      (named : field? "id" entries = some (.text id))
      (predicates : OptionalField (IsSequence IsPredicate) "predicates" entries)
      (groups : OptionalField (IsSequence IsGroup) "groups" entries) :
      IsSpecification (.mapping entries)

end Accepted

/-! ### What accepted data stand for -/

section Meaning

/-- What a field holds, or what it holds when it is left out. -/
def fieldOr (name : String) (default : Value) (entries : List (Key × Value)) : Value :=
  (field? name entries).getD default

/-- The conditions put one by one, as they are written. -/
inductive Put : Value → Query → Prop where
  | fields (fields : List (String × Value)) :
      Put (.mapping (fields.map fun field => (.text field.1, field.2))) (Query.ofList fields)

/-- The conditions that are written are those of the query, in the same order. -/
def Kept (value : Value) (query : Query) : Prop :=
  value = .mapping query.toEntries

/-- The items of a list or a tuple stand for results, one by one. -/
def SequenceOf (Stands : Value → α → Prop) (value : Value) (results : List α) : Prop :=
  ∃ items, value.items? = some items ∧ List.Forall₂ Stands items results

inductive JunctionOf : Value → Junction → Prop where
  | text {written : String} {junction : Junction}
      (named : upperCase (String.ofList (stripBlanks written.toList)) = junction.name) :
      JunctionOf (.text written) junction

-- The parameter is what a query has to do with the data it is read from: readers put the
-- conditions one by one, and as long as no key is written twice all of them are kept.
variable (Conditions : Value → Query → Prop)

inductive PredicateOf : Value → Predicate → Prop where
  | mapping {entries : List (Key × Value)} {predicate : Predicate}
      (only : OnlyFields ["id", "query"] entries)
      (named : field? "id" entries = some (.text predicate.id))
      (query : Conditions (fieldOr "query" (.mapping []) entries) predicate.query) :
      PredicateOf (.mapping entries) predicate

inductive MemberOf : Value → Predicate → Prop where
  | bare (id : String) : MemberOf (.text id) ⟨id, .empty⟩
  | predicate {value : Value} {predicate : Predicate}
      (stands : PredicateOf Conditions value predicate) : MemberOf value predicate

inductive GroupOf : Value → Group → Prop where
  | mapping {entries : List (Key × Value)} {group : Group}
      (only : OnlyFields ["id", "junction", "members"] entries)
      (named : field? "id" entries = some (.text group.id))
      (junction : JunctionOf (fieldOr "junction" (.text "AND") entries) group.junction)
      (members : SequenceOf (MemberOf Conditions) (fieldOr "members" (.list []) entries)
        group.members) :
      GroupOf (.mapping entries) group

inductive SpecificationOf : Value → Specification → Prop where
  | mapping {entries : List (Key × Value)} {specification : Specification}
      (only : OnlyFields ["id", "predicates", "groups"] entries)
      (named : field? "id" entries = some (.text specification.id))
      (predicates : SequenceOf (PredicateOf Conditions)
        (fieldOr "predicates" (.list []) entries) specification.predicates)
      (groups : SequenceOf (GroupOf Conditions) (fieldOr "groups" (.list []) entries)
        specification.groups) :
      SpecificationOf (.mapping entries) specification

end Meaning

/-! ### Readers -/

section Readers

/-- Wherever the data are, reading succeeds exactly with what they stand for. -/
def Reads (read : List Step → Value → Checked α) (Stands : Value → α → Prop) : Prop :=
  ∀ location value result, read location value = .ok result ↔ Stands value result

variable {location : List Step} {entries : List (Key × Value)}

theorem readText_eq_ok {value : Value} {written : String} :
    readText location value = .ok written ↔ value = .text written := by
  cases value <;> simp [readText, refuse]

theorem requiredText_eq_ok {name written : String} :
    requiredText location name entries = .ok written ↔
      field? name entries = some (.text written) := by
  rw [requiredText]
  cases field? name entries with
  | none => simp [refuse]
  | some value => simp [readText_eq_ok]

theorem extraIssues_eq_nil {names : List String} :
    extraIssues location names entries = [] ↔ OnlyFields names entries := by
  rw [extraIssues, List.filterMap_eq_nil_iff]
  refine forall₂_congr fun entry member => ?_
  obtain ⟨key, value⟩ := entry
  cases key <;> simp

theorem readFields_eq_ok {fields : List (String × Value)} :
    readFields location entries = .ok fields ↔
      entries = fields.map fun field => (.text field.1, field.2) := by
  induction entries generalizing fields with
  | nil => cases fields <;> simp [readFields]
  | cons entry rest induction =>
      obtain ⟨key, condition⟩ := entry
      constructor
      · intro accepted
        rw [readFields.eq_def] at accepted
        dsimp only at accepted
        split at accepted
        · next path others firstRead othersRead =>
            cases accepted
            cases key with
            | text written =>
                cases firstRead
                rw [induction.mp othersRead, List.map_cons]
            | _ => cases firstRead
        · cases accepted
      · intro written
        cases fields with
        | nil => cases written
        | cons field fields =>
            cases written
            simp only [readFields, induction.mpr rfl]

theorem ofList_readFields_eq_ok {query : Query} :
    Query.ofList <$> readFields location entries = .ok query ↔
      Put (.mapping entries) query := by
  constructor
  · intro accepted
    cases read : readFields location entries with
    | error issues => rw [read] at accepted; cases accepted
    | ok fields =>
        rw [read] at accepted
        cases accepted
        rw [readFields_eq_ok.mp read]
        exact .fields fields
  · rintro ⟨fields⟩
    rw [readFields_eq_ok.mpr rfl]
    rfl

theorem put_nothing_iff {query : Query} : Put (.mapping []) query ↔ query = .empty := by
  rw [← @ofList_readFields_eq_ok []]
  constructor
  · intro read
    cases read
    rfl
  · rintro rfl
    rfl

theorem readQuery_eq_ok {query : Query} :
    readQuery location entries = .ok query ↔
      Put (fieldOr "query" (.mapping []) entries) query := by
  rw [readQuery, fieldOr]
  cases field? "query" entries with
  | none =>
      rw [Option.getD_none, put_nothing_iff]
      exact ⟨fun read => (Except.ok.inj read).symm, fun empty => congrArg Except.ok empty.symm⟩
  | some value =>
      cases value with
      | mapping fields => exact ofList_readFields_eq_ok
      | _ => constructor <;> intro impossible <;> cases impossible

theorem readPredicate_reads : Reads readPredicate (PredicateOf Put) := by
  intro location value predicate
  cases value with
  | mapping entries =>
      rw [readPredicate]
      constructor
      · intro accepted
        split at accepted
        · next id query idRead queryRead noExtra =>
            cases accepted
            exact .mapping (extraIssues_eq_nil.mp noExtra) (requiredText_eq_ok.mp idRead)
              (readQuery_eq_ok.mp queryRead)
        · cases accepted
      · rintro ⟨only, named, query⟩
        rw [requiredText_eq_ok.mpr named, readQuery_eq_ok.mpr query,
          extraIssues_eq_nil.mpr only]
  | _ => constructor <;> intro impossible <;> cases impossible

theorem readMember_reads : Reads readMember (MemberOf Put) := by
  intro location value predicate
  constructor
  · intro accepted
    rw [readMember.eq_def] at accepted
    split at accepted
    · cases accepted
      exact .bare _
    · exact .predicate ((readPredicate_reads _ _ _).mp accepted)
  · rintro (_ | ⟨⟨only, named, query⟩⟩)
    · rfl
    · exact (readPredicate_reads _ _ _).mpr (.mapping only named query)

theorem readItems_eq_ok {read : List Step → Value → Checked α} {Stands : Value → α → Prop}
    (reads : Reads read Stands) {position : Nat} {items : List Value} {results : List α} :
    readItems read location position items = .ok results ↔ List.Forall₂ Stands items results := by
  induction items generalizing position results with
  | nil => cases results <;> simp [readItems]
  | cons item items induction =>
      rw [readItems]
      constructor
      · intro accepted
        split at accepted
        · next result others firstRead othersRead =>
            cases accepted
            exact .cons ((reads _ _ _).mp firstRead) (induction.mp othersRead)
        · cases accepted
      · rintro (_ | ⟨first, others⟩)
        rw [(reads _ _ _).mpr first, induction.mpr others]

theorem readSequence_eq_ok {read : List Step → Value → Checked α} {Stands : Value → α → Prop}
    (reads : Reads read Stands) {name : String} {results : List α} :
    readSequence read location name entries = .ok results ↔
      SequenceOf Stands (fieldOr name (.list []) entries) results := by
  rw [readSequence, fieldOr, SequenceOf]
  cases field? name entries with
  | none => cases results <;> simp [Value.items?]
  | some value =>
      cases held : value.items? with
      | none => simp [held, refuse]
      | some items => simp [held, readItems_eq_ok reads]

theorem ofName?_eq_some {name : String} {junction : Junction} :
    Junction.ofName? name = some junction ↔ name = junction.name := by
  rw [Junction.ofName?]
  constructor
  · intro found
    have named := List.find?_some found
    exact (of_decide_eq_true named).symm
  · rintro rfl
    cases junction <;> rfl

theorem junctionOf?_eq_some {written : String} {junction : Junction} :
    junctionOf? written = some junction ↔ JunctionOf (.text written) junction := by
  rw [junctionOf?, ofName?_eq_some]
  exact ⟨.text, fun | .text named => named⟩

theorem junctionOf_and_iff {junction : Junction} :
    JunctionOf (.text "AND") junction ↔ junction = .all := by
  have read : junctionOf? "AND" = some .all := by decide +kernel
  rw [← junctionOf?_eq_some, read, Option.some_inj, eq_comm]

theorem readJunction_eq_ok {junction : Junction} :
    readJunction location entries = .ok junction ↔
      JunctionOf (fieldOr "junction" (.text "AND") entries) junction := by
  rw [readJunction, fieldOr]
  cases field? "junction" entries with
  | none =>
      rw [Option.getD_none, junctionOf_and_iff]
      exact ⟨fun read => (Except.ok.inj read).symm, fun all => congrArg Except.ok all.symm⟩
  | some value =>
      cases value with
      | text written =>
          rw [Option.getD_some, ← junctionOf?_eq_some]
          cases named : junctionOf? written <;> simp [named, refuse]
      | _ => constructor <;> intro impossible <;> cases impossible

theorem readGroup_reads : Reads readGroup (GroupOf Put) := by
  intro location value group
  cases value with
  | mapping entries =>
      rw [readGroup]
      constructor
      · intro accepted
        split at accepted
        · next id junction members idRead junctionRead membersRead noExtra =>
            cases accepted
            exact .mapping (extraIssues_eq_nil.mp noExtra) (requiredText_eq_ok.mp idRead)
              (readJunction_eq_ok.mp junctionRead)
              ((readSequence_eq_ok readMember_reads).mp membersRead)
        · cases accepted
      · rintro ⟨only, named, junction, members⟩
        rw [requiredText_eq_ok.mpr named, readJunction_eq_ok.mpr junction,
          (readSequence_eq_ok readMember_reads).mpr members, extraIssues_eq_nil.mpr only]
  | _ => constructor <;> intro impossible <;> cases impossible

theorem readSpecification_reads : Reads readSpecification (SpecificationOf Put) := by
  intro location value specification
  cases value with
  | mapping entries =>
      rw [readSpecification]
      constructor
      · intro accepted
        split at accepted
        · next id predicates groups idRead predicatesRead groupsRead noExtra =>
            cases accepted
            exact .mapping (extraIssues_eq_nil.mp noExtra) (requiredText_eq_ok.mp idRead)
              ((readSequence_eq_ok readPredicate_reads).mp predicatesRead)
              ((readSequence_eq_ok readGroup_reads).mp groupsRead)
        · cases accepted
      · rintro ⟨only, named, predicates, groups⟩
        rw [requiredText_eq_ok.mpr named,
          (readSequence_eq_ok readPredicate_reads).mpr predicates,
          (readSequence_eq_ok readGroup_reads).mpr groups, extraIssues_eq_nil.mpr only]
  | _ => constructor <;> intro impossible <;> cases impossible

end Readers

/-! ### Accepted data stand for something -/

section Existence

theorem exists_forall₂_iff {Stands : α → β → Prop} {items : List α} :
    (∃ results, List.Forall₂ Stands items results) ↔
      ∀ item ∈ items, ∃ result, Stands item result := by
  induction items with
  | nil => exact ⟨fun _ => nofun, fun _ => ⟨[], .nil⟩⟩
  | cons item items induction =>
      rw [List.forall_mem_cons, ← induction]
      constructor
      · rintro ⟨_, _ | ⟨first, others⟩⟩
        exact ⟨⟨_, first⟩, ⟨_, others⟩⟩
      · rintro ⟨⟨_, first⟩, ⟨_, others⟩⟩
        exact ⟨_, .cons first others⟩

variable {Accepted : Value → Prop} {Stands : Value → α → Prop}

theorem isSequence_iff (accepted : ∀ value, Accepted value ↔ ∃ result, Stands value result)
    (value : Value) : IsSequence Accepted value ↔ ∃ results, SequenceOf Stands value results := by
  constructor
  · rintro ⟨items, held, all⟩
    obtain ⟨results, each⟩ := exists_forall₂_iff.mpr fun item member =>
      (accepted item).mp (all item member)
    exact ⟨results, items, held, each⟩
  · rintro ⟨results, items, held, each⟩
    exact ⟨items, held, fun item member =>
      (accepted item).mpr (exists_forall₂_iff.mp ⟨results, each⟩ item member)⟩

theorem optionalField_iff (accepted : ∀ value, Accepted value ↔ ∃ result, Stands value result)
    {default : Value} (defaultAccepted : Accepted default) {name : String}
    {entries : List (Key × Value)} :
    OptionalField Accepted name entries ↔
      ∃ result, Stands (fieldOr name default entries) result := by
  rw [OptionalField, fieldOr, ← accepted]
  cases field? name entries with
  | none => simpa using defaultAccepted
  | some value => simp

theorem isSequence_nothing : IsSequence Accepted (.list []) :=
  ⟨[], rfl, nofun⟩

theorem exists_fields_of_paths {entries : List (Key × Value)}
    (paths : ∀ entry ∈ entries, ∃ path, entry.1 = .text path) :
    ∃ fields : List (String × Value),
      entries = fields.map fun field => (.text field.1, field.2) := by
  induction entries with
  | nil => exact ⟨[], rfl⟩
  | cons entry entries induction =>
      obtain ⟨⟨path, named⟩, others⟩ := List.forall_mem_cons.mp paths
      obtain ⟨fields, written⟩ := induction others
      exact ⟨(path, entry.2) :: fields, by rw [List.map_cons, ← written, ← named]⟩

theorem isQuery_iff (value : Value) : IsQuery value ↔ ∃ query, Put value query := by
  constructor
  · rintro @⟨entries, paths⟩
    obtain ⟨fields, rfl⟩ := exists_fields_of_paths paths
    exact ⟨_, .fields fields⟩
  · rintro ⟨query, ⟨fields⟩⟩
    refine .mapping fun entry member => ?_
    obtain ⟨field, -, rfl⟩ := List.mem_map.mp member
    exact ⟨field.1, rfl⟩

theorem isPredicate_iff (value : Value) :
    IsPredicate value ↔ ∃ predicate, PredicateOf Put value predicate := by
  have nothing : IsQuery (.mapping []) := .mapping fun _ member => nomatch member
  constructor
  · rintro @⟨entries, id, only, named, queried⟩
    obtain ⟨query, stands⟩ := (optionalField_iff isQuery_iff nothing).mp queried
    exact ⟨⟨id, query⟩, .mapping only named stands⟩
  · rintro ⟨predicate, ⟨only, named, stands⟩⟩
    exact .mapping only named ((optionalField_iff isQuery_iff nothing).mpr ⟨_, stands⟩)

theorem isMember_iff (value : Value) :
    IsMember value ↔ ∃ predicate, MemberOf Put value predicate := by
  constructor
  · rintro (id | accepted)
    · exact ⟨_, .bare id⟩
    · obtain ⟨predicate, stands⟩ := (isPredicate_iff value).mp accepted
      exact ⟨predicate, .predicate stands⟩
  · rintro ⟨predicate, id | stands⟩
    · exact .bare id
    · exact .predicate ((isPredicate_iff value).mpr ⟨_, stands⟩)

theorem isJunction_iff (value : Value) :
    IsJunction value ↔ ∃ junction, JunctionOf value junction := by
  constructor
  · rintro @⟨written, named⟩
    rcases List.mem_pair.mp named with all | any
    · exact ⟨.all, .text all⟩
    · exact ⟨.any, .text any⟩
  · rintro ⟨junction, @⟨written, _, named⟩⟩
    refine .text ?_
    rw [named]
    cases junction <;> simp [Junction.name]

theorem isGroup_iff (value : Value) : IsGroup value ↔ ∃ group, GroupOf Put value group := by
  have and : IsJunction (.text "AND") := (isJunction_iff _).mpr ⟨.all, junctionOf_and_iff.mpr rfl⟩
  constructor
  · rintro @⟨entries, id, only, named, joined, gathered⟩
    obtain ⟨junction, junctionStands⟩ := (optionalField_iff isJunction_iff and).mp joined
    obtain ⟨members, membersStand⟩ :=
      (optionalField_iff (isSequence_iff isMember_iff) isSequence_nothing).mp gathered
    exact ⟨⟨id, junction, members⟩, .mapping only named junctionStands membersStand⟩
  · rintro ⟨group, ⟨only, named, junctionStands, membersStand⟩⟩
    exact .mapping only named
      ((optionalField_iff isJunction_iff and).mpr ⟨_, junctionStands⟩)
      ((optionalField_iff (isSequence_iff isMember_iff) isSequence_nothing).mpr
        ⟨_, membersStand⟩)

theorem isSpecification_iff (value : Value) :
    IsSpecification value ↔ ∃ specification, SpecificationOf Put value specification := by
  constructor
  · rintro @⟨entries, id, only, named, declared, grouped⟩
    obtain ⟨predicates, predicatesStand⟩ :=
      (optionalField_iff (isSequence_iff isPredicate_iff) isSequence_nothing).mp declared
    obtain ⟨groups, groupsStand⟩ :=
      (optionalField_iff (isSequence_iff isGroup_iff) isSequence_nothing).mp grouped
    exact ⟨⟨id, predicates, groups⟩, .mapping only named predicatesStand groupsStand⟩
  · rintro ⟨specification, ⟨only, named, predicatesStand, groupsStand⟩⟩
    exact .mapping only named
      ((optionalField_iff (isSequence_iff isPredicate_iff) isSequence_nothing).mpr
        ⟨_, predicatesStand⟩)
      ((optionalField_iff (isSequence_iff isGroup_iff) isSequence_nothing).mpr ⟨_, groupsStand⟩)

end Existence

/-! ### Nothing is lost -/

section Keeping

theorem nodup_paths_of_distinctKeys {fields : List (String × Value)}
    (distinct : Entries.DistinctKeys (fields.map fun field => (.text field.1, field.2))) :
    (fields.map Prod.fst).Nodup := by
  induction fields with
  | nil => exact List.nodup_nil
  | cons field fields induction =>
      obtain ⟨different, others⟩ := distinct
      refine List.nodup_cons.mpr ⟨fun member => ?_, induction others⟩
      obtain ⟨other, otherMember, same⟩ := List.mem_map.mp member
      have apart := different _ (List.mem_map_of_mem otherMember)
      simp [Key.same, same] at apart

theorem Put.kept {value : Value} {query : Query} (wellFormed : value.WellFormed)
    (put : Put value query) : Kept value query := by
  obtain ⟨fields⟩ := put
  rw [Kept, Query.toEntries, Query.fields_ofList (nodup_paths_of_distinctKeys wellFormed.1)]

theorem wellFormed_fieldOr {name : String} {default : Value} {entries : List (Key × Value)}
    (wellFormed : (Value.mapping entries).WellFormed) (defaultWellFormed : default.WellFormed) :
    (fieldOr name default entries).WellFormed := by
  rw [fieldOr]
  cases found : field? name entries with
  | none => exact defaultWellFormed
  | some value => exact Value.wellFormed_of_lookup wellFormed found

theorem SequenceOf.kept {Stands Keeps : Value → α → Prop} {value : Value} {results : List α}
    (wellFormed : value.WellFormed)
    (kept : ∀ {item result}, item.WellFormed → Stands item result → Keeps item result)
    (stands : SequenceOf Stands value results) : SequenceOf Keeps value results := by
  obtain ⟨items, held, each⟩ := stands
  have itemsWellFormed : ∀ item ∈ items, item.WellFormed :=
    fun item member => Value.wellFormed_of_mem_items wellFormed held member
  refine ⟨items, held, ?_⟩
  clear held wellFormed
  induction each with
  | nil => exact .nil
  | cons first others induction =>
      obtain ⟨firstWellFormed, othersWellFormed⟩ := List.forall_mem_cons.mp itemsWellFormed
      exact .cons (kept firstWellFormed first) (induction othersWellFormed)

theorem PredicateOf.kept {value : Value} {predicate : Predicate} (wellFormed : value.WellFormed)
    (stands : PredicateOf Put value predicate) : PredicateOf Kept value predicate := by
  obtain ⟨only, named, query⟩ := stands
  exact .mapping only named (query.kept (wellFormed_fieldOr wellFormed ⟨trivial, trivial⟩))

theorem MemberOf.kept {value : Value} {predicate : Predicate} (wellFormed : value.WellFormed)
    (stands : MemberOf Put value predicate) : MemberOf Kept value predicate := by
  rcases stands with id | stands
  · exact .bare id
  · exact .predicate (stands.kept wellFormed)

theorem GroupOf.kept {value : Value} {group : Group} (wellFormed : value.WellFormed)
    (stands : GroupOf Put value group) : GroupOf Kept value group := by
  obtain ⟨only, named, junction, members⟩ := stands
  exact .mapping only named junction
    (members.kept (wellFormed_fieldOr wellFormed trivial) MemberOf.kept)

theorem SpecificationOf.kept {value : Value} {specification : Specification}
    (wellFormed : value.WellFormed) (stands : SpecificationOf Put value specification) :
    SpecificationOf Kept value specification := by
  obtain ⟨only, named, predicates, groups⟩ := stands
  exact .mapping only named
    (predicates.kept (wellFormed_fieldOr wellFormed trivial) PredicateOf.kept)
    (groups.kept (wellFormed_fieldOr wellFormed trivial) GroupOf.kept)

end Keeping

end Schema

namespace Specification

open Schema

/-- Reading a specification succeeds exactly on the data of the grammar, and then all ids,
members and conditions are those of the data, in the same order. -/
theorem ofValue_accepts_grammar (data : Value) :
    ((∃ specification, Specification.ofValue data = .ok specification) ↔ IsSpecification data) ∧
      (data.WellFormed → ∀ specification, Specification.ofValue data = .ok specification →
        SpecificationOf Kept data specification) := by
  have reads (specification : Specification) :
      Specification.ofValue data = .ok specification ↔ SpecificationOf Put data specification :=
    readSpecification_reads [] data specification
  constructor
  · simp only [reads, isSpecification_iff]
  · intro wellFormed specification accepted
    exact ((reads specification).mp accepted).kept wellFormed

/-- A tuple of groups, whose members are a bare name and a predicate with its conditions
before its id. -/
theorem ofValue_accepts_grammar_of_bare_member :
    let conditions : List (Key × Value) := [(.text "y", .null), (.text "x", .list [.null])]
    let data : Value := .mapping [
      (.text "groups", .tuple [.mapping [
        (.text "members", .list [.text "a",
          .mapping [(.text "query", .mapping conditions), (.text "id", .text "b")]]),
        (.text "junction", .text " or "), (.text "id", .text "g")]]),
      (.text "id", .text "s")]
    let query := Query.ofList [("y", .null), ("x", .list [.null])]
    let specification : Specification := ⟨"s", [], [⟨"g", .any, [⟨"a", .empty⟩, ⟨"b", query⟩]⟩]⟩
    data.WellFormed ∧ Specification.ofValue data = .ok specification ∧
      IsSpecification data ∧ SpecificationOf Kept data specification := by
  intro conditions data query specification
  have wellFormed : data.WellFormed := by
    simp [data, conditions, Value.WellFormed, Value.EntriesWellFormed, Value.AllWellFormed,
      Entries.DistinctKeys, Key.same]
  have accepted : Specification.ofValue data = .ok specification := rfl
  have grammar := ofValue_accepts_grammar data
  exact ⟨wellFormed, accepted, grammar.1.mp ⟨_, accepted⟩, grammar.2 wellFormed _ accepted⟩

/-- Outside of groups a bare name is no predicate. -/
example :
    Specification.ofValue
        (.mapping [(.text "id", .text "s"), (.text "predicates", .list [.text "a"])]) =
      .error [⟨[.name "predicates", .index 0], .modelType "Predicate"⟩] :=
  rfl

end Specification

end Criteria
