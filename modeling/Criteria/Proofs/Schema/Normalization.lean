import Criteria.Proofs.Schema.Grammar
import Criteria.Proofs.Unicode.Blank
import Criteria.Proofs.Unicode.Casing
import Criteria.Specification.Evaluation

/-!
# Normal forms of specifications

A model that is written out as a value is read back as it was.  Data that say the
same in different notations are read as the same model.
-/

namespace Criteria

namespace Schema

/-! ### Data that say the same -/

section Notations

/-- Two mappings with the same id and the same conditions, which may be left out where
there are none. -/
inductive PredicateAlike : Value → Value → Prop where
  | mapping {entries others : List (Key × Value)}
      (id : field? "id" entries = field? "id" others)
      (query : fieldOr "query" (.mapping []) entries = fieldOr "query" (.mapping []) others) :
      PredicateAlike (.mapping entries) (.mapping others)

/-- A member, where a bare name is the mapping that holds nothing but the name. -/
def expanded : Value → Value
  | .text id => .mapping [(.text "id", .text id)]
  | value => value

def MemberAlike (value other : Value) : Prop :=
  PredicateAlike (expanded value) (expanded other)

/-- Lists or tuples whose items are alike, one by one. -/
def SequenceAlike (Alike : Value → Value → Prop) (value other : Value) : Prop :=
  ∃ items others, value.items? = some items ∧ other.items? = some others ∧
    List.Forall₂ Alike items others

/-- Two texts with the same letters, up to letter case and the blanks around them. -/
inductive JunctionAlike : Value → Value → Prop where
  | text {inner otherInner written other : String}
      (surrounded : Surrounded inner written) (otherSurrounded : Surrounded otherInner other)
      (letters : List.Forall₂ UpperAlike inner.toList otherInner.toList) :
      JunctionAlike (.text written) (.text other)

inductive GroupAlike : Value → Value → Prop where
  | mapping {entries others : List (Key × Value)}
      (id : field? "id" entries = field? "id" others)
      (junction : JunctionAlike (fieldOr "junction" (.text "AND") entries)
        (fieldOr "junction" (.text "AND") others))
      (members : SequenceAlike MemberAlike (fieldOr "members" (.list []) entries)
        (fieldOr "members" (.list []) others)) :
      GroupAlike (.mapping entries) (.mapping others)

inductive SpecificationAlike : Value → Value → Prop where
  | mapping {entries others : List (Key × Value)}
      (id : field? "id" entries = field? "id" others)
      (predicates : SequenceAlike PredicateAlike (fieldOr "predicates" (.list []) entries)
        (fieldOr "predicates" (.list []) others))
      (groups : SequenceAlike GroupAlike (fieldOr "groups" (.list []) entries)
        (fieldOr "groups" (.list []) others)) :
      SpecificationAlike (.mapping entries) (.mapping others)

end Notations

/-! ### They stand for one model -/

section Canonicity

/-- Data that are alike stand for one result. -/
def Canonical (Alike : Value → Value → Prop) (Stands : Value → α → Prop) : Prop :=
  ∀ value other result otherResult, Alike value other →
    Stands value result → Stands other otherResult → result = otherResult

theorem eq_of_named {entries others : List (Key × Value)} {id otherId : String}
    (same : field? "id" entries = field? "id" others)
    (named : field? "id" entries = some (.text id))
    (otherNamed : field? "id" others = some (.text otherId)) : id = otherId := by
  rw [same, otherNamed] at named
  cases named
  rfl

theorem Put.unique {value : Value} {query other : Query} (put : Put value query)
    (otherPut : Put value other) : query = other := by
  obtain ⟨fields⟩ := put
  have read := (@ofList_readFields_eq_ok [] _ _).mpr (.fields fields)
  have otherRead := (@ofList_readFields_eq_ok [] _ _).mpr otherPut
  exact Except.ok.inj (read.symm.trans otherRead)

theorem predicateOf_canonical : Canonical PredicateAlike (PredicateOf Put) := by
  rintro _ _ ⟨id, query⟩ ⟨otherId, otherQuery⟩ ⟨sameId, sameQuery⟩ ⟨-, named, put⟩
    ⟨-, otherNamed, otherPut⟩
  rw [← sameQuery] at otherPut
  rw [Predicate.mk.injEq]
  exact ⟨eq_of_named sameId named otherNamed, put.unique otherPut⟩

theorem predicateOf_expanded {value : Value} {predicate : Predicate}
    (stands : MemberOf Put value predicate) : PredicateOf Put (expanded value) predicate := by
  rcases stands with id | ⟨⟨only, named, query⟩⟩
  · refine .mapping ?_ rfl (put_nothing_iff.mpr rfl)
    simp [OnlyFields]
  · exact .mapping only named query

theorem memberOf_canonical : Canonical MemberAlike (MemberOf Put) :=
  fun _ _ _ _ alike stands otherStands =>
    predicateOf_canonical _ _ _ _ alike (predicateOf_expanded stands)
      (predicateOf_expanded otherStands)

theorem sequenceOf_canonical {Alike : Value → Value → Prop} {Stands : Value → α → Prop}
    (canonical : Canonical Alike Stands) :
    Canonical (SequenceAlike Alike) (SequenceOf Stands) := by
  rintro value other results otherResults ⟨items, others, held, otherHeld, alike⟩
    ⟨_, heldAgain, each⟩ ⟨_, otherHeldAgain, otherEach⟩
  cases held.symm.trans heldAgain
  cases otherHeld.symm.trans otherHeldAgain
  clear held heldAgain otherHeld otherHeldAgain
  induction alike generalizing results otherResults with
  | nil =>
      cases each
      cases otherEach
      rfl
  | cons first _ induction =>
      cases each with
      | cons stands each =>
      cases otherEach with
      | cons otherStands otherEach =>
      rw [canonical _ _ _ _ first stands otherStands, induction _ _ each otherEach]

theorem junctionOf_canonical : Canonical JunctionAlike JunctionOf := by
  rintro _ _ junction otherJunction ⟨surrounded, otherSurrounded, letters⟩ ⟨named⟩ ⟨otherNamed⟩
  rw [surrounded.stripBlanks_eq, upperCase_eq_of_forall₂ (forall₂_stripBlanks letters)] at named
  rw [otherSurrounded.stripBlanks_eq] at otherNamed
  have found := ofName?_eq_some.mpr named
  have otherFound := ofName?_eq_some.mpr otherNamed
  exact Option.some.inj (found.symm.trans otherFound)

theorem groupOf_canonical : Canonical GroupAlike (GroupOf Put) := by
  rintro _ _ ⟨id, junction, members⟩ ⟨otherId, otherJunction, otherMembers⟩
    ⟨sameId, junctions, gathered⟩ ⟨-, named, joined, each⟩
    ⟨-, otherNamed, otherJoined, otherEach⟩
  rw [Group.mk.injEq]
  exact ⟨eq_of_named sameId named otherNamed,
    junctionOf_canonical _ _ _ _ junctions joined otherJoined,
    sequenceOf_canonical memberOf_canonical _ _ _ _ gathered each otherEach⟩

theorem specificationOf_canonical : Canonical SpecificationAlike (SpecificationOf Put) := by
  rintro _ _ ⟨id, predicates, groups⟩ ⟨otherId, otherPredicates, otherGroups⟩
    ⟨sameId, declared, grouped⟩ ⟨-, named, eachDeclared, eachGroup⟩
    ⟨-, otherNamed, otherEachDeclared, otherEachGroup⟩
  rw [Specification.mk.injEq]
  exact ⟨eq_of_named sameId named otherNamed,
    sequenceOf_canonical predicateOf_canonical _ _ _ _ declared eachDeclared otherEachDeclared,
    sequenceOf_canonical groupOf_canonical _ _ _ _ grouped eachGroup otherEachGroup⟩

end Canonicity

/-! ### Models that are written out -/

section Writing

theorem put_toEntries (query : Query) : Put (.mapping query.toEntries) query := by
  have put := Put.fields query.fields
  rwa [Query.ofList_fields] at put

theorem sequenceOf_map {Stands : Value → α → Prop} {write : α → Value}
    (stands : ∀ result, Stands (write result) result) (results : List α) :
    SequenceOf Stands (.list (results.map write)) results := by
  refine ⟨_, rfl, ?_⟩
  rw [List.forall₂_map_left_iff, List.forall₂_same]
  exact fun result _ => stands result

theorem predicateOf_toValue (predicate : Predicate) :
    PredicateOf Put predicate.toValue predicate :=
  .mapping (by simp [OnlyFields]) rfl (put_toEntries predicate.query)

theorem memberOf_toValue (predicate : Predicate) : MemberOf Put predicate.toValue predicate :=
  .predicate (predicateOf_toValue predicate)

theorem junctionOf_name (junction : Junction) : JunctionOf (.text junction.name) junction := by
  cases junction with
  | all => exact junctionOf_and_iff.mpr rfl
  | any => exact .text (by decide +kernel)

theorem groupOf_toValue (group : Group) : GroupOf Put group.toValue group :=
  .mapping (by simp [OnlyFields]) rfl (junctionOf_name group.junction)
    (sequenceOf_map memberOf_toValue group.members)

theorem specificationOf_toValue (specification : Specification) :
    SpecificationOf Put specification.toValue specification :=
  .mapping (by simp [OnlyFields]) rfl
    (sequenceOf_map predicateOf_toValue specification.predicates)
    (sequenceOf_map groupOf_toValue specification.groups)

end Writing

/-- Models are read back from what is written out of them, and data that are alike are read
as one model. -/
structure Normalizes (ofValue : Value → Checked α) (toValue : α → Value)
    (Alike : Value → Value → Prop) : Prop where
  restored : ∀ model, ofValue (toValue model) = .ok model
  canonical : ∀ {data other model otherModel}, Alike data other →
    ofValue data = .ok model → ofValue other = .ok otherModel → model = otherModel

theorem normalizes {read : List Step → Value → Checked α} {Stands : Value → α → Prop}
    {toValue : α → Value} {Alike : Value → Value → Prop} (reads : Reads read Stands)
    (written : ∀ model, Stands (toValue model) model) (canonical : Canonical Alike Stands) :
    Normalizes (read []) toValue Alike where
  restored := fun model => (reads _ _ _).mpr (written model)
  canonical := fun alike accepted otherAccepted =>
    canonical _ _ _ _ alike ((reads _ _ _).mp accepted) ((reads _ _ _).mp otherAccepted)

/-- Specifications, groups and predicates have normal forms, so that specifications which
are written in different notations are evaluated to the same run on every document. -/
theorem ofValue_normalizes :
    Normalizes Specification.ofValue Specification.toValue SpecificationAlike ∧
      Normalizes Group.ofValue Group.toValue GroupAlike ∧
      Normalizes Predicate.ofValue Predicate.toValue PredicateAlike ∧
      ∀ {data other specification otherSpecification}, SpecificationAlike data other →
        Specification.ofValue data = .ok specification →
        Specification.ofValue other = .ok otherSpecification →
        ∀ evaluator document engine,
          (specification.evaluate evaluator document).run engine =
            (otherSpecification.evaluate evaluator document).run engine := by
  have specifications :
      Normalizes Specification.ofValue Specification.toValue SpecificationAlike :=
    normalizes readSpecification_reads specificationOf_toValue specificationOf_canonical
  refine ⟨specifications, normalizes readGroup_reads groupOf_toValue groupOf_canonical,
    normalizes readPredicate_reads predicateOf_toValue predicateOf_canonical, ?_⟩
  intro data other specification otherSpecification alike accepted otherAccepted
  rw [specifications.canonical alike accepted otherAccepted]
  exact fun _ _ _ => rfl

/-- A bare member, a junction between blanks and a tuple, against everything written out. -/
theorem ofValue_normalizes_of_bare_member :
    let data : Value := .mapping [
      (.text "groups", .tuple [.mapping [
        (.text "members", .list [.text "a"]), (.text "junction", .text " oR\n"),
        (.text "id", .text "g")]]),
      (.text "id", .text "s")]
    let other : Value := .mapping [
      (.text "id", .text "s"), (.text "predicates", .tuple []),
      (.text "groups", .list [.mapping [
        (.text "id", .text "g"), (.text "junction", .text "OR"),
        (.text "members", .tuple [
          .mapping [(.text "id", .text "a"), (.text "query", .mapping [])]])]])]
    let specification : Specification := ⟨"s", [], [⟨"g", .any, [⟨"a", .empty⟩]⟩]⟩
    let otherSpecification : Specification := ⟨"s", [], [⟨"g", .any, [⟨"a", Query.ofList []⟩]⟩]⟩
    SpecificationAlike data other ∧ Specification.ofValue data = .ok specification ∧
      Specification.ofValue other = .ok otherSpecification ∧
      specification = otherSpecification ∧
      Specification.ofValue specification.toValue = .ok specification := by
  intro data other specification otherSpecification
  have members : SequenceAlike MemberAlike (.list [.text "a"])
      (.tuple [.mapping [(.text "id", .text "a"), (.text "query", .mapping [])]]) :=
    ⟨_, _, rfl, rfl, .cons (.mapping rfl rfl) .nil⟩
  have spaced : Surrounded "oR" " oR\n" :=
    ⟨[' '], ['\n'], List.forall_mem_singleton.mpr (by decide),
      List.forall_mem_singleton.mpr (by decide), by decide +kernel⟩
  have junction : JunctionAlike (.text " oR\n") (.text "OR") :=
    .text spaced (surrounded_self "OR") (.cons rfl (.cons rfl .nil))
  have alike : SpecificationAlike data other :=
    .mapping rfl ⟨_, _, rfl, rfl, .nil⟩
      ⟨_, _, rfl, rfl, .cons (.mapping rfl junction members) .nil⟩
  have accepted : Specification.ofValue data = .ok specification := rfl
  have otherAccepted : Specification.ofValue other = .ok otherSpecification := rfl
  obtain ⟨specifications, -⟩ := ofValue_normalizes
  exact ⟨alike, accepted, otherAccepted, specifications.canonical alike accepted otherAccepted,
    specifications.restored specification⟩

end Schema

end Criteria
