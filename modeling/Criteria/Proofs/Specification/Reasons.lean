import Criteria.Proofs.Specification.Runs
import Criteria.Report.Payload

/-!
# Reasons

Whatever is not matched has a reason, and whatever is matched has none: a predicate
always, and a group as far as its members can give one.  A group that is not matched and
has no reason either had nobody to ask, being a disjunction without members, or could not
be evaluated.
-/

namespace Criteria

namespace Json

/-- The datum that an object has under a name. -/
def member? (name : String) : Json → Option Json
  | .object members => (members.find? fun member => member.1 = name).map Prod.snd
  | _ => none

theorem ofText?_eq_null_iff {text : Option String} : ofText? text = .null ↔ text = none := by
  cases text <;> simp [ofText?]

end Json

theorem intercalate_eq_empty_iff {separator : String} {texts : List String}
    (filled : ∀ text ∈ texts, text ≠ "") : separator.intercalate texts = "" ↔ texts = [] := by
  cases texts with
  | nil => simp
  | cons first rest =>
      have begun : first ≠ "" := filled first List.mem_cons_self
      cases rest with
      | nil => simp [begun]
      | cons second rest => simp [begun]

namespace PredicateResult

variable {result : PredicateResult}

theorem failureText_ne_empty (result : PredicateResult) : result.failureText ≠ "" := by
  rw [failureText]
  cases result.failureReason with
  | none => decide
  | some reason =>
      dsimp only
      split
      · decide
      · assumption

theorem reason?_eq_none_iff : result.reason? = none ↔ result.state = .matched := by
  rw [reason?]
  cases result.state with
  | matched => simp
  | notMatched | undetermined =>
      dsimp only
      split <;> simp

theorem ne_empty_of_reason? {text : String} (reason : result.reason? = some text) :
    text ≠ "" := by
  rw [reason?] at reason
  split at reason
  · cases reason
  · split at reason
    · cases reason
      simp
    · split at reason
      · cases reason
        exact failureText_ne_empty result
      · cases reason
        decide

theorem member?_reason_toJson :
    result.toJson.member? "reason" = some (.ofText? result.reason?) :=
  rfl

end PredicateResult

namespace GroupResult

variable {result : GroupResult}

theorem ne_empty_of_mem_reasons {text : String}
    (member : text ∈ result.memberResults.filterMap PredicateResult.reason?) : text ≠ "" := by
  obtain ⟨_, -, reason⟩ := List.mem_filterMap.mp member
  exact PredicateResult.ne_empty_of_reason? reason

theorem reason_eq_empty_iff :
    result.reason = "" ↔ ∀ member ∈ result.memberResults, member.state = .matched := by
  rw [reason, List.filter_eq_self.mpr fun text member =>
      decide_eq_true (ne_empty_of_mem_reasons member),
    intercalate_eq_empty_iff fun text => ne_empty_of_mem_reasons, List.filterMap_eq_nil_iff]
  simp only [PredicateResult.reason?_eq_none_iff]

theorem member?_reason_toJson_eq_null_iff : result.toJson.member? "reason" = some .null ↔
    ∀ member ∈ result.memberResults, member.state = .matched := by
  have payload : result.toJson.member? "reason" = some (.ofText? result.reason?) := rfl
  rw [payload, Option.some.injEq, Json.ofText?_eq_null_iff, ← reason_eq_empty_iff, reason?,
    ite_eq_left_iff]
  simp

/-- Members that are combined by a conjunction are matched as a group if no reason is
given. -/
theorem matched_iff_of_all {group : Group} (conjunction : group.junction = .all)
    (results : List PredicateResult) : (ofMembers group results).matched = true ↔
      (ofMembers group results).toJson.member? "reason" = some .null := by
  rw [member?_reason_toJson_eq_null_iff]
  simp [ofMembers, Junction.combine, conjunction, PredicateResult.matched]

/-- Where there are members, a disjunction of which none is matched has reasons. -/
theorem unexplained_iff_of_any {group : Group} (disjunction : group.junction = .any)
    (results : List PredicateResult) :
    (ofMembers group results).matched = false ∧
        (ofMembers group results).toJson.member? "reason" = some .null ↔ results = [] := by
  rw [member?_reason_toJson_eq_null_iff]
  cases results with
  | nil => simp [ofMembers, Junction.combine, disjunction]
  | cons first rest =>
      simp only [ofMembers, Junction.combine, disjunction, PredicateResult.matched,
        List.map_cons, List.any_cons, List.forall_mem_cons]
      cases first.state <;> simp

end GroupResult

namespace Specification

variable {evaluator : Evaluator} {document : Value} {declared : List PredicateResult}
variable {engine : Engine}

/-- Evaluating the members of a group breaks down: the evaluator has no answer to one that
is not declared, after it had one to those before it. -/
inductive BreaksDown (evaluator : Evaluator) (document : Value)
    (declared : List PredicateResult) : Engine → List Predicate → Prop where
  | first {engine : Engine} {member : Predicate} {rest : List Predicate}
      (undeclared : resultNamed? declared member.id = none)
      (unanswered : ((evaluator document member).run engine).1.result = none) :
      BreaksDown evaluator document declared engine (member :: rest)
  | afterDeclared {engine : Engine} {member : Predicate} {rest : List Predicate}
      {result : PredicateResult} (known : resultNamed? declared member.id = some result)
      (later : BreaksDown evaluator document declared engine rest) :
      BreaksDown evaluator document declared engine (member :: rest)
  | afterAnswer {engine : Engine} {member : Predicate} {rest : List Predicate}
      {result : PredicateResult} (undeclared : resultNamed? declared member.id = none)
      (answered : ((evaluator document member).run engine).1.result = some result)
      (later : BreaksDown evaluator document declared
        ((evaluator document member).run engine).2 rest) :
      BreaksDown evaluator document declared engine (member :: rest)

/-- Unless it breaks down, evaluating members gives one result for each of them. -/
theorem memberResults_cases (evaluator : Evaluator) (document : Value)
    (declared : List PredicateResult) (members : List Predicate) (engine : Engine) :
    let results := ((memberResults evaluator document declared members).run engine).1.1
    (BreaksDown evaluator document declared engine members ∧ results = none) ∨
      (¬ BreaksDown evaluator document declared engine members ∧
        ∃ found, results = some found ∧ found.length = members.length) := by
  induction members generalizing engine with
  | nil => exact .inr ⟨nofun, [], rfl, rfl⟩
  | cons member rest induction =>
      cases known : resultNamed? declared member.id with
      | some result =>
          rw [run_memberResults_cons_of_declared known]
          rcases induction engine with ⟨later, none⟩ | ⟨none, found, some, length⟩
          · exact .inl ⟨.afterDeclared known later, by simp [none]⟩
          · refine .inr ⟨?_, result :: found, by simp [some], by simp [length]⟩
            rintro (⟨undeclared, -⟩ | ⟨-, later⟩ | ⟨undeclared, -, -⟩)
            · simp [known] at undeclared
            · exact none later
            · simp [known] at undeclared
      | none =>
          rw [run_memberResults_cons_of_undeclared known]
          dsimp only
          cases answer : ((evaluator document member).run engine).1.result with
          | none => exact .inl ⟨.first known answer, rfl⟩
          | some result =>
              rcases induction ((evaluator document member).run engine).2 with
                ⟨later, none⟩ | ⟨none, found, some, length⟩
              · exact .inl ⟨.afterAnswer known answer later, by simp [none]⟩
              · refine .inr ⟨?_, result :: found, by simp [some], by simp [length]⟩
                rintro (⟨-, unanswered⟩ | ⟨declared, -⟩ | ⟨-, -, later⟩)
                · simp [answer] at unanswered
                · simp [known] at declared
                · exact none later

/-- What the reason of a group says about it, depending on whether its evaluation broke
down. -/
structure Reasoned (brokenDown : Prop) (group : Group) (result : GroupResult) : Prop where
  conjunction : ¬ brokenDown → group.junction = .all →
    (result.matched = true ↔ result.toJson.member? "reason" = some .null)
  disjunction : group.junction = .any → result.memberResults ≠ [] → result.matched = false →
    result.toJson.member? "reason" ≠ some .null
  unexplained : result.matched = false ∧ result.toJson.member? "reason" = some .null ↔
    brokenDown ∨ (group.junction = .any ∧ group.members = [])

theorem reasoned_failed {brokenDown : Prop} (broken : brokenDown) (group : Group) :
    Reasoned brokenDown group (.failed group) where
  conjunction whole := absurd broken whole
  disjunction _ members := absurd rfl members
  unexplained := ⟨fun _ => .inl broken, fun _ => ⟨rfl, rfl⟩⟩

theorem reasoned_ofMembers {brokenDown : Prop} (whole : ¬ brokenDown) {group : Group}
    {results : List PredicateResult} (length : results.length = group.members.length) :
    Reasoned brokenDown group (.ofMembers group results) where
  conjunction _ conjunction := GroupResult.matched_iff_of_all conjunction results
  disjunction disjunction members unmatched unexplained :=
    members ((GroupResult.unexplained_iff_of_any disjunction results).mp
      ⟨unmatched, unexplained⟩)
  unexplained := by
    have noMembers : results = [] ↔ group.members = [] := by
      rw [← List.length_eq_zero_iff, length, List.length_eq_zero_iff]
    cases junction : group.junction with
    | all =>
        rw [← GroupResult.matched_iff_of_all junction results]
        simp [whole]
    | any =>
        rw [GroupResult.unexplained_iff_of_any junction results, noMembers]
        simp [whole]

theorem reasoned_evaluateGroup (group : Group) (engine : Engine) :
    Reasoned (BreaksDown evaluator document declared engine group.members) group
      ((evaluateGroup evaluator document declared group).run engine).1.1 := by
  rw [evaluateGroup, StateT.run_bind]
  dsimp only [Bind.bind]
  rcases memberResults_cases evaluator document declared group.members engine with
    ⟨broken, none⟩ | ⟨whole, found, some, length⟩
  · rw [none]
    exact reasoned_failed broken group
  · rw [some]
    exact reasoned_ofMembers whole length

/-- The results of groups, with one group set off from those before and behind it. -/
theorem run_evaluateGroups_split (evaluator : Evaluator) (document : Value)
    (declared : List PredicateResult) (earlier : List Group) (group : Group) (later : List Group)
    (engine : Engine) :
    let before := (evaluateGroups evaluator document declared earlier).run engine
    let own := (evaluateGroup evaluator document declared group).run before.2
    let behind := (evaluateGroups evaluator document declared later).run own.2
    ((evaluateGroups evaluator document declared (earlier ++ group :: later)).run engine).1.1 =
        before.1.1 ++ own.1.1 :: behind.1.1 ∧
      before.1.1.length = earlier.length := by
  induction earlier generalizing engine with
  | nil => exact ⟨rfl, rfl⟩
  | cons first earlier induction =>
      obtain ⟨results, length⟩ :=
        induction ((evaluateGroup evaluator document declared first).run engine).2
      exact ⟨congrArg (_ :: ·) results, congrArg (· + 1) length⟩

/-- The engine on which a group is evaluated: after the declared predicates, and after the
groups before it. -/
def engineBehind (evaluator : Evaluator) (document : Value) (predicates : List Predicate)
    (earlier : List Group) (engine : Engine) : Engine :=
  let declared := (evaluatePredicates evaluator document predicates).run engine
  ((evaluateGroups evaluator document (firstResults [] declared.1.1).1 earlier).run
    declared.2).2

/-- Reasons agree with verdicts.  A predicate has no reason, in the payload as well, if and
only if it is matched, and otherwise a text that is not empty; a group has none if and
only if all of its members are matched.  So in every outcome, whatever evaluator it comes
from, a conjunction that did not break down is matched if and only if it has no reason, a
disjunction of members that is not matched has one, and what is not matched without a
reason is a disjunction without members or a group that broke down. -/
theorem evaluate_reasons (evaluator : Evaluator) (document : Value)
    (specification : Specification) (engine : Engine) :
    (∀ result : PredicateResult, (result.reason? = none ↔ result.state = .matched) ∧
      (result.state ≠ .matched → ∃ text, text ≠ "" ∧ result.reason? = some text) ∧
      (result.toJson.member? "reason" = some .null ↔ result.state = .matched)) ∧
    (∀ result : GroupResult,
      (result.reason = "" ↔ ∀ member ∈ result.memberResults, member.state = .matched) ∧
      (result.toJson.member? "reason" = some .null ↔
        ∀ member ∈ result.memberResults, member.state = .matched)) ∧
    let outcome := ((evaluate evaluator document specification).run engine).1.outcome
    ∀ earlier group later, specification.groups = earlier ++ group :: later →
      ∃ result, outcome.groupResults[earlier.length]? = some result ∧
        Reasoned (BreaksDown evaluator document outcome.predicateResults
            (engineBehind evaluator document specification.predicates earlier engine)
            group.members)
          group result := by
  refine ⟨fun result => ⟨result.reason?_eq_none_iff, ?_, ?_⟩, fun result =>
    ⟨result.reason_eq_empty_iff, result.member?_reason_toJson_eq_null_iff⟩, ?_⟩
  · intro unmatched
    cases reason : result.reason? with
    | none => exact absurd (PredicateResult.reason?_eq_none_iff.mp reason) unmatched
    | some text => exact ⟨text, PredicateResult.ne_empty_of_reason? reason, rfl⟩
  · rw [PredicateResult.member?_reason_toJson, Option.some.injEq, Json.ofText?_eq_null_iff,
      PredicateResult.reason?_eq_none_iff]
  · intro outcome earlier group later groups
    let declared := (evaluatePredicates evaluator document specification.predicates).run engine
    let first := (firstResults [] declared.1.1).1
    have groupResults : outcome.groupResults =
      ((evaluateGroups evaluator document first specification.groups).run declared.2).1.1 := rfl
    obtain ⟨results, length⟩ :=
      run_evaluateGroups_split evaluator document first earlier group later declared.2
    refine ⟨_, ?_, reasoned_evaluateGroup group _⟩
    rw [groupResults, groups, results, ← length, List.getElem?_append_right (Nat.le_refl _),
      Nat.sub_self, List.getElem?_cons_zero]
    rfl

/-- A disjunction that is not matched because of missing data, and one that breaks down on
its second member. -/
theorem evaluate_reasons_of_breakdown :
    let missing : Predicate := ⟨"a", .ofList [("x", .null)]⟩
    let asked : Group := ⟨"g", .any, [missing]⟩
    let broken : Group := ⟨"h", .any, [missing, ⟨"b", .empty⟩]⟩
    let specification : Specification := ⟨"s", [missing], [asked, broken]⟩
    let evaluator := Predicate.evaluate.breakingOn ["b"]
    let outcome := ((evaluate evaluator (.mapping []) specification).run
      (Setting.known .standard default).engine).1.outcome
    (specification.groups = [] ++ asked :: [broken] ∧
      ∃ result, outcome.groupResults[0]? = some result ∧ result.matched = false ∧
        result.toJson.member? "reason" ≠ some .null) ∧
    specification.groups = [asked] ++ broken :: [] ∧
      ∃ result, outcome.groupResults[1]? = some result ∧ result.matched = false ∧
        result.toJson.member? "reason" = some .null := by
  intro missing asked broken specification evaluator outcome
  obtain ⟨-, -, groups⟩ := evaluate_reasons evaluator (.mapping []) specification
    (Setting.known .standard default).engine
  obtain ⟨first, firstFound, firstReasoned⟩ := groups [] asked [broken] rfl
  obtain ⟨second, secondFound, secondReasoned⟩ := groups [asked] broken [] rfl
  change outcome.groupResults[0]? = some first at firstFound
  have read : outcome.groupResults[0]?.map (fun result =>
      (result.matched, result.memberResults.isEmpty)) = some (false, false) := by
    decide +kernel
  rw [firstFound, Option.map_some, Option.some.injEq, Prod.mk.injEq,
    List.isEmpty_eq_false_iff] at read
  have declared : resultNamed? outcome.predicateResults "a" =
      some ⟨"a", .undetermined, ["x"], none⟩ := by
    decide +kernel
  have undeclared : resultNamed? outcome.predicateResults "b" = none := by
    decide +kernel
  have breakdown := secondReasoned.unexplained.mpr
    (.inl (.afterDeclared declared (.first undeclared rfl)))
  exact ⟨⟨rfl, first, firstFound, read.1, firstReasoned.disjunction rfl read.2 read.1⟩,
    rfl, second, secondFound, breakdown⟩

end Specification

end Criteria
