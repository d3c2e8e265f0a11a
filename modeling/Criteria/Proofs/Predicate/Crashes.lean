import Criteria.Proofs.Condition.Crashes
import Criteria.Proofs.Pattern.RepeatCounts
import Criteria.Proofs.Predicate.Fields

/-!
# Crashes of predicates

In the full table, the evaluation of a predicate only crashes if one of the
clauses that it decides is open to this: a comparison with a date-time of a large
offset, a search for a pattern that counts too far, writes a count in too many
digits or is put into two modes, or an element query under a key that is no path,
asked of a mapping.
-/

namespace Criteria

open Condition (Clause)

namespace PredicateResult

/-- The text of a crash of the kind. -/
def ReportsCrash (result : PredicateResult) (kind : String) : Prop :=
  result.failureReason = some ("Internal error during evaluation: " ++ kind)

end PredicateResult

namespace Query

theorem paths_of_mem_toEntries {query : Query} :
    ∀ entry ∈ query.toEntries, ∃ path, entry.1 = .text path :=
  List.forall_mem_map.mpr fun field _ => ⟨field.1, rfl⟩

end Query

namespace Predicate

/-- The clauses that are decided: none if data are missing, and otherwise those of
the fields up to the first that has a fault. -/
def decidedClauses (setting : Setting) (document : Value) (predicate : Predicate) :
    List Clause :=
  if Query.missingPaths document predicate.query.fields = [] then
    Condition.untilFault setting.fault?
      (Condition.reachedFields setting document predicate.query.toEntries)
  else []

variable {names : CharacterNames} {present : Instant} {document : Value} {predicate : Predicate}

/-- The last of the decided clauses ends in the fault, and it is an ordinary one, or
a crash that a decided clause is open to. -/
theorem openTo_of_fault
    (complete : Query.missingPaths document predicate.query.fields = []) {fault : Fault}
    (failed : (Query.matchFields document predicate.query.fields).outcome
      (.known names present) = .error fault) :
    let clauses := predicate.decidedClauses (.known names present) document
    (∃ clause ∈ clauses, (Setting.known names present).fault? clause = some fault) ∧
      (fault.Ordinary ∨
        ∃ cause, fault = .crash cause ∧ ∃ clause ∈ clauses, clause.OpenTo names cause) := by
  intro clauses
  rw [Query.outcome_matchFields_eq_answer] at failed
  obtain ⟨before, clause, after, split, sound, failing⟩ :=
    Condition.answer_eq_error_iff.mp failed
  have decided : clauses = before ++ [clause] := by
    simp only [clauses, decidedClauses, if_pos complete, split]
    exact Condition.untilFault_of_first_fault sound failing
  rw [decided]
  exact ⟨⟨clause, by simp, failing⟩,
    Condition.openTo_of_first_fault Query.paths_of_mem_toEntries split failing⟩

/-- The evaluation of a predicate in the full table reports a crash only if a
clause that it has decided is open to a crash of this kind.  If none is, the
predicate is matched or not, or it is undetermined because data are missing, for
an ordinary fault, or without a query. -/
theorem evaluate_crashes_only_if_open {engine : Engine}
    (serving : engine.Serves (.known names present)) (document : Value)
    (predicate : Predicate) :
    let clauses := predicate.decidedClauses (.known names present) document
    ∃ result, ((evaluate document predicate).run engine).1.result = some result ∧
      (∀ kind, result.ReportsCrash kind →
        ∃ clause ∈ clauses, ∃ cause, clause.OpenTo names cause ∧ kind = cause.name) ∧
      ((∀ clause ∈ clauses, ∀ cause, ¬clause.OpenTo names cause) →
        result = ⟨predicate.id, .matched, [], none⟩ ∨
        result = ⟨predicate.id, .notMatched, [], none⟩ ∨
        (∃ paths, paths ≠ [] ∧ result = ⟨predicate.id, .undetermined, paths, none⟩) ∨
        (∃ clause ∈ clauses, ∃ fault, (Setting.known names present).fault? clause = some fault ∧
          fault.Ordinary ∧
          result = ⟨predicate.id, .undetermined, [], some fault.reason⟩) ∨
        (predicate.query.fields = [] ∧ result =
          ⟨predicate.id, .undetermined, [], some "Predicate definition not found"⟩)) := by
  intro clauses
  refine ⟨_, (evaluate_result serving).1, ?_⟩
  by_cases empty : predicate.query.fields = []
  · rw [resultIn_of_empty empty]
    refine ⟨fun kind crashed => ?_, fun _ => .inr (.inr (.inr (.inr ⟨empty, rfl⟩)))⟩
    have letters := congrArg String.toList (Option.some.inj crashed)
    simp at letters
  by_cases complete : Query.missingPaths document predicate.query.fields = []
  · rw [resultIn_of_complete empty complete]
    cases outcome : (Query.matchFields document predicate.query.fields).outcome
        (.known names present) with
    | ok matched =>
        refine ⟨nofun, fun _ => ?_⟩
        cases matched
        · exact .inr (.inl rfl)
        · exact .inl rfl
    | error fault =>
        obtain ⟨⟨last, decided, failing⟩, known⟩ := openTo_of_fault complete outcome
        rcases known with ordinary | ⟨cause, rfl, clause, member, openTo⟩
        · refine ⟨fun kind crashed => ?_, fun _ => ?_⟩
          · exact absurd (Option.some.inj crashed) (ordinary.reason_ne_crash kind)
          · exact .inr (.inr (.inr (.inl ⟨last, decided, fault, failing, ordinary, rfl⟩)))
        · refine ⟨fun kind crashed => ⟨clause, member, cause, openTo, ?_⟩, fun closed => ?_⟩
          · exact ((String.append_right_inj _).mp (Option.some.inj crashed)).symm
          · exact absurd openTo (closed clause member cause)
  · rw [resultIn_of_missing empty complete]
    exact ⟨nofun, fun _ => .inr (.inr (.inl ⟨_, complete, rfl⟩))⟩

theorem evaluate_crashes_only_if_open_of_number_key :
    let engine := (Setting.known .standard default).engine
    let document := Value.mapping [(.text "a", .list [.mapping []])]
    let query := [(Key.number (.integer 1), Value.null)]
    let condition := Value.mapping [(.text "$elemMatch", .mapping query)]
    let predicate : Predicate := ⟨"p", [("a", condition)], by decide⟩
    let clauses := predicate.decidedClauses (.known .standard default) document
    engine.Serves (.known .standard default) ∧
      ((evaluate document predicate).run engine).1.result =
        some ⟨"p", .undetermined, [],
          some "Internal error during evaluation: AttributeError"⟩ ∧
      ∃ clause ∈ clauses, ∃ cause, clause.OpenTo .standard cause ∧
        "AttributeError" = cause.name := by
  intro engine document query condition predicate clauses
  have serving : engine.Serves (.known .standard default) := Engine.serves_engine _
  have evaluated : ((evaluate document predicate).run engine).1.result =
      some ⟨"p", .undetermined, [],
        some "Internal error during evaluation: AttributeError"⟩ := by decide +kernel
  obtain ⟨result, same, crashes, -⟩ :=
    evaluate_crashes_only_if_open serving document predicate
  obtain rfl := Option.some.inj (same.symm.trans evaluated)
  exact ⟨serving, evaluated, crashes _ rfl⟩

section Search

variable {path pattern : String} {value : Value} {rejection : Pattern.Rejection}

theorem missingPaths_of_search
    (asked : predicate.query.fields = [(path, .mapping [(.text "$regex", .text pattern)])])
    (found : resolve document path = .found value) :
    Query.missingPaths document predicate.query.fields = [] := by
  rw [asked]
  simp [Query.missingPaths, found]

theorem reachedFields_of_search
    (asked : predicate.query.fields = [(path, .mapping [(.text "$regex", .text pattern)])])
    (found : resolve document path = .found value) :
    Condition.reachedFields (.known names present) document predicate.query.toEntries =
      [.shape value (.mapping [(.text "$regex", .text pattern)]),
        .operator Operator.regex.name value (.text pattern)] := by
  rw [Query.toEntries, asked, List.map_singleton, Condition.reachedFields_cons]
  simp only [Condition.fieldClauses, found]
  rfl

theorem fault?_shape_of_search (value : Value) (pattern : String) :
    (Setting.known names present).fault?
      (.shape value (.mapping [(.text "$regex", .text pattern)])) = none :=
  rfl

/-- A predicate that only searches a field for a refused pattern is undetermined for
the reason of the refusal. -/
theorem evaluate_of_refused_pattern {engine : Engine}
    (serving : engine.Serves (.known names present))
    (asked : predicate.query.fields = [(path, .mapping [(.text "$regex", .text pattern)])])
    (found : resolve document path = .found value)
    (refused : Pattern.compile names pattern = .error rejection) :
    ((evaluate document predicate).run engine).1.result =
      some (.failed predicate.id (Fault.ofRejection pattern rejection).reason) := by
  have notEmpty : predicate.query.fields ≠ [] := by simp [asked]
  have failed : (Query.matchFields document predicate.query.fields).outcome
      (.known names present) = .error (.ofRejection pattern rejection) := by
    rw [Query.outcome_matchFields_eq_answer, reachedFields_of_search asked found,
      Condition.answer_cons, fault?_shape_of_search, Condition.answer_cons,
      Condition.fault?_refused_pattern present value refused]
    rfl
  rw [(evaluate_result serving).1,
    resultIn_of_complete notEmpty (missingPaths_of_search asked found), failed]

theorem decidedClauses_of_refused_pattern
    (asked : predicate.query.fields = [(path, .mapping [(.text "$regex", .text pattern)])])
    (found : resolve document path = .found value)
    (refused : Pattern.compile names pattern = .error rejection) :
    predicate.decidedClauses (.known names present) document =
      [.shape value (.mapping [(.text "$regex", .text pattern)]),
        .operator Operator.regex.name value (.text pattern)] := by
  rw [decidedClauses, if_pos (missingPaths_of_search asked found),
    reachedFields_of_search asked found]
  simp only [Condition.untilFault, fault?_shape_of_search,
    Condition.fault?_refused_pattern present value refused]
  rfl

end Search

/-- A predicate without a query has no result of another kind, and patterns that are
put into both modes or count in too many digits crash although no other cause is in
sight. -/
theorem evaluate_crashes_on_both_modes_and_long_count :
    let engine := (Setting.known .standard default).engine
    let document := Value.mapping [(.text "a", .text "x")]
    let searching (pattern : String) := Value.mapping [(.text "$regex", .text pattern)]
    let predicate (pattern : String) : Predicate :=
      ⟨"p", [("a", searching pattern)], by simp⟩
    let clauses (pattern : String) :=
      (predicate pattern).decidedClauses (.known .standard default) document
    let bothModes := "(?a)(?u)x"
    let longCount := String.ofList ('x' :: '\x7b' :: (List.replicate 4301 '1' ++ ['\x7d']))
    ((evaluate document ⟨"e", .empty⟩).run engine).1.result =
        some ⟨"e", .undetermined, [], some "Predicate definition not found"⟩ ∧
      (∀ fault : Fault, fault.Ordinary → fault.reason ≠ "Predicate definition not found") ∧
      Pattern.compile .standard bothModes = .error .incompatibleModes ∧
      Pattern.compile .standard longCount = .error .repeatCountTooLong ∧
      ∀ pattern ∈ [bothModes, longCount],
        ((evaluate document (predicate pattern)).run engine).1.result =
          some ⟨"p", .undetermined, [], some "Internal error during evaluation: ValueError"⟩ ∧
        clauses pattern = [.shape (.text "x") (searching pattern),
          .operator "$regex" (.text "x") (.text pattern)] := by
  intro engine document searching predicate clauses bothModes longCount
  have serving : engine.Serves (.known .standard default) := Engine.serves_engine _
  have inBothModes : Pattern.compile .standard bothModes = .error .incompatibleModes :=
    Condition.compile_of_isRejected (by decide +kernel)
  have countedLong : Pattern.compile .standard longCount = .error .repeatCountTooLong := by
    have many : digitLimit < (List.replicate 4301 '1').length := by
      rw [List.length_replicate]
      decide
    have decimal : ∀ digit ∈ List.replicate 4301 '1', digit.isDigit = true := by
      intro digit member
      rw [List.eq_of_mem_replicate member]
      rfl
    have written := List.ne_nil_of_length_pos (Nat.zero_lt_of_lt many)
    rw [Pattern.compile_counted .standard (by decide) written decimal,
      Pattern.repeatCount_of_many_digits many]
    rfl
  have found : resolve document "a" = .found (.text "x") := rfl
  have crashes {pattern : String} {rejection : Pattern.Rejection}
      (refused : Pattern.compile .standard pattern = .error rejection)
      (crash : (Fault.ofRejection pattern rejection).reason =
        "Internal error during evaluation: ValueError") :
      ((evaluate document (predicate pattern)).run engine).1.result =
          some ⟨"p", .undetermined, [], some "Internal error during evaluation: ValueError"⟩ ∧
        clauses pattern = [.shape (.text "x") (searching pattern),
          .operator "$regex" (.text "x") (.text pattern)] := by
    have asked : (predicate pattern).query.fields = [("a", searching pattern)] := rfl
    refine ⟨?_, decidedClauses_of_refused_pattern asked found refused⟩
    rw [evaluate_of_refused_pattern serving asked found refused, crash]
    rfl
  refine ⟨rfl, fun fault ordinary => ordinary.reason_ne (by decide), inBothModes, countedLong, ?_⟩
  intro pattern member
  simp only [List.mem_cons, List.not_mem_nil, or_false] at member
  rcases member with rfl | rfl
  · exact crashes inBothModes rfl
  · exact crashes countedLong rfl

end Predicate

end Criteria
