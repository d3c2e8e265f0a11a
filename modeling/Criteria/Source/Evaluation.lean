import Criteria.Source.Loading
import Criteria.Specification.Evaluation

/-!
# Evaluation of sources

Evaluates the specification in one source on the document in another.  The
specification is loaded first, so that it is the one complained about if neither
can be used.
-/

namespace Criteria

/-- Why sources are not evaluated. -/
inductive SourceError where
  | load (failure : LoadFailure)
  | noWorkers

/-- The loaded data of two sources, in the order of loading. -/
def loadSources (specification document : Source) :
    Except LoadFailure (Specification × Value) := do
  let loaded ← specification.specification
  return (loaded, ← document.document)

def evaluateSources (engine : Engine) (workers : Option Int) (specification document : Source) :
    Except SourceError Run :=
  match loadSources specification document with
  | .error failure => .error (.load failure)
  | .ok (specification, document) =>
      let run := specification.evaluateWithWorkers Predicate.evaluate workers document
      match (run.run engine).1 with
      | some run => .ok run
      | none => .error .noWorkers

end Criteria
