import Criteria.Calendar.DateTime
import Criteria.Condition.Registry
import Criteria.Pattern.Cache

/-!
# Engines

What evaluations share: the table of operators, the cache of patterns, and the
present moment.  An evaluation may change the engine even if it ends in a fault.
-/

namespace Criteria

structure Engine where
  registry : Registry
  patterns : Pattern.Cache
  present : Instant
  deriving Inhabited

/-- A computation on an engine that may end in a fault. -/
abbrev Evaluation := ExceptT Fault (StateM Engine)

namespace Evaluation

def ofExcept (result : Except Fault α) : Evaluation α :=
  ExceptT.mk (pure result)

/-- The handler of an operator name. -/
def findHandler (name : String) : Evaluation Handler := do
  let engine ← get
  let (handler, registry) := engine.registry.lookup name
  set { engine with registry := registry }
  match handler with
  | some handler => return handler
  | none => throw (.unknownOperator name)

/-- A pattern ready for search. -/
def getPattern (pattern : String) : Evaluation Pattern.Compiled := do
  let engine ← get
  let (result, patterns) := engine.patterns.get pattern
  set { engine with patterns := patterns }
  ofExcept (result.mapError (.ofRejection pattern))

end Evaluation

end Criteria
