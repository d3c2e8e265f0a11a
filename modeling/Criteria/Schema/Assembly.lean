import Criteria.Condition.Engine
import Criteria.Schema.Settings

/-!
# Assembly

Puts an engine together from settings: one table of all known operators and one
cache of patterns, shared by all evaluations.
-/

namespace Criteria

structure Assembly where
  engine : Engine
  maxWorkers : Option Int

/-- Why settings cannot be assembled. -/
inductive AssemblyError where
  | settingsNotMapping
  | evaluationNotMapping
  | issues (issues : List Schema.Issue)

namespace Engine

/-- A new engine with all known operators. -/
def start (patterns : Pattern.Cache) (present : Instant) : Engine :=
  ⟨.withKnownOperators, patterns, present⟩

end Engine

namespace Assembly

def ofEvaluation (settings : EvaluationSettings) (present : Instant)
    (names : CharacterNames := .standard) : Assembly :=
  let patterns :=
    (settings.regexCacheSize.bind (Pattern.Cache.ofCapacity? · names)).getD (.standard names)
  ⟨.start patterns present, settings.maxWorkers⟩

def withDefaults (present : Instant) (names : CharacterNames := .standard) : Assembly :=
  ofEvaluation ⟨none, none⟩ present names

/-- The settings of evaluations as they are passed on; what is empty stands for
the defaults. -/
def readPassedOn (entries : List (Key × Value)) : Except AssemblyError EvaluationSettings :=
  let evaluation := (Schema.field? "evaluation" entries).getD .null
  if !evaluation.isTruthy then .ok ⟨none, none⟩
  else
    match evaluation with
    | .mapping given =>
        if given.all fun entry => match entry.1 with | .text _ => true | _ => false then
          match Schema.readEvaluation [] evaluation with
          | .ok settings => .ok settings
          | .error issues => .error (.issues issues)
        else .error .evaluationNotMapping
    | _ => .error .evaluationNotMapping

/-- Assembles what settings ask for; settings that are empty ask for nothing. -/
def ofSettings (settings : Value) (present : Instant) (names : CharacterNames := .standard) :
    Except AssemblyError Assembly :=
  if !settings.isTruthy then .ok (withDefaults present names)
  else
    match settings with
    | .mapping entries => do
        let evaluation ← readPassedOn entries
        return ofEvaluation evaluation present names
    | _ => .error .settingsNotMapping

end Assembly

end Criteria
