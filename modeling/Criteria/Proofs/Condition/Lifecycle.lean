import Mathlib.Data.List.Induction
import Mathlib.Data.List.Nodup
import Criteria.Proofs.Condition.Table

/-!
# Life of a registry

A registry goes through a run of calls of all kinds.  Registrations that are
refused leave it alone, the others write one definition each; the first call that
closes it ends the changes to its table for good.
-/

namespace Criteria

namespace Registry

/-- What can be asked of a registry. -/
inductive Call where
  | register (name : String) (handler : Option Handler) (replace : Bool)
  | freeze
  | lookup (name : String)
  | definition (name : String)
  | names
  | contains (name : String)

inductive Answer where
  | done
  | refused (error : RegistrationError)
  | handler (found : Option Handler)
  | definition (found : Option Definition)
  | names (names : List String)
  | truth (value : Bool)

/-- The call ends the time for registrations. -/
def Call.closes : Call → Bool
  | .freeze => true
  | .lookup _ => true
  | _ => false

/-- The answer to a registration, and the registry after it. -/
def settle (registry : Registry) :
    Except RegistrationError Registry → Answer × Registry
  | .ok registered => (.done, registered)
  | .error error => (.refused error, registry)

/-- The answer to a call, and the registry after it. -/
def perform (registry : Registry) : Call → Answer × Registry
  | .register name handler replace =>
      registry.settle (registry.register name handler replace)
  | .freeze => (.done, registry.freeze)
  | .lookup name =>
      let (handler, frozen) := registry.lookup name
      (.handler handler, frozen)
  | .definition name => (.definition (registry.definition? name), registry)
  | .names => (.names registry.names, registry)
  | .contains name => (.truth (registry.contains name), registry)

/-- The registry after a run of calls. -/
def after (registry : Registry) (calls : List Call) : Registry :=
  calls.foldl (fun registry call => (registry.perform call).2) registry

def HasDollar (name : String) : Prop :=
  name.toList.head? = some '$'

instance (name : String) : Decidable (HasDollar name) :=
  inferInstanceAs (Decidable (_ = _))

/-- What speaks against a registration, in the order in which it is looked at. -/
def objections (registry : Registry) (name : String) (handler : Option Handler)
    (replace : Bool) : List RegistrationError :=
  (if HasDollar name then [] else [.nameWithoutDollar name]) ++
    (if handler.isSome then [] else [.notCallable name]) ++
    (if registry.frozen then [.registryFrozen name] else []) ++
    (if name ∈ registry.names ∧ replace = false then [.alreadyRegistered name] else [])

/-- The name and the handler that a call registers, if it does. -/
def registration? (registry : Registry) (call : Call) : Option (String × Handler) :=
  match call, (registry.perform call).1 with
  | .register name (some handler) _, .done => some (name, handler)
  | _, _ => none

/-- The names and handlers that a run of calls registers, in this order. -/
def registrations (registry : Registry) : List Call → List (String × Handler)
  | [] => []
  | call :: calls =>
      (registry.registration? call).toList ++ (registry.perform call).2.registrations calls

section Steps

variable {registry : Registry}

/-- The registry with a definition of a handler under a name. -/
def withHandler (registry : Registry) (name : String) (handler : Handler) : Registry :=
  { registry with definitions := define ⟨name, .custom, handler⟩ registry.definitions }

/-- A registration ends in the first objection, or it writes a definition. -/
theorem register_cases (registry : Registry) (name : String) (handler : Option Handler)
    (replace : Bool) :
    (∃ error, registry.register name handler replace = .error error ∧
      (registry.objections name handler replace).head? = some error) ∨
    ∃ run, registry.register name handler replace = .ok (registry.withHandler name run) ∧
      registry.objections name handler replace = [] ∧ handler = some run ∧
      HasDollar name ∧ registry.frozen = false := by
  unfold register objections
  by_cases dollar : HasDollar name
  · have accepted : ¬name.toList.head? ≠ some '$' := not_not.mpr dollar
    rw [if_neg accepted, if_pos dollar]
    cases handler with
    | none => exact .inl ⟨_, rfl, rfl⟩
    | some run =>
        dsimp only
        by_cases frozen : registry.frozen = true
        · rw [if_pos frozen, if_pos frozen]
          exact .inl ⟨_, rfl, rfl⟩
        · rw [if_neg frozen, if_neg frozen]
          by_cases taken : name ∈ registry.names ∧ replace = false
          · have present : (registry.contains name && !replace) = true := by
              simp [contains, taken]
            rw [if_pos present, if_pos taken]
            exact .inl ⟨_, rfl, rfl⟩
          · have free : (registry.contains name && !replace) ≠ true := by
              simpa [contains] using taken
            rw [if_neg free, if_neg taken]
            exact .inr ⟨run, rfl, rfl, rfl, dollar, Bool.eq_false_iff.mpr frozen⟩
  · have refused : name.toList.head? ≠ some '$' := dollar
    rw [if_pos refused, if_neg dollar]
    exact .inl ⟨_, rfl, rfl⟩

theorem perform_register (registry : Registry) (name : String)
    (handler : Option Handler) (replace : Bool) :
    registry.perform (.register name handler replace) =
      registry.settle (registry.register name handler replace) :=
  rfl

theorem perform_register_refused_iff {name : String} {handler : Option Handler}
    {replace : Bool} {error : RegistrationError} :
    (registry.perform (.register name handler replace)).1 = .refused error ↔
      (registry.objections name handler replace).head? = some error := by
  rw [perform_register]
  rcases register_cases registry name handler replace with
    ⟨first, refused, objection⟩ | ⟨run, accepted, noObjection, -⟩
  · rw [refused, objection]
    simp [settle]
  · rw [accepted, noObjection]
    simp [settle]

theorem perform_of_refused {call : Call} {error : RegistrationError}
    (refused : (registry.perform call).1 = .refused error) :
    (registry.perform call).2 = registry := by
  cases call with
  | register name handler replace =>
      rw [perform_register] at refused ⊢
      cases answer : registry.register name handler replace with
      | ok registered =>
          rw [answer] at refused
          cases refused
      | error error => rfl
  | _ => cases refused

theorem frozen_perform (registry : Registry) (call : Call) :
    (registry.perform call).2.frozen = (registry.frozen || call.closes) := by
  cases call with
  | register name handler replace =>
      rw [perform_register]
      rcases register_cases registry name handler replace with
        ⟨error, refused, -⟩ | ⟨run, accepted, -⟩
      · rw [refused]
        exact (Bool.or_false _).symm
      · rw [accepted]
        exact (Bool.or_false _).symm
  | freeze | lookup name => exact (Bool.or_true _).symm
  | _ => exact (Bool.or_false _).symm

/-- A call leaves the table alone, or it registers a handler while the registry is
open. -/
theorem perform_cases (registry : Registry) (call : Call) :
    ((registry.perform call).2.definitions = registry.definitions ∧
      registry.registration? call = none) ∨
    ∃ name handler,
      (registry.perform call).2 = registry.withHandler name handler ∧
      registry.registration? call = some (name, handler) ∧
      HasDollar name ∧ registry.frozen = false := by
  cases call with
  | register name handler replace =>
      simp only [registration?, perform_register]
      rcases register_cases registry name handler replace with
        ⟨error, refused, -⟩ | ⟨run, accepted, -, rfl, dollar, frozen⟩
      · rw [refused]
        exact .inl ⟨rfl, by cases handler <;> rfl⟩
      · rw [accepted]
        exact .inr ⟨name, run, rfl, rfl, dollar, frozen⟩
  | _ => exact .inl ⟨rfl, rfl⟩

theorem names_withHandler (registry : Registry) (name : String) (handler : Handler) :
    (registry.withHandler name handler).names =
      if name ∈ registry.names then registry.names else registry.names ++ [name] := by
  unfold withHandler names
  induction registry.definitions with
  | nil => rfl
  | cons first rest induction =>
      rw [define]
      by_cases same : first.name = name
      · simp [same]
      · rw [if_neg same, List.map_cons, List.map_cons, induction]
        by_cases later : name ∈ rest.map Definition.name <;> simp [later, Ne.symm same]

theorem find?_define_self (definition : Definition) (definitions : List Definition) :
    (define definition definitions).find? (fun other => other.name = definition.name) =
      some definition := by
  induction definitions with
  | nil => simp [define]
  | cons first rest induction =>
      rw [define]
      by_cases same : first.name = definition.name
      · simp [same]
      · rw [if_neg same, List.find?_cons_of_neg (by simpa using same), induction]

theorem lookup_withHandler (registry : Registry) (name other : String) (handler : Handler) :
    ((registry.withHandler name handler).lookup other).1 =
      if name = other then some handler else (registry.lookup other).1 := by
  unfold lookup definition? withHandler
  by_cases same : name = other
  · subst same
    rw [if_pos rfl, find?_define_self ⟨name, .custom, handler⟩]
    rfl
  · rw [if_neg same, find?_define_of_ne same]

end Steps

section Runs

variable {start : Registry}

theorem after_append (registry : Registry) (calls later : List Call) :
    registry.after (calls ++ later) = (registry.after calls).after later :=
  List.foldl_append

theorem after_concat (registry : Registry) (calls : List Call) (call : Call) :
    registry.after (calls ++ [call]) = ((registry.after calls).perform call).2 :=
  after_append registry calls [call]

theorem registrations_concat (registry : Registry) (calls : List Call) (call : Call) :
    registry.registrations (calls ++ [call]) =
      registry.registrations calls ++ ((registry.after calls).registration? call).toList := by
  induction calls generalizing registry with
  | nil => simp [registrations, after]
  | cons first rest induction =>
      rw [List.cons_append, registrations, registrations, induction, List.append_assoc]
      rfl

theorem frozen_after (calls : List Call) :
    (start.after calls).frozen = (start.frozen || calls.any Call.closes) := by
  induction calls using List.reverseRecOn with
  | nil => exact (Bool.or_false _).symm
  | append_singleton calls call induction =>
      rw [after_concat, frozen_perform, induction, List.any_append, Bool.or_assoc]
      simp

/-- A frozen registry keeps its table through every run. -/
theorem definitions_after_of_frozen {registry : Registry} (frozen : registry.frozen = true)
    (later : List Call) : (registry.after later).definitions = registry.definitions := by
  induction later using List.reverseRecOn with
  | nil => rfl
  | append_singleton later call induction =>
      rw [after_concat]
      rcases perform_cases (registry.after later) call with
        ⟨kept, -⟩ | ⟨name, handler, -, -, -, stillOpen⟩
      · exact kept.trans induction
      · rw [frozen_after, frozen] at stillOpen
        cases stillOpen

theorem lookup_of_definitions {registry other : Registry}
    (same : registry.definitions = other.definitions) (name : String) :
    (registry.lookup name).1 = (other.lookup name).1 := by
  simp only [lookup, definition?, same]

/-- The handler of a name is the one that was registered last, or else the one that
was there at the start. -/
theorem lookup_after (calls : List Call) (name : String) :
    ((start.after calls).lookup name).1 =
      (((start.registrations calls).reverse.find? fun entry => entry.1 = name).map
        Prod.snd).or (start.lookup name).1 := by
  induction calls using List.reverseRecOn with
  | nil => rfl
  | append_singleton calls call induction =>
      rw [after_concat, registrations_concat]
      rcases perform_cases (start.after calls) call with
        ⟨kept, none⟩ | ⟨other, handler, written, registered, -⟩
      · rw [lookup_of_definitions kept, none, induction]
        simp
      · rw [written, registered, lookup_withHandler, induction]
        by_cases same : other = name <;> simp [same]

theorem eraseDups_concat (names : List String) (name : String) :
    (names ++ [name]).eraseDups =
      if name ∈ names then names.eraseDups else names.eraseDups ++ [name] := by
  rw [List.eraseDups_append]
  by_cases member : name ∈ names <;> simp [member, List.removeAll, List.eraseDups_cons]

/-- The names of the start keep their places, and new names follow in the order in
which they were registered for the first time. -/
theorem names_after (calls : List Call) :
    (start.after calls).names = start.names ++
      (((start.registrations calls).map Prod.fst).filter (· ∉ start.names)).eraseDups := by
  induction calls using List.reverseRecOn with
  | nil => simp [after, registrations]
  | append_singleton calls call induction =>
      rw [after_concat, registrations_concat]
      rcases perform_cases (start.after calls) call with
        ⟨kept, none⟩ | ⟨name, handler, written, registered, -⟩
      · have sameNames : ((start.after calls).perform call).2.names =
            (start.after calls).names := congrArg (List.map Definition.name) kept
        rw [sameNames, none, induction]
        simp
      · rw [written, registered, names_withHandler, induction, Option.toList_some,
          List.map_append, List.map_singleton, List.filter_append]
        by_cases old : name ∈ start.names
        · simp [old]
        · rw [List.filter_cons_of_pos (by simpa using old), List.filter_nil,
            eraseDups_concat]
          by_cases again : name ∈ (start.registrations calls).map Prod.fst
          · rw [if_pos (by simp [old, List.mem_eraseDups, again]), if_pos (by simp [old, again])]
          · rw [if_neg (by simp [old, List.mem_eraseDups, again]),
              if_neg (by simp [again]), List.append_assoc]

/-- No name stands twice in the table, and each begins with a dollar sign. -/
structure Tidy (registry : Registry) : Prop where
  nodup : registry.names.Nodup
  dollar : ∀ name ∈ registry.names, HasDollar name

theorem tidy_withKnownOperators : withKnownOperators.Tidy :=
  ⟨by decide, by decide⟩

theorem Tidy.perform {registry : Registry} (tidy : registry.Tidy) (call : Call) :
    (registry.perform call).2.Tidy := by
  rcases perform_cases registry call with ⟨kept, -⟩ | ⟨name, handler, written, -, dollar, -⟩
  · have sameNames : (registry.perform call).2.names = registry.names :=
      congrArg (List.map Definition.name) kept
    exact ⟨sameNames ▸ tidy.nodup, sameNames ▸ tidy.dollar⟩
  · rw [written]
    by_cases old : name ∈ registry.names
    · have sameNames := (names_withHandler registry name handler).trans (if_pos old)
      exact ⟨sameNames ▸ tidy.nodup, sameNames ▸ tidy.dollar⟩
    · have moreNames := (names_withHandler registry name handler).trans (if_neg old)
      constructor
      · rw [moreNames, ← List.concat_eq_append, List.nodup_concat]
        exact ⟨old, tidy.nodup⟩
      · rw [moreNames]
        intro other member
        rcases List.mem_append.mp member with known | new
        · exact tidy.dollar other known
        · rw [List.mem_singleton.mp new]
          exact dollar

theorem Tidy.after (tidy : start.Tidy) (calls : List Call) : (start.after calls).Tidy := by
  induction calls using List.reverseRecOn with
  | nil => exact tidy
  | append_singleton calls call induction =>
      rw [after_concat]
      exact induction.perform call

end Runs

/-- The life of a registry, whatever is asked of it and in whatever order.  A
registration is refused for the first thing that speaks against it, which leaves
the registry alone.  The first freezing or look-up closes the table for good.  A
name has the handler that was registered for it last, or else the one that it had
at the start.  The names are all different, begin with a dollar sign, and stand in
the order of the start and then of their first registrations. -/
theorem after_life {start : Registry}
    (started : start = .empty ∨ start = .withKnownOperators) (calls : List Call) :
    let registry := start.after calls
    let registrations := start.registrations calls
    (∀ name handler replace,
      let performed := registry.perform (.register name handler replace)
      (∀ error, performed.1 = .refused error ↔
        (registry.objections name handler replace).head? = some error) ∧
      (∀ error, performed.1 = .refused error → performed.2 = registry)) ∧
    (registry.frozen = true ↔ ∃ call ∈ calls, call.closes = true) ∧
    (registry.frozen = true → ∀ later, (registry.after later).frozen = true ∧
      (registry.after later).definitions = registry.definitions ∧
      ∀ name, ((registry.after later).lookup name).1 = (registry.lookup name).1) ∧
    (∀ name, (registry.lookup name).1 =
      ((registrations.reverse.find? fun entry => entry.1 = name).map Prod.snd).or
        (start.lookup name).1) ∧
    registry.names.Nodup ∧ (∀ name ∈ registry.names, HasDollar name) ∧
    registry.names = start.names ++
      ((registrations.map Prod.fst).filter (· ∉ start.names)).eraseDups := by
  intro registry registrations
  have startOpen : start.frozen = false := by rcases started with rfl | rfl <;> rfl
  have startTidy : start.Tidy := by
    rcases started with rfl | rfl
    · exact ⟨List.nodup_nil, nofun⟩
    · exact tidy_withKnownOperators
  have tidy : registry.Tidy := startTidy.after calls
  refine ⟨fun name handler replace => ?_, ?_, fun frozen later => ?_, lookup_after calls,
    tidy.nodup, tidy.dollar, names_after calls⟩
  · exact ⟨fun error => perform_register_refused_iff, fun error => perform_of_refused⟩
  · rw [frozen_after, startOpen, Bool.false_or, List.any_eq_true]
  · have kept := definitions_after_of_frozen frozen later
    refine ⟨?_, kept, lookup_of_definitions kept⟩
    rw [frozen_after, frozen, Bool.true_or]

theorem after_life_of_replacement_and_closing :
    let echo := Handler.custom fun value _ => .ok value
    let registry := withKnownOperators.after
      [.register "near" (some echo) false, .register "$near" (some echo) false,
        .register "$near" none true, .register "$eq" (some echo) true, .lookup "$far",
        .register "$far" (some echo) false]
    registry.frozen = true ∧ (registry.lookup "$eq").1 = some echo ∧
      (registry.lookup "$far").1 = none ∧
      registry.names = withKnownOperators.names ++ ["$near"] := by
  intro echo registry
  have known : withKnownOperators = .empty ∨ withKnownOperators = withKnownOperators := .inr rfl
  obtain ⟨-, frozen, -, handlers, -, -, names⟩ := after_life known
      [.register "near" (some echo) false, .register "$near" (some echo) false,
        .register "$near" none true, .register "$eq" (some echo) true, .lookup "$far",
        .register "$far" (some echo) false]
  refine ⟨frozen.mpr ⟨.lookup "$far", by simp, rfl⟩, (handlers "$eq").trans rfl,
    (handlers "$far").trans rfl, names.trans ?_⟩
  rfl

end Registry

end Criteria
