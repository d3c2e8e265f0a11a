import Mathlib.Logic.Function.Basic
import Criteria.Proofs.Pattern.Recency

/-!
# Callers that share a cache

Any number of callers use one cache at a time.  To ask for a pattern takes a caller
up to two sections that nobody interrupts: it looks the pattern up, and if it has not
found it, it stores it after compiling it on its own.  Between the two the others do
as they please.  Whatever comes between, the cache is what it would be if the patterns
that are found and stored had been asked for one after the other, and everybody gets
the compilation of the pattern that it has asked for.
-/

namespace Criteria

namespace Pattern

namespace Cache

/-- What comes of a caller's move.  A refusal is not a section of its own: a pattern that
cannot be compiled is never brought to the cache. -/
inductive Section (Caller : Type) where
  | hit (caller : Caller) (pattern : String) (compiled : Compiled)
  | miss (caller : Caller) (pattern : String)
  | insert (caller : Caller) (pattern : String) (compiled : Compiled)
  | refusal (caller : Caller) (pattern : String) (rejection : Rejection)
  | clear (caller : Caller)

namespace Section

variable {Caller : Type}

def caller : Section Caller → Caller
  | .hit caller _ _ => caller
  | .miss caller _ => caller
  | .insert caller _ _ => caller
  | .refusal caller _ _ => caller
  | .clear caller => caller

/-- The pattern that is asked for and what is returned for it, once it is. -/
def answer? : Section Caller → Option (String × Except Rejection Compiled)
  | .hit _ pattern compiled => some (pattern, .ok compiled)
  | .miss _ _ => none
  | .insert _ pattern compiled => some (pattern, .ok compiled)
  | .refusal _ pattern rejection => some (pattern, .error rejection)
  | .clear _ => none

/-- The call that changes the cache as the section does, if it does. -/
def call? : Section Caller → Option Call
  | .hit _ pattern _ => some (.get pattern)
  | .miss _ _ => none
  | .insert _ pattern _ => some (.get pattern)
  | .refusal _ _ _ => none
  | .clear _ => some .clear

/-- What a single caller can go through: from the pattern that it is about to store, if
there is one, to the one that it is about to store afterwards. -/
inductive Continues : Option String → Section Caller → Option String → Prop where
  | hit (caller : Caller) (pattern : String) (compiled : Compiled) :
      Continues none (.hit caller pattern compiled) none
  | miss (caller : Caller) (pattern : String) :
      Continues none (.miss caller pattern) (some pattern)
  | insert (caller : Caller) (pattern : String) (compiled : Compiled) :
      Continues (some pattern) (.insert caller pattern compiled) none
  | refusal (caller : Caller) (pattern : String) (rejection : Rejection) :
      Continues (some pattern) (.refusal caller pattern rejection) none
  | clear (caller : Caller) : Continues none (.clear caller) none

/-- Sections that a single caller can go through one after the other. -/
inductive Serial : List (Section Caller) → Option String → Prop where
  | nil : Serial [] none
  | concat {earlier : List (Section Caller)} {before after : Option String}
      {latest : Section Caller} (serial : Serial earlier before)
      (continues : latest.Continues before after) : Serial (earlier ++ [latest]) after

end Section

/-- The calls that change a cache as some sections do. -/
def calls {Caller : Type} (sections : List (Section Caller)) : List Call :=
  sections.filterMap Section.call?

theorem calls_concat {Caller : Type} (sections : List (Section Caller))
    (latest : Section Caller) :
    calls (sections ++ [latest]) = calls sections ++ latest.call?.toList := by
  rw [calls, calls, List.filterMap_append, List.filterMap_cons]
  cases latest.call? <;> rfl

theorem exists_of_mem_calls {Caller : Type} {sections : List (Section Caller)}
    {pattern : String} (called : .get pattern ∈ calls sections) :
    ∃ part ∈ sections, ∃ compiled, part.answer? = some (pattern, .ok compiled) := by
  obtain ⟨part, member, call⟩ := List.mem_filterMap.mp called
  refine ⟨part, member, ?_⟩
  cases part with
  | hit caller other compiled | insert caller other compiled =>
      cases call
      exact ⟨compiled, rfl⟩
  | miss | refusal | clear => cases call

/-- What a caller does next. -/
inductive Move (Caller : Type) where
  | ask (caller : Caller) (pattern : String)
  | proceed (caller : Caller)
  | clear (caller : Caller)

/-- A cache, the pattern that each caller has not found and is about to store, and what
has happened so far. -/
structure Sharing (Caller : Type) where
  cache : Cache
  pending : Caller → Option String
  sections : List (Section Caller)

namespace Sharing

variable {Caller : Type}

def start (cache : Cache) : Sharing Caller :=
  ⟨cache, fun _ => none, []⟩

variable [DecidableEq Caller]

/-- The state after a section that leaves a caller with a pattern to store, or without. -/
def record (sharing : Sharing Caller) (latest : Section Caller) (cache : Cache)
    (pending : Option String) : Sharing Caller where
  cache := cache
  pending := Function.update sharing.pending latest.caller pending
  sections := sharing.sections ++ [latest]

/-- A caller moves.  One that has a pattern to store can do nothing else, and one that has
none cannot proceed. -/
def move (sharing : Sharing Caller) : Move Caller → Sharing Caller
  | .ask caller pattern =>
      match sharing.pending caller with
      | some _ => sharing
      | none =>
          match sharing.cache.touch pattern with
          | (some compiled, touched) =>
              sharing.record (.hit caller pattern compiled) touched none
          | (none, untouched) => sharing.record (.miss caller pattern) untouched (some pattern)
  | .proceed caller =>
      match sharing.pending caller with
      | none => sharing
      | some pattern =>
          match compile sharing.cache.names pattern with
          | .ok compiled =>
              sharing.record (.insert caller pattern compiled)
                (sharing.cache.store pattern compiled) none
          | .error rejection =>
              sharing.record (.refusal caller pattern rejection) sharing.cache none
  | .clear caller =>
      match sharing.pending caller with
      | some _ => sharing
      | none => sharing.record (.clear caller) sharing.cache.clear none

/-- The state after moves in any order. -/
def after (sharing : Sharing Caller) (moves : List (Move Caller)) : Sharing Caller :=
  moves.foldl move sharing

/-- What a caller has gone through. -/
def sectionsOf (sharing : Sharing Caller) (caller : Caller) : List (Section Caller) :=
  sharing.sections.filter (·.caller = caller)

/-- The cache is what the calls make of the first one, what is returned for a pattern is
its compilation, and every caller has done one thing after the other. -/
structure Linearizes (initial : Cache) (sharing : Sharing Caller) : Prop where
  cache_eq : sharing.cache = initial.after (calls sharing.sections)
  answers : ∀ part ∈ sharing.sections, ∀ pattern result,
    part.answer? = some (pattern, result) → result = compile initial.names pattern
  serial : ∀ caller, Section.Serial (sharing.sectionsOf caller) (sharing.pending caller)

theorem sectionsOf_record (sharing : Sharing Caller) (latest : Section Caller)
    (cache : Cache) (pending : Option String) (caller : Caller) :
    (sharing.record latest cache pending).sectionsOf caller =
      sharing.sectionsOf caller ++ if latest.caller = caller then [latest] else [] := by
  simp [sectionsOf, record, List.filter_cons]

namespace Linearizes

variable {initial : Cache} {sharing : Sharing Caller}

theorem start (cache : Cache) : (Sharing.start cache : Sharing Caller).Linearizes cache where
  cache_eq := rfl
  answers := nofun
  serial _ := .nil

/-- It is enough that a section changes the cache as its call does, returns what it should,
and comes when its caller can go through it. -/
theorem record (linearizes : sharing.Linearizes initial) {latest : Section Caller}
    {cache : Cache} {pending : Option String}
    (cacheEq : cache = sharing.cache.after latest.call?.toList)
    (answers : ∀ pattern result, latest.answer? = some (pattern, result) →
      result = compile initial.names pattern)
    (continues : latest.Continues (sharing.pending latest.caller) pending) :
    (sharing.record latest cache pending).Linearizes initial where
  cache_eq := by
    change cache = initial.after (calls (sharing.sections ++ [latest]))
    rw [calls_concat, after_append, ← linearizes.cache_eq, cacheEq]
  answers part member := by
    rcases List.mem_append.mp member with earlier | last
    · exact linearizes.answers part earlier
    · rw [List.mem_singleton.mp last]
      exact answers
  serial caller := by
    rw [sectionsOf_record]
    change Section.Serial _ (Function.update sharing.pending latest.caller pending caller)
    by_cases own : latest.caller = caller
    · subst own
      rw [if_pos rfl, Function.update_self]
      exact (linearizes.serial latest.caller).concat continues
    · rw [if_neg own, List.append_nil, Function.update_of_ne (Ne.symm own)]
      exact linearizes.serial caller

variable {names : CharacterNames} {capacity : Nat} {capacityPositive : 0 < capacity}

theorem names_eq (linearizes : sharing.Linearizes initial) :
    sharing.cache.names = initial.names := by
  rw [linearizes.cache_eq, names_after]

theorem recalls (linearizes : sharing.Linearizes (empty names capacity capacityPositive)) :
    sharing.cache.Recalls (history (calls sharing.sections)) := by
  rw [linearizes.cache_eq]
  exact recalls_after names capacity capacityPositive _

/-- To find a pattern is to ask for it, as far as the cache is concerned. -/
theorem get_of_touch {cache touched : Cache} {pattern : String} {compiled : Compiled}
    (found : cache.touch pattern = (some compiled, touched)) :
    cache.get pattern = (.ok compiled, touched) := by
  rw [get, found]

theorem untouched_of_touch {cache untouched : Cache} {pattern : String}
    (missing : cache.touch pattern = (none, untouched)) : untouched = cache := by
  rw [touch] at missing
  split at missing
  · cases missing
  · exact (congrArg Prod.snd missing).symm

/-- Whatever a caller does, the patterns found and stored stand for calls that nobody
interrupts. -/
theorem move (linearizes : sharing.Linearizes (empty names capacity capacityPositive))
    (next : Move Caller) :
    (sharing.move next).Linearizes (empty names capacity capacityPositive) := by
  have recalls := linearizes.recalls
  have sameNames : sharing.cache.names = names := linearizes.names_eq
  cases next with
  | ask caller pattern =>
      rw [Sharing.move]
      cases free : sharing.pending caller with
      | some other => exact linearizes
      | none =>
          dsimp only
          split
          next compiled touched found =>
              have asked := get_of_touch found
              refine linearizes.record ?_ ?_ ?_
              · exact (congrArg Prod.snd asked).symm
              · rintro _ _ ⟨⟩
                change _ = compile names pattern
                rw [← sameNames, ← recalls.sound.get_eq, asked]
              · rw [Section.caller, free]
                exact .hit caller pattern compiled
          next untouched missing =>
              refine linearizes.record (untouched_of_touch missing) nofun ?_
              rw [Section.caller, free]
              exact .miss caller pattern
  | proceed caller =>
      rw [Sharing.move]
      cases waiting : sharing.pending caller with
      | none => exact linearizes
      | some pattern =>
          dsimp only
          cases compilation : compile sharing.cache.names pattern with
          | ok compiled =>
              -- Others may have stored the pattern in the meantime, and storing it again
              -- is what asking for it would do.
              have asked := get_of_compile recalls.sound recalls.length_le compilation
              refine linearizes.record ?_ ?_ ?_
              · exact (congrArg Prod.snd asked).symm
              · rintro _ _ ⟨⟩
                exact sameNames ▸ compilation.symm
              · rw [Section.caller, waiting]
                exact .insert caller pattern compiled
          | error rejection =>
              refine linearizes.record rfl ?_ ?_
              · rintro _ _ ⟨⟩
                exact sameNames ▸ compilation.symm
              · rw [Section.caller, waiting]
                exact .refusal caller pattern rejection
  | clear caller =>
      rw [Sharing.move]
      cases free : sharing.pending caller with
      | some other => exact linearizes
      | none =>
          refine linearizes.record rfl nofun ?_
          rw [Section.caller, free]
          exact .clear caller

theorem after (linearizes : sharing.Linearizes (empty names capacity capacityPositive))
    (moves : List (Move Caller)) :
    (sharing.after moves).Linearizes (empty names capacity capacityPositive) := by
  induction moves generalizing sharing with
  | nil => exact linearizes
  | cons next moves induction => exact induction (linearizes.move next)

/-- Only what can be compiled is found or stored. -/
theorem compiles_of_mem_history (linearizes : sharing.Linearizes initial) {pattern : String}
    (asked : pattern ∈ history (calls sharing.sections)) :
    compiles initial.names pattern = true := by
  obtain ⟨call, recent, get⟩ := List.mem_filterMap.mp asked
  cases call with
  | clear => cases get
  | get other =>
      cases get
      have called := (List.rtakeWhile_suffix _ _).subset recent
      obtain ⟨part, member, compiled, answered⟩ := exists_of_mem_calls called
      exact compiles_iff.mpr
        ⟨compiled, (linearizes.answers part member pattern _ answered).symm⟩

theorem patterns_eq (linearizes : sharing.Linearizes (empty names capacity capacityPositive)) :
    sharing.cache.patterns = (history (calls sharing.sections)).dedup.rtake capacity := by
  have sameCapacity : sharing.cache.capacity = capacity := by
    rw [linearizes.cache_eq, capacity_after]
    rfl
  rw [linearizes.recalls.patterns_eq, sameCapacity, linearizes.names_eq, latest,
    List.filter_eq_self.mpr]
  exact fun pattern asked => linearizes.compiles_of_mem_history asked

end Linearizes

/-- A caller that is about to store a pattern has its answer with its next move. -/
theorem move_proceed (sharing : Sharing Caller) {caller : Caller} {pattern : String}
    (waiting : sharing.pending caller = some pattern) :
    ∃ part, (sharing.move (.proceed caller)).sections = sharing.sections ++ [part] ∧
      part.caller = caller ∧
      part.answer? = some (pattern, compile sharing.cache.names pattern) := by
  rw [move, waiting]
  dsimp only
  cases compile sharing.cache.names pattern with
  | ok compiled => exact ⟨.insert caller pattern compiled, rfl, rfl, rfl⟩
  | error rejection => exact ⟨.refusal caller pattern rejection, rfl, rfl, rfl⟩

end Sharing

/-- In whatever order any number of callers go through their sections, the cache is after
each of them what it would be if the patterns found and stored had been asked for one
after the other: it holds the latest distinct ones of them since it was cleared, as many
as it has room for, in the order in which they were last found or stored, each with its
own compilation.  Every caller does one thing after the other, is returned the
compilation of the very pattern that it has asked for, and need not wait for anybody to
have it. -/
theorem shared_holds_latest {Caller : Type} [DecidableEq Caller] (names : CharacterNames)
    (capacity : Nat) (capacityPositive : 0 < capacity) (moves : List (Move Caller)) :
    let sharing := (Sharing.start (empty names capacity capacityPositive)).after moves
    sharing.cache = (empty names capacity capacityPositive).after (calls sharing.sections) ∧
    sharing.cache.patterns = (history (calls sharing.sections)).dedup.rtake capacity ∧
    sharing.cache.patterns.Nodup ∧ sharing.cache.patterns.length ≤ capacity ∧
    (∀ entry ∈ sharing.cache.entries, compile names entry.1 = .ok entry.2) ∧
    (∀ caller, Section.Serial (sharing.sectionsOf caller) (sharing.pending caller)) ∧
    (∀ part ∈ sharing.sections, ∀ pattern result,
      part.answer? = some (pattern, result) → result = compile names pattern) ∧
    ∀ caller pattern, sharing.pending caller = some pattern →
      ∃ part, (sharing.move (.proceed caller)).sections = sharing.sections ++ [part] ∧
        part.caller = caller ∧ part.answer? = some (pattern, compile names pattern) := by
  intro sharing
  have linearizes : sharing.Linearizes (empty names capacity capacityPositive) :=
    (Sharing.Linearizes.start _).after moves
  have patterns := linearizes.patterns_eq
  have sameNames : sharing.cache.names = names := linearizes.names_eq
  refine ⟨linearizes.cache_eq, patterns, linearizes.recalls.nodup, ?_,
    sameNames ▸ linearizes.recalls.sound, linearizes.serial, linearizes.answers,
    fun _ _ waiting => sameNames ▸ sharing.move_proceed waiting⟩
  rw [patterns]
  exact length_rtake_le _ capacity

/-- Two callers store one pattern, the third clears the cache while the second is at it
again, and the first evicts what the second has stored. -/
theorem shared_holds_latest_of_redundant_insert_and_clearing :
    let sharing := (Sharing.start (empty .standard 1 (by decide))).after
      [.ask 0 "a", .ask 1 "a", .proceed 1, .proceed 0, .ask 0 "b", .ask 1 "c", .clear 2,
        .proceed 1, .proceed 0]
    0 < 1 ∧ sharing.cache.patterns = ["b"] ∧
      calls sharing.sections = [.get "a", .get "a", .clear, .get "c", .get "b"] := by
  intro sharing
  have happened : calls sharing.sections =
      [.get "a", .get "a", .clear, .get "c", .get "b"] := by
    decide +kernel
  refine ⟨by decide, ?_, happened⟩
  obtain ⟨-, patterns, -⟩ := shared_holds_latest .standard 1 (by decide)
    [.ask 0 "a", .ask 1 "a", .proceed 1, .proceed 0, .ask 0 "b", .ask 1 "c", .clear 2,
      .proceed 1, .proceed 0]
  refine patterns.trans ?_
  change (history (calls sharing.sections)).dedup.rtake 1 = ["b"]
  rw [happened]
  decide +kernel

end Cache

end Pattern

end Criteria
