import Criteria.Pattern.Search

/-!
# Bounded cache of patterns

Keeps the patterns that were asked for most recently, ready for search.  Asking
has two steps, looking a pattern up and storing it once it is compiled; each
leaves the cache within its capacity.
-/

namespace Criteria.Pattern

/-- The names of characters that patterns may use, and the patterns in store, the one asked
for longest ago first. -/
structure Cache where
  names : CharacterNames
  capacity : Nat
  capacityPositive : 0 < capacity
  entries : List (String × Compiled)

namespace Cache

def defaultCapacity : Nat := 256

def empty (names : CharacterNames) (capacity : Nat) (capacityPositive : 0 < capacity) :
    Cache :=
  ⟨names, capacity, capacityPositive, []⟩

/-- An empty cache, if it has room for at least one pattern. -/
def ofCapacity? (capacity : Int) (names : CharacterNames := .standard) : Option Cache :=
  if positive : 0 < capacity.toNat then some (empty names capacity.toNat positive) else none

/-- An empty cache with the default capacity. -/
def standard (names : CharacterNames := .standard) : Cache :=
  empty names defaultCapacity (by decide)

instance : Inhabited Cache := ⟨standard⟩

/-- The stored patterns, the one asked for longest ago first. -/
def patterns (cache : Cache) : List String :=
  cache.entries.map Prod.fst

def contains (cache : Cache) (pattern : String) : Bool :=
  cache.patterns.contains pattern

def find? (cache : Cache) (pattern : String) : Option Compiled :=
  (cache.entries.find? (·.1 = pattern)).map Prod.snd

def clear (cache : Cache) : Cache :=
  { cache with entries := [] }

/-- The entries with one of them written last. -/
def moveToEnd (pattern : String) (compiled : Compiled) (entries : List (String × Compiled)) :
    List (String × Compiled) :=
  entries.filter (·.1 ≠ pattern) ++ [(pattern, compiled)]

/-- The first step: a stored pattern becomes the latest. -/
def touch (cache : Cache) (pattern : String) : Option Compiled × Cache :=
  match cache.find? pattern with
  | some compiled =>
      (some compiled, { cache with entries := moveToEnd pattern compiled cache.entries })
  | none => (none, cache)

/-- The second step: a compiled pattern is stored as the latest, and the oldest
ones give way. -/
def store (cache : Cache) (pattern : String) (compiled : Compiled) : Cache :=
  let entries := moveToEnd pattern compiled cache.entries
  { cache with entries := entries.drop (entries.length - cache.capacity) }

/-- Asks for a pattern; one that cannot be compiled leaves the cache alone. -/
def get (cache : Cache) (pattern : String) : Except Rejection Compiled × Cache :=
  match cache.touch pattern with
  | (some compiled, touched) => (.ok compiled, touched)
  | (none, untouched) =>
      match compile cache.names pattern with
      | .ok compiled => (.ok compiled, untouched.store pattern compiled)
      | .error rejection => (.error rejection, untouched)

end Cache

end Criteria.Pattern
