import Mathlib.Logic.ExistsUnique
import Criteria.Value.Path

/-!
# Resolution of paths

A path is the join of its segments in exactly one way, and a path put after another
is followed from where the other leads.  What stands under a key that holds a dot or
is no text, or inside a collection, is out of reach: every path leads to the same
place whether it is there or not.
-/

namespace Criteria

theorem stretches_eq_splitOn (separator : Char) (chars : List Char) :
    stretches separator chars = chars.splitOn separator := by
  induction chars with
  | nil => rfl
  | cons char rest induction =>
      rw [List.splitOn_cons_eq_if_modifyHead, stretches, induction]
      by_cases separates : char = separator
      · simp [separates]
      · cases split : rest.splitOn separator with
        | nil => exact absurd split (List.splitOn_ne_nil separator rest)
        | cons stretch others => simp [separates]

theorem not_mem_of_mem_stretches {separator : Char} {chars stretch : List Char}
    (member : stretch ∈ stretches separator chars) : separator ∉ stretch := by
  induction chars generalizing stretch with
  | nil =>
      obtain rfl := List.mem_singleton.mp member
      exact List.not_mem_nil
  | cons char rest induction =>
      rw [stretches] at member
      split at member
      · rcases List.mem_cons.mp member with rfl | later
        · exact List.not_mem_nil
        · exact induction later
      · next different =>
          split at member
          · next none =>
              rw [stretches_eq_splitOn] at none
              exact absurd none (List.splitOn_ne_nil separator rest)
          · next first others split =>
              rw [split] at induction
              rcases List.mem_cons.mp member with rfl | later
              · rw [List.mem_cons, not_or]
                exact ⟨Ne.symm different, induction List.mem_cons_self⟩
              · exact induction (List.mem_cons_of_mem _ later)

namespace Path

/-- The path with the given segments. -/
def join (names : List String) : String :=
  ".".intercalate names

def DotFree (name : String) : Prop :=
  '.' ∉ name.toList

section Segments

variable {names : List String}

theorem segments_ne_nil (path : String) : segments path ≠ [] := by
  rw [segments, stretches_eq_splitOn]
  intro empty
  exact List.splitOn_ne_nil '.' path.toList (List.map_eq_nil_iff.mp empty)

theorem dotFree_of_mem_segments {path name : String} (member : name ∈ segments path) :
    DotFree name := by
  obtain ⟨stretch, stretchMember, rfl⟩ := List.mem_map.mp member
  rw [DotFree, String.toList_ofList]
  exact not_mem_of_mem_stretches stretchMember

theorem toList_join (names : List String) :
    (join names).toList = ['.'].intercalate (names.map String.toList) := by
  rw [join, String.toList_intercalate]
  rfl

theorem join_segments (path : String) : join (segments path) = path := by
  rw [← String.toList_inj, toList_join, segments, List.map_map]
  have restored : String.toList ∘ String.ofList = id := funext fun _ => String.toList_ofList
  rw [restored, List.map_id, stretches_eq_splitOn]
  exact List.intercalate_splitOn '.'

theorem segments_join (notEmpty : names ≠ []) (dotFree : ∀ name ∈ names, DotFree name) :
    segments (join names) = names := by
  have separated : (names.map String.toList) = (join names).toList.splitOn '.' := by
    rw [toList_join]
    refine (List.splitOn_intercalate '.' ?_ ?_).symm
    · intro chars member
      obtain ⟨name, nameMember, rfl⟩ := List.mem_map.mp member
      exact dotFree name nameMember
    · exact fun empty => notEmpty (List.map_eq_nil_iff.mp empty)
  have restored : String.ofList ∘ String.toList = id := funext fun _ => String.ofList_toList
  rw [segments, stretches_eq_splitOn, ← separated, List.map_map, restored, List.map_id]

/-- A path is a join in exactly one way. -/
theorem existsUnique_segments (path : String) :
    ∃! names, names ≠ [] ∧ (∀ name ∈ names, DotFree name) ∧ join names = path := by
  refine ⟨segments path, ⟨segments_ne_nil path, fun _ => dotFree_of_mem_segments,
    join_segments path⟩, ?_⟩
  rintro names ⟨notEmpty, dotFree, rfl⟩
  exact (segments_join notEmpty dotFree).symm

theorem segments_append (path rest : String) :
    segments (path ++ "." ++ rest) = segments path ++ segments rest := by
  have joined : join (segments path ++ segments rest) = path ++ "." ++ rest := by
    have first := join_segments path
    have second := join_segments rest
    rw [join] at first second ⊢
    rw [String.intercalate_append_of_ne_nil (segments_ne_nil path) (segments_ne_nil rest),
      first, second]
  rw [← joined]
  apply segments_join
  · simp [segments_ne_nil]
  · intro name member
    rcases List.mem_append.mp member with first | second
    · exact dotFree_of_mem_segments first
    · exact dotFree_of_mem_segments second

end Segments

section Following

/-- Names lead from one value to another as text keys of nested mappings. -/
inductive Leads : List String → Value → Value → Prop where
  | here (value : Value) : Leads [] value value
  | under {name : String} {names : List String} {entries : List (Key × Value)}
      {inner value : Value} :
      Entries.lookup (.text name) entries = some inner → Leads names inner value →
      Leads (name :: names) (.mapping entries) value

theorem follow_eq_some_iff {names : List String} {document value : Value} :
    follow names document = some value ↔ Leads names document value := by
  constructor
  · intro followed
    induction names generalizing document with
    | nil =>
        cases followed
        exact .here value
    | cons name names induction =>
        cases document with
        | mapping entries =>
            rw [follow] at followed
            split at followed
            · next inner found => exact .under found (induction followed)
            · cases followed
        | _ => cases followed
  · intro leads
    induction leads with
    | here value => rfl
    | under found _ induction => rw [follow, found]; exact induction

theorem follow_append (names others : List String) (document : Value) :
    follow (names ++ others) document = (follow names document).bind (follow others) := by
  induction names generalizing document with
  | nil => rfl
  | cons name names induction =>
      cases document with
      | mapping entries =>
          rw [List.cons_append, follow, follow]
          cases Entries.lookup (.text name) entries with
          | none => rfl
          | some inner => exact induction inner
      | _ => rfl

theorem resolve_eq_found_iff {document value : Value} {path : String} :
    resolve document path = .found value ↔ follow (segments path) document = some value := by
  rw [resolve]
  cases follow (segments path) document <;> simp

theorem resolve_eq_missing_iff {document : Value} {path : String} :
    resolve document path = .missing path ↔ follow (segments path) document = none := by
  rw [resolve]
  cases follow (segments path) document <;> simp

end Following

end Path

section Exposure

/-- A key that a segment of a path can be. -/
def Key.isSegment : Key → Bool
  | .text name => !name.toList.contains '.'
  | _ => false

namespace Value

mutual

/-- The value without all that stands inside collections, under keys with a dot and
under keys that are no text. -/
def exposed (value : Value) : Value :=
  match value with
  | .list _ => .list []
  | .tuple _ => .tuple []
  | .mapping entries => .mapping (exposedEntries entries)
  | value => value
termination_by structural value

def exposedEntries (entries : List (Key × Value)) : List (Key × Value) :=
  match entries with
  | [] => []
  | (key, value) :: rest =>
      if key.isSegment then (key, exposed value) :: exposedEntries rest
      else exposedEntries rest
termination_by structural entries

end

end Value

namespace Path

theorem isSegment_of_same {key : Key} {name : String} (dotFree : DotFree name)
    (same : key.same (.text name) = true) : key.isSegment = true := by
  cases key with
  | text other =>
      obtain rfl : other = name := by simpa [Key.same] using same
      simpa [Key.isSegment, DotFree] using dotFree
  | boolean value | number value => cases same
  | _ => cases same

theorem lookup_exposedEntries {name : String} (dotFree : DotFree name)
    (entries : List (Key × Value)) :
    Entries.lookup (.text name) (Value.exposedEntries entries) =
      (Entries.lookup (.text name) entries).map Value.exposed := by
  induction entries with
  | nil => rfl
  | cons entry rest induction =>
      obtain ⟨key, value⟩ := entry
      rw [Value.exposedEntries, Entries.lookup]
      by_cases same : key.same (.text name) = true
      · rw [if_pos (isSegment_of_same dotFree same), Entries.lookup, if_pos same, if_pos same]
        rfl
      · rw [if_neg same]
        split
        · rw [Entries.lookup, if_neg same]
          exact induction
        · exact induction

theorem follow_exposed {names : List String} (dotFree : ∀ name ∈ names, DotFree name)
    (document : Value) :
    follow names document.exposed = (follow names document).map Value.exposed := by
  induction names generalizing document with
  | nil => rfl
  | cons name names induction =>
      obtain ⟨nameDotFree, namesDotFree⟩ := List.forall_mem_cons.mp dotFree
      cases document with
      | mapping entries =>
          rw [Value.exposed, follow, follow, lookup_exposedEntries nameDotFree]
          cases Entries.lookup (.text name) entries with
          | none => rfl
          | some inner => exact induction namesDotFree inner
      | _ => rfl

end Path

/-- The resolution in what is exposed of a document. -/
def Resolution.exposed : Resolution → Resolution
  | .found value => .found value.exposed
  | .missing path => .missing path

end Exposure

/-- A path put after another leads where it leads from where the other leads, and a
path that leads nowhere is missing as a whole.  So a path leads where its segments
lead as text keys of nested mappings, and no other segments are joined to it.  What
stands inside collections, under keys with a dot and under keys that are no text
makes no difference to where a path leads. -/
theorem resolve_compositional :
    (∀ (document value : Value) (path rest : String),
      resolve document (path ++ "." ++ rest) = .found value ↔
        ∃ middle, resolve document path = .found middle ∧
          resolve middle rest = .found value) ∧
    (∀ (document : Value) (path : String),
      (∃ value, resolve document path = .found value) ∨
        resolve document path = .missing path) ∧
    (∀ (document value : Value) (names : List String), names ≠ [] →
      (∀ name ∈ names, Path.DotFree name) →
      (resolve document (Path.join names) = .found value ↔ Path.Leads names document value)) ∧
    (∀ path : String,
      ∃! names, names ≠ [] ∧ (∀ name ∈ names, Path.DotFree name) ∧ Path.join names = path) ∧
    (∀ (document : Value) (path : String),
      resolve document.exposed path = (resolve document path).exposed) := by
  refine ⟨?_, ?_, ?_, Path.existsUnique_segments, ?_⟩
  · intro document value path rest
    simp only [Path.resolve_eq_found_iff, Path.segments_append, Path.follow_append,
      Option.bind_eq_some_iff]
  · intro document path
    simp only [Path.resolve_eq_found_iff, Path.resolve_eq_missing_iff]
    cases Path.follow (Path.segments path) document with
    | none => exact .inr rfl
    | some value => exact .inl ⟨value, rfl⟩
  · intro document value names notEmpty dotFree
    rw [Path.resolve_eq_found_iff, Path.segments_join notEmpty dotFree, Path.follow_eq_some_iff]
  · intro document path
    rw [resolve, resolve, Path.follow_exposed fun _ => Path.dotFree_of_mem_segments]
    cases Path.follow (Path.segments path) document <;> rfl

theorem resolve_compositional_of_empty_segment :
    let names := ["a", "", "b"]
    let document := Value.mapping [(.text "a..b", .integer 1),
      (.text "a", .mapping [(.number (.integer 0), .integer 2),
        (.text "", .mapping [(.text "b", .null)])])]
    names ≠ [] ∧ (∀ name ∈ names, Path.DotFree name) ∧
      resolve document "a..b" = .found .null ∧
      resolve document "a..b.c" = .missing "a..b.c" := by
  intro names document
  have notEmpty : names ≠ [] := by decide
  have dotFree : ∀ name ∈ names, Path.DotFree name := by unfold Path.DotFree; decide
  obtain ⟨composed, otherwise, led, -, -⟩ := resolve_compositional
  have found : resolve document "a..b" = .found .null :=
    (led document .null names notEmpty dotFree).mpr
      (.under rfl (.under rfl (.under rfl (.here _))))
  refine ⟨notEmpty, dotFree, found, ?_⟩
  refine (otherwise document "a..b.c").resolve_left ?_
  rintro ⟨value, beyond⟩
  obtain ⟨middle, first, second⟩ := (composed document value "a..b" "c").mp beyond
  obtain rfl : middle = .null := Resolution.found.inj (first.symm.trans found)
  cases second

end Criteria
