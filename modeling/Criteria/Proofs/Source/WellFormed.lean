import Criteria.Proofs.Value.Equality
import Criteria.Source.Loading

/-!
# Well-formed documents

Writing entries one by one never leaves two of them under the same key, so that
every document that is loaded is a well-formed value.
-/

namespace Criteria

namespace Entries

theorem key_of_mem_insert {key : Key} {value : Value} {entries : List (Key × Value)}
    {entry : Key × Value} (member : entry ∈ insert key value entries) :
    entry.1 = key ∨ ∃ old ∈ entries, old.1 = entry.1 := by
  induction entries with
  | nil =>
      rw [insert, List.mem_singleton] at member
      exact .inl (congrArg Prod.fst member)
  | cons first rest induction =>
      rw [insert] at member
      split at member
      · rcases List.mem_cons.mp member with head | later
        · exact .inr ⟨first, List.mem_cons_self, (congrArg Prod.fst head).symm⟩
        · exact .inr ⟨entry, List.mem_cons_of_mem _ later, rfl⟩
      · rcases List.mem_cons.mp member with head | later
        · exact .inr ⟨first, List.mem_cons_self, (congrArg Prod.fst head).symm⟩
        · rcases induction later with new | ⟨old, oldMember, same⟩
          · exact .inl new
          · exact .inr ⟨old, List.mem_cons_of_mem _ oldMember, same⟩

theorem distinctKeys_insert (key : Key) (value : Value)
    {entries : List (Key × Value)} (distinct : DistinctKeys entries) :
    DistinctKeys (insert key value entries) := by
  induction entries with
  | nil => exact ⟨nofun, trivial⟩
  | cons first rest induction =>
      obtain ⟨different, restDistinct⟩ := distinct
      rw [insert]
      split
      · exact ⟨different, restDistinct⟩
      · next notSame =>
          refine ⟨fun entry member => ?_, induction restDistinct⟩
          rcases key_of_mem_insert member with new | ⟨old, oldMember, same⟩
          · rw [new]
            simpa using notSame
          · rw [← same]
            exact different old oldMember

theorem entriesWellFormed_insert (key : Key) {value : Value}
    {entries : List (Key × Value)} (wellFormed : value.WellFormed)
    (entriesWellFormed : Value.EntriesWellFormed entries) :
    Value.EntriesWellFormed (insert key value entries) := by
  induction entries with
  | nil => exact ⟨wellFormed, trivial⟩
  | cons first rest induction =>
      obtain ⟨firstWellFormed, restWellFormed⟩ := entriesWellFormed
      rw [insert]
      split
      · exact ⟨wellFormed, restWellFormed⟩
      · exact ⟨firstWellFormed, induction restWellFormed⟩

theorem wellFormed_ofList {entries : List (Key × Value)}
    (wellFormed : Value.EntriesWellFormed entries) :
    (Value.mapping (ofList entries)).WellFormed := by
  have written : ∀ (entries before : List (Key × Value)),
      Value.EntriesWellFormed entries → (Value.mapping before).WellFormed →
      (Value.mapping (entries.foldl
        (fun written entry => insert entry.1 entry.2 written) before)).WellFormed := by
    intro entries
    induction entries with
    | nil => exact fun before _ beforeWellFormed => beforeWellFormed
    | cons entry rest induction =>
        rintro before ⟨entryWellFormed, restWellFormed⟩ ⟨distinct, beforeWellFormed⟩
        exact induction _ restWellFormed ⟨distinctKeys_insert _ _ distinct,
          entriesWellFormed_insert _ entryWellFormed beforeWellFormed⟩
  exact written entries [] wellFormed ⟨trivial, trivial⟩

end Entries

namespace Yaml

section Scalars

/-- The datum that has been found, if any, is well-formed. -/
def FoundWellFormed (found : Option (Except Problem Value)) : Prop :=
  ∀ value, found = some (.ok value) → value.WellFormed

theorem foundWellFormed_orElse {first second : Option (Except Problem Value)}
    (firstWellFormed : FoundWellFormed first)
    (secondWellFormed : FoundWellFormed second) :
    FoundWellFormed (first <|> second) := by
  cases first with
  | none => exact secondWellFormed
  | some datum => exact firstWellFormed

theorem foundWellFormed_map {found : Option α} {read : α → Except Problem Value}
    (wellFormed : ∀ item value, read item = .ok value → value.WellFormed) :
    FoundWellFormed (read <$> found) := by
  intro value denoted
  cases found with
  | none => cases denoted
  | some item => exact wellFormed item value (Option.some.inj denoted)

theorem wellFormed_of_map {construct : α → Value} {result : Except Problem α}
    {value : Value} (wellFormed : ∀ item, (construct item).WellFormed)
    (denoted : construct <$> result = .ok value) : value.WellFormed := by
  cases result with
  | error problem => cases denoted
  | ok item =>
      cases denoted
      exact wellFormed item

theorem datum_wellFormed {text : String} {value : Value}
    (denoted : Scalar.datum text = .ok value) : value.WellFormed := by
  unfold Scalar.datum at denoted
  extract_lets chars known at denoted
  have knownWellFormed : FoundWellFormed known := by
    apply foundWellFormed_orElse
    · apply foundWellFormed_map
      rintro truth _ ⟨⟩
      trivial
    apply foundWellFormed_orElse
    · apply foundWellFormed_map
      rintro number _ ⟨⟩
      trivial
    apply foundWellFormed_orElse
    · exact foundWellFormed_map fun _ _ => wellFormed_of_map fun _ => trivial
    apply foundWellFormed_orElse
    · intro value found
      split at found <;> cases found
      trivial
    apply foundWellFormed_orElse
    · exact foundWellFormed_map fun _ _ => wellFormed_of_map fun _ => trivial
    · exact foundWellFormed_map fun _ _ => wellFormed_of_map fun _ => trivial
  cases found : known with
  | none =>
      rw [found] at denoted
      cases denoted
      trivial
  | some datum =>
      rw [found] at denoted
      exact knownWellFormed value (found.trans (congrArg some denoted))

theorem formDatum_wellFormed {text : String} {value : Value}
    (denoted : Node.formDatum text = .ok value) : value.WellFormed := by
  unfold Node.formDatum at denoted
  split at denoted
  · cases denoted
  · exact datum_wellFormed denoted

theorem scalarDatum_wellFormed {tag : Option Tag} {plain : Bool} {text : String}
    {value : Value} (denoted : Node.scalarDatum tag plain text = .ok value) :
    value.WellFormed := by
  unfold Node.scalarDatum at denoted
  split at denoted
  · exact formDatum_wellFormed denoted
  · cases denoted
    trivial
  · cases denoted
  · split at denoted
    · exact formDatum_wellFormed denoted
    · cases denoted
      trivial

end Scalars

section Nodes

theorem pair_eq_ok {left : Loading α} {right : Loading β} {results : α × β}
    (both : Loading.pair left right = .ok results) :
    left = .ok results.1 ∧ right = .ok results.2 := by
  unfold Loading.pair at both
  split at both <;> cases both
  exact ⟨rfl, rfl⟩

theorem map_eq_ok {function : α → β} {result : Loading α} {value : β}
    (mapped : function <$> result = .ok value) :
    ∃ item, result = .ok item ∧ value = function item := by
  cases result with
  | error problem => cases mapped
  | ok item =>
      cases mapped
      exact ⟨item, rfl, rfl⟩

mutual

theorem dataAt_wellFormed {node : Node} {depth : Nat} {value : Value}
    (loaded : node.dataAt depth = .ok value) : value.WellFormed := by
  cases node with
  | scalar tag plain text =>
      rw [Node.dataAt] at loaded
      unfold Loading.located at loaded
      split at loaded
      · next denoted =>
          cases loaded
          exact scalarDatum_wellFormed denoted
      · cases loaded
  | sequence tag items =>
      rw [Node.dataAt] at loaded
      split at loaded
      · cases loaded
      · obtain ⟨data, itemsLoaded, rfl⟩ := map_eq_ok loaded
        exact itemsAt_wellFormed itemsLoaded
  | mapping tag entries =>
      rw [Node.dataAt] at loaded
      split at loaded
      · cases loaded
      · obtain ⟨data, entriesLoaded, rfl⟩ := map_eq_ok loaded
        exact Entries.wellFormed_ofList (entriesAt_wellFormed entriesLoaded)

theorem itemsAt_wellFormed {items : List Node} {depth : Nat} {data : List Value}
    (loaded : Node.itemsAt items depth = .ok data) : Value.AllWellFormed data := by
  cases items with
  | nil =>
      cases loaded
      trivial
  | cons item rest =>
      rw [Node.itemsAt] at loaded
      obtain ⟨⟨first, others⟩, both, rfl⟩ := map_eq_ok loaded
      obtain ⟨firstLoaded, othersLoaded⟩ := pair_eq_ok both
      exact ⟨dataAt_wellFormed firstLoaded, itemsAt_wellFormed othersLoaded⟩

theorem entriesAt_wellFormed {entries : List (Node × Node)} {depth : Nat}
    {data : List (Key × Value)} (loaded : Node.entriesAt entries depth = .ok data) :
    Value.EntriesWellFormed data := by
  cases entries with
  | nil =>
      cases loaded
      trivial
  | cons entry rest =>
      obtain ⟨key, value⟩ := entry
      rw [Node.entriesAt] at loaded
      obtain ⟨⟨first, others⟩, both, rfl⟩ := map_eq_ok loaded
      obtain ⟨firstLoaded, othersLoaded⟩ := pair_eq_ok both
      exact ⟨dataAt_wellFormed (pair_eq_ok firstLoaded).2,
        entriesAt_wellFormed othersLoaded⟩

end

theorem data_wellFormed {node : Node} {value : Value}
    (loaded : node.data = .ok value) : value.WellFormed := by
  unfold Node.data at loaded
  split at loaded
  · next found =>
      cases loaded
      exact dataAt_wellFormed found
  · cases loaded

theorem load_wellFormed {chars : List Char} {value : Value}
    (loaded : load chars = .ok value) : value.WellFormed := by
  unfold load at loaded
  split at loaded
  · cases loaded
  · cases read : Node.ofTokens? (Token.ofChars chars) with
    | error problem =>
        rw [read] at loaded
        cases loaded
    | ok node? =>
        rw [read] at loaded
        cases node? with
        | none =>
            cases loaded
            trivial
        | some node => exact data_wellFormed loaded

end Nodes

end Yaml

namespace Source

theorem data_wellFormed {source : Source} {data : Value}
    (read : source.data = .ok data) : data.WellFormed := by
  unfold Source.data at read
  split at read
  · cases read
  · split at read
    · next loaded =>
        cases read
        exact Yaml.load_wellFormed loaded
    · cases read

theorem document_wellFormed {source : Source} {document : Value}
    (loaded : source.document = .ok document) : document.WellFormed := by
  unfold Source.document at loaded
  split at loaded
  · cases loaded
  · cases loaded
    exact ⟨trivial, trivial⟩
  · next read =>
      cases loaded
      exact data_wellFormed read

end Source

end Criteria
