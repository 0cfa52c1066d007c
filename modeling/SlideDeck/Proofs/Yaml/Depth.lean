import SlideDeck.Proofs.Yaml.BareName

/-!
Contract: how deep parts of a value nest.

Owns:
- the depth of what a list of values or of entries holds;
- neither looking through custom tags nor making their names bare adds depth.
-/

namespace SlideDeck.Yaml.Value

variable {bound : Nat}

theorem depthOfItems_le_iff {items : List Value} :
    depthOfItems items ≤ bound ↔ ∀ item ∈ items, item.depth ≤ bound := by
  induction items with
  | nil => simp [depthOfItems]
  | cons item items inductionHypothesis =>
      rw [depthOfItems, Nat.max_le, inductionHypothesis, List.forall_mem_cons]

theorem depthOfEntries_le_iff {entries : List (Value × Value)} :
    depthOfEntries entries ≤ bound ↔
      ∀ entry ∈ entries, entry.1.depth ≤ bound ∧ entry.2.depth ≤ bound := by
  induction entries with
  | nil => simp [depthOfEntries]
  | cons entry entries inductionHypothesis =>
      rw [depthOfEntries, Nat.max_le, Nat.max_le, inductionHypothesis, List.forall_mem_cons]

theorem depth_untagged_le : ∀ value : Value, value.untagged.depth ≤ value.depth
  | .tagged _ value => by
      rw [untagged, depth]
      exact Nat.le_succ_of_le (depth_untagged_le value)
  | .null | .bool _ | .integer _ | .float _ | .string _ | .sequence _ | .mapping _ => Nat.le_refl _

mutual

theorem depth_bare_le : ∀ (value : Value) {bare : Value}, value.bare? = some bare →
    bare.depth ≤ value.depth
  | .tagged _ value, _, someBare => by
      rw [bare?, Option.map_eq_some_iff] at someBare
      obtain ⟨inner, innerBare, rfl⟩ := someBare
      rw [depth, depth]
      exact Nat.succ_le_succ (depth_bare_le value innerBare)
  | .sequence items, _, someBare => by
      rw [bare?, Option.map_eq_some_iff] at someBare
      obtain ⟨inner, innerBare, rfl⟩ := someBare
      rw [depth, depth]
      exact Nat.succ_le_succ (depth_bareItems_le items innerBare)
  | .mapping entries, _, someBare => by
      rw [bare?, Option.map_eq_some_iff] at someBare
      obtain ⟨inner, innerBare, rfl⟩ := someBare
      rw [depth, depth]
      exact Nat.succ_le_succ
        (depth_bareEntries_le entries (Nat.zero_le _) (Nat.le_refl _) innerBare)
  | .null, _, someBare | .bool _, _, someBare | .integer _, _, someBare | .float _, _, someBare
  | .string _, _, someBare => by
      obtain rfl := Option.some.inj someBare
      exact Nat.le_refl _

theorem depth_bareItems_le : ∀ (items : List Value) {bareItems : List Value},
    bareItems? items = some bareItems → depthOfItems bareItems ≤ depthOfItems items
  | [], _, someBare => by
      obtain rfl := Option.some.inj someBare
      exact Nat.le_refl _
  | item :: items, _, someBare => by
      simp only [bareItems?, Option.bind_eq_bind, Option.bind_eq_some_iff,
        Option.pure_def] at someBare
      obtain ⟨bareItem, itemBare, bareItems, itemsBare, same⟩ := someBare
      obtain rfl := Option.some.inj same
      rw [depthOfItems, depthOfItems]
      have first := depth_bare_le item itemBare
      have others := depth_bareItems_le items itemsBare
      omega

theorem depth_bareEntries_le : ∀ (entries : List (Value × Value)) {before bareEntries : List _}
    {bound : Nat}, depthOfEntries before ≤ bound → depthOfEntries entries ≤ bound →
    bareEntries? before entries = some bareEntries → depthOfEntries bareEntries ≤ bound
  | [], before, _, bound, within, _, someBare => by
      obtain rfl := Option.some.inj someBare
      rw [depthOfEntries_le_iff] at within ⊢
      intro entry member
      exact within entry (List.mem_reverse.mp member)
  | (key, value) :: entries, before, _, bound, within, entriesWithin, someBare => by
      rw [depthOfEntries, Nat.max_le, Nat.max_le] at entriesWithin
      simp only [bareEntries?, Option.bind_eq_bind, Option.bind_eq_some_iff] at someBare
      obtain ⟨bareKey, keyBare, someBare⟩ := someBare
      split at someBare
      · cases someBare
      · obtain ⟨bareValue, valueBare, someBare⟩ := Option.bind_eq_some_iff.mp someBare
        refine depth_bareEntries_le entries ?_ entriesWithin.2 someBare
        have keyDepth := depth_bare_le key keyBare
        have valueDepth := depth_bare_le value valueBare
        rw [depthOfEntries]
        omega

end

end SlideDeck.Yaml.Value
