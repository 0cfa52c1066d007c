import SlideDeck.Yaml.Value

/-!
Contract: values without custom tags, and plain values, which have only texts as keys besides.

Owns:
- `Plain`, and `keyed`, the entries of such mappings;
- `Tagless`, and what tags and bare names come to on values without tags: nothing;
- the depth of what a collection holds.

Does not own: values with tags.
-/

namespace SlideDeck.Yaml.Value

/-- Entries under keys that are texts. -/
def keyed (fields : List (String × Value)) : List (Value × Value) :=
  fields.map fun field => (.string field.1, field.2)

/-- Values without custom tags whose mappings have different texts as keys. -/
inductive Plain : Value → Prop where
  | null : Plain .null
  | bool (value : Bool) : Plain (.bool value)
  | integer (value : Int) : Plain (.integer value)
  | float (value : Decimal.Binary64) : Plain (.float value)
  | string (text : String) : Plain (.string text)
  | sequence {items : List Value} (plain : ∀ item ∈ items, Plain item) : Plain (.sequence items)
  | mapping {fields : List (String × Value)} (distinct : (fields.map Prod.fst).Nodup)
      (plain : ∀ field ∈ fields, Plain field.2) : Plain (.mapping (keyed fields))

variable {value : Value} {items : List Value} {entries : List (Value × Value)}
  {fields : List (String × Value)}

@[simp] theorem keyed_nil : keyed [] = [] := rfl

@[simp] theorem keyed_cons (field : String × Value) :
    keyed (field :: fields) = (.string field.1, field.2) :: keyed fields := rfl

theorem string_mem_keyed {key : String} :
    (.string key, value) ∈ keyed fields ↔ (key, value) ∈ fields := by
  simp [keyed]

/-! ### Tags -/

/-- Values without custom tags. No two keys of a mapping are the same. -/
inductive Tagless : Value → Prop where
  | null : Tagless .null
  | bool (value : Bool) : Tagless (.bool value)
  | integer (value : Int) : Tagless (.integer value)
  | float (value : Decimal.Binary64) : Tagless (.float value)
  | string (text : String) : Tagless (.string text)
  | sequence {items : List Value} (tagless : ∀ item ∈ items, Tagless item) :
      Tagless (.sequence items)
  | mapping {entries : List (Value × Value)}
      (distinct : entries.Pairwise fun earlier later => earlier.1.same later.1 = false)
      (keys : ∀ entry ∈ entries, Tagless entry.1) (values : ∀ entry ∈ entries, Tagless entry.2) :
      Tagless (.mapping entries)

theorem Plain.tagless (plain : value.Plain) : value.Tagless := by
  induction plain with
  | null => exact .null
  | bool value => exact .bool value
  | integer value => exact .integer value
  | float value => exact .float value
  | string text => exact .string text
  | sequence _ tagless => exact .sequence tagless
  | @mapping fields distinct _ tagless =>
      refine .mapping ?_ ?_ ?_
      · rw [keyed, List.pairwise_map]
        refine (List.pairwise_map.mp distinct).imp ?_
        intro earlier later different
        exact beq_eq_false_iff_ne.mpr different
      · intro entry member
        obtain ⟨field, -, rfl⟩ := List.mem_map.mp member
        exact .string field.1
      · intro entry member
        obtain ⟨field, fieldMember, rfl⟩ := List.mem_map.mp member
        exact tagless field fieldMember

theorem Plain.untagged_eq (plain : value.Plain) : value.untagged = value := by
  cases plain <;> rfl

theorem itemsHaveTag_eq_any : itemsHaveTag items = items.any hasTag := by
  induction items with
  | nil => rfl
  | cons item items inductionHypothesis => rw [itemsHaveTag, inductionHypothesis, List.any_cons]

theorem entriesHaveTag_eq_any :
    entriesHaveTag entries = entries.any fun entry => entry.1.hasTag || entry.2.hasTag := by
  induction entries with
  | nil => rfl
  | cons entry entries inductionHypothesis =>
      rw [entriesHaveTag, inductionHypothesis, List.any_cons]

theorem Tagless.hasTag_eq (tagless : value.Tagless) : value.hasTag = false := by
  induction tagless with
  | null | bool | integer | float | string => rfl
  | sequence _ untagged =>
      rw [hasTag, itemsHaveTag_eq_any, List.any_eq_false]
      intro item member
      simp [untagged item member]
  | mapping _ _ _ untaggedKeys untaggedValues =>
      rw [hasTag, entriesHaveTag_eq_any, List.any_eq_false]
      intro entry member
      simp [untaggedKeys entry member, untaggedValues entry member]

theorem Plain.hasTag_eq (plain : value.Plain) : value.hasTag = false :=
  plain.tagless.hasTag_eq

/-! ### Bare names -/

theorem bareItems?_eq_some (bare : ∀ item ∈ items, item.bare? = some item) :
    bareItems? items = some items := by
  induction items with
  | nil => rfl
  | cons item items inductionHypothesis =>
      rw [List.forall_mem_cons] at bare
      rw [bareItems?, bare.1, inductionHypothesis bare.2]
      rfl

theorem bareEntries?_eq_some {before : List (Value × Value)}
    (distinct : (before ++ entries).Pairwise fun earlier later => earlier.1.same later.1 = false)
    (keys : ∀ entry ∈ entries, entry.1.bare? = some entry.1)
    (values : ∀ entry ∈ entries, entry.2.bare? = some entry.2) :
    bareEntries? before.reverse entries = some (before ++ entries) := by
  induction entries generalizing before with
  | nil => simp [bareEntries?]
  | cons entry entries inductionHypothesis =>
      rw [List.forall_mem_cons] at keys values
      have fresh : (before.reverse.any fun earlier => earlier.1.same entry.1) = false := by
        rw [List.any_eq_false]
        intro earlier member
        rw [List.pairwise_append] at distinct
        have different := distinct.2.2 earlier (List.mem_reverse.mp member) entry List.mem_cons_self
        simp [different]
      have next : entry :: before.reverse = (before ++ [entry]).reverse := by simp
      rw [bareEntries?, keys.1]
      simp only [Option.bind_eq_bind, Option.bind_some, fresh, Bool.false_eq_true, if_false]
      rw [values.1, Option.bind_some, next, inductionHypothesis]
      · rw [List.append_assoc, List.singleton_append]
      · rwa [List.append_assoc, List.singleton_append]
      · exact keys.2
      · exact values.2

theorem Tagless.bare?_eq (tagless : value.Tagless) : value.bare? = some value := by
  induction tagless with
  | null | bool | integer | float | string => rfl
  | sequence _ bare => rw [bare?, bareItems?_eq_some bare, Option.map_some]
  | @mapping entries distinct _ _ bareKeys bareValues =>
      have whole : bareEntries? [] entries = some entries :=
        @bareEntries?_eq_some entries [] distinct bareKeys bareValues
      rw [bare?, whole, Option.map_some]

theorem Plain.bare?_eq (plain : value.Plain) : value.bare? = some value :=
  plain.tagless.bare?_eq

/-! ### Depth -/

theorem one_le_depth (value : Value) : 1 ≤ value.depth := by
  cases value <;> simp [depth]

theorem depth_lt_of_mem_items {item : Value} (member : item ∈ items) :
    item.depth < (sequence items).depth := by
  have within : item.depth ≤ depthOfItems items := by
    induction items with
    | nil => simp at member
    | cons first others inductionHypothesis =>
        rw [depthOfItems]
        rcases List.mem_cons.mp member with rfl | member
        · exact Nat.le_max_left _ _
        · exact Nat.le_trans (inductionHypothesis member) (Nat.le_max_right _ _)
  rw [depth]
  omega

theorem depth_lt_of_mem_keyed (field : String × Value) (member : field ∈ fields) :
    field.2.depth < (mapping (keyed fields)).depth := by
  have within : field.2.depth ≤ depthOfEntries (keyed fields) := by
    induction fields with
    | nil => simp at member
    | cons first others inductionHypothesis =>
        rw [keyed_cons, depthOfEntries]
        rcases List.mem_cons.mp member with rfl | member
        · exact Nat.le_trans (Nat.le_max_right _ _) (Nat.le_max_left _ _)
        · exact Nat.le_trans (inductionHypothesis member) (Nat.le_max_right _ _)
  rw [depth]
  omega

end SlideDeck.Yaml.Value
