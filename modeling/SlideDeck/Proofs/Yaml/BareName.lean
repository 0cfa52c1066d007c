import Mathlib.Data.List.Find
import Mathlib.Data.List.Nodup
import SlideDeck.Proofs.Yaml.Plain

/-!
Contract: values with bare tag names, and mappings under texts.

To make the tag names of a value bare fails only when two keys of a mapping become the same by it;
under keys that are texts only the values count. What a value is behind its tags, and the type that
it names, stay the same.

Owns:
- what making tag names bare leaves alone;
- the bare form of a mapping whose keys are different texts;
- the type that such a mapping names.
-/

namespace SlideDeck.Yaml.Value

variable {value bare : Value} {items : List Value} {entries : List (Value × Value)}
  {fields : List (String × Value)}

/-! ### What bare names leave alone -/

theorem untagged_bare : ∀ {value bare : Value}, value.bare? = some bare →
    value.untagged.bare? = some bare.untagged
  | .tagged name value, bare, someBare => by
      rw [bare?, Option.map_eq_some_iff] at someBare
      obtain ⟨inner, innerBare, rfl⟩ := someBare
      rw [untagged, untagged]
      exact untagged_bare innerBare
  | .sequence items, bare, someBare => by
      have form := someBare
      rw [bare?, Option.map_eq_some_iff] at form
      obtain ⟨inner, -, rfl⟩ := form
      exact someBare
  | .mapping entries, bare, someBare => by
      have form := someBare
      rw [bare?, Option.map_eq_some_iff] at form
      obtain ⟨inner, -, rfl⟩ := form
      exact someBare
  | .null, bare, someBare | .bool _, bare, someBare | .integer _, bare, someBare
  | .float _, bare, someBare | .string _, bare, someBare => by
      obtain rfl := Option.some.inj someBare
      rfl

/-- The bare form of entries has the bare forms of their keys and values, in order. -/
theorem bareEntries?_forall₂ {before bareEntries : List (Value × Value)}
    (someBare : bareEntries? before entries = some bareEntries) :
    ∃ rest, bareEntries = before.reverse ++ rest ∧
      List.Forall₂ (fun entry bareEntry =>
        entry.1.bare? = some bareEntry.1 ∧ entry.2.bare? = some bareEntry.2) entries rest := by
  induction entries generalizing before with
  | nil =>
      obtain rfl := Option.some.inj someBare
      exact ⟨[], by rw [List.append_nil], .nil⟩
  | cons entry entries inductionHypothesis =>
      rw [bareEntries?] at someBare
      simp only [Option.bind_eq_bind, Option.bind_eq_some_iff] at someBare
      obtain ⟨bareKey, keyBare, someBare⟩ := someBare
      split at someBare
      · cases someBare
      · obtain ⟨bareValue, valueBare, someBare⟩ := Option.bind_eq_some_iff.mp someBare
        obtain ⟨rest, rfl, related⟩ := inductionHypothesis someBare
        refine ⟨(bareKey, bareValue) :: rest, ?_, .cons ⟨keyBare, valueBare⟩ related⟩
        rw [List.reverse_cons, List.append_assoc, List.singleton_append]

theorem untagged_ne_tagged : ∀ (value : Value) (name : String) (inner : Value),
    value.untagged ≠ .tagged name inner
  | .tagged _ value, name, inner => by
      rw [untagged]
      exact untagged_ne_tagged value name inner
  | .null, _, _ | .bool _, _, _ | .integer _, _, _ | .float _, _, _ | .string _, _, _
  | .sequence _, _, _ | .mapping _, _, _ => nofun

/-- Behind its tags a value is the same as its bare form, or both are collections of one kind. -/
theorem untagged_bare_form (someBare : value.bare? = some bare) :
    bare.untagged = value.untagged ∨
      (∃ items bareItems, value.untagged = .sequence items ∧ bare.untagged = .sequence bareItems) ∨
      ∃ entries bareEntries, value.untagged = .mapping entries ∧
        bare.untagged = .mapping bareEntries ∧
        List.Forall₂ (fun entry bareEntry =>
          entry.1.bare? = some bareEntry.1 ∧ entry.2.bare? = some bareEntry.2)
          entries bareEntries := by
  have untagged := untagged_bare someBare
  cases form : value.untagged with
  | tagged name inner => exact absurd form (untagged_ne_tagged value name inner)
  | sequence items =>
      rw [form, bare?, Option.map_eq_some_iff] at untagged
      obtain ⟨bareItems, -, same⟩ := untagged
      exact .inr (.inl ⟨items, bareItems, rfl, same.symm⟩)
  | mapping entries =>
      rw [form, bare?, Option.map_eq_some_iff] at untagged
      obtain ⟨bareEntries, entriesBare, same⟩ := untagged
      obtain ⟨rest, restEq, related⟩ := bareEntries?_forall₂ entriesBare
      rw [restEq] at same
      exact .inr (.inr ⟨entries, rest, rfl, same.symm, related⟩)
  | null | bool | integer | float | string =>
      rw [form] at untagged
      exact .inl (Option.some.inj untagged).symm

theorem isMapping_bare (someBare : value.bare? = some bare) : bare.isMapping = value.isMapping := by
  unfold isMapping
  rcases untagged_bare_form someBare with same | ⟨_, _, items, bareItems⟩ |
    ⟨_, _, entries, bareEntries, -⟩
  · rw [same]
  · rw [items, bareItems]
  · rw [entries, bareEntries]

theorem text?_bare (someBare : value.bare? = some bare) : bare.text? = value.text? := by
  unfold text?
  rcases untagged_bare_form someBare with same | ⟨_, _, items, bareItems⟩ |
    ⟨_, _, entries, bareEntries, -⟩
  · rw [same]
  · rw [items, bareItems]
  · rw [entries, bareEntries]

/-- Whether a key is a text. -/
def isText (key : String) : Value → Bool
  | string text => text == key
  | _ => false

theorem isText_bare (someBare : value.bare? = some bare) (key : String) :
    bare.isText key = value.isText key := by
  cases value with
  | tagged | sequence | mapping =>
      rw [bare?, Option.map_eq_some_iff] at someBare
      obtain ⟨inner, -, rfl⟩ := someBare
      rfl
  | null | bool | integer | float | string =>
      obtain rfl := Option.some.inj someBare
      rfl

theorem get?_mapping (form : value.untagged = mapping entries) (key : String) :
    value.get? key = (entries.find? fun entry => entry.1.isText key).map (·.2) := by
  unfold get?
  rw [form]
  rfl

theorem typeName?_bare (someBare : value.bare? = some bare) :
    bare.typeName? = value.typeName? := by
  rcases untagged_bare_form someBare with same | ⟨_, _, items, bareItems⟩ |
    ⟨entries, bareEntries, entriesForm, bareForm, related⟩
  · rw [typeName?, typeName?, get?, get?, same]
  · rw [typeName?, typeName?, get?, get?, items, bareItems]
  · rw [typeName?, typeName?, get?_mapping entriesForm, get?_mapping bareForm]
    clear entriesForm bareForm
    induction related with
    | nil => rfl
    | cons first _ inductionHypothesis =>
        rw [List.find?_cons, List.find?_cons, isText_bare first.1]
        split
        · exact text?_bare first.2
        · exact inductionHypothesis

/-! ### Mappings under texts -/

/-- Whether the values of all fields have a bare form. -/
def AllBare (fields : List (String × Value)) : Prop :=
  ∀ field ∈ fields, field.2.bare?.isSome = true

instance (fields : List (String × Value)) : Decidable (AllBare fields) :=
  inferInstanceAs (Decidable (∀ field ∈ fields, field.2.bare?.isSome = true))

/-- A field with its value made bare, if it has a bare form. -/
def bareField (field : String × Value) : String × Value :=
  (field.1, field.2.bare?.getD field.2)

theorem map_fst_bareField : (fields.map bareField).map Prod.fst = fields.map Prod.fst := by
  rw [List.map_map]
  rfl

theorem bareEntries?_keyed_eq {before : List (String × Value)}
    (distinct : ((before ++ fields).map Prod.fst).Nodup) :
    bareEntries? (keyed before).reverse (keyed fields) =
      if AllBare fields then some (keyed (before ++ fields.map bareField)) else none := by
  induction fields generalizing before with
  | nil => simp [bareEntries?, AllBare]
  | cons field fields inductionHypothesis =>
      have fresh : ((keyed before).reverse.any fun entry => entry.1.same (.string field.1)) =
          false := by
        rw [List.any_eq_false]
        intro entry member
        obtain ⟨earlier, earlierMember, rfl⟩ := List.mem_map.mp (List.mem_reverse.mp member)
        simp only [same, beq_iff_eq]
        rw [List.map_append, List.nodup_append] at distinct
        exact distinct.2.2 _ (List.mem_map_of_mem earlierMember) _ (by simp)
      have bareKey : (Value.string field.1).bare? = some (.string field.1) := rfl
      rw [keyed_cons, bareEntries?, bareKey]
      simp only [Option.bind_eq_bind, Option.bind_some, fresh, Bool.false_eq_true, if_false]
      cases bareValue : field.2.bare? with
      | none => simp [AllBare, bareValue]
      | some value =>
          have next : (Value.string field.1, value) :: (keyed before).reverse =
              (keyed (before ++ [(field.1, value)])).reverse := by simp [keyed]
          have bareEq : bareField field = (field.1, value) := by
            rw [bareField, bareValue, Option.getD_some]
          have both : AllBare (field :: fields) ↔ AllBare fields := by
            simp [AllBare, bareValue]
          rw [Option.bind_some, next, inductionHypothesis]
          · simp only [both, List.map_cons, bareEq, List.append_assoc, List.singleton_append]
          · simpa using distinct

/-- The bare form of a mapping under different texts has the same keys in the same order. -/
theorem bare?_keyed (distinct : (fields.map Prod.fst).Nodup) :
    (mapping (keyed fields)).bare? =
      if AllBare fields then some (.mapping (keyed (fields.map bareField))) else none := by
  have entries : bareEntries? [] (keyed fields) =
      if AllBare fields then some (keyed (fields.map bareField)) else none :=
    @bareEntries?_keyed_eq fields [] distinct
  rw [bare?, entries]
  split <;> rfl

theorem allBare_perm {others : List (String × Value)} (perm : fields.Perm others) :
    AllBare fields ↔ AllBare others := by
  simp only [AllBare, perm.mem_iff]

theorem allBare_append {front back : List (String × Value)} :
    AllBare (front ++ back) ↔ AllBare front ∧ AllBare back :=
  List.forall_mem_append

theorem allBare_cons {field : String × Value} :
    AllBare (field :: fields) ↔ field.2.bare?.isSome = true ∧ AllBare fields :=
  List.forall_mem_cons

/-! ### The type -/

theorem get?_keyed (key : String) :
    (mapping (keyed fields)).get? key = (fields.find? (·.1 == key)).map (·.2) := by
  rw [get?_mapping rfl, keyed, List.find?_map, Option.map_map]
  rfl

theorem typeName?_keyed :
    (mapping (keyed fields)).typeName? =
      (fields.find? (·.1 == "type")).bind fun field => field.2.text? := by
  rw [typeName?, get?_keyed, Option.bind_map]
  rfl

theorem typeName?_map_bareField (distinct : (fields.map Prod.fst).Nodup)
    (allBare : AllBare fields) :
    (mapping (keyed (fields.map bareField))).typeName? = (mapping (keyed fields)).typeName? := by
  apply typeName?_bare
  rw [bare?_keyed distinct, if_pos allBare]

/-- Under different keys it does not matter where the type stands. -/
theorem typeName?_perm {others : List (String × Value)} (perm : fields.Perm others)
    (distinct : (fields.map Prod.fst).Nodup) :
    (mapping (keyed fields)).typeName? = (mapping (keyed others)).typeName? := by
  have one : {field ∈ fields | field.1 == "type"}.Subsingleton := by
    intro first firstIs second secondIs
    have sameKey : first.1 = second.1 := by
      rw [beq_iff_eq.mp firstIs.2, beq_iff_eq.mp secondIs.2]
    exact List.inj_on_of_nodup_map distinct firstIs.1 secondIs.1 sameKey
  rw [typeName?_keyed, typeName?_keyed, List.find?_eq_find?_of_perm perm one]

/-- A field that is not the type is passed over in the search for the type. -/
theorem typeName?_insert (front back : List (String × Value)) {key : String} (value : Value)
    (other : key ≠ "type") :
    (mapping (keyed (front ++ (key, value) :: back))).typeName? =
      (mapping (keyed (front ++ back))).typeName? := by
  have skips : (key == "type") = false := beq_eq_false_iff_ne.mpr other
  rw [typeName?_keyed, typeName?_keyed, List.find?_append, List.find?_append,
    List.find?_cons_of_neg]
  simp [skips]

end SlideDeck.Yaml.Value
