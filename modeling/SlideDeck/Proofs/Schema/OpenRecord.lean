import SlideDeck.Proofs.Schema.Entries

/-!
Contract: records are read from mappings as unordered, open records.

What is read of a mapping under different texts, if anything is, does not depend on the order of
its entries, on entries of other keys or on which spelling of a key is used. Two spellings of one
key together are never read. This holds of each record by the way its entries are read, and it is
handed on to slides, blocks and items, which are read by their type.

Owns:
- `Indifferent` and `Exclusive`, which together make an `OpenRecord`;
- `Assembles`, records that are both by the way their entries are read;
- how they are handed on from records to what is made of records.

Does not own: the fields of single records.
-/

namespace SlideDeck.Schema

open SlideDeck.Yaml (Value)
open SlideDeck.Yaml.Value (AllBare bareField keyed)

variable {α β γ : Type}

/-! ### Open records -/

/-- What is read of a mapping does not depend on the order of its entries, on entries whose keys
are no spelling of a field, or on the spelling of a field. The fields may depend on the type that
the mapping names; `groups` are their spellings. -/
structure Indifferent (read : Reader α) (groups : Option String → List (List String)) : Prop where
  unordered {fields others : List (String × Value)} (distinct : (fields.map Prod.fst).Nodup)
    (perm : fields.Perm others) :
    (read (.mapping (keyed fields))).toOption = (read (.mapping (keyed others))).toOption
  opened {front back : List (String × Value)} {key : String} {value : Value}
    (distinct : ((front ++ (key, value) :: back).map Prod.fst).Nodup) (tagless : value.Tagless)
    (noField : ∀ group ∈ groups (Value.mapping (keyed (front ++ back))).typeName?, key ∉ group) :
    (read (.mapping (keyed (front ++ (key, value) :: back)))).toOption =
      (read (.mapping (keyed (front ++ back)))).toOption
  respelled {front back : List (String × Value)} {first second : String} {value : Value}
    (distinct : ((front ++ (first, value) :: back).map Prod.fst).Nodup)
    (secondDistinct : ((front ++ (second, value) :: back).map Prod.fst).Nodup)
    {group : List String}
    (field : group ∈ groups (Value.mapping (keyed (front ++ (first, value) :: back))).typeName?)
    (firstMember : first ∈ group) (secondMember : second ∈ group) :
    (read (.mapping (keyed (front ++ (first, value) :: back)))).toOption =
      (read (.mapping (keyed (front ++ (second, value) :: back)))).toOption

/-- Nothing is read of a mapping with two spellings of one field. -/
structure Exclusive (read : Reader α) (groups : Option String → List (List String)) : Prop where
  once {fields : List (String × Value)} (distinct : (fields.map Prod.fst).Nodup)
    {first second : String × Value} (firstPresent : first ∈ fields)
    (secondPresent : second ∈ fields) (different : first.1 ≠ second.1) {group : List String}
    (field : group ∈ groups (Value.mapping (keyed fields)).typeName?)
    (firstMember : first.1 ∈ group) (secondMember : second.1 ∈ group) :
    (read (.mapping (keyed fields))).toOption = none

/-- An unordered record that is open for entries of other keys. -/
structure OpenRecord (read : Reader α) (groups : Option String → List (List String)) : Prop
    extends Indifferent read groups, Exclusive read groups

section Record

variable {fields : List (Field α)} {groups : List (List String)}

/-- Spellings that respect the keys of a record: they cover them, and no field of the record has
only some of the spellings of a group. -/
structure Respects (groups keys : List (List String)) : Prop where
  covers : ∀ names ∈ keys, ∀ key ∈ names, ∃ group ∈ groups, key ∈ group
  together : ∀ group ∈ groups, ∀ first ∈ group, ∀ second ∈ group, ∀ names ∈ keys,
    first ∈ names → second ∈ names

instance (groups keys : List (List String)) : Decidable (Respects groups keys) :=
  decidable_of_iff
    ((∀ names ∈ keys, ∀ key ∈ names, ∃ group ∈ groups, key ∈ group) ∧
      ∀ group ∈ groups, ∀ first ∈ group, ∀ second ∈ group, ∀ names ∈ keys,
        first ∈ names → second ∈ names)
    ⟨fun both => ⟨both.1, both.2⟩, fun respects => ⟨respects.covers, respects.together⟩⟩

variable (respects : Respects groups (fields.map Field.keys))

include respects

theorem Respects.unknown {key : String} (noField : ∀ group ∈ groups, key ∉ group) :
    fieldOf fields key = none := by
  rw [fieldOf, List.find?_eq_none]
  intro field member
  rw [List.contains_iff_mem]
  intro known
  obtain ⟨group, groupMember, keyMember⟩ :=
    respects.covers field.keys (List.mem_map_of_mem member) key known
  exact noField group groupMember keyMember

theorem Respects.fieldOf_eq {group : List String} (member : group ∈ groups)
    {first second : String} (firstMember : first ∈ group) (secondMember : second ∈ group) :
    fieldOf fields first = fieldOf fields second := by
  refine List.find?_congr fun field fieldMember => ?_
  have keysMember : field.keys ∈ fields.map Field.keys := List.mem_map_of_mem fieldMember
  rw [Bool.eq_iff_iff, List.contains_iff_mem, List.contains_iff_mem]
  exact ⟨respects.together group member first firstMember second secondMember _ keysMember,
    respects.together group member second secondMember first firstMember _ keysMember⟩

theorem Respects.indifferent (commute : fields.Pairwise Commute) (name : String) (start : α) :
    Indifferent (record name fields start) fun _ => groups where
  unordered _ perm := assemble_perm commute perm [] start
  opened _ _ noField := assemble_insert (respects.unknown noField) [] start
  respelled _ _ _ field firstMember secondMember :=
    assemble_respell (respects.fieldOf_eq field firstMember secondMember) [] start

end Record

theorem exclusive_record {fields : List (Field α)}
    (respects : Respects (fields.map Field.keys) (fields.map Field.keys)) (name : String)
    (start : α) : Exclusive (record name fields start) fun _ => fields.map Field.keys where
  once _ first second firstPresent secondPresent different group member firstMember
      secondMember := by
    have same := respects.fieldOf_eq member firstMember secondMember
    obtain ⟨owner, ownerMember, rfl⟩ := List.mem_map.mp member
    obtain ⟨field, known⟩ : ∃ field, fieldOf fields first.1 = some field := by
      rw [← Option.isSome_iff_exists, fieldOf, List.find?_isSome]
      exact ⟨owner, ownerMember, List.contains_iff_mem.mpr firstMember⟩
    exact assemble_eq_none_of_both firstPresent secondPresent different known (same ▸ known) []
      start

/-- A reader that assembles a record whose fields have the keys. What else the groups hold does
not matter to it. -/
structure Assembles (read : Reader α) (keys : List (List String)) : Prop where
  respects : Respects keys keys
  indifferent : ∀ {groups : List (List String)}, Respects groups keys →
    Indifferent read fun _ => groups
  exclusive : Exclusive read fun _ => keys

theorem assembles_record (keys : List (List String)) {fields : List (Field α)}
    (commute : fields.Pairwise Commute) (keysEq : fields.map Field.keys = keys)
    (respects : Respects keys keys) (name : String) (start : α) :
    Assembles (record name fields start) keys := by
  subst keysEq
  exact ⟨respects, fun others => others.indifferent commute name start,
    exclusive_record respects name start⟩

theorem Assembles.openRecord {read : Reader α} {keys : List (List String)}
    (assembles : Assembles read keys) : OpenRecord read fun _ => keys :=
  { assembles.indifferent assembles.respects, assembles.exclusive with }

/-! ### What is made of records -/

section Made

variable {read : Reader α} {second : Reader β} {groups : Option String → List (List String)}

theorem Indifferent.of_mapping (indifferent : Indifferent read groups) {other : Reader β}
    (next : Option α → Option β)
    (same : ∀ entries,
      (other (.mapping entries)).toOption = next (read (.mapping entries)).toOption) :
    Indifferent other groups where
  unordered distinct perm := by
    rw [same, same, indifferent.unordered distinct perm]
  opened distinct tagless noField := by
    rw [same, same, indifferent.opened distinct tagless noField]
  respelled distinct secondDistinct _ field firstMember secondMember := by
    rw [same, same,
      indifferent.respelled distinct secondDistinct field firstMember secondMember]

theorem Exclusive.of_mapping (exclusive : Exclusive read groups) {other : Reader β}
    (next : Option α → Option β) (nothing : next none = none)
    (same : ∀ entries,
      (other (.mapping entries)).toOption = next (read (.mapping entries)).toOption) :
    Exclusive other groups where
  once distinct _ _ firstPresent secondPresent different _ field firstMember secondMember := by
    rw [same, exclusive.once distinct firstPresent secondPresent different field firstMember
      secondMember, nothing]

theorem OpenRecord.of_mapping (openRecord : OpenRecord read groups) {other : Reader α}
    (same : ∀ entries, other (.mapping entries) = read (.mapping entries)) :
    OpenRecord other groups :=
  { openRecord.toIndifferent.of_mapping id fun entries => congrArg Except.toOption (same entries),
    openRecord.toExclusive.of_mapping id rfl fun entries =>
      congrArg Except.toOption (same entries) with }

theorem Indifferent.map (indifferent : Indifferent read groups) (next : α → β) :
    Indifferent (fun value => (read value).map next) groups :=
  indifferent.of_mapping (Option.map next) fun _ => Result.toOption_map _ _

theorem Exclusive.map (exclusive : Exclusive read groups) (next : α → β) :
    Exclusive (fun value => (read value).map next) groups :=
  exclusive.of_mapping (Option.map next) rfl fun _ => Result.toOption_map _ _

theorem Assembles.map {keys : List (List String)} (assembles : Assembles read keys)
    (next : α → β) : Assembles (fun value => (read value).map next) keys where
  respects := assembles.respects
  indifferent respects := (assembles.indifferent respects).map next
  exclusive := assembles.exclusive.map next

/-! Two readings of one mapping. -/

/-- Two readings of one value, taken together. -/
def both (read : Reader α) (second : Reader β) (combine : α → β → γ) : Reader γ := fun value => do
  let first ← read value
  let other ← second value
  return combine first other

theorem toOption_both (combine : α → β → γ) (value : Value) :
    (both read second combine value).toOption =
      (read value).toOption.bind fun first => (second value).toOption.map (combine first) := by
  rw [both, Result.toOption_bind]
  congr 1
  funext first
  rw [Result.toOption_bind]
  cases (second value).toOption <;> rfl

theorem Indifferent.both (indifferent : Indifferent read groups)
    (other : Indifferent second groups) (combine : α → β → γ) :
    Indifferent (both read second combine) groups where
  unordered distinct perm := by
    rw [toOption_both, toOption_both, indifferent.unordered distinct perm,
      other.unordered distinct perm]
  opened distinct tagless noField := by
    rw [toOption_both, toOption_both, indifferent.opened distinct tagless noField,
      other.opened distinct tagless noField]
  respelled distinct secondDistinct _ field firstMember secondMember := by
    rw [toOption_both, toOption_both,
      indifferent.respelled distinct secondDistinct field firstMember secondMember,
      other.respelled distinct secondDistinct field firstMember secondMember]

theorem Exclusive.both {others : Option String → List (List String)}
    (exclusive : Exclusive read groups) (other : Exclusive second others)
    (combine : α → β → γ) :
    Exclusive (both read second combine) fun typeName => groups typeName ++ others typeName where
  once distinct _ _ firstPresent secondPresent different _ field firstMember secondMember := by
    rw [toOption_both]
    rcases List.mem_append.mp field with field | field
    · rw [exclusive.once distinct firstPresent secondPresent different field firstMember
        secondMember, Option.bind_none]
    · rw [other.once distinct firstPresent secondPresent different field firstMember secondMember]
      simp

end Made

/-! Readings that depend on the type, whose key has one spelling and is no field otherwise. -/

section Typed

variable {reads : Option String → Reader α} {groups : Option String → List (List String)}

theorem Indifferent.typed
    (each : ∀ typeName, Indifferent (reads typeName) fun _ => ["type"] :: groups typeName)
    (noType : ∀ typeName, ∀ group ∈ groups typeName, "type" ∉ group) :
    Indifferent (fun value => reads value.typeName? value)
      fun typeName => ["type"] :: groups typeName where
  unordered distinct perm := by
    rw [Value.typeName?_perm perm distinct]
    exact (each _).unordered distinct perm
  opened {front back key value} distinct tagless noField := by
    have other : key ≠ "type" := by
      rintro rfl
      exact noField ["type"] List.mem_cons_self List.mem_cons_self
    rw [Value.typeName?_insert front back value other]
    exact (each _).opened distinct tagless noField
  respelled {front back first second value} distinct secondDistinct group field firstMember
      secondMember := by
    rcases List.mem_cons.mp field with rfl | inGroups
    · rw [List.mem_singleton.mp firstMember, List.mem_singleton.mp secondMember]
    · have firstOther : first ≠ "type" := by
        rintro rfl
        exact noType _ group inGroups firstMember
      have secondOther : second ≠ "type" := by
        rintro rfl
        exact noType _ group inGroups secondMember
      have sameType := (Value.typeName?_insert front back value firstOther).trans
        (Value.typeName?_insert front back value secondOther).symm
      rw [← sameType]
      exact (each _).respelled distinct secondDistinct field firstMember secondMember

theorem Exclusive.typed (each : ∀ typeName, Exclusive (reads typeName) fun _ => groups typeName) :
    Exclusive (fun value => reads value.typeName? value)
      fun typeName => ["type"] :: groups typeName where
  once distinct _ _ firstPresent secondPresent different _ field firstMember secondMember := by
    rcases List.mem_cons.mp field with rfl | field
    · rw [List.mem_singleton.mp firstMember, List.mem_singleton.mp secondMember] at different
      exact absurd rfl different
    · exact (each _).once distinct firstPresent secondPresent different field firstMember
        secondMember

theorem OpenRecord.typed
    (each : ∀ typeName, Indifferent (reads typeName) fun _ => ["type"] :: groups typeName)
    (once : ∀ typeName, Exclusive (reads typeName) fun _ => groups typeName)
    (noType : ∀ typeName, ∀ group ∈ groups typeName, "type" ∉ group) :
    OpenRecord (fun value => reads value.typeName? value)
      fun typeName => ["type"] :: groups typeName :=
  { Indifferent.typed each noType, Exclusive.typed once with }

/-- A key with one spelling may be added to the groups of a record. -/
theorem Respects.cons {keys : List (List String)} (respects : Respects keys keys) (key : String) :
    Respects ([key] :: keys) keys where
  covers names member known present := by
    obtain ⟨group, groupMember, knownMember⟩ := respects.covers names member known present
    exact ⟨group, List.mem_cons_of_mem _ groupMember, knownMember⟩
  together group member first firstMember second secondMember := by
    rcases List.mem_cons.mp member with rfl | member
    · rw [List.mem_singleton.mp firstMember, List.mem_singleton.mp secondMember]
      exact fun _ _ present => present
    · exact respects.together group member first firstMember second secondMember

/-- Records that are chosen by the type. -/
theorem Assembles.typed (each : ∀ typeName, Assembles (reads typeName) (groups typeName))
    (noType : ∀ typeName, ∀ group ∈ groups typeName, "type" ∉ group) :
    OpenRecord (fun value => reads value.typeName? value)
      fun typeName => ["type"] :: groups typeName :=
  OpenRecord.typed
    (fun typeName => (each typeName).indifferent ((each typeName).respects.cons "type"))
    (fun typeName => (each typeName).exclusive) noType

end Typed

/-! Readings of bare values. -/

section Whole

variable {read : Reader α} {groups : Option String → List (List String)}
  {fields : List (String × Value)}

theorem toOption_whole (distinct : (fields.map Prod.fst).Nodup) :
    (whole read (.mapping (keyed fields))).toOption =
      if AllBare fields then (read (.mapping (keyed (fields.map bareField)))).toOption
      else none := by
  rw [whole, Value.bare?_keyed distinct]
  split <;> simp_all [Except.toOption]

theorem Indifferent.whole (indifferent : Indifferent read groups) :
    Indifferent (whole read) groups where
  unordered {fields others} distinct perm := by
    have othersDistinct := (perm.map Prod.fst).nodup_iff.mp distinct
    have bareDistinct : ((fields.map bareField).map Prod.fst).Nodup := by
      rwa [Value.map_fst_bareField]
    rw [toOption_whole distinct, toOption_whole othersDistinct]
    simp only [Value.allBare_perm perm]
    rw [indifferent.unordered bareDistinct (perm.map bareField)]
  opened {front back key value} distinct tagless noField := by
    have without : ((front ++ back).map Prod.fst).Nodup := by
      refine distinct.sublist (List.Sublist.map _ ?_)
      exact List.Sublist.append_left (List.sublist_cons_self _ _) _
    have own : bareField (key, value) = (key, value) := by
      rw [bareField, tagless.bare?_eq, Option.getD_some]
    have isSome : value.bare?.isSome = true := by rw [tagless.bare?_eq, Option.isSome_some]
    have bareDistinct := distinct
    rw [← Value.map_fst_bareField] at bareDistinct
    rw [toOption_whole distinct, toOption_whole without]
    simp only [Value.allBare_append, Value.allBare_cons, isSome, true_and]
    split
    next allBare =>
      rw [List.map_append, List.map_cons, own] at bareDistinct ⊢
      rw [List.map_append]
      refine indifferent.opened bareDistinct tagless ?_
      rw [← List.map_append,
        Value.typeName?_map_bareField without (Value.allBare_append.mpr allBare)]
      exact noField
    next => rfl
  respelled {front back first second value} distinct secondDistinct group field firstMember
      secondMember := by
    have firstBare := distinct
    have secondBare := secondDistinct
    rw [← Value.map_fst_bareField] at firstBare secondBare
    rw [toOption_whole distinct, toOption_whole secondDistinct]
    simp only [Value.allBare_append, Value.allBare_cons]
    split
    next allBare =>
      have allFields : AllBare (front ++ (first, value) :: back) :=
        Value.allBare_append.mpr ⟨allBare.1, Value.allBare_cons.mpr allBare.2⟩
      rw [← Value.typeName?_map_bareField distinct allFields] at field
      rw [List.map_append, List.map_cons] at firstBare secondBare field ⊢
      rw [List.map_append, List.map_cons]
      exact indifferent.respelled firstBare secondBare field firstMember secondMember
    next => rfl

theorem Exclusive.whole (exclusive : Exclusive read groups) :
    Exclusive (whole read) groups where
  once {fields} distinct first second firstPresent secondPresent different group field firstMember
      secondMember := by
    have bareDistinct : ((fields.map bareField).map Prod.fst).Nodup := by
      rwa [Value.map_fst_bareField]
    rw [toOption_whole distinct]
    split
    next allBare =>
      rw [← Value.typeName?_map_bareField distinct allBare] at field
      exact exclusive.once bareDistinct (List.mem_map_of_mem firstPresent)
        (List.mem_map_of_mem secondPresent) different field firstMember secondMember
    next => rfl

theorem OpenRecord.whole (openRecord : OpenRecord read groups) :
    OpenRecord (whole read) groups :=
  { openRecord.toIndifferent.whole, openRecord.toExclusive.whole with }

end Whole

end SlideDeck.Schema
