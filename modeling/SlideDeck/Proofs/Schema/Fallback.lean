import SlideDeck.Markup.Slide
import SlideDeck.Proofs.Schema.Entries
import SlideDeck.Proofs.Schema.Nesting
import SlideDeck.Schema.Slide

/-!
Contract: what becomes of slides, blocks and items of an unknown type.

A slide of an unknown type is the slide without its type, a block of an unknown type is an unknown
block, and an item of an unknown type is a box. Blocks in a body and items of a diagram are taken
as a whole, so they are refused, whatever their type, if making their tag names bare makes two keys
of a mapping the same. Nothing else is refused.

Owns:
- `Value.without`, a mapping without the entries under a text;
- the fallback of each type, one after the other;
- `unknown_types`: all of them together;
- a block of an unknown type that is refused.
-/

namespace SlideDeck.Yaml.Value

variable {value : Value} {entries : List (Value × Value)}

/-- A mapping without its entries under a text. -/
def without (key : String) : Value → Value
  | tagged name value => tagged name (value.without key)
  | mapping entries => mapping (entries.filter fun entry => !entry.1.isText key)
  | value => value

theorem eq_of_isText {key : String} (isText : value.isText key = true) : value = string key := by
  unfold Value.isText at isText
  split at isText
  next text => rw [beq_iff_eq.mp isText]
  next => cases isText

theorem untagged_without (key : String) : ∀ {value : Value} {entries : List (Value × Value)},
    value.untagged = mapping entries →
      (value.without key).untagged = mapping (entries.filter fun entry => !entry.1.isText key)
  | .tagged _ value, _, form => by
      rw [without, untagged]
      rw [untagged] at form
      exact untagged_without key form
  | .mapping _, _, form => by
      obtain rfl := mapping.inj form
      rfl

theorem get?_without (key : String) (form : value.untagged = mapping entries) :
    (value.without key).get? key = none := by
  rw [get?_mapping (untagged_without key form), Option.map_eq_none_iff, List.find?_eq_none]
  intro entry member
  simpa using (List.mem_filter.mp member).2

theorem exists_entries (isMapping : value.isMapping = true) :
    ∃ entries, value.untagged = mapping entries := by
  unfold Value.isMapping at isMapping
  split at isMapping
  next entries form => exact ⟨entries, form⟩
  next => cases isMapping

end SlideDeck.Yaml.Value

namespace SlideDeck.Schema

open SlideDeck.Deck
open SlideDeck.Yaml (Value)
open SlideDeck.Yaml.Value (AllBare bareField keyed)

variable {α : Type} {value : Value}

/-! ### Slides -/

/-- The types of slides. -/
def slideTypes : List String :=
  ["hero", "image", "two-column", "grid", "code", "timeline", "table", "flow"]

theorem layout_unknown {typeName : Option String} (unknown : ∀ name ∈ slideTypes,
    typeName ≠ some name) : layout typeName = fun value => (plainBody value).map .plain := by
  unfold layout
  split <;> simp_all [slideTypes]

/-- What is read by the name of a type has that name. -/
theorem layout_name {name : String} (known : name ∈ slideTypes) {loaded : Layout}
    (reads : layout (some name) value = .ok loaded) : loaded.name = name := by
  simp only [slideTypes, List.mem_cons, List.not_mem_nil, or_false] at known
  rcases known with rfl | rfl | rfl | rfl | rfl | rfl | rfl | rfl <;>
    obtain ⟨part, -, rfl⟩ := Result.map_eq_ok_iff.mp reads <;> rfl

/-- Entries under a text that is no field do not matter, not even to a failure. -/
theorem readEntries_without {fields : List (Field α)} {key : String}
    (noField : fieldOf fields key = none) (seen : List String) (record : α)
    (entries : List (Value × Value)) :
    readEntries fields seen record (entries.filter fun entry => !entry.1.isText key) =
      readEntries fields seen record entries := by
  unfold fieldOf at noField
  induction entries generalizing seen record with
  | nil => rfl
  | cons entry entries inductionHypothesis =>
      cases isText : entry.1.isText key with
      | true =>
          obtain ⟨entryKey, entryValue⟩ := entry
          obtain rfl := Value.eq_of_isText isText
          have name : fieldKey (.string key) = .ok key := rfl
          rw [List.filter_cons_of_neg (by simp [isText]), readEntries, name, ok_bind, noField]
          exact inductionHypothesis seen record
      | false =>
          rw [List.filter_cons_of_pos (by simp [isText]), readEntries, readEntries]
          simp only [inductionHypothesis]

theorem record_without {fields : List (Field α)} {key : String}
    (noField : fieldOf fields key = none) (name : String) (start : α)
    (isMapping : value.isMapping = true) :
    record name fields start (value.without key) = record name fields start value := by
  obtain ⟨entries, form⟩ := Value.exists_entries isMapping
  unfold record
  rw [form, Value.untagged_without key form]
  exact readEntries_without noField [] start entries

theorem typeName?_without (isMapping : value.isMapping = true) :
    (value.without "type").typeName? = none := by
  obtain ⟨entries, form⟩ := Value.exists_entries isMapping
  rw [Value.typeName?, Value.get?_without "type" form]
  rfl

theorem isMapping_without (key : String) (isMapping : value.isMapping = true) :
    (value.without key).isMapping = true := by
  obtain ⟨entries, form⟩ := Value.exists_entries isMapping
  unfold Value.isMapping
  rw [Value.untagged_without key form]

/-- A slide of an unknown type is read like the mapping without a type. -/
theorem slide_without (isMapping : value.isMapping = true)
    (unknown : ∀ name ∈ slideTypes, value.typeName? ≠ some name) :
    slide value = slide (value.without "type") := by
  have noType : ∀ name ∈ slideTypes, (none : Option String) ≠ some name := nofun
  have sameHeader : header (value.without "type") = header value :=
    record_without rfl _ _ isMapping
  have sameBody : plainBody (value.without "type") = plainBody value :=
    record_without rfl _ _ isMapping
  unfold slide
  rw [if_pos isMapping, if_pos (isMapping_without "type" isMapping), typeName?_without isMapping,
    layout_unknown unknown, layout_unknown noType]
  simp only [sameHeader, sameBody]

theorem layout_of_slide {loaded : Slide} (reads : slide value = .ok loaded) :
    layout value.typeName? value = .ok loaded.layout := by
  unfold slide at reads
  split at reads
  · obtain ⟨shared, -, reads⟩ := Result.bind_eq_ok_iff.mp reads
    obtain ⟨body, bodyReads, same⟩ := Result.bind_eq_ok_iff.mp reads
    rw [← Except.ok.inj same]
    exact bodyReads
  · cases reads

theorem slide_name_unknown {loaded : Slide} (reads : slide value = .ok loaded)
    (unknown : ∀ name ∈ slideTypes, value.typeName? ≠ some name) :
    loaded.layout.name = "default" := by
  have body := layout_of_slide reads
  rw [layout_unknown unknown] at body
  obtain ⟨part, -, same⟩ := Result.map_eq_ok_iff.mp body
  rw [← same]
  rfl

theorem slide_name_known {loaded : Slide} (reads : slide value = .ok loaded) {name : String}
    (known : name ∈ slideTypes) (type : value.typeName? = some name) :
    loaded.layout.name = name := by
  have body := layout_of_slide reads
  rw [type] at body
  exact layout_name known body

/-! ### Blocks -/

/-- The types of blocks that are written as mappings. -/
def blockTypes : List String :=
  ["list", "card", "quote", "callout", "code", "flow", "two-column-content"]

theorem typedBlock_unknown {body : Reader Content} {typeName : Option String}
    (unknown : ∀ name ∈ blockTypes, typeName ≠ some name) :
    typedBlock body typeName = fun _ => .ok .unknown := by
  unfold typedBlock
  split <;> simp_all [blockTypes]

/-- Whatever else is in it, a mapping of an unknown type is an unknown block. -/
theorem block_unknown (isMapping : value.isMapping = true)
    (unknown : ∀ name ∈ blockTypes, value.typeName? ≠ some name) : block value = .ok .unknown := by
  unfold block blockAround
  split
  next text => cases isMapping
  next => rw [if_pos isMapping, typedBlock_unknown unknown]

theorem whole_eq {read : Reader α} {result : α}
    (reads : ∀ bare, value.bare? = some bare → read bare = .ok result) :
    whole read value = if value.bare?.isSome then .ok result else .error .sameKeys := by
  unfold whole
  cases someBare : value.bare? with
  | none => rfl
  | some bare => exact reads bare someBare

/-- In a body such a block is taken as a whole. -/
theorem whole_block_unknown (isMapping : value.isMapping = true)
    (unknown : ∀ name ∈ blockTypes, value.typeName? ≠ some name) :
    whole block value = if value.bare?.isSome then .ok .unknown else .error .sameKeys := by
  apply whole_eq
  intro bare someBare
  apply block_unknown
  · rw [Value.isMapping_bare someBare, isMapping]
  · rwa [Value.typeName?_bare someBare]

/-- Each item of a sequence is one block of the body, at its own place. -/
theorem blocks_of_content {items : List Value} {loaded : Content}
    (reads : content (.sequence items) = .ok loaded) :
    ∃ blocks, loaded = .blocks blocks ∧
      List.Forall₂ (fun item loadedBlock => whole block item = .ok loadedBlock) items blocks := by
  rw [content_sequence] at reads
  obtain ⟨blocks, itemsRead, rfl⟩ := Result.map_eq_ok_iff.mp reads
  exact ⟨blocks, rfl, Result.mapM_eq_ok_iff.mp itemsRead⟩

/-! ### Items of flow diagrams -/

/-- The fields of a box. -/
def boxFields : List String :=
  ["title", "subtitle", "content"]

theorem typeName?_of_no_mapping (noMapping : value.isMapping = false) :
    value.typeName? = none := by
  have noEntry : value.get? "type" = none := by
    unfold Value.isMapping at noMapping
    unfold Value.get?
    split at noMapping <;> simp_all
  rw [Value.typeName?, noEntry, Option.bind_none]

theorem whole_flowItem_other (noMapping : value.isMapping = false) :
    whole flowItem value = if value.bare?.isSome then .ok (.box .empty) else .error .sameKeys := by
  apply whole_eq
  intro bare someBare
  have bareNoMapping : bare.isMapping = false := by rw [Value.isMapping_bare someBare, noMapping]
  have noType := typeName?_of_no_mapping bareNoMapping
  unfold flowItem
  rw [noType, if_neg nofun, bareNoMapping]
  rfl

theorem read_loose (keys : List String) (put : Option String → α → α) (value : Value)
    (record : α) :
    (Field.loose keys put).read value record =
      if value.bare?.isSome then .ok (put ((value.bare?.map leaf).getD .null).text? record)
      else .error .sameKeys := by
  have loose : (Field.loose keys put).read value record =
      (looseText value).map (put · record) := rfl
  rw [loose]
  unfold looseText wholeLeaf whole
  cases value.bare? <;> rfl

section Loose

variable {fields : List (Field α)} (loose : ∀ field ∈ fields, ∃ key put, field = .loose [key] put)

include loose

/-- A record of loose fields with one key each is refused only for the value of a field. -/
theorem readEntries_loose (seen : List String) (record : α) {entries : List (String × Value)}
    (distinct : (entries.map Prod.fst).Nodup) (fresh : ∀ entry ∈ entries, entry.1 ∉ seen) :
    if AllBare (entries.filter fun entry => (fieldOf fields entry.1).isSome) then
      ∃ result, readEntries fields seen record (keyed entries) = .ok result
    else readEntries fields seen record (keyed entries) = .error .sameKeys := by
  induction entries generalizing seen record with
  | nil => exact ⟨record, rfl⟩
  | cons entry entries inductionHypothesis =>
      rw [List.map_cons, List.nodup_cons] at distinct
      rw [List.forall_mem_cons] at fresh
      cases known : fieldOf fields entry.1 with
      | none =>
          rw [List.filter_cons_of_neg (by simp [known]), readEntries_cons_unknown known]
          exact inductionHypothesis seen record distinct.2 fresh.2
      | some field =>
          obtain ⟨key, put, rfl⟩ := loose field (List.mem_of_find?_eq_some known)
          have contains := List.find?_some known
          obtain rfl : entry.1 = key := List.mem_singleton.mp (List.contains_iff_mem.mp contains)
          have unseen : (Field.loose [entry.1] put).name ∉ seen := fresh.1
          have others : ∀ other ∈ entries, other.1 ∉ entry.1 :: seen := by
            intro other member
            rw [List.mem_cons, not_or]
            refine ⟨?_, fresh.2 other member⟩
            rintro same
            exact distinct.1 (same ▸ List.mem_map_of_mem member)
          rw [List.filter_cons_of_pos (by simp [known]), readEntries_cons_known known,
            if_neg unseen, read_loose]
          simp only [Value.allBare_cons]
          cases entry.2.bare? with
          | none => simp [bind, Except.bind]
          | some bare =>
              simp only [Option.isSome_some, true_and, if_true, ok_bind]
              exact inductionHypothesis _ _ distinct.2 others

theorem record_loose {names : List String}
    (known : ∀ key, (fieldOf fields key).isSome = decide (key ∈ names)) (name : String) (start : α)
    {entries : List (String × Value)} (distinct : (entries.map Prod.fst).Nodup) :
    if AllBare (entries.filter fun entry => entry.1 ∈ names) then
      ∃ result, record name fields start (.mapping (keyed entries)) = .ok result
    else record name fields start (.mapping (keyed entries)) = .error .sameKeys := by
  have reads := readEntries_loose loose [] start distinct fun _ _ => List.not_mem_nil
  simp only [known] at reads
  exact reads

end Loose

variable {fields : List (String × Value)}

/-- The fields of an item that are read as fields of a box. -/
def ofBox (fields : List (String × Value)) : List (String × Value) :=
  fields.filter fun field => field.1 ∈ boxFields

theorem flowBox_keyed (distinct : (fields.map Prod.fst).Nodup) :
    if AllBare (ofBox fields) then ∃ box, flowBox (.mapping (keyed fields)) = .ok box
    else flowBox (.mapping (keyed fields)) = .error .sameKeys := by
  refine record_loose ?_ ?_ _ _ distinct
  · simp only [List.forall_mem_cons]
    exact ⟨⟨_, _, rfl⟩, ⟨_, _, rfl⟩, ⟨_, _, rfl⟩, nofun⟩
  · intro key
    rw [Bool.eq_iff_iff]
    simp [fieldOf, Field.loose, Field.of, boxFields]

/-- A mapping that is no arrow is a box, unless its tag names or those of a field of the box cannot
be made bare. -/
theorem whole_flowItem_box (distinct : (fields.map Prod.fst).Nodup)
    (noArrow : (Value.mapping (keyed fields)).typeName? ≠ some "arrow") :
    if AllBare fields ∧ AllBare (ofBox (fields.map bareField)) then
      ∃ box, whole flowItem (.mapping (keyed fields)) = .ok (.box box)
    else whole flowItem (.mapping (keyed fields)) = .error .sameKeys := by
  unfold whole
  rw [Value.bare?_keyed distinct]
  by_cases allBare : AllBare fields
  · have bareDistinct : ((fields.map bareField).map Prod.fst).Nodup := by
      rwa [Value.map_fst_bareField]
    have bareNoArrow : (Value.mapping (keyed (fields.map bareField))).typeName? ≠ some "arrow" := by
      rwa [Value.typeName?_map_bareField distinct allBare]
    have reads := flowBox_keyed bareDistinct
    have item : flowItem (.mapping (keyed (fields.map bareField))) =
        (flowBox (.mapping (keyed (fields.map bareField)))).map .box := by
      unfold flowItem
      rw [if_neg bareNoArrow]
      rfl
    rw [if_pos allBare]
    simp only [allBare, true_and, item]
    split
    next bareBox =>
      rw [if_pos bareBox] at reads
      obtain ⟨box, reads⟩ := reads
      exact ⟨box, by rw [reads]; rfl⟩
    next noBareBox =>
      rw [if_neg noBareBox] at reads
      rw [reads]
      rfl
  · rw [if_neg allBare, if_neg fun both => allBare both.1]

/-! ### All of them -/

/-- **Unknown types.** A slide of an unknown type is the slide of the mapping without its type, and
a slide of a known type has its name. A block of an unknown type is unknown, whatever else is in
it. A body that is read from a sequence has one block for each item, in order. An item of a diagram
that is no arrow is a box, an empty one if it is no mapping. What is taken as a whole is refused
only if its tag names cannot be made bare, which is always possible without custom tags. -/
theorem unknown_types :
    (∀ value : Value, value.isMapping = true →
      (∀ name ∈ slideTypes, value.typeName? ≠ some name) →
        slide value = slide (value.without "type") ∧
        (∀ loaded, slide value = .ok loaded → loaded.layout.name = "default") ∧
        ∀ index transition, (slide value).map (Markup.slide · index transition) =
          (slide (value.without "type")).map (Markup.slide · index transition)) ∧
      (∀ (value : Value) (loaded : Slide), slide value = .ok loaded → ∀ name ∈ slideTypes,
        value.typeName? = some name → loaded.layout.name = name) ∧
      (∀ value : Value, value.isMapping = true →
        (∀ name ∈ blockTypes, value.typeName? ≠ some name) → block value = .ok .unknown ∧
          whole block value = if value.bare?.isSome then .ok .unknown else .error .sameKeys) ∧
      (∀ (items : List Value) (loaded : Content), content (.sequence items) = .ok loaded →
        ∃ blocks, loaded = .blocks blocks ∧
          List.Forall₂ (fun item loadedBlock => whole block item = .ok loadedBlock) items blocks) ∧
      (∀ fields : List (String × Value), (fields.map Prod.fst).Nodup →
        (Value.mapping (keyed fields)).typeName? ≠ some "arrow" →
        if AllBare fields ∧ AllBare (ofBox (fields.map bareField)) then
          ∃ box, whole flowItem (.mapping (keyed fields)) = .ok (.box box)
        else whole flowItem (.mapping (keyed fields)) = .error .sameKeys) ∧
      (∀ value : Value, value.isMapping = false → whole flowItem value =
        if value.bare?.isSome then .ok (.box .empty) else .error .sameKeys) ∧
      ∀ value : Value, value.Tagless → value.bare? = some value := by
  refine ⟨?_, ?_, ?_, ?_, ?_, ?_, ?_⟩
  · intro value isMapping unknown
    have same := slide_without isMapping unknown
    refine ⟨same, fun loaded reads => slide_name_unknown reads unknown, ?_⟩
    intro index transition
    rw [same]
  · exact fun value loaded reads name known type => slide_name_known reads known type
  · exact fun value isMapping unknown =>
      ⟨block_unknown isMapping unknown, whole_block_unknown isMapping unknown⟩
  · exact fun items loaded reads => blocks_of_content reads
  · exact fun fields distinct noArrow => whole_flowItem_box distinct noArrow
  · exact fun value noMapping => whole_flowItem_other noMapping
  · exact fun value tagless => tagless.bare?_eq

/-- A number in place of the type is no type. -/
theorem unknown_types_sample :
    (Value.mapping (keyed [("type", .integer 5), ("title", .string "A")])).isMapping = true ∧
      (∀ name ∈ slideTypes, (Value.mapping
        (keyed [("type", .integer 5), ("title", .string "A")])).typeName? ≠ some name) ∧
      slide (.mapping (keyed [("type", .integer 5), ("title", .string "A")])) =
        slide (.mapping (keyed [("title", .string "A")])) ∧
      block (.mapping (keyed [("type", .integer 5), ("title", .string "A")])) = .ok .unknown := by
  obtain ⟨slides, -, blocks, -⟩ := unknown_types
  refine ⟨rfl, by decide, ?_, ?_⟩
  · exact (slides _ rfl (by decide)).1
  · exact (blocks _ rfl (by decide)).1

/-- A mapping whose two keys differ in their tags only. -/
def twins : Value :=
  .mapping [(.tagged "!!a" (.string "x"), .integer 1), (.tagged "!a" (.string "x"), .integer 2)]

/-- The keys of the twins become the same when their tag names are made bare, so a body that holds
them is refused, though they are a mapping without a type. -/
theorem twins_refused :
    (Value.tagged "!!a" (.string "x")).same (.tagged "!a" (.string "x")) = false ∧
      twins.isMapping = true ∧ twins.typeName? = none ∧ block twins = .ok .unknown ∧
      content (.sequence [twins]) = .error .sameKeys := by
  refine ⟨by decide, rfl, rfl, rfl, ?_⟩
  have noBare : twins.bare? = none := rfl
  have refused : whole block twins = .error .sameKeys := by rw [whole, noBare]
  rw [content_sequence, List.mapM_cons, refused]
  rfl

end SlideDeck.Schema
