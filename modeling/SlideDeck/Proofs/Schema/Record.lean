import Mathlib.Data.List.Nodup
import Mathlib.Data.List.Pairwise
import SlideDeck.Proofs.Schema.Grammar
import SlideDeck.Proofs.Yaml.Plain
import SlideDeck.Schema.Shape

/-!
Contract: readers take the values that conform to a shape, and no others.

Readers of bodies are bounded by the depth of values, so this is stated up to a depth; it is
handed on from the parts of a value to the whole.

Owns:
- `Accepts`, with one lemma for each way to make a reader from others;
- `list_null`, `record_null`: null reads as the empty list and the empty record, also among items;
- `Readable`, what entries are like of which a record is read;
- `accepts_record`: a record takes what conforms to the shapes of its fields.

Does not own: the readers of single records, and values with tags.
-/

namespace SlideDeck.Schema

open SlideDeck.Yaml (Value)
open SlideDeck.Yaml.Value (Plain keyed)

variable {α β ε : Type} {depth : Nat} {shape : Shape}

/-! ### Success -/

def Succeeds (result : Except ε α) : Prop :=
  ∃ value, result = .ok value

theorem succeeds_ok (value : α) : Succeeds (.ok value : Except ε α) := ⟨value, rfl⟩

theorem not_succeeds_error (cause : ε) : ¬Succeeds (.error cause : Except ε α) := nofun

theorem succeeds_map_iff {result : Except ε α} {next : α → β} :
    Succeeds (result.map next) ↔ Succeeds result := by
  cases result with
  | error cause => exact iff_of_false (not_succeeds_error cause) (not_succeeds_error cause)
  | ok value => exact iff_of_true (succeeds_ok (next value)) (succeeds_ok value)

theorem succeeds_bind_iff {result : Except ε α} {next : α → Except ε β} {condition : Prop}
    (goesOn : ∀ value, result = .ok value → (Succeeds (next value) ↔ condition)) :
    Succeeds (result >>= next) ↔ Succeeds result ∧ condition := by
  cases result with
  | error cause =>
      exact iff_of_false (not_succeeds_error cause) fun both => not_succeeds_error cause both.1
  | ok value =>
      rw [and_iff_right (succeeds_ok value)]
      exact goesOn value rfl

theorem succeeds_mapM_iff {read : α → Except ε β} {items : List α} :
    Succeeds (items.mapM read) ↔ ∀ item ∈ items, Succeeds (read item) := by
  induction items with
  | nil => simp [Succeeds, pure, Except.pure]
  | cons item items inductionHypothesis =>
      rw [List.mapM_cons, List.forall_mem_cons, ← inductionHypothesis]
      exact succeeds_bind_iff fun value _ => succeeds_map_iff

/-! ### Readers and shapes -/

/-- A reader takes the plain values up to a depth that conform to a shape, and no others. -/
def Accepts (depth : Nat) (read : Reader α) (shape : Shape) : Prop :=
  ∀ value : Value, value.Plain → value.depth ≤ depth →
    (Succeeds (read value) ↔ Conforms .reading shape value)

theorem accepts_anything {read : Reader α} (succeeds : ∀ value : Value, value.Plain →
    Succeeds (read value)) : Accepts depth read .anything :=
  fun value plain _ => iff_of_true (succeeds value plain) (.anything value)

theorem accepts_strictText : Accepts depth strictText .text := by
  intro value plain _
  unfold strictText
  rw [plain.untagged_eq]
  cases plain with
  | string text => exact iff_of_true (succeeds_ok text) (.text text)
  | null | bool | integer | float | sequence | mapping =>
      exact iff_of_false (not_succeeds_error _) nofun

theorem accepts_natural : Accepts depth natural .natural := by
  intro value plain _
  unfold natural
  rw [plain.untagged_eq]
  cases plain with
  | integer number =>
      dsimp only
      split
      next within =>
        have most : number ≤ Int.pow 2 32 - 1 := Int.le_sub_one_of_lt within.2
        exact iff_of_true (succeeds_ok _) (.natural within.1 most)
      next outside =>
        refine iff_of_false (not_succeeds_error _) ?_
        intro conforms
        cases conforms with
        | natural least most => exact outside ⟨least, Int.lt_of_le_sub_one most⟩
  | null | bool | string | float | sequence | mapping =>
      exact iff_of_false (not_succeeds_error _) nofun

theorem Accepts.whole {read : Reader α} (accepts : Accepts depth read shape) :
    Accepts depth (whole read) shape := by
  intro value plain within
  have reads : Schema.whole read value = read value := by rw [Schema.whole, plain.bare?_eq]
  rw [reads]
  exact accepts value plain within

theorem accepts_wholeLeaf : Accepts depth wholeLeaf .anything :=
  .whole (accepts_anything fun value _ => succeeds_ok (leaf value))

theorem Accepts.map {read : Reader α} {next : α → β} (accepts : Accepts depth read shape) :
    Accepts depth (fun value => (read value).map next) shape :=
  fun value plain within => succeeds_map_iff.trans (accepts value plain within)

theorem accepts_looseText : Accepts depth looseText .anything :=
  accepts_wholeLeaf.map

theorem Accepts.optional {read : Reader α} (accepts : Accepts depth read shape) :
    Accepts depth (optional read) (.optional shape) := by
  intro value plain within
  unfold Schema.optional
  by_cases null : isNull value = true
  · rw [if_pos null]
    obtain rfl : value = .null := by cases value <;> simp_all [isNull]
    exact iff_of_true (succeeds_ok none) (.absent shape)
  · rw [if_neg null, succeeds_map_iff, accepts value plain within]
    constructor
    · exact .present
    · intro conforms
      cases conforms with
      | absent => exact absurd rfl null
      | present conforms => exact conforms

theorem Accepts.list {read : Reader α} (accepts : Accepts depth read shape) :
    Accepts depth (list read) (.list shape) := by
  intro value plain within
  unfold Schema.list
  rw [plain.untagged_eq]
  cases plain with
  | null => exact iff_of_true (succeeds_ok []) (.emptyList rfl shape)
  | sequence plain =>
      dsimp only
      rw [succeeds_mapM_iff]
      have parts : ∀ item, item ∈ _ → (Succeeds (read item) ↔ Conforms .reading shape item) :=
        fun item member => accepts item (plain item member)
          (Nat.le_trans (Nat.le_of_lt (Value.depth_lt_of_mem_items member)) within)
      constructor
      · intro succeed
        exact .list fun item member => (parts item member).mp (succeed item member)
      · intro conforms item member
        cases conforms with
        | list items => exact (parts item member).mpr (items item member)
  | bool | integer | float | string | mapping =>
      exact iff_of_false (not_succeeds_error _) nofun

theorem accepts_looseTexts : Accepts depth looseTexts (.list .anything) :=
  .list accepts_wholeLeaf.map

theorem accepts_leaves : Accepts depth leaves (.list .anything) :=
  .list accepts_wholeLeaf

/-! ### Null in place of what is empty -/

theorem list_null (read : Reader α) : list read .null = list read (.sequence []) := rfl

theorem record_null (name : String) (fields : List (Field α)) (start : α) :
    record name fields start .null = record name fields start (.mapping []) := rfl

/-- An item, or in place of null the empty one. -/
def filled (empty value : Value) : Value :=
  if isNull value then empty else value

theorem list_filled {read : Reader α} {empty : Value} (same : read .null = read empty)
    (items : List Value) :
    list read (.sequence (items.map (filled empty))) = list read (.sequence items) := by
  have each : read ∘ filled empty = read := by
    funext value
    cases value with
    | null => exact same.symm
    | _ => rfl
  show (items.map (filled empty)).mapM read = items.mapM read
  rw [List.mapM_map, each]

/-! ### Records -/

/-- A field of a record takes the values of its shape, whatever is in the record already. -/
def Fits (depth : Nat) (part : Field α × Shape) : Prop :=
  ∀ (value : Value) (record : α), value.Plain → value.depth ≤ depth →
    (Succeeds (part.1.read value record) ↔ Conforms .reading part.2 value)

/-- A field belongs to a field of a shape: the names are the same and the values fit. -/
structure Matches (depth : Nat) (field : Field α) (named : List String × Shape) : Prop where
  names : field.keys = named.1
  fits : Fits depth (field, named.2)

theorem Accepts.field {read : Reader β} (accepts : Accepts depth read shape)
    (keys : List String) (put : β → α → α) :
    Matches depth (.of keys read put) (keys, shape) where
  names := rfl
  fits value _ plain within := succeeds_map_iff.trans (accepts value plain within)

theorem matches_loose (keys : List String) (put : Option String → α → α) :
    Matches depth (.loose keys put) (Shape.loose keys) :=
  accepts_looseText.field keys put

theorem matches_strict (keys : List String) (put : Option String → α → α) :
    Matches depth (.of keys (optional strictText) put) (Shape.strict keys) :=
  accepts_strictText.optional.field keys put

section Entries

variable {parts : List (Field α × Shape)} {entries : List (String × Value)}

theorem part_unique (apart : (parts.flatMap (·.1.keys)).Nodup) {first second : Field α × Shape}
    (firstMember : first ∈ parts) (secondMember : second ∈ parts) {key : String}
    (firstKey : key ∈ first.1.keys) (secondKey : key ∈ second.1.keys) : first = second := by
  rw [List.nodup_flatMap] at apart
  by_contra different
  have symmetric : Std.Symm fun first second : Field α × Shape =>
      Function.onFun List.Disjoint (·.1.keys) first second :=
    ⟨fun _ _ disjoint _ inSecond inFirst => disjoint inFirst inSecond⟩
  exact apart.2.forall firstMember secondMember different firstKey secondKey

/-- Fields that share their own names are one field if they have keys. -/
theorem part_unique_of_name (apart : (parts.flatMap (·.1.keys)).Nodup)
    {first second : Field α × Shape}
    (firstMember : first ∈ parts) (secondMember : second ∈ parts) (firstKeys : first.1.keys ≠ [])
    (secondKeys : second.1.keys ≠ []) (sameName : first.1.name = second.1.name) :
    first = second := by
  have own : ∀ field : Field α, field.keys ≠ [] → field.name ∈ field.keys := by
    intro field nonempty
    obtain ⟨key, keys, equal⟩ := List.exists_cons_of_ne_nil nonempty
    simp [Field.name, equal]
  refine part_unique apart firstMember secondMember (own first.1 firstKeys) ?_
  rw [sameName]
  exact own second.1 secondKeys

/-- What entries must be like for a record to be read of them behind other fields. -/
structure Readable (parts : List (Field α × Shape)) (seen : List String)
    (entries : List (String × Value)) : Prop where
  values : ∀ entry ∈ entries, ∀ part ∈ parts, entry.1 ∈ part.1.keys →
    part.1.name ∉ seen ∧ Conforms .reading part.2 entry.2
  names : entries.Pairwise fun first second => ∀ part ∈ parts, first.1 ∈ part.1.keys →
    second.1 ∉ part.1.keys

theorem readable_nil (seen : List String) : Readable parts seen [] :=
  ⟨by simp, .nil⟩

/-- An entry under an unknown key does not matter. -/
theorem readable_cons_unknown {seen : List String} {entry : String × Value}
    (unknown : ∀ part ∈ parts, entry.1 ∉ part.1.keys) :
    Readable parts seen (entry :: entries) ↔ Readable parts seen entries := by
  constructor
  · intro readable
    exact ⟨fun other member => readable.values other (List.mem_cons_of_mem _ member),
      readable.names.of_cons⟩
  · intro readable
    constructor
    · intro other member part partMember key
      rcases List.mem_cons.mp member with rfl | member
      · exact absurd key (unknown part partMember)
      · exact readable.values other member part partMember key
    · refine .cons ?_ readable.names
      intro other _ part partMember key
      exact absurd key (unknown part partMember)

/-- An entry of a field: its value conforms, and the field is not seen before or again. -/
theorem readable_cons_known (apart : (parts.flatMap (·.1.keys)).Nodup) {seen : List String}
    {entry : String × Value} {part : Field α × Shape} (partMember : part ∈ parts)
    (known : entry.1 ∈ part.1.keys) :
    Readable parts seen (entry :: entries) ↔
      (part.1.name ∉ seen ∧ Conforms .reading part.2 entry.2) ∧
        Readable parts (part.1.name :: seen) entries := by
  have unique : ∀ other ∈ parts, entry.1 ∈ other.1.keys → other = part :=
    fun other member key => part_unique apart member partMember key known
  constructor
  · intro readable
    refine ⟨readable.values entry List.mem_cons_self part partMember known, ?_, ?_⟩
    · intro later laterMember other otherMember key
      obtain ⟨unseen, conforms⟩ :=
        readable.values later (List.mem_cons_of_mem _ laterMember) other otherMember key
      refine ⟨?_, conforms⟩
      rw [List.mem_cons, not_or]
      refine ⟨?_, unseen⟩
      intro sameName
      obtain rfl := part_unique_of_name apart otherMember partMember (List.ne_nil_of_mem key)
        (List.ne_nil_of_mem known) sameName
      exact List.rel_of_pairwise_cons readable.names laterMember other otherMember known key
    · exact readable.names.of_cons
  · intro given
    obtain ⟨first, others⟩ := given
    constructor
    · intro later laterMember other otherMember key
      rcases List.mem_cons.mp laterMember with rfl | laterMember
      · rw [unique other otherMember key]
        exact first
      · obtain ⟨unseen, conforms⟩ := others.values later laterMember other otherMember key
        rw [List.mem_cons, not_or] at unseen
        exact ⟨unseen.2, conforms⟩
    · refine .cons ?_ others.names
      intro later laterMember other otherMember key again
      rw [unique other otherMember key] at again
      have unseen := (others.values later laterMember part partMember again).1
      exact unseen List.mem_cons_self

theorem ok_bind {β : Type} (value : α) (next : α → Except Mismatch β) :
    (.ok value >>= next) = next value := rfl

theorem succeeds_readEntries_iff (fits : ∀ part ∈ parts, Fits depth part)
    (apart : (parts.flatMap (·.1.keys)).Nodup) (seen : List String) (record : α)
    (plain : ∀ entry ∈ entries, entry.2.Plain) (within : ∀ entry ∈ entries, entry.2.depth ≤ depth) :
    Succeeds (readEntries (parts.map Prod.fst) seen record (keyed entries)) ↔
      Readable parts seen entries := by
  induction entries generalizing seen record with
  | nil => exact iff_of_true (succeeds_ok record) (readable_nil seen)
  | cons entry entries inductionHypothesis =>
      rw [List.forall_mem_cons] at plain within
      have key : fieldKey (.string entry.1) = .ok entry.1 := rfl
      rw [Value.keyed_cons, readEntries, key, ok_bind, List.find?_map]
      cases found : parts.find? ((·.keys.contains entry.1) ∘ Prod.fst) with
      | none =>
          have unknown : ∀ part ∈ parts, entry.1 ∉ part.1.keys := by
            intro part member
            simpa using List.find?_eq_none.mp found part member
          rw [readable_cons_unknown unknown]
          exact inductionHypothesis seen record plain.2 within.2
      | some part =>
          have partMember := List.mem_of_find?_eq_some found
          have known : entry.1 ∈ part.1.keys := by simpa using List.find?_some found
          rw [readable_cons_known apart partMember known]
          dsimp only [Option.map_some]
          by_cases before : seen.contains part.1.name = true
          · rw [if_pos before]
            refine iff_of_false (not_succeeds_error _) ?_
            intro readable
            exact readable.1.1 (by simpa using before)
          · rw [if_neg before, and_iff_right (a := part.1.name ∉ seen) (by simpa using before),
              ← fits part partMember entry.2 record plain.1 within.1]
            exact succeeds_bind_iff fun next _ => inductionHypothesis _ next plain.2 within.2

/-- Entries with different keys are readable exactly if they conform. -/
theorem readable_iff_conforms (distinct : (entries.map Prod.fst).Nodup) :
    Readable parts [] entries ↔
      Conforms .reading (.record (parts.map fun part => (part.1.keys, part.2)))
        (.mapping (keyed entries)) := by
  constructor
  · intro readable
    refine .record ?_ ?_
    · intro named member name nameMember value present
      obtain ⟨part, partMember, rfl⟩ := List.mem_map.mp member
      have entryMember := Value.string_mem_keyed.mp present
      exact (readable.values _ entryMember part partMember nameMember).2
    · intro _ named member first firstMember second secondMember firstValue secondValue
        firstPresent secondPresent
      obtain ⟨part, partMember, rfl⟩ := List.mem_map.mp member
      by_contra different
      have firstEntry := Value.string_mem_keyed.mp firstPresent
      have secondEntry := Value.string_mem_keyed.mp secondPresent
      have symmetric : Std.Symm fun first second : String × Value =>
          ∀ part ∈ parts, first.1 ∈ part.1.keys → second.1 ∉ part.1.keys :=
        ⟨fun _ _ related other otherMember key again => related other otherMember again key⟩
      exact readable.names.forall firstEntry secondEntry
        (fun equal => different (congrArg Prod.fst equal)) part partMember firstMember secondMember
  · intro conforms
    cases conforms with
    | record values names =>
        have field : ∀ part ∈ parts, (part.1.keys, part.2) ∈
            parts.map fun part => (part.1.keys, part.2) :=
          fun part member => List.mem_map_of_mem (f := fun part => (part.1.keys, part.2)) member
        constructor
        · intro entry member part partMember key
          refine ⟨by simp, ?_⟩
          exact values _ (field part partMember) entry.1 key entry.2
            (Value.string_mem_keyed.mpr member)
        · rw [List.Nodup, List.pairwise_map] at distinct
          refine distinct.imp_of_mem ?_
          intro first second firstMember secondMember different part partMember key again
          exact different (names rfl _ (field part partMember) first.1 key second.1 again first.2
            second.2 (Value.string_mem_keyed.mpr firstMember)
            (Value.string_mem_keyed.mpr secondMember))

end Entries

/-- A record takes what conforms to the shapes of its fields. -/
theorem accepts_record {fields : List (Field α)} {named : List (List String × Shape)}
    (name : String) (start : α) (matching : List.Forall₂ (Matches depth) fields named)
    (apart : (named.flatMap Prod.fst).Nodup) :
    Accepts depth (record name fields start) (.record named) := by
  obtain ⟨parts, rfl, rfl, fits⟩ : ∃ parts : List (Field α × Shape), fields = parts.map Prod.fst ∧
      named = parts.map (fun part => (part.1.keys, part.2)) ∧ ∀ part ∈ parts, Fits depth part := by
    clear apart
    induction matching with
    | nil => exact ⟨[], rfl, rfl, by simp⟩
    | @cons field shape _ _ first _ inductionHypothesis =>
        obtain ⟨parts, rfl, rfl, fits⟩ := inductionHypothesis
        refine ⟨(field, shape.2) :: parts, rfl, ?_, ?_⟩
        · rw [List.map_cons, first.names]
        · rw [List.forall_mem_cons]
          exact ⟨first.fits, fits⟩
  rw [List.flatMap_map] at apart
  intro value plain within
  unfold record
  rw [plain.untagged_eq]
  cases plain with
  | null => exact iff_of_true (succeeds_ok start) (.emptyRecord rfl _)
  | mapping distinct plain =>
      have shallow := fun entry member =>
        Nat.le_trans (Nat.le_of_lt (Value.depth_lt_of_mem_keyed entry member)) within
      exact (succeeds_readEntries_iff fits apart [] start plain shallow).trans
        (readable_iff_conforms distinct)
  | bool | integer | float | string | sequence =>
      exact iff_of_false (not_succeeds_error _) nofun

end SlideDeck.Schema
