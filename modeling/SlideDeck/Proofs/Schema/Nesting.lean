import Mathlib.Data.List.Forall2
import SlideDeck.Proofs.Result
import SlideDeck.Proofs.Schema.Record
import SlideDeck.Proofs.Yaml.Depth
import SlideDeck.Schema.Content

/-!
Contract: bodies inside of bodies are read like bodies.

The reader of bodies is bounded by the depth of the value that it is given, and hands a smaller
bound on to the bodies inside. Every bound that is at least the depth of a value gives the same,
so the bound can be left out of account.

Owns:
- `Agree`, readers that are the same up to a depth, handed on from parts to wholes;
- `content_sequence`: the blocks of a body are read by `block`.
-/

namespace SlideDeck.Schema

open SlideDeck.Deck
open SlideDeck.Yaml (Value)

variable {α β : Type} {depth : Nat} {read other : Reader α}

/-- Two readers are the same for the values up to a depth. -/
def Agree (depth : Nat) (read other : Reader α) : Prop :=
  ∀ value : Value, value.depth ≤ depth → read value = other value

theorem Agree.map (agree : Agree depth read other) (next : α → β) :
    Agree depth (fun value => (read value).map next) fun value => (other value).map next := by
  intro value within
  dsimp only
  rw [agree value within]

theorem Agree.optional (agree : Agree depth read other) :
    Agree depth (optional read) (optional other) := by
  intro value within
  rw [Schema.optional, Schema.optional, agree value within]

theorem Agree.whole (agree : Agree depth read other) :
    Agree depth (whole read) (whole other) := by
  intro value within
  unfold Schema.whole
  cases someBare : value.bare? with
  | none => rfl
  | some bare => exact agree bare (Nat.le_trans (Value.depth_bare_le value someBare) within)

theorem Agree.mapM (agree : Agree depth read other) {items : List Value}
    (within : (Value.sequence items).depth ≤ depth + 1) :
    items.mapM read = items.mapM other := by
  rw [Value.depth] at within
  refine Result.mapM_congr fun item member => agree item ?_
  exact Value.depthOfItems_le_iff.mp (Nat.le_of_succ_le_succ within) item member

theorem Agree.list (agree : Agree depth read other) : Agree depth (list read) (list other) := by
  intro value within
  unfold Schema.list
  cases untagged : value.untagged with
  | sequence items =>
      have lower := Value.depth_untagged_le value
      rw [untagged] at lower
      exact agree.mapM (by omega)
  | _ => rfl

/-! ### Records -/

/-- Two fields with the same keys that read the values up to a depth in the same way. -/
structure AgreeOn (depth : Nat) (field other : Field α) : Prop where
  keys : field.keys = other.keys
  read : ∀ (value : Value) (record : α), value.depth ≤ depth →
    field.read value record = other.read value record

theorem agreeOn_self (field : Field α) : AgreeOn depth field field :=
  ⟨rfl, fun _ _ _ => rfl⟩

theorem Agree.field {part otherPart : Reader β} (agree : Agree depth part otherPart)
    (keys : List String) (put : β → α → α) :
    AgreeOn depth (.of keys part put) (.of keys otherPart put) where
  keys := rfl
  read value record within := by
    dsimp only [Field.of]
    rw [agree value within]

section Record

variable {fields others : List (Field α)} (agree : List.Forall₂ (AgreeOn depth) fields others)

include agree

theorem find?_agree (key : String) :
    Option.Rel (AgreeOn depth) (fields.find? (·.keys.contains key))
      (others.find? (·.keys.contains key)) := by
  induction agree with
  | nil => exact .none
  | cons first _ inductionHypothesis =>
      rw [List.find?_cons, List.find?_cons, first.keys]
      split
      · exact .some first
      · exact inductionHypothesis

theorem readEntries_agree {entries : List (Value × Value)}
    (within : ∀ entry ∈ entries, entry.2.depth ≤ depth) (seen : List String) (record : α) :
    readEntries fields seen record entries = readEntries others seen record entries := by
  induction entries generalizing seen record with
  | nil => rfl
  | cons entry entries inductionHypothesis =>
      rw [List.forall_mem_cons] at within
      rw [readEntries, readEntries]
      congr 1
      funext name
      have found := find?_agree agree name
      generalize fields.find? (·.keys.contains name) = field at found ⊢
      generalize others.find? (·.keys.contains name) = otherField at found ⊢
      cases found with
      | none => exact inductionHypothesis within.2 seen record
      | some both =>
          have sameName : Field.name _ = Field.name _ := congrArg (·.headD "") both.keys
          simp only [sameName, both.read _ _ within.1, inductionHypothesis within.2]

theorem agree_record (name : String) (start : α) :
    Agree depth (record name fields start) (record name others start) := by
  intro value within
  unfold record
  cases untagged : value.untagged with
  | mapping entries =>
      have lower := Value.depth_untagged_le value
      rw [untagged, Value.depth] at lower
      refine readEntries_agree agree (fun entry member => ?_) [] start
      exact (Value.depthOfEntries_le_iff.mp (by omega) entry member).2
  | _ => rfl

end Record

/-! ### Bodies -/

section Bodies

variable {body otherBody : Reader Content} (agree : Agree depth body otherBody)

include agree

theorem agree_card : Agree depth (card body) (card otherBody) :=
  agree_record (.cons (agreeOn_self _) (.cons (agreeOn_self _)
    (.cons (agree.optional.field _ _) .nil))) _ _

theorem agree_callout : Agree depth (callout body) (callout otherBody) :=
  agree_record (.cons (agree.optional.field _ _) (.cons (agreeOn_self _) .nil)) _ _

theorem agree_column : Agree depth (column body) (column otherBody) :=
  agree_record (.cons (agreeOn_self _) (.cons ((agree_card agree).list.optional.field _ _)
    (.cons (agree.optional.field _ _) .nil))) _ _

theorem agree_columnPair : Agree depth (columnPair body) (columnPair otherBody) :=
  agree_record (.cons ((agree_column agree).optional.field _ _)
    (.cons ((agree_column agree).optional.field _ _) .nil)) _ _

theorem agree_typedBlock (typeName : Option String) :
    Agree depth (typedBlock body typeName) (typedBlock otherBody typeName) := by
  unfold typedBlock
  split
  · exact fun _ _ => rfl
  · exact (agree_card agree).map _
  · exact fun _ _ => rfl
  · exact (agree_callout agree).map _
  · exact fun _ _ => rfl
  · exact fun _ _ => rfl
  · exact (agree_columnPair agree).map _
  · exact fun _ _ => rfl

theorem agree_blockAround : Agree depth (blockAround body) (blockAround otherBody) := by
  intro value within
  unfold blockAround
  split
  · rfl
  · rw [agree_typedBlock agree _ value within]

end Bodies

/-- Every larger bound is as good as a bound: by induction on it, since the blocks of a sequence
are less deep than it is. -/
theorem contentWithin_agree {bound larger : Nat} (least : bound ≤ larger) :
    Agree bound (contentWithin bound) (contentWithin larger) := by
  induction bound generalizing larger with
  | zero =>
      intro value within
      exact absurd (Value.one_le_depth value) (by omega)
  | succ bound inductionHypothesis =>
      obtain ⟨larger, rfl⟩ : ∃ smaller, larger = smaller + 1 := ⟨larger - 1, by omega⟩
      intro value within
      unfold contentWithin
      cases value with
      | sequence items =>
          have smaller := inductionHypothesis (Nat.le_of_succ_le_succ least)
          have blocks := agree_blockAround smaller.whole
          dsimp only
          rw [blocks.whole.mapM within]
      | _ => rfl

theorem content_agree (bound : Nat) : Agree bound (contentWithin bound) content :=
  fun value within => (contentWithin_agree within value (Nat.le_refl _)).symm

/-- The blocks of a body are read by `block`. -/
theorem content_sequence (items : List Value) :
    content (.sequence items) = (items.mapM (whole block)).map .blocks := by
  have blocks := agree_blockAround (content_agree (Value.depthOfItems items)).whole
  have within : (Value.sequence items).depth ≤ Value.depthOfItems items + 1 := Nat.le_refl _
  have unfolded : content (.sequence items) =
      (items.mapM (whole (blockAround (whole (contentWithin (Value.depthOfItems items)))))).map
        .blocks := rfl
  rw [unfolded, blocks.whole.mapM within]
  rfl

end SlideDeck.Schema
