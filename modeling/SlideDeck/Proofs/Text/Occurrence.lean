import SlideDeck.Text.Occurrence

/-!
Contract: the laws of cutting a text along a pattern and of spelling it again.

Owns:
- `spell` and `values` on lists of segments;
- one equation of `segments` for each answer of the pattern, and the induction that follows them;
- `Spells`: a pattern that finds what is written and nothing else cuts a text without a loss;
- `Separated`: the segments that such a pattern finds again in their text.

Does not own: what a particular pattern finds.
-/

namespace SlideDeck.Text

variable {σ α : Type}

section Spell

variable (write : α → List σ)

@[simp] theorem spell_nil : spell write [] = [] := rfl

@[simp] theorem spell_kept (letter : σ) (segments : List (Segment σ α)) :
    spell write (.kept letter :: segments) = letter :: spell write segments := rfl

@[simp] theorem spell_occurrence (value : α) (segments : List (Segment σ α)) :
    spell write (.occurrence value :: segments) = write value ++ spell write segments := rfl

@[simp] theorem spell_append (front back : List (Segment σ α)) :
    spell write (front ++ back) = spell write front ++ spell write back := by
  simp [spell]

@[simp] theorem spell_map_kept (text : List σ) : spell write (text.map .kept) = text := by
  induction text with
  | nil => rfl
  | cons letter rest inductionHypothesis => simp [inductionHypothesis]

end Spell

@[simp] theorem values_nil : values ([] : List (Segment σ α)) = [] := rfl

@[simp] theorem values_kept (letter : σ) (segments : List (Segment σ α)) :
    values (.kept letter :: segments) = values segments := rfl

@[simp] theorem values_occurrence (value : α) (segments : List (Segment σ α)) :
    values (.occurrence value :: segments) = value :: values segments := rfl

@[simp] theorem values_append (front back : List (Segment σ α)) :
    values (front ++ back) = values front ++ values back := by
  simp [values]

@[simp] theorem values_map_kept (text : List σ) :
    values (text.map .kept : List (Segment σ α)) = [] := by
  induction text with
  | nil => rfl
  | cons letter rest inductionHypothesis => simpa using inductionHypothesis

namespace Pattern

variable (pattern : Pattern σ α)

@[simp] theorem segments_nil : pattern.segments [] = [] := rfl

theorem segments_of_none {letter : σ} {rest : List σ} (absent : pattern (letter :: rest) = none) :
    pattern.segments (letter :: rest) = .kept letter :: pattern.segments rest := by
  simp [segments, segmentsAfter, absent]

theorem segments_of_some {letter : σ} {rest : List σ} {found : Found α}
    (present : pattern (letter :: rest) = some found) :
    pattern.segments (letter :: rest) =
      .occurrence found.value :: pattern.segments (rest.drop (found.extent - 1)) := by
  rw [segments, segmentsAfter, present, ← segmentsAfter_eq_drop]

theorem segments_of_front {front rest : List σ} {found : Found α}
    (present : pattern (front ++ rest) = some found) (nonempty : front ≠ [])
    (extent : found.extent = front.length) :
    pattern.segments (front ++ rest) = .occurrence found.value :: pattern.segments rest := by
  obtain ⟨letter, others, rfl⟩ := List.exists_cons_of_ne_nil nonempty
  rw [List.cons_append] at present ⊢
  rw [segments_of_some pattern present, extent]
  simp

/-- A segment is a letter of the text or an occurrence that is found in it. -/
theorem mem_segments {pattern : Pattern σ α} {text : List σ} {segment : Segment σ α}
    (member : segment ∈ pattern.segments text) :
    (∃ letter ∈ text, segment = .kept letter) ∨
      ∃ behind found, pattern behind = some found ∧ segment = .occurrence found.value := by
  suffices general : ∀ skipped, segment ∈ pattern.segmentsAfter skipped text →
      (∃ letter ∈ text, segment = .kept letter) ∨
        ∃ behind found, pattern behind = some found ∧ segment = .occurrence found.value from
    general 0 member
  clear member
  induction text with
  | nil => simp [segmentsAfter]
  | cons first rest inductionHypothesis =>
      have later : ∀ skipped, segment ∈ pattern.segmentsAfter skipped rest →
          (∃ letter ∈ first :: rest, segment = .kept letter) ∨
            ∃ behind found, pattern behind = some found ∧ segment = .occurrence found.value := by
        intro skipped member
        rcases inductionHypothesis skipped member with ⟨letter, inRest, equal⟩ | occurs
        · exact .inl ⟨letter, List.mem_cons_of_mem _ inRest, equal⟩
        · exact .inr occurs
      intro skipped member
      cases skipped with
      | succ skipped => exact later skipped member
      | zero =>
          rw [segmentsAfter] at member
          split at member
          next =>
            rcases List.mem_cons.mp member with here | member
            · exact .inl ⟨first, List.mem_cons_self, here⟩
            · exact later 0 member
          next found present =>
            rcases List.mem_cons.mp member with here | member
            · exact .inr ⟨first :: rest, found, present, here⟩
            · exact later _ member

theorem mem_of_kept_mem_segments {pattern : Pattern σ α} {letter : σ} {text : List σ}
    (member : .kept letter ∈ pattern.segments text) : letter ∈ text := by
  rcases mem_segments member with ⟨other, inText, equal⟩ | ⟨_, _, -, equal⟩
  · rw [Segment.kept.inj equal]
    exact inText
  · simp at equal

theorem exists_found_of_mem_values {pattern : Pattern σ α} {value : α} {text : List σ}
    (member : value ∈ values (pattern.segments text)) :
    ∃ behind found, pattern behind = some found ∧ found.value = value := by
  obtain ⟨segment, segmentMember, isValue⟩ := List.mem_filterMap.mp member
  rcases mem_segments segmentMember with ⟨_, -, rfl⟩ | ⟨behind, found, present, rfl⟩
  · simp at isValue
  · exact ⟨behind, found, present, Option.some.inj isValue⟩

/-- What is found takes at least one letter and no more than there are. -/
def Advances : Prop :=
  ∀ text found, pattern text = some found → 0 < found.extent ∧ found.extent ≤ text.length

/-- Induction along the scan of a text: a letter at which nothing is found is left behind alone,
an occurrence with all its letters. -/
theorem scan_induction (advances : pattern.Advances) {motive : List σ → Prop} (nil : motive [])
    (kept : ∀ letter rest, pattern (letter :: rest) = none → motive rest → motive (letter :: rest))
    (found : ∀ front rest found, pattern (front ++ rest) = some found → front ≠ [] →
      found.extent = front.length → motive rest → motive (front ++ rest))
    (text : List σ) : motive text := by
  generalize lengthEq : text.length = length
  induction length using Nat.strongRecOn generalizing text with
  | ind length inductionHypothesis =>
      cases answer : pattern text with
      | none =>
          cases text with
          | nil => exact nil
          | cons letter rest =>
              rw [List.length_cons] at lengthEq
              exact kept letter rest answer (inductionHypothesis _ (by omega) rest rfl)
      | some occurrence =>
          obtain ⟨positive, within⟩ := advances text occurrence answer
          have frontLength : (text.take occurrence.extent).length = occurrence.extent := by
            rw [List.length_take]
            omega
          have behind := inductionHypothesis (text.drop occurrence.extent).length
            (by rw [List.length_drop]; omega) _ rfl
          rw [← List.take_append_drop occurrence.extent text] at answer ⊢
          apply found _ _ occurrence answer _ frontLength.symm behind
          apply List.ne_nil_of_length_pos
          omega

/-- A pattern that finds what is written at the front of the text, and nothing else. -/
structure Spells (write : α → List σ) : Prop where
  some_iff : ∀ {text found}, pattern text = some found ↔
    write found.value <+: text ∧ found.extent = (write found.value).length
  nonempty : ∀ value, write value ≠ []

/-- Segments among whose letters the pattern finds nothing. -/
inductive Separated (write : α → List σ) : List (Segment σ α) → Prop where
  | nil : Separated write []
  | kept {letter : σ} {rest : List (Segment σ α)}
      (absent : pattern (letter :: spell write rest) = none) (separated : Separated write rest) :
      Separated write (.kept letter :: rest)
  | occurrence (value : α) {rest : List (Segment σ α)} (separated : Separated write rest) :
      Separated write (.occurrence value :: rest)

namespace Spells

variable {pattern} {write : α → List σ} (spells : pattern.Spells write)

include spells

theorem advances : pattern.Advances := by
  intro text found present
  obtain ⟨front, extent⟩ := spells.some_iff.mp present
  rw [extent]
  exact ⟨List.length_pos_iff.mpr (spells.nonempty _), front.length_le⟩

theorem segments_append (value : α) (rest : List σ) :
    pattern.segments (write value ++ rest) = .occurrence value :: pattern.segments rest := by
  have present : pattern (write value ++ rest) = some ⟨value, (write value).length⟩ :=
    spells.some_iff.mpr ⟨List.prefix_append _ _, rfl⟩
  exact pattern.segments_of_front present (spells.nonempty value) rfl

theorem front_eq {front rest : List σ} {found : Found α}
    (present : pattern (front ++ rest) = some found) (extent : found.extent = front.length) :
    front = write found.value := by
  obtain ⟨⟨behind, whole⟩, length⟩ := spells.some_iff.mp present
  exact (List.append_inj whole (by rw [← extent, length])).1.symm

theorem spell_segments (text : List σ) : spell write (pattern.segments text) = text := by
  induction text using pattern.scan_induction spells.advances with
  | nil => rfl
  | kept letter rest absent inductionHypothesis =>
      rw [pattern.segments_of_none absent, spell_kept, inductionHypothesis]
  | found front rest found present nonempty extent inductionHypothesis =>
      rw [pattern.segments_of_front present nonempty extent, spell_occurrence,
        inductionHypothesis, ← spells.front_eq present extent]

theorem separated_segments (text : List σ) : pattern.Separated write (pattern.segments text) := by
  induction text using pattern.scan_induction spells.advances with
  | nil => exact .nil
  | kept letter rest absent inductionHypothesis =>
      rw [pattern.segments_of_none absent]
      refine .kept ?_ inductionHypothesis
      rw [spells.spell_segments, absent]
  | found front rest found present nonempty extent inductionHypothesis =>
      rw [pattern.segments_of_front present nonempty extent]
      exact .occurrence found.value inductionHypothesis

theorem segments_spell {text : List (Segment σ α)} (separated : pattern.Separated write text) :
    pattern.segments (spell write text) = text := by
  induction separated with
  | nil => rfl
  | kept absent separated inductionHypothesis =>
      rw [spell_kept, pattern.segments_of_none absent, inductionHypothesis]
  | occurrence value separated inductionHypothesis =>
      rw [spell_occurrence, spells.segments_append, inductionHypothesis]

end Spells

end Pattern

end SlideDeck.Text
