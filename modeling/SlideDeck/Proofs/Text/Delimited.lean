import SlideDeck.Proofs.Text.Span

/-!
Contract: patterns whose occurrences begin and end with edges.

What such a pattern finds at the front of a text depends on the letters of the occurrence alone.
Letters that are no edges can therefore stand around a text, and nothing else is found in it: no
occurrence begins in them, none that is open in the text ends in them, and none that the text has
is lost.

Owns:
- `Delimited`, with `segments_between` and `replaceEach_between`;
- spans, and patterns that find what is written, as such patterns.

Does not own: which letters are edges.
-/

namespace SlideDeck.Text

variable {σ α : Type}

namespace Pattern

/-- A pattern finds the runs of a shape at the front of a text, and every such run begins and ends
with an edge. -/
structure Delimited (pattern : Pattern σ α) (isEdge : σ → Prop)
    (shape : Found α → List σ → Prop) : Prop where
  some_iff : ∀ {text found}, pattern text = some found ↔
    ∃ run rest, shape found run ∧ text = run ++ rest
  extent : ∀ {found run}, shape found run → found.extent = run.length
  first : ∀ {found run}, shape found run → ∃ edge ∈ run.head?, isEdge edge
  last : ∀ {found run}, shape found run → ∃ edge ∈ run.getLast?, isEdge edge

namespace Delimited

variable {pattern : Pattern σ α} {isEdge : σ → Prop} {shape : Found α → List σ → Prop}
  (delimited : pattern.Delimited isEdge shape) {letter : σ} {before after : List σ}

include delimited

theorem advances : pattern.Advances := by
  intro text found present
  obtain ⟨run, rest, shaped, rfl⟩ := delimited.some_iff.mp present
  obtain ⟨edge, isFirst, -⟩ := delimited.first shaped
  rw [delimited.extent shaped, List.length_append]
  have nonempty : 0 < run.length := List.length_pos_of_mem (List.mem_of_mem_head? isFirst)
  omega

/-- No occurrence begins with a letter that is no edge. -/
theorem eq_none_of_plain (plain : ¬isEdge letter) (rest : List σ) :
    pattern (letter :: rest) = none := by
  apply Option.eq_none_iff_forall_ne_some.mpr
  intro found present
  obtain ⟨run, behind, shaped, whole⟩ := delimited.some_iff.mp present
  obtain ⟨edge, isFirst, isEdge⟩ := delimited.first shaped
  have isHead : (letter :: rest).head? = some edge := by
    rw [whole, List.head?_append, Option.mem_def.mp isFirst, Option.some_or]
  obtain rfl : letter = edge := Option.some.inj isHead
  exact plain isEdge

/-- No occurrence goes on into letters that are no edges. -/
theorem append_plain (plain : ∀ letter ∈ after, ¬isEdge letter) (text : List σ) :
    pattern (text ++ after) = pattern text := by
  apply Option.ext
  intro found
  rw [delimited.some_iff, delimited.some_iff]
  constructor
  · rintro ⟨run, rest, shaped, whole⟩
    rcases List.append_eq_append_iff.mp whole with ⟨gap, rfl, rfl⟩ | ⟨gap, rfl, -⟩
    · -- The run would end in the plain letters, unless it ends with the text.
      obtain ⟨edge, isLast, isEdge⟩ := delimited.last shaped
      rcases List.eq_nil_or_concat gap with rfl | ⟨front, last, rfl⟩
      · exact ⟨text ++ [], [], shaped, by simp⟩
      · have same : last = edge := by simpa using isLast
        exact absurd (same ▸ isEdge) (plain last (by simp))
    · exact ⟨run, gap, shaped, rfl⟩
  · rintro ⟨run, rest, shaped, rfl⟩
    exact ⟨run, rest ++ after, shaped, List.append_assoc run rest after⟩

theorem segments_plain (plain : ∀ letter ∈ before, ¬isEdge letter) (text : List σ) :
    pattern.segments (before ++ text) = before.map .kept ++ pattern.segments text := by
  induction before with
  | nil => rfl
  | cons letter before inductionHypothesis =>
      rw [List.forall_mem_cons] at plain
      rw [List.cons_append, pattern.segments_of_none (delimited.eq_none_of_plain plain.1 _),
        inductionHypothesis plain.2]
      rfl

theorem segments_append_plain (plain : ∀ letter ∈ after, ¬isEdge letter) (text : List σ) :
    pattern.segments (text ++ after) = pattern.segments text ++ after.map .kept := by
  induction text using pattern.scan_induction delimited.advances with
  | nil =>
      have alone := delimited.segments_plain plain []
      rwa [List.append_nil, pattern.segments_nil, List.append_nil] at alone
  | kept letter rest absent inductionHypothesis =>
      have absent' := delimited.append_plain plain (letter :: rest)
      rw [absent, List.cons_append] at absent'
      rw [List.cons_append, pattern.segments_of_none absent', pattern.segments_of_none absent,
        inductionHypothesis, List.cons_append]
  | found front rest found present nonempty extent inductionHypothesis =>
      have present' := delimited.append_plain plain (front ++ rest)
      rw [present, List.append_assoc] at present'
      rw [List.append_assoc, pattern.segments_of_front present' nonempty extent,
        pattern.segments_of_front present nonempty extent, inductionHypothesis, List.cons_append]

/-- What is found in a text is found there also between letters that are no edges. -/
theorem segments_between (plainBefore : ∀ letter ∈ before, ¬isEdge letter)
    (plainAfter : ∀ letter ∈ after, ¬isEdge letter) (text : List σ) :
    pattern.segments (before ++ (text ++ after)) =
      before.map .kept ++ (pattern.segments text ++ after.map .kept) := by
  rw [delimited.segments_plain plainBefore, delimited.segments_append_plain plainAfter]

theorem replaceEach_between (plainBefore : ∀ letter ∈ before, ¬isEdge letter)
    (plainAfter : ∀ letter ∈ after, ¬isEdge letter) (write : α → List σ) (text : List σ) :
    pattern.replaceEach write (before ++ (text ++ after)) =
      before ++ (pattern.replaceEach write text ++ after) := by
  rw [replaceEach, delimited.segments_between plainBefore plainAfter, spell_append, spell_append,
    spell_map_kept, spell_map_kept]
  rfl

end Delimited

/-- A pattern that finds what is written is delimited if everything is written between edges. -/
theorem Spells.delimited {pattern : Pattern σ α} {write : α → List σ} {isEdge : σ → Prop}
    (spells : pattern.Spells write) (first : ∀ value, ∃ edge ∈ (write value).head?, isEdge edge)
    (last : ∀ value, ∃ edge ∈ (write value).getLast?, isEdge edge) :
    pattern.Delimited isEdge fun found run =>
      run = write found.value ∧ found.extent = run.length where
  some_iff := by
    intro text found
    rw [spells.some_iff]
    constructor
    · rintro ⟨⟨rest, rfl⟩, extent⟩
      exact ⟨write found.value, rest, ⟨rfl, extent⟩, rfl⟩
    · rintro ⟨run, rest, ⟨rfl, extent⟩, rfl⟩
      exact ⟨List.prefix_append _ _, extent⟩
  extent := And.right
  first := by
    rintro found run ⟨rfl, -⟩
    exact first found.value
  last := by
    rintro found run ⟨rfl, -⟩
    exact last found.value

end Pattern

/-! ### Spans -/

section Spans

variable {isMark : σ → Bool} {width : Nat}

theorem Marks.exists_last {marks : List σ} (isMarks : Marks isMark width marks)
    (positive : 0 < width) : ∃ mark ∈ marks.getLast?, isMark mark = true := by
  have nonempty : marks ≠ [] := List.ne_nil_of_length_pos (isMarks.length ▸ positive)
  exact ⟨marks.getLast nonempty, List.getLast?_eq_some_getLast nonempty,
    isMarks.all _ (List.getLast_mem nonempty)⟩

theorem span_delimited (isMark : σ → Bool) (positive : 0 < width) :
    (span isMark width).Delimited (isMark · = true) fun found run =>
      ∃ left inside right, IsSpan isMark width left inside right ∧
        run = left ++ (inside ++ right) ∧ found = ⟨inside, width + inside.length + width⟩ where
  some_iff := by
    intro text found
    rw [span_eq_some_iff positive]
    constructor
    · rintro ⟨left, inside, right, rest, isSpan, rfl, rfl⟩
      exact ⟨_, rest, ⟨left, inside, right, isSpan, rfl, rfl⟩, by simp⟩
    · rintro ⟨run, rest, ⟨left, inside, right, isSpan, rfl, rfl⟩, rfl⟩
      exact ⟨left, inside, right, rest, isSpan, by simp, rfl⟩
  extent := by
    rintro found run ⟨left, inside, right, isSpan, rfl, rfl⟩
    simp only [List.length_append, isSpan.left.length, isSpan.right.length]
    omega
  first := by
    rintro found run ⟨left, inside, right, isSpan, rfl, rfl⟩
    obtain ⟨mark, others, rfl, marked⟩ := isSpan.left.exists_cons positive
    exact ⟨mark, rfl, marked⟩
  last := by
    rintro found run ⟨left, inside, right, isSpan, rfl, rfl⟩
    obtain ⟨mark, isLast, marked⟩ := isSpan.right.exists_last positive
    refine ⟨mark, ?_, marked⟩
    rw [List.getLast?_append, List.getLast?_append, Option.mem_def.mp isLast, Option.some_or,
      Option.some_or]
    rfl

theorem wrapSpans_between (positive : 0 < width) {before after : List σ}
    (plainBefore : ∀ letter ∈ before, isMark letter = false)
    (plainAfter : ∀ letter ∈ after, isMark letter = false) (opening closing text : List σ) :
    wrapSpans isMark width opening closing (before ++ (text ++ after)) =
      before ++ (wrapSpans isMark width opening closing text ++ after) := by
  apply (span_delimited isMark positive).replaceEach_between
  · exact fun letter member => Bool.eq_false_iff.mp (plainBefore letter member)
  · exact fun letter member => Bool.eq_false_iff.mp (plainAfter letter member)

end Spans

end SlideDeck.Text
