import SlideDeck.Proofs.Text.Span

/-!
Contract: where the occurrences of a pattern stand in a text.

Owns:
- `Region`, a part of a text by its positions, `piece`, its letters, and which regions cross;
- `places` of a pattern, with one equation for each way the scan goes on;
- the places of spans: what stands at their ends, and what keeps them.

Does not own: what is written at a place.
-/

namespace SlideDeck.Text

variable {σ τ α : Type}

/-- A part of a text: the position of its first letter and the one behind its last letter. -/
structure Region where
  start : Nat
  stop : Nat
deriving DecidableEq, Repr

namespace Region

def shift (distance : Nat) (place : Region) : Region :=
  ⟨place.start + distance, place.stop + distance⟩

section Shift

variable (place : Region) (front text : List σ)

theorem getElem?_start_shift :
    (front ++ text)[(place.shift front.length).start]? = text[place.start]? := by
  rw [shift, List.getElem?_append_right (Nat.le_add_left _ _), Nat.add_sub_cancel]

variable {place}

theorem getElem?_last_shift (nonempty : place.start < place.stop) :
    (front ++ text)[(place.shift front.length).stop - 1]? = text[place.stop - 1]? := by
  have last : (place.shift front.length).stop - 1 = front.length + (place.stop - 1) := by
    simp only [shift]
    omega
  rw [last, List.getElem?_append_right (Nat.le_add_right _ _), Nat.add_sub_cancel_left]

end Shift

/-- Two regions have a part in common, and each goes beyond the other one at one end. -/
def Cross (first second : Region) : Prop :=
  first.start < second.start ∧ second.start < first.stop ∧ first.stop < second.stop ∨
    second.start < first.start ∧ first.start < second.stop ∧ second.stop < first.stop

instance (first second : Region) : Decidable (Cross first second) :=
  inferInstanceAs (Decidable (_ ∨ _))

/-- Regions do not cross exactly if each holds both ends of the other one or none, given that they
have no end in common. -/
theorem not_cross_iff {first second : Region} (firstLong : first.start + 2 < first.stop)
    (secondLong : second.start + 2 < second.stop) (startsApart : first.start ≠ second.start)
    (stopsApart : first.stop ≠ second.stop) :
    ¬first.Cross second ↔
      (second.start ≤ first.start ∧ first.start < second.stop ↔
        second.start ≤ first.stop - 1 ∧ first.stop - 1 < second.stop) := by
  unfold Cross
  omega

end Region

/-! ### Pieces -/

/-- The letters of a text from one position on and up to another one. -/
def piece (start stop : Nat) (text : List σ) : List σ :=
  (text.drop start).take (stop - start)

section Piece

variable {start middle stop : Nat} {text : List σ} {letter : σ}

theorem piece_zero (stop : Nat) (text : List σ) : piece 0 stop text = text.take stop := rfl

theorem piece_shift (front text : List σ) (start stop : Nat) :
    piece (start + front.length) (stop + front.length) (front ++ text) = piece start stop text := by
  rw [piece, Nat.add_sub_add_right, Nat.add_comm start, List.drop_length_add_append, piece]

theorem piece_split (first : start ≤ middle) (second : middle ≤ stop) :
    piece start stop text = piece start middle text ++ piece middle stop text := by
  have whole : stop - start = (middle - start) + (stop - middle) := by omega
  rw [piece, whole, List.take_add, List.drop_drop, Nat.add_sub_cancel' first, piece, piece]

theorem piece_head (present : text[start]? = some letter) (within : start < stop) :
    piece start stop text = letter :: piece (start + 1) stop text := by
  obtain ⟨inText, rfl⟩ := List.getElem?_eq_some_iff.mp present
  have first : stop - start = (stop - (start + 1)) + 1 := by omega
  rw [piece, first, List.drop_eq_getElem_cons inText, List.take_succ_cons, piece]

theorem exists_position_of_mem_piece (member : letter ∈ piece start stop text) :
    ∃ position, start ≤ position ∧ position < stop ∧ text[position]? = some letter := by
  rw [piece, List.mem_iff_getElem?] at member
  obtain ⟨index, present⟩ := member
  rw [List.getElem?_take, List.getElem?_drop] at present
  split at present
  next within => exact ⟨start + index, by omega, by omega, present⟩
  next => simp at present

end Piece

/-! ### Places along the scan -/

namespace Pattern

variable (pattern : Pattern σ α)

/-- The places of occurrences in a text that begins at a position, and whose first `skipped`
letters belong to an occurrence found before. -/
def placesAfter : (skipped position : Nat) → List σ → List Region
  | _, _, [] => []
  | skipped + 1, position, _ :: rest => placesAfter skipped (position + 1) rest
  | 0, position, letter :: rest =>
      match pattern (letter :: rest) with
      | none => placesAfter 0 (position + 1) rest
      | some found =>
          ⟨position, position + found.extent⟩ ::
            placesAfter (found.extent - 1) (position + 1) rest

/-- Where the occurrences of a pattern stand in a text, from left to right. -/
def places (text : List σ) : List Region :=
  pattern.placesAfter 0 0 text

variable {pattern}

theorem map_shift_shift (first second : Nat) (places : List Region) :
    (places.map (Region.shift first)).map (Region.shift second) =
      places.map (Region.shift (first + second)) := by
  rw [List.map_map]
  apply List.map_congr_left
  intro place _
  simp only [Function.comp, Region.shift, Nat.add_assoc]

theorem placesAfter_eq (skipped position : Nat) (text : List σ) :
    pattern.placesAfter skipped position text =
      (pattern.places (text.drop skipped)).map (Region.shift (position + skipped)) := by
  induction text generalizing skipped position with
  | nil => simp [places, placesAfter]
  | cons letter rest inductionHypothesis =>
      cases skipped with
      | succ fewer =>
          rw [placesAfter, inductionHypothesis, List.drop_succ_cons, Nat.add_right_comm,
            Nat.add_assoc]
      | zero =>
          rw [List.drop_zero, places, placesAfter, placesAfter]
          cases pattern (letter :: rest) with
          | none =>
              dsimp only
              rw [inductionHypothesis, inductionHypothesis, map_shift_shift]
              congr 2
              omega
          | some found =>
              dsimp only
              rw [inductionHypothesis, inductionHypothesis, List.map_cons, map_shift_shift]
              congr 1
              · simp only [Region.shift, Region.mk.injEq]
                omega
              · congr 2
                omega

theorem places_nil : pattern.places [] = [] := rfl

theorem places_of_none {letter : σ} {rest : List σ} (absent : pattern (letter :: rest) = none) :
    pattern.places (letter :: rest) = (pattern.places rest).map (Region.shift 1) := by
  rw [places, placesAfter, absent]
  exact placesAfter_eq 0 1 rest

theorem places_of_front {front rest : List σ} {found : Found α}
    (present : pattern (front ++ rest) = some found) (nonempty : front ≠ [])
    (extent : found.extent = front.length) :
    pattern.places (front ++ rest) =
      ⟨0, front.length⟩ :: (pattern.places rest).map (Region.shift front.length) := by
  obtain ⟨letter, others, rfl⟩ := List.exists_cons_of_ne_nil nonempty
  rw [List.cons_append] at present
  rw [List.cons_append, places, placesAfter, present]
  dsimp only
  rw [placesAfter_eq, extent, List.length_cons, Nat.add_sub_cancel, List.drop_left]
  simp [Nat.add_comm]

end Pattern

/-! ### Places of spans -/

section Spans

variable {isMark : σ → Bool} {width : Nat}

theorem places_of_span (positive : 0 < width) {left inside right : List σ}
    (isSpan : IsSpan isMark width left inside right) (rest : List σ) :
    (span isMark width).places (left ++ (inside ++ (right ++ rest))) =
      ⟨0, (left ++ (inside ++ right)).length⟩ ::
        ((span isMark width).places rest).map
          (Region.shift (left ++ (inside ++ right)).length) := by
  have present : span isMark width (left ++ (inside ++ right) ++ rest) =
      some ⟨inside, width + inside.length + width⟩ :=
    (span_eq_some_iff positive).mpr ⟨left, inside, right, rest, isSpan, by simp, rfl⟩
  have nonempty : left ++ (inside ++ right) ≠ [] := by simp [isSpan.nonempty]
  have extent : width + inside.length + width = (left ++ (inside ++ right)).length := by
    simp only [List.length_append, isSpan.left.length, isSpan.right.length, Nat.add_assoc]
  have cut := Pattern.places_of_front present nonempty extent
  simpa only [List.append_assoc] using cut

section Pieces

variable {motive : List σ → Prop}

theorem forall_pieces_of_none {letter : σ} {rest : List σ}
    (absent : span isMark width (letter :: rest) = none) :
    (∀ place ∈ (span isMark width).places (letter :: rest),
        motive (piece place.start place.stop (letter :: rest))) ↔
      ∀ place ∈ (span isMark width).places rest, motive (piece place.start place.stop rest) := by
  rw [Pattern.places_of_none absent, List.forall_mem_map]
  refine forall₂_congr fun place _ => ?_
  exact Iff.of_eq (congrArg motive (piece_shift [letter] rest place.start place.stop))

theorem forall_pieces_of_span (positive : 0 < width) {left inside right : List σ}
    (isSpan : IsSpan isMark width left inside right) (rest : List σ) :
    (∀ place ∈ (span isMark width).places (left ++ (inside ++ (right ++ rest))),
        motive (piece place.start place.stop (left ++ (inside ++ (right ++ rest))))) ↔
      motive (left ++ (inside ++ right)) ∧
        ∀ place ∈ (span isMark width).places rest,
          motive (piece place.start place.stop rest) := by
  have whole : left ++ (inside ++ (right ++ rest)) = (left ++ (inside ++ right)) ++ rest := by
    simp only [List.append_assoc]
  rw [places_of_span positive isSpan, List.forall_mem_cons, List.forall_mem_map, whole, piece_zero,
    List.take_left]
  refine and_congr_right fun _ => forall₂_congr fun place _ => ?_
  exact Iff.of_eq (congrArg motive (piece_shift _ rest place.start place.stop))

end Pieces

/-- A span has at least a mark, another letter and a mark. -/
structure Region.IsEnclosed (isMark : σ → Bool) (text : List σ) (place : Region) : Prop where
  long : place.start + 2 < place.stop
  first : ∃ mark, text[place.start]? = some mark ∧ isMark mark = true
  last : ∃ mark, text[place.stop - 1]? = some mark ∧ isMark mark = true

theorem Region.IsEnclosed.shift {place : Region} {rest : List σ}
    (enclosed : place.IsEnclosed isMark rest) (front : List σ) :
    (place.shift front.length).IsEnclosed isMark (front ++ rest) := by
  obtain ⟨long, ⟨first, atStart, firstMark⟩, ⟨last, atEnd, lastMark⟩⟩ := enclosed
  refine ⟨?_, ⟨first, ?_, firstMark⟩, ⟨last, ?_, lastMark⟩⟩
  · simp only [Region.shift]
    omega
  · rw [Region.getElem?_start_shift, atStart]
  · rw [Region.getElem?_last_shift front rest (by omega), atEnd]

theorem IsSpan.isEnclosed (positive : 0 < width) {left inside right : List σ}
    (isSpan : IsSpan isMark width left inside right) (rest : List σ) :
    Region.IsEnclosed isMark (left ++ (inside ++ (right ++ rest)))
      ⟨0, (left ++ (inside ++ right)).length⟩ := by
  have insideLength := List.length_pos_iff.mpr isSpan.nonempty
  obtain ⟨first, others, rfl, firstMark⟩ := isSpan.left.exists_cons positive
  have rightNonempty : right ≠ [] := List.ne_nil_of_length_pos (isSpan.right.length ▸ positive)
  obtain ⟨before, last, rfl⟩ := (List.eq_nil_or_concat right).resolve_left rightNonempty
  refine ⟨?_, ⟨first, rfl, firstMark⟩, ⟨last, ?_, isSpan.right.all last (by simp)⟩⟩
  · simp only [List.length_append, List.length_cons, List.length_concat]
    omega
  · have atEnd : (first :: others ++ (inside ++ before.concat last)).length - 1 =
        (first :: others ++ (inside ++ before)).length := by
      simp only [List.length_append, List.length_concat, List.length_cons]
      omega
    have whole : first :: others ++ (inside ++ (before.concat last ++ rest)) =
        (first :: others ++ (inside ++ before)) ++ last :: rest := by
      simp
    rw [atEnd, whole, List.getElem?_append_right (Nat.le_refl _), Nat.sub_self]
    rfl

theorem isEnclosed_of_mem_places (positive : 0 < width) {text : List σ} {place : Region}
    (member : place ∈ (span isMark width).places text) : place.IsEnclosed isMark text := by
  induction text using span_induction isMark positive generalizing place with
  | nil => simp [Pattern.places_nil] at member
  | kept letter rest absent inductionHypothesis =>
      rw [Pattern.places_of_none absent, List.mem_map] at member
      obtain ⟨place, inRest, rfl⟩ := member
      exact (inductionHypothesis inRest).shift [letter]
  | span left inside right rest isSpan inductionHypothesis =>
      rw [places_of_span positive isSpan, List.mem_cons, List.mem_map] at member
      rcases member with rfl | ⟨place, inRest, rfl⟩
      · exact isSpan.isEnclosed positive rest
      · have shifted := (inductionHypothesis inRest).shift (left ++ (inside ++ right))
        simpa only [List.append_assoc] using shifted

/-- Letters exchanged one for one, marks for marks, leave the spans at their places. -/
theorem places_map {isMark' : τ → Bool} {exchange : σ → τ} (positive : 0 < width)
    (same : ∀ letter, isMark' (exchange letter) = isMark letter) (text : List σ) :
    (span isMark' width).places (text.map exchange) = (span isMark width).places text := by
  have keeps : KeepsMarks isMark isMark' fun letter => [exchange letter] := by
    constructor
    · intro letter marked
      exact ⟨exchange letter, rfl, by rw [same, marked]⟩
    · intro letter _
      exact List.cons_ne_nil _ _
    · intro letter unmarked other member
      rw [List.mem_singleton.mp member, same, unmarked]
  induction text using span_induction isMark positive with
  | nil => rfl
  | kept letter rest absent inductionHypothesis =>
      have absent' := keeps.span_flatMap width (letter :: rest)
      rw [absent, ← List.map_eq_flatMap] at absent'
      rw [Pattern.places_of_none absent, ← inductionHypothesis, List.map_cons]
      exact Pattern.places_of_none absent'
  | span left inside right rest isSpan inductionHypothesis =>
      have isSpan' := keeps.isSpan_flatMap isSpan
      simp only [← List.map_eq_flatMap] at isSpan'
      rw [places_of_span positive isSpan]
      simp only [List.map_append]
      rw [places_of_span positive isSpan', inductionHypothesis]
      simp only [List.length_append, List.length_map]

/-- Letters that take the place of single marks can be exchanged for the marks again. -/
theorem map_wrapSpans {opening closing : σ} {exchange : σ → τ}
    (opens : ∀ letter, isMark letter = true → exchange letter = exchange opening)
    (closes : ∀ letter, isMark letter = true → exchange letter = exchange closing)
    (text : List σ) :
    (wrapSpans isMark 1 [opening] [closing] text).map exchange = text.map exchange := by
  induction text using span_induction isMark Nat.one_pos with
  | nil => rfl
  | kept letter rest absent inductionHypothesis =>
      rw [wrapSpans_of_none absent, List.map_cons, List.map_cons, inductionHypothesis]
  | span left inside right rest isSpan inductionHypothesis =>
      obtain ⟨first, rfl⟩ := List.length_eq_one_iff.mp isSpan.left.length
      obtain ⟨last, rfl⟩ := List.length_eq_one_iff.mp isSpan.right.length
      rw [wrapSpans_of_span Nat.one_pos isSpan]
      simp only [List.map_append, List.map_cons, List.map_nil, inductionHypothesis]
      rw [opens first (isSpan.left.all first List.mem_cons_self),
        closes last (isSpan.right.all last List.mem_cons_self)]

theorem mem_of_mem_wrapSpans (positive : 0 < width) {opening closing text : List σ} {letter : σ}
    (member : letter ∈ wrapSpans isMark width opening closing text) :
    letter ∈ opening ∨ letter ∈ closing ∨ letter ∈ text := by
  induction text using span_induction isMark positive with
  | nil => simp at member
  | kept first rest absent inductionHypothesis =>
      rw [wrapSpans_of_none absent, List.mem_cons] at member
      rcases member with rfl | inRest
      · exact .inr (.inr List.mem_cons_self)
      · have found := inductionHypothesis inRest
        rw [List.mem_cons]
        tauto
  | span left inside right rest isSpan inductionHypothesis =>
      rw [wrapSpans_of_span positive isSpan] at member
      simp only [List.mem_append] at member ⊢
      tauto

end Spans

end SlideDeck.Text
