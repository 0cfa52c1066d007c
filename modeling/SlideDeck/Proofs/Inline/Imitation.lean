import SlideDeck.Proofs.Inline.Numbering

/-!
Contract: placeholders that the author wrote, among those that stand for blocks.

An imitation begins with a character of the author's and would be read as a placeholder. It may
end with a mark of the author's own, or with the mark that opens the placeholder of a block right
behind it; in the second case the block's placeholder is broken.

Owns:
- `imitation`, the pattern that finds imitations, with `Imitation.Harmless`;
- `found`, what a scan for placeholders makes of a text with placeholders;
- `found_numbered_iff`: what is found in a numbered text is what was numbered exactly if all
  imitations are harmless.

Does not own: the numbering of blocks, and formatting.
-/

namespace SlideDeck.Markup.Inline.MixedText

open SlideDeck.Text

variable {β : Type}

/-! ### Imitations -/

/-- The character with which a letter begins in a numbered text. -/
def outline : Segment Char β → Char
  | .kept character => character
  | .occurrence _ => placeholderMark

/-- A run of letters that reads as a placeholder but begins with a character of the author's. -/
structure Imitation (β : Type) where
  numeral : Numeral
  letters : MixedText β

/-- Whether an imitation is kept as it is written: no block is part of it, and none has its
number. -/
def Imitation.Harmless (count : Nat) (found : Imitation β) : Prop :=
  values found.letters = [] ∧ count ≤ found.numeral.value

def imitation : Pattern (Segment Char β) (Imitation β)
  | .kept character :: rest =>
      (placeholder (character :: rest.map outline)).map fun found =>
        ⟨⟨found.value, (.kept character :: rest).take found.extent⟩, found.extent⟩
  | _ => none

theorem outline_numbered (next : Nat) (text : MixedText β) :
    (numbered next text).map outline = text.map outline := by
  induction text generalizing next with
  | nil => rfl
  | cons letter text inductionHypothesis =>
      cases letter <;> simp [outline, inductionHypothesis]

theorem spell_numbered_cons (next : Nat) {letter : Segment Char β}
    (outlined : outline letter = placeholderMark) (text : MixedText β) :
    ∃ tail, spell placeholderOf (numbered next (letter :: text)) = placeholderMark :: tail := by
  cases letter with
  | kept character =>
      obtain rfl : character = placeholderMark := outlined
      exact ⟨_, rfl⟩
  | occurrence block => exact ⟨_, rfl⟩

theorem eq_map_kept_of_outline {text : MixedText β} {front : List Char}
    (outlined : text.map outline = front)
    (unmarked : ∀ character ∈ front, character ≠ placeholderMark) :
    text = front.map .kept := by
  subst outlined
  induction text with
  | nil => rfl
  | cons letter text inductionHypothesis =>
      have others := inductionHypothesis fun character member =>
        unmarked character (List.mem_cons_of_mem _ member)
      cases letter with
      | kept character => rw [List.map_cons, List.map_cons, ← others, outline]
      | occurrence block => exact absurd rfl (unmarked placeholderMark List.mem_cons_self)

/-- A run that only ends with the mark stands in front of a text with placeholders exactly if it
stands in front of its outline. -/
theorem prefix_spell_iff {front : List Char} (text : MixedText Numeral)
    (unmarked : ∀ character ∈ front, character ≠ placeholderMark) :
    front ++ [placeholderMark] <+: spell placeholderOf text ↔
      front ++ [placeholderMark] <+: text.map outline := by
  induction front generalizing text with
  | nil =>
      cases text with
      | nil => rfl
      | cons letter text =>
          cases letter <;> simp [outline, placeholderOf]
  | cons character front inductionHypothesis =>
      cases text with
      | nil => rfl
      | cons letter text =>
          cases letter with
          | kept other =>
              have others := inductionHypothesis text fun character member =>
                unmarked character (List.mem_cons_of_mem _ member)
              simp [outline, others]
          | occurrence numeral =>
              simp [outline, placeholderOf, unmarked character List.mem_cons_self]

/-- The letters and digits of a placeholder, without the marks around them. -/
def inner (numeral : Numeral) : List Char :=
  placeholderLetters ++ numeral.digits

theorem placeholderOf_eq (numeral : Numeral) :
    placeholderOf numeral = placeholderMark :: (inner numeral ++ [placeholderMark]) := by
  simp [placeholderOf, inner]

theorem unmarked_inner (numeral : Numeral) :
    ∀ character ∈ inner numeral, character ≠ placeholderMark := by
  intro character member
  rcases List.mem_append.mp member with letter | digit
  · have apart : placeholderLetters.all (· != placeholderMark) = true := by decide
    simpa using List.all_eq_true.mp apart character letter
  · intro equal
    subst equal
    exact absurd (numeral.decimal _ digit) (by decide)

/-- Whether a character of the author's opens a placeholder shows in the outline. -/
theorem placeholder_outline (character : Char) (text : MixedText Numeral) :
    placeholder (character :: text.map outline) =
      placeholder (character :: spell placeholderOf text) := by
  apply Option.ext
  intro found
  rw [placeholder_some_iff, placeholder_some_iff, placeholderOf_eq, List.cons_prefix_cons,
    List.cons_prefix_cons, prefix_spell_iff text (unmarked_inner found.value)]

theorem imitation_some {text : MixedText β} {found : Found (Imitation β)}
    (present : imitation text = some found) :
    ∃ numeral closing rest, outline closing = placeholderMark ∧
      text = (placeholderMark :: inner numeral).map .kept ++ closing :: rest ∧
      found = ⟨⟨numeral, (placeholderMark :: inner numeral).map .kept ++ [closing]⟩,
        (placeholderOf numeral).length⟩ := by
  unfold imitation at present
  split at present
  next character rest =>
    obtain ⟨read, readEq, rfl⟩ := Option.map_eq_some_iff.mp present
    obtain ⟨⟨behind, whole⟩, extent⟩ := placeholder_some_iff.mp readEq
    have parts : placeholderMark :: (inner read.value ++ placeholderMark :: behind) =
        character :: rest.map outline := by
      rw [← whole, placeholderOf_eq]
      simp
    obtain ⟨rfl, restEq⟩ := List.cons.inj parts
    obtain ⟨front, back, rfl, frontEq, backEq⟩ := List.map_eq_append_iff.mp restEq.symm
    obtain ⟨closing, others, rfl, closes, -⟩ := List.map_eq_cons_iff.mp backEq
    obtain rfl := eq_map_kept_of_outline frontEq (unmarked_inner read.value)
    refine ⟨read.value, closing, others, closes, rfl, ?_⟩
    have cut : (placeholderMark :: inner read.value).map Segment.kept ++ closing :: others =
        (placeholderMark :: inner read.value).map .kept ++ [closing] ++ others :=
      List.append_cons _ _ _
    rw [List.map_cons, List.cons_append] at cut
    rw [cut, List.take_left' (by simp [extent, placeholderOf_eq]), extent]
    rfl
  next => simp at present

theorem imitation_front {front rest : MixedText β} {found : Found (Imitation β)}
    (present : imitation (front ++ rest) = some found) (extent : found.extent = front.length) :
    ∃ numeral closing, outline closing = placeholderMark ∧
      front = (placeholderMark :: inner numeral).map .kept ++ [closing] ∧
      found.value = ⟨numeral, front⟩ := by
  obtain ⟨numeral, closing, behind, closes, whole, rfl⟩ := imitation_some present
  rw [List.append_cons] at whole
  have sameLength : front.length =
      ((placeholderMark :: inner numeral).map Segment.kept ++ [closing]).length := by
    rw [← extent, placeholderOf_eq]
    simp
  obtain ⟨rfl, -⟩ := List.append_inj whole sameLength
  exact ⟨numeral, closing, closes, rfl, rfl⟩

theorem imitation_advances : (imitation (β := β)).Advances := by
  intro text found present
  obtain ⟨numeral, closing, rest, -, rfl, rfl⟩ := imitation_some present
  simp only [placeholderOf_eq, List.length_append, List.length_cons, List.length_map,
    List.length_nil]
  omega

theorem imitation_of_ne {letter : Segment Char β} (other : letter ≠ .kept placeholderMark)
    (rest : MixedText β) : imitation (letter :: rest) = none := by
  apply Option.eq_none_iff_forall_ne_some.mpr
  intro found present
  obtain ⟨numeral, closing, behind, -, whole, -⟩ := imitation_some present
  exact other (List.cons.inj whole).1

theorem values_imitation_of_unmarked {text : MixedText β}
    (unmarked : .kept placeholderMark ∉ text) : values (imitation.segments text) = [] := by
  induction text with
  | nil => rfl
  | cons letter text inductionHypothesis =>
      have absent := imitation_of_ne (List.ne_of_not_mem_cons unmarked).symm text
      rw [Pattern.segments_of_none _ absent, values_kept,
        inductionHypothesis (List.not_mem_of_not_mem_cons unmarked)]

/-! ### What is found in a numbered text -/

/-- A placeholder with a number below `count`, or the characters of any other one. -/
def dissolved (count : Nat) (numeral : Numeral) : MixedText Numeral :=
  if numeral.value < count then [.occurrence numeral] else (placeholderOf numeral).map .kept

/-- What is found in the spelling of a text as placeholders with numbers below `count`. -/
def found (count : Nat) (text : MixedText Numeral) : MixedText Numeral :=
  replace (dissolved count) (placeholder.segments (spell placeholderOf text))

variable {count : Nat}

theorem found_nil : found count [] = [] := rfl

theorem found_kept {character : Char} {text : MixedText Numeral}
    (absent : placeholder (character :: spell placeholderOf text) = none) :
    found count (.kept character :: text) = .kept character :: found count text := by
  rw [found, spell_kept, Pattern.segments_of_none _ absent]
  rfl

theorem found_placeholder {numeral : Numeral} {text : MixedText Numeral} {rest : List Char}
    (front : spell placeholderOf text = placeholderOf numeral ++ rest) :
    found count text =
      dissolved count numeral ++ replace (dissolved count) (placeholder.segments rest) := by
  rw [found, front, placeholder_spells.segments_append]
  rfl

/-- A run that imitates a placeholder is kept as it is exactly if it is harmless. -/
theorem found_imitation_iff {next : Nat} {numeral : Numeral} {closing : Segment Char β}
    (closes : outline closing = placeholderMark) (rest : MixedText β) :
    found count (numbered next ((placeholderMark :: inner numeral).map .kept ++ closing :: rest)) =
        numbered next ((placeholderMark :: inner numeral).map .kept ++ closing :: rest) ↔
      Imitation.Harmless count
          ⟨numeral, (placeholderMark :: inner numeral).map .kept ++ [closing]⟩ ∧
        found count (numbered next rest) = numbered next rest := by
  obtain ⟨tail, opened⟩ := spell_numbered_cons next closes rest
  rw [numbered_append_kept]
  have front : spell placeholderOf ((placeholderMark :: inner numeral).map .kept ++
      numbered next (closing :: rest)) = placeholderOf numeral ++ tail := by
    rw [spell_append, spell_map_kept, opened, placeholderOf_eq]
    simp
  rw [found_placeholder front, dissolved]
  by_cases inRange : numeral.value < count
  · -- The run is taken for the placeholder of a block.
    rw [if_pos inRange]
    constructor
    · intro equal
      simp at equal
    · intro given
      exact absurd inRange (Nat.not_lt.mpr given.1.2)
  · have spelled : ((placeholderOf numeral).map .kept : MixedText Numeral) =
        (placeholderMark :: inner numeral).map .kept ++ [.kept placeholderMark] := by
      rw [placeholderOf_eq]
      simp
    rw [if_neg inRange, spelled, List.append_assoc, List.append_cancel_left_eq,
      List.singleton_append]
    cases closing with
    | kept character =>
        obtain rfl : character = placeholderMark := closes
        rw [numbered_kept, spell_kept, List.cons_inj_right] at opened
        have harmless : Imitation.Harmless count ⟨numeral,
            (placeholderMark :: inner numeral).map .kept ++
              [(.kept placeholderMark : Segment Char β)]⟩ :=
          ⟨by simp, Nat.not_lt.mp inRange⟩
        rw [numbered_kept, List.cons_inj_right, ← opened, and_iff_right harmless, found]
    | occurrence block =>
        -- The mark that opens the block's placeholder closes the run.
        constructor
        · intro equal
          simp at equal
        · intro given
          have whole := given.1.1
          simp at whole

/-- The numbering is found again exactly if every imitation in the text is harmless. -/
theorem found_numbered_iff {next : Nat} {text : MixedText β}
    (enough : next + (values text).length = count) :
    found count (numbered next text) = numbered next text ↔
      ∀ imitated ∈ values (imitation.segments text), imitated.Harmless count := by
  induction text using Pattern.scan_induction _ imitation_advances generalizing next with
  | nil => simp [found_nil]
  | kept letter rest absent inductionHypothesis =>
      rw [Pattern.segments_of_none _ absent, values_kept]
      cases letter with
      | kept character =>
          have absent' : placeholder (character :: spell placeholderOf (numbered next rest)) =
              none := by
            rw [← placeholder_outline, outline_numbered]
            simpa [imitation] using absent
          rw [numbered_kept, found_kept absent', List.cons_inj_right]
          exact inductionHypothesis enough
      | occurrence block =>
          -- The placeholder of a block that no run in front of it has broken.
          have inRange : (Numeral.ofNat next).value < count := by
            rw [Numeral.value_ofNat, ← enough, values_occurrence, List.length_cons]
            omega
          rw [numbered_occurrence, found_placeholder (spell_occurrence _ _ _), dissolved,
            if_pos inRange, List.singleton_append, List.cons_inj_right]
          apply inductionHypothesis
          rw [← enough, values_occurrence, List.length_cons]
          omega
  | found front rest read present nonempty extent inductionHypothesis =>
      rw [Pattern.segments_of_front _ present nonempty extent, values_occurrence,
        List.forall_mem_cons]
      obtain ⟨numeral, closing, closes, rfl, value⟩ := imitation_front present extent
      rw [value, List.append_assoc, List.singleton_append, found_imitation_iff closes]
      apply and_congr_right
      intro harmless
      apply inductionHypothesis
      rw [← enough, values_append, harmless.1, List.nil_append]

end SlideDeck.Markup.Inline.MixedText
