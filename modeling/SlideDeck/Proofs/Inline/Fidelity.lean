import Mathlib.Logic.Relation
import SlideDeck.Proofs.Inline.Imitation

/-!
Contract: how far formatting through placeholders agrees with the reference.

Owns:
- `format_eq` and `reference_eq`: both texts are written from numbered blocks in the same way, one
  from those that are found, one from those that were numbered;
- the condition under which the two are the same.
-/

namespace SlideDeck.Markup.Inline

open SlideDeck.Text

/-! ### The two ways of formatting -/

/-- A text with its fences numbered. -/
def numberedFences (text : List Char) : MixedText Numeral :=
  MixedText.numbered 0 (fence.segments text)

/-- A text with what is found as the placeholders of blocks after its fences were numbered. -/
def foundFences (text : List Char) : MixedText Numeral :=
  MixedText.found (blocks text).length (numberedFences text)

theorem extract_eq (text : List Char) :
    extract text = spell placeholderOf (numberedFences text) :=
  withPlaceholders_eq 0 _

theorem resolve_of_le {blocks : List (List Char)} {numeral : Numeral}
    (outOfRange : blocks.length ≤ numeral.value) :
    resolve blocks numeral = placeholderOf numeral := by
  rw [resolve, List.getD_eq_getElem?_getD, List.getElem?_eq_none outOfRange, Option.getD_none]

theorem spell_dissolved (blocks : List (List Char)) (numeral : Numeral) :
    spell (resolve blocks) (MixedText.dissolved blocks.length numeral) =
      resolve blocks numeral := by
  unfold MixedText.dissolved
  split
  next inRange => simp
  next outOfRange => rw [spell_map_kept, resolve_of_le (Nat.not_lt.mp outOfRange)]

theorem ordinary_dissolved (count : Nat) (numeral : Numeral) :
    MixedText.Ordinary MixedText.isCharacter (MixedText.dissolved count numeral) := by
  unfold MixedText.dissolved
  split
  next inRange => exact ⟨List.cons_ne_nil _ _, by simp [MixedText.isCharacter]⟩
  next outOfRange => exact (ordinary_placeholderOf numeral).map_kept

theorem format_eq (text : List Char) :
    format text = spell (resolve (blocks text)) (MixedText.markUp (foundFences text)) :=
  calc format text
      = spell (resolve (blocks text)) (placeholder.segments (markUp (extract text))) := rfl
    _ = spell (resolve (blocks text)) (MixedText.markUp (placeholder.segments (extract text))) := by
        rw [segments_markUp]
    _ = spell (resolve (blocks text)) (MixedText.replace (MixedText.dissolved (blocks text).length)
          (MixedText.markUp (placeholder.segments (extract text)))) := by
        rw [MixedText.spell_replace]
        simp only [spell_dissolved]
    _ = spell (resolve (blocks text)) (MixedText.markUp (foundFences text)) := by
        rw [← MixedText.replace_markUp (ordinary_dissolved _), extract_eq]
        rfl

theorem resolve_label {text : List Char} {label : Nat × Fence}
    (member : label ∈ values (MixedText.labelled 0 (fence.segments text))) :
    resolve (blocks text) (.ofNat label.1) = label.2.render := by
  rw [MixedText.values_labelled] at member
  obtain ⟨⟨found, number⟩, position, rfl⟩ := List.mem_map.mp member
  have present := List.mem_zipIdx_iff_getElem?.mp position
  rw [resolve, Numeral.value_ofNat, List.getD_eq_getElem?_getD, blocks, List.getElem?_map]
  simp [present]

theorem reference_eq (text : List Char) :
    MixedText.format text =
      spell (resolve (blocks text)) (MixedText.markUp (numberedFences text)) := by
  let labels := MixedText.labelled 0 (fence.segments text)
  have agree : ∀ label ∈ values (MixedText.markUp labels),
      label.2.render = resolve (blocks text) (.ofNat label.1) := by
    intro label member
    rw [MixedText.values_markUp] at member
    exact (resolve_label member).symm
  calc MixedText.format text
      = spell Fence.render (MixedText.markUp (MixedText.rename Prod.snd labels)) := by
        rw [MixedText.rename_labelled]
        rfl
    _ = spell (fun label => Fence.render label.2) (MixedText.markUp labels) := by
        rw [MixedText.markUp_rename, MixedText.spell_rename]
    _ = spell (fun label => resolve (blocks text) (.ofNat label.1)) (MixedText.markUp labels) :=
        MixedText.spell_congr agree
    _ = spell (resolve (blocks text)) (MixedText.markUp (numberedFences text)) := by
        rw [numberedFences, MixedText.numbered, MixedText.markUp_rename, MixedText.spell_rename]

/-! ### When the two agree -/

theorem render_cons (found : Fence) : ∃ rest, found.render = '<' :: rest := by
  unfold Fence.render codeBlock element openTag
  simp

theorem resolve_of_lt {text : List Char} {numeral : Numeral}
    (inRange : numeral.value < (blocks text).length) :
    ∃ rest, resolve (blocks text) numeral = '<' :: rest := by
  have member : (blocks text)[numeral.value] ∈ blocks text := List.getElem_mem inRange
  obtain ⟨found, -, rendered⟩ := List.mem_map.mp member
  rw [resolve, List.getD_eq_getElem?_getD, List.getElem?_eq_getElem inRange, Option.getD_some,
    ← rendered]
  exact render_cons found

namespace MixedText

/-- Two texts that are spelled alike with placeholders and alike with tags are equal: one of them
cannot have characters where the other one has a placeholder. -/
theorem eq_of_spelled_twice {write : Numeral → List Char} {first second : MixedText Numeral}
    (opensFirst : ∀ numeral ∈ values first, ∃ rest, write numeral = '<' :: rest)
    (opensSecond : ∀ numeral ∈ values second, ∃ rest, write numeral = '<' :: rest)
    (alike : spell placeholderOf first = spell placeholderOf second)
    (same : spell write first = spell write second) : first = second := by
  -- Characters against a placeholder differ in one of the two spellings: one of them begins with
  -- the mark there, the other one with a tag.
  induction first generalizing second with
  | nil =>
      cases second with
      | nil => rfl
      | cons letter second => cases letter <;> simp [placeholderOf] at alike
  | cons letter first inductionHypothesis =>
      cases second with
      | nil => cases letter <;> simp [placeholderOf] at alike
      | cons other second =>
          cases letter with
          | kept character =>
              cases other with
              | kept otherCharacter =>
                  obtain ⟨rfl, restAlike⟩ := List.cons.inj alike
                  have restEqual : first = second :=
                    inductionHypothesis opensFirst opensSecond restAlike (List.cons.inj same).2
                  rw [restEqual]
              | occurrence numeral =>
                  obtain ⟨rest, opens⟩ := opensSecond numeral List.mem_cons_self
                  rw [spell_kept, spell_occurrence, opens] at same
                  exact absurd ((List.cons.inj alike).1.symm.trans (List.cons.inj same).1)
                    (by decide)
          | occurrence numeral =>
              cases other with
              | kept character =>
                  obtain ⟨rest, opens⟩ := opensFirst numeral List.mem_cons_self
                  rw [spell_kept, spell_occurrence, opens] at same
                  exact absurd ((List.cons.inj alike).1.trans (List.cons.inj same).1.symm)
                    (by decide)
              | occurrence otherNumeral =>
                  rw [values_occurrence, List.forall_mem_cons] at opensFirst opensSecond
                  rw [spell_occurrence, spell_occurrence] at alike same
                  have read := placeholder_append numeral (spell placeholderOf first)
                  rw [alike, placeholder_append] at read
                  obtain ⟨rfl, -⟩ := Found.mk.inj (Option.some.inj read)
                  rw [inductionHypothesis opensFirst.2 opensSecond.2
                    (List.append_cancel_left alike) (List.append_cancel_left same)]

theorem values_replace_dissolved (count : Nat) (text : MixedText Numeral) :
    values (replace (dissolved count) text) = (values text).filter (·.value < count) := by
  rw [values_replace]
  induction values text with
  | nil => rfl
  | cons numeral numerals inductionHypothesis =>
      rw [List.flatMap_cons, inductionHypothesis, List.filter_cons]
      unfold dissolved
      split
      next inRange => simp [inRange]
      next outOfRange => simp [outOfRange]

end MixedText

theorem spell_foundFences (text : List Char) :
    spell placeholderOf (foundFences text) = extract text := by
  have unchanged : ∀ numeral, spell placeholderOf
      (MixedText.dissolved (blocks text).length numeral) = placeholderOf numeral := by
    intro numeral
    unfold MixedText.dissolved
    split
    next => simp
    next => exact spell_map_kept _ _
  rw [foundFences, MixedText.found, MixedText.spell_replace]
  simp only [unchanged]
  rw [placeholder_spells.spell_segments, extract_eq]

theorem values_foundFences (text : List Char) :
    values (foundFences text) =
      (values (placeholder.segments (extract text))).filter
        (·.value < (blocks text).length) := by
  rw [foundFences, MixedText.found, MixedText.values_replace_dissolved, extract_eq]

theorem values_numberedFences (text : List Char) :
    (values (numberedFences text)).map Numeral.value = List.range (blocks text).length := by
  rw [numberedFences, MixedText.values_numbered, blocks, List.length_map, List.range_eq_range']

theorem format_eq_reference_iff (text : List Char) :
    format text = MixedText.format text ↔ foundFences text = numberedFences text := by
  constructor
  · intro equal
    rw [format_eq, reference_eq] at equal
    have opensFound : ∀ numeral ∈ values (MixedText.markUp (foundFences text)),
        ∃ rest, resolve (blocks text) numeral = '<' :: rest := by
      intro numeral member
      rw [MixedText.values_markUp, values_foundFences] at member
      exact resolve_of_lt (by simpa using (List.mem_filter.mp member).2)
    have opensNumbered : ∀ numeral ∈ values (MixedText.markUp (numberedFences text)),
        ∃ rest, resolve (blocks text) numeral = '<' :: rest := by
      intro numeral member
      rw [MixedText.values_markUp] at member
      have inRange := List.mem_map_of_mem (f := Numeral.value) member
      rw [values_numberedFences] at inRange
      exact resolve_of_lt (List.mem_range.mp inRange)
    have alike : spell placeholderOf (foundFences text) =
        spell placeholderOf (numberedFences text) := by
      rw [spell_foundFences, extract_eq]
    have markedUpAlike : spell placeholderOf (MixedText.markUp (foundFences text)) =
        spell placeholderOf (MixedText.markUp (numberedFences text)) := by
      rw [← MixedText.spell_markUp ordinary_placeholderOf, alike,
        MixedText.spell_markUp ordinary_placeholderOf]
    have markedUpEqual := MixedText.eq_of_spelled_twice opensFound opensNumbered markedUpAlike equal
    exact MixedText.markUp_injective ordinary_placeholderOf alike markedUpEqual
  · intro equal
    rw [format_eq, reference_eq, equal]

/-- The imitations of placeholders in a text. -/
def imitations (text : List Char) : List (MixedText.Imitation Fence) :=
  values (MixedText.imitation.segments (fence.segments text))

theorem foundFences_eq_iff (text : List Char) :
    foundFences text = numberedFences text ↔
      ∀ imitated ∈ imitations text, imitated.Harmless (blocks text).length := by
  refine MixedText.found_numbered_iff ?_
  rw [blocks, List.length_map, Nat.zero_add]

theorem format_eq_of_unmarked {text : List Char}
    (unmarked : .kept placeholderMark ∉ fence.segments text) :
    format text = MixedText.format text := by
  have none : imitations text = [] := MixedText.values_imitation_of_unmarked unmarked
  rw [format_eq_reference_iff, foundFences_eq_iff, none]
  simp

/-- The numbers that the last pass replaces by blocks, in order. -/
def substituted (text : List Char) : List Nat :=
  ((values (placeholder.segments (markUp (extract text)))).map Numeral.value).filter
    (· < (blocks text).length)

theorem substituted_eq (text : List Char) :
    substituted text = (values (foundFences text)).map Numeral.value := by
  rw [substituted, segments_markUp, MixedText.values_markUp, values_foundFences, List.filter_map]
  rfl

/-- Without the mark of placeholders outside of fences, formatting is what the reference says: no
rule reaches into a block, and every block stands once at its place. -/
theorem formatText_eq_reference (text : String)
    (unmarked : .kept placeholderMark ∉ fence.segments text.toList) :
    formatText text = String.ofList (MixedText.format text.toList) ∧
      Relation.ReflTransGen MixedText.Exchanged (fence.segments text.toList)
        (MixedText.markUp (fence.segments text.toList)) ∧
      values (MixedText.markUp (fence.segments text.toList)) =
        values (fence.segments text.toList) := by
  have none : imitations text.toList = [] := MixedText.values_imitation_of_unmarked unmarked
  have agree : format text.toList = MixedText.format text.toList := by
    rw [format_eq_reference_iff, foundFences_eq_iff, none]
    simp
  refine ⟨congrArg String.ofList agree, ?_, MixedText.values_markUp _⟩
  exact MixedText.markUp_induction
    (fun _ _ exchanged before => before.tail exchanged) _ Relation.ReflTransGen.refl

theorem formatText_eq_reference_bold :
    (.kept placeholderMark : Segment Char Fence) ∉
        fence.segments "**```c\n\x01CODEBLOCK0\x01 **a**```**\n".toList ∧
      formatText "**```c\n\x01CODEBLOCK0\x01 **a**```**\n" =
        "<strong><pre><code class=\"language-c\">\x01CODEBLOCK0\x01 **a**</code></pre>" ++
          "</strong><br>" :=
  ⟨by decide, (formatText_eq_reference _ (by decide)).1.trans (by decide)⟩

/-- Formatting is what the reference says, and every block is put in once and in order, exactly if
the author's imitations of placeholders are all harmless. -/
theorem formatText_faithful_iff (text : String) :
    (formatText text = String.ofList (MixedText.format text.toList) ∧
        substituted text.toList = List.range (blocks text.toList).length) ↔
      ∀ imitated ∈ imitations text.toList, imitated.Harmless (blocks text.toList).length := by
  rw [← foundFences_eq_iff]
  constructor
  · intro given
    obtain ⟨agree, -⟩ := given
    exact (format_eq_reference_iff _).mp (String.ofList_injective agree)
  · intro equal
    constructor
    · exact congrArg String.ofList ((format_eq_reference_iff _).mpr equal)
    · rw [substituted_eq, equal, values_numberedFences]

/-- The mark in front of a block closes an imitation, and the block is lost. -/
theorem formatText_unfaithful :
    formatText "\x01CODEBLOCK7```\nx\n```" = "\x01CODEBLOCK7\x01CODEBLOCK0\x01" ∧
      ¬(formatText "\x01CODEBLOCK7```\nx\n```" =
          String.ofList (MixedText.format "\x01CODEBLOCK7```\nx\n```".toList) ∧
        substituted "\x01CODEBLOCK7```\nx\n```".toList =
          List.range (blocks "\x01CODEBLOCK7```\nx\n```".toList).length) :=
  ⟨by decide, fun faithful => absurd faithful.1 (by decide)⟩

end SlideDeck.Markup.Inline
