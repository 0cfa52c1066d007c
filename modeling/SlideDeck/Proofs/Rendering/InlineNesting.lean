import SlideDeck.Proofs.Inline.TaggedText
import SlideDeck.Proofs.Rendering.FormattedText
import SlideDeck.Proofs.Rendering.SpanNesting

/-!
Contract: when the tags in a formatted text are nested.

Code spans and bold spans are found without regard to each other, so that their elements need not
be nested. They are, exactly if no code span crosses a bold span.

Owns:
- the tags that every letter of a tagged text stands for;
- `codeSpans` and `boldSpans`, the places of spans among the characters and blocks of a text;
- `formatText_nested_iff`, and a text with crossing spans.

Does not own: texts with tags of their own.
-/

namespace SlideDeck.Markup

open SlideDeck.Text

/-! ### Blocks of code -/

theorem tags_element {name body : String} {attributes : List (String × String)}
    (clean : CleanName name) (values : UntaggedValues attributes) (whole : Whole body.toList) :
    tags (element name attributes body).toList =
      .opened name (attributesRead attributes) :: (tags body.toList ++ [.closed name]) := by
  have opens := whole_openTag clean values
  rw [element, String.toList_append, String.toList_append, tags_append (opens.append whole),
    tags_append opens, tags_openTag clean values, tags_closeTag clean]
  rfl

theorem tags_codeBlock {language : String} (untagged : Untagged language) (code : String) :
    ∃ attributes, tags (codeBlock language code).toList =
      [.opened "pre" "", .opened "code" attributes, .closed "code", .closed "pre"] := by
  have values := untaggedValues_language untagged
  have clean : CleanName "code" := by decide
  have body := Nested.of_untagged (untagged_escape code)
  have inner := body.plainElement clean values (by decide)
  refine ⟨attributesRead [("class", "language-" ++ language)], ?_⟩
  rw [codeBlock, classed, tags_element (by decide) untaggedValues_nil inner.whole,
    tags_element clean values body.whole, tags_eq_nil (untagged_escape code)]
  rfl

namespace Inline

/-! ### Letters of a tagged text -/

/-- Whether a tag is part of an element with an end; line breaks have none. -/
def isElementTag (tag : Tag) : Bool :=
  tag.name != "br"

/-- The tags that a letter stands for, line breaks aside. -/
def tagsOf (letter : Segment Char Insert) : List Tag :=
  (tags (shown letter)).filter isElementTag

theorem tagsOf_opening (kind : SpanKind) :
    tagsOf (.occurrence (.opening kind)) = [.opened kind.name ""] := by
  cases kind <;> rfl

theorem tagsOf_closing (kind : SpanKind) :
    tagsOf (.occurrence (.closing kind)) = [.closed kind.name] := by
  cases kind <;> rfl

/-- A letter whose tags are closed by themselves and are no bold spans. -/
structure Readable (letter : Segment Char Insert) : Prop where
  nested : Nested (String.ofList (shown letter))
  closed : Closed (tagsOf letter)
  noBold : ∀ tag ∈ tagsOf letter, tag.name ≠ SpanKind.bold.name

theorem readable_character {character : Char} (noTag : character ≠ '<') :
    Readable (.kept character) := by
  by_cases newline : character = '\n'
  · subst newline
    have lineBreak : "<br>".toList ∈ MixedText.tags := by decide
    exact ⟨MixedText.nested_tag lineBreak, by decide, by decide⟩
  · have untagged : '<' ∉ shown (.kept character) := by
      simpa [shown, newline] using Ne.symm noTag
    have none : tagsOf (.kept character) = [] := by
      rw [tagsOf, tags_eq_nil untagged, List.filter_nil]
    refine ⟨.of_untagged ?_, ?_, ?_⟩
    · rwa [Untagged, String.toList_ofList]
    · rw [none]
      exact closed_nil
    · simp [none]

theorem readable_block {fenced : Fence} {text : List Char}
    (member : fenced ∈ values (fence.segments text)) :
    Readable (.occurrence (.block fenced)) := by
  obtain ⟨attributes, written⟩ :=
    tags_codeBlock (untagged_language member) (String.ofList (Text.trim fenced.body))
  have read : tagsOf (.occurrence (.block fenced)) =
      [.opened "pre" "", .opened "code" attributes, .closed "code", .closed "pre"] := by
    rw [tagsOf, shown_block, Fence.render, written]
    rfl
  refine ⟨property_render formattable_nested member, ?_, ?_⟩
  · rw [read]
    rfl
  · rw [read]
    simp [Tag.name, SpanKind.name]

section Tagged

variable {text : List Char} (untagged : .kept '<' ∉ fence.segments text)

include untagged

theorem readable_letter {segment : Segment Char Fence} (member : segment ∈ fence.segments text) :
    Readable (Insert.letter segment) := by
  cases segment with
  | kept character =>
      refine readable_character ?_
      rintro rfl
      exact untagged member
  | occurrence fenced =>
      exact readable_block (List.mem_filterMap.mpr ⟨_, member, rfl⟩)

theorem readable_of_mem_coded {letter : Segment Char Insert}
    (member : letter ∈ MixedText.coded (fence.segments text)) : Readable letter ∨
      letter = .occurrence (.opening .code) ∨ letter = .occurrence (.closing .code) := by
  rcases mem_of_mem_wrapSpans Nat.one_pos member with opening | closing | inText
  · exact .inr (.inl (List.mem_singleton.mp opening))
  · exact .inr (.inr (List.mem_singleton.mp closing))
  · obtain ⟨segment, segmentMember, rfl⟩ := List.mem_map.mp inText
    exact .inl (readable_letter untagged segmentMember)

theorem nested_of_mem_tagged {letter : Segment Char Insert}
    (member : letter ∈ MixedText.tagged (fence.segments text)) :
    Nested (String.ofList (shown letter)) := by
  rcases mem_of_mem_wrapSpans Nat.two_pos member with opening | closing | inCoded
  · rw [List.mem_singleton.mp opening]
    exact MixedText.nested_tag (SpanKind.opening_mem .bold)
  · rw [List.mem_singleton.mp closing]
    exact MixedText.nested_tag (SpanKind.closing_mem .bold)
  · rcases readable_of_mem_coded untagged inCoded with readable | rfl | rfl
    · exact readable.nested
    · exact MixedText.nested_tag (SpanKind.opening_mem .code)
    · exact MixedText.nested_tag (SpanKind.closing_mem .code)

theorem noBold_of_mem_coded {letter : Segment Char Insert}
    (member : letter ∈ MixedText.coded (fence.segments text)) :
    ∀ tag ∈ tagsOf letter, tag.name ≠ SpanKind.bold.name := by
  rcases readable_of_mem_coded untagged member with readable | rfl | rfl
  · exact readable.noBold
  · decide
  · decide

end Tagged

theorem tags_flatMap_shown {letters : List (Segment Char Insert)}
    (nested : ∀ letter ∈ letters, Nested (String.ofList (shown letter))) :
    (tags (letters.flatMap shown)).filter isElementTag = letters.flatMap tagsOf := by
  induction letters with
  | nil => rfl
  | cons letter letters inductionHypothesis =>
      rw [List.forall_mem_cons] at nested
      have whole := nested.1.whole
      rw [String.toList_ofList] at whole
      rw [List.flatMap_cons, tags_append whole, List.filter_append,
        inductionHypothesis nested.2, List.flatMap_cons, tagsOf]

/-! ### Places of spans -/

theorem isCharacter_letter (mark : Char) (segment : Segment Char Fence) :
    MixedText.isCharacter mark (Insert.letter segment) = MixedText.isCharacter mark segment := by
  cases segment <;> rfl

theorem isCharacter_mark (letter : Segment Char Insert) :
    MixedText.isCharacter '*' (Insert.mark letter) = MixedText.isCharacter '*' letter := by
  cases letter with
  | kept character => rfl
  | occurrence insert => cases insert <;> rfl

theorem map_mark_coded (text : MixedText Fence) :
    (MixedText.coded text).map Insert.mark = text := by
  have isBacktick : ∀ letter : Segment Char Insert,
      MixedText.isCharacter backtick letter = true → Insert.mark letter = .kept backtick := by
    intro letter marked
    rw [MixedText.isCharacter_iff.mp marked, Insert.mark]
  have single : ∀ segment, Insert.mark (Insert.letter segment) = segment := by
    intro segment
    cases segment <;> rfl
  rw [MixedText.coded, map_wrapSpans isBacktick isBacktick, List.map_map]
  simp [Function.comp_def, single]

end Inline

open Inline

/-- The places of code spans in a text, in which every block of fenced code is one letter. -/
def codeSpans (text : String) : List Region :=
  (span (MixedText.isCharacter backtick) 1).places (fence.segments text.toList)

/-- The places of bold spans in a text, in which every block of fenced code is one letter. -/
def boldSpans (text : String) : List Region :=
  (span (MixedText.isCharacter '*') 2).places (fence.segments text.toList)

/-- The tags in a text in their order, line breaks aside. -/
def elementTags (text : String) : List Tag :=
  (tags text.toList).filter isElementTag

/-- Without tags and placeholder marks in the prose, the tags of a formatted text close in the
order opposite to that in which they opened exactly if no code span crosses a bold span. -/
theorem formatText_nested_iff {text : String} (untagged : UntaggedProse text)
    (unmarked : .kept placeholderMark ∉ fence.segments text.toList) :
    Closed (elementTags (formatText text)) ↔
      ∀ code ∈ codeSpans text, ∀ bold ∈ boldSpans text, ¬code.Cross bold := by
  have read : elementTags (formatText text) =
      (MixedText.tagged (fence.segments text.toList)).flatMap tagsOf := by
    rw [elementTags, formatText, String.toList_ofList, format_eq_flatMap unmarked,
      tags_flatMap_shown fun letter => nested_of_mem_tagged untagged]
  have codePlaces : codeSpans text = (span (MixedText.isCharacter backtick) 1).places
      ((fence.segments text.toList).map Insert.letter) :=
    (places_map Nat.one_pos (isCharacter_letter backtick) _).symm
  have boldPlaces : boldSpans text = (span (MixedText.isCharacter '*') 2).places
      (MixedText.coded (fence.segments text.toList)) := by
    rw [boldSpans, ← places_map Nat.two_pos isCharacter_mark, map_mark_coded]
  have closed : ∀ letter ∈ (fence.segments text.toList).map Insert.letter,
      Closed (tagsOf letter) := by
    rw [List.forall_mem_map]
    exact fun segment member => (readable_letter untagged member).closed
  have tagless : ∀ letter, MixedText.isCharacter '*' letter = true → tagsOf letter = [] := by
    intro letter marked
    rw [MixedText.isCharacter_iff.mp marked]
    rfl
  rw [read, codePlaces, boldPlaces]
  exact closed_wrapSpans_wrapSpans_iff (tagsOf_opening .code) (tagsOf_closing .code) closed
    Nat.two_pos (tagsOf_opening .bold) (tagsOf_closing .bold) tagless rfl
    fun letter => noBold_of_mem_coded untagged

/-- Spans within each other in both orders, one around a block with marks of its own. -/
theorem formatText_nested_sample :
    UntaggedProse "`**a**` **`b` ```c\n`**\n```**\n" ∧
      .kept placeholderMark ∉ fence.segments "`**a**` **`b` ```c\n`**\n```**\n".toList ∧
      Closed (elementTags (formatText "`**a**` **`b` ```c\n`**\n```**\n")) :=
  ⟨by decide, by decide, (formatText_nested_iff (by decide) (by decide)).mpr (by decide)⟩

/-- A bold span that begins within a code span and ends behind it. -/
theorem formatText_crossed :
    UntaggedProse "`a**b`c**" ∧ .kept '>' ∉ fence.segments "`a**b`c**".toList ∧
      placeholderMark ∉ "`a**b`c**".toList ∧
      formatText "`a**b`c**" = "<code>a<strong>b</code>c</strong>" ∧
      ¬Closed (elementTags (formatText "`a**b`c**")) := by
  decide

end SlideDeck.Markup
