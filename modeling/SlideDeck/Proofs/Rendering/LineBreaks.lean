import SlideDeck.Proofs.Inline.Fidelity
import SlideDeck.Proofs.Rendering.FormattedText
import SlideDeck.Proofs.Text.WordCount

/-!
Contract: how many line breaks a formatted text has.

Everything that the inline rules write or take away ends with letters that cannot be within a line
break. Author text next to it therefore never becomes a part of one, and a line break of the author
is never torn apart; it counts unless it stands across a block.

Owns:
- the line breaks in blocks of code and in placeholders, of which there are none;
- one lemma for each pass: which line breaks it adds;
- `lineBreaks_formatText`.

Does not own: which newlines stand in a fenced block.
-/

namespace SlideDeck.Markup

open SlideDeck.Text

/-- The letters of the tag `<br>`. -/
def lineBreak : List Char := ['<', 'b', 'r', '>']

theorem lineBreak_ne_nil : lineBreak ≠ [] := List.cons_ne_nil _ _

theorem toList_codeBlock (language code : String) :
    (codeBlock language code).toList = "<pre><code class=\"language-".toList ++
      ((language.toList ++ ('"' :: '>' :: (escape code).toList)) ++ "</code></pre>".toList) := by
  simp [codeBlock, classed, element, openTag, closeTag, attributeText]

/-- A block of code has no line break, and none arises around it. -/
theorem foreign_codeBlock {language : String} (untagged : Untagged language) (code : String) :
    Foreign lineBreak (codeBlock language code).toList := by
  have opens : Foreign lineBreak "<pre><code class=\"language-".toList := by decide
  have closes : Foreign lineBreak "</code></pre>".toList := by decide
  rw [toList_codeBlock]
  apply opens.around _ closes
  rw [List.mem_append, not_or]
  have escaped : '<' ∉ (escape code).toList := untagged_escape code
  exact ⟨untagged, by simpa using escaped⟩

namespace Inline

/-- A placeholder is foreign to words that begin with no letter or digit and have no mark. -/
theorem foreign_placeholderOf {first : Char} {others : List Char}
    (notAlphanumeric : first.isAlphanum = false) (unmarked : placeholderMark ∉ first :: others)
    (numeral : Numeral) : Foreign (first :: others) (placeholderOf numeral) := by
  have mark : Foreign (first :: others) [placeholderMark] := by
    apply Foreign.of_disjoint (List.cons_ne_nil _ _) (List.cons_ne_nil _ _)
    intro letter isMark
    rwa [List.mem_singleton.mp isMark]
  have absent : first ∉ placeholderOf numeral := by
    intro member
    rcases mem_placeholderOf member with isMark | alphanumeric
    · exact unmarked (isMark ▸ List.mem_cons_self)
    · rw [alphanumeric] at notAlphanumeric
      exact Bool.noConfusion notAlphanumeric
  rw [MixedText.placeholderOf_eq] at absent ⊢
  show Foreign _ ([placeholderMark] ++ (MixedText.inner numeral ++ [placeholderMark]))
  apply mark.around _ mark
  intro inside
  exact absent (List.mem_cons_of_mem _ (List.mem_append_left _ inside))

theorem foreign_resolve (text : List Char) (numeral : Numeral) :
    Foreign lineBreak (resolve (blocks text) numeral) := by
  rw [resolve, List.getD_eq_getElem?_getD]
  cases present : (blocks text)[numeral.value]? with
  | none => exact foreign_placeholderOf (by decide) (by decide) numeral
  | some block =>
      obtain ⟨fenced, member, rfl⟩ := List.mem_map.mp (List.mem_of_getElem? present)
      exact foreign_codeBlock (untagged_language member) _

/-! ### Passes -/

theorem blanked_numbered {β : Type} (next : Nat) (text : MixedText β) :
    blanked (MixedText.numbered next text) = blanked text := by
  induction text generalizing next with
  | nil => rfl
  | cons letter text inductionHypothesis =>
      cases letter with
      | kept character =>
          rw [MixedText.numbered_kept, blanked_kept, inductionHypothesis, blanked_kept]
      | occurrence block =>
          rw [MixedText.numbered_occurrence, blanked_occurrence, inductionHypothesis,
            blanked_occurrence]

/-- What stands in a text after its blocks were taken out stood there between them. -/
theorem occurrences_extract {first : Char} {others : List Char}
    (notAlphanumeric : first.isAlphanum = false) (unmarked : placeholderMark ∉ first :: others)
    (text : List Char) :
    occurrences (first :: others) (extract text) =
      occurrences ((first :: others).map some) (blanked (fence.segments text)) := by
  rw [extract_eq, occurrences_spell_foreign (List.cons_ne_nil _ _) fun numeral _ =>
    foreign_placeholderOf notAlphanumeric unmarked numeral, numberedFences, blanked_numbered]

section Spans

variable {word : List Char} (notEmpty : word ≠ [])

include notEmpty

theorem occurrences_writeCodeSpans (unmarked : backtick ∉ word)
    (opens : Foreign word "<code>".toList) (closes : Foreign word "</code>".toList)
    (text : List Char) : occurrences word (writeCodeSpans text) = occurrences word text := by
  exact occurrences_wrapSpans notEmpty Nat.one_pos (beq_of_not_mem unmarked) opens closes text

theorem occurrences_writeBoldSpans (unmarked : '*' ∉ word)
    (opens : Foreign word "<strong>".toList) (closes : Foreign word "</strong>".toList)
    (text : List Char) : occurrences word (writeBoldSpans text) = occurrences word text := by
  exact occurrences_wrapSpans notEmpty Nat.two_pos (beq_of_not_mem unmarked) opens closes text

end Spans

/-- No span adds a line break or a newline, or takes one away. -/
theorem lineBreaks_spans (text : List Char) :
    (occurrences lineBreak (writeCodeSpans text) = occurrences lineBreak text ∧
        (writeCodeSpans text).count '\n' = text.count '\n') ∧
      occurrences lineBreak (writeBoldSpans text) = occurrences lineBreak text ∧
        (writeBoldSpans text).count '\n' = text.count '\n' := by
  have newline : ['\n'] ≠ [] := List.cons_ne_nil _ _
  rw [← occurrences_singleton, ← occurrences_singleton, ← occurrences_singleton]
  refine ⟨⟨?_, ?_⟩, ?_, ?_⟩
  · exact occurrences_writeCodeSpans lineBreak_ne_nil (by decide) (by decide) (by decide) text
  · exact occurrences_writeCodeSpans newline (by decide) (by decide) (by decide) text
  · exact occurrences_writeBoldSpans lineBreak_ne_nil (by decide) (by decide) (by decide) text
  · exact occurrences_writeBoldSpans newline (by decide) (by decide) (by decide) text

/-- Every newline adds one line break. -/
theorem lineBreaks_writeLineBreaks (text : List Char) :
    occurrences lineBreak (writeLineBreaks text) =
      text.count '\n' + occurrences lineBreak text := by
  have detached : Detached lineBreak "<br>".toList := by decide
  have once : occurrences lineBreak "<br>".toList = 1 := by decide
  have unmarked := beq_of_not_mem (by decide : '\n' ∉ lineBreak)
  rw [writeLineBreaks, occurrences_replaceMarks lineBreak_ne_nil unmarked detached, once,
    Nat.mul_one, Nat.add_comm]
  rfl

theorem lineBreaks_restore (text letters : List Char) :
    occurrences lineBreak (restore (blocks text) letters) = occurrences lineBreak letters := by
  have placeholders : ∀ numeral, Foreign lineBreak (placeholderOf numeral) :=
    foreign_placeholderOf (by decide) (by decide)
  rw [restore, Pattern.replaceEach,
    occurrences_spell_foreign lineBreak_ne_nil fun numeral _ => foreign_resolve text numeral,
    ← occurrences_spell_foreign lineBreak_ne_nil fun numeral _ => placeholders numeral,
    placeholder_spells.spell_segments]

theorem lineBreaks_format (text : List Char) :
    occurrences lineBreak (format text) =
      (blanked (fence.segments text)).count (some '\n') +
        occurrences (lineBreak.map some) (blanked (fence.segments text)) := by
  have code := (lineBreaks_spans (extract text)).1
  have bold := (lineBreaks_spans (writeCodeSpans (extract text))).2
  calc occurrences lineBreak (format text)
      = occurrences lineBreak (markUp (extract text)) := lineBreaks_restore text _
    _ = (extract text).count '\n' + occurrences lineBreak (extract text) := by
        rw [markUp, lineBreaks_writeLineBreaks, bold.1, bold.2, code.1, code.2]
    _ = (blanked (fence.segments text)).count (some '\n') +
          occurrences (lineBreak.map some) (blanked (fence.segments text)) := by
        rw [← occurrences_singleton, ← occurrences_singleton,
          occurrences_extract (by decide) (by decide), lineBreak,
          occurrences_extract (by decide) (by decide)]
        rfl

end Inline

/-! ### Formatted texts -/

/-- The number of line breaks in a text, written by the rules or by its author. -/
def lineBreaks (text : String) : Nat :=
  occurrences lineBreak text.toList

/-- A text outside of its fenced blocks, with one blank for each of them. -/
def prose (text : String) : List (Option Char) :=
  blanked (Inline.fence.segments text.toList)

/-- A formatted text has one line break for each newline of its prose and one for each that stands
there already, not across a block. Blocks have none, and no pass but that for newlines adds any or
takes any away. -/
theorem lineBreaks_formatText (text : String) :
    lineBreaks (formatText text) =
        (prose text).count (some '\n') + occurrences (lineBreak.map some) (prose text) ∧
      (∀ fenced ∈ values (Inline.fence.segments text.toList),
        occurrences lineBreak fenced.render = 0) ∧
      ∀ letters,
        occurrences lineBreak (Inline.writeCodeSpans letters) = occurrences lineBreak letters ∧
        occurrences lineBreak (Inline.writeBoldSpans letters) = occurrences lineBreak letters ∧
        occurrences lineBreak (Inline.writeLineBreaks letters) =
          letters.count '\n' + occurrences lineBreak letters ∧
        occurrences lineBreak (Inline.restore (Inline.blocks text.toList) letters) =
          occurrences lineBreak letters := by
  refine ⟨?_, ?_, ?_⟩
  · rw [lineBreaks, formatText, String.toList_ofList, Inline.lineBreaks_format, prose]
  · intro fenced member
    exact (foreign_codeBlock (Inline.untagged_language member) _).absent
  · intro letters
    have spans := Inline.lineBreaks_spans letters
    exact ⟨spans.1.1, spans.2.1, Inline.lineBreaks_writeLineBreaks letters,
      Inline.lineBreaks_restore text.toList letters⟩

/-- A line break that is torn apart by a block counts neither before nor after, one within a span
does, and one within the block does not. -/
theorem lineBreaks_formatText_sample :
    ⟨[], "<br>\n".toList⟩ ∈ values (Inline.fence.segments "<b```\n<br>\n```r>\n`<br>`".toList) ∧
      lineBreaks (formatText "<b```\n<br>\n```r>\n`<br>`") = 2 ∧
      occurrences lineBreak (Inline.Fence.render ⟨[], "<br>\n".toList⟩) = 0 := by
  have member : ⟨[], "<br>\n".toList⟩ ∈
      values (Inline.fence.segments "<b```\n<br>\n```r>\n`<br>`".toList) := by decide
  have conserved := lineBreaks_formatText "<b```\n<br>\n```r>\n`<br>`"
  refine ⟨member, ?_, conserved.2.1 _ member⟩
  rw [conserved.1]
  decide

end SlideDeck.Markup
