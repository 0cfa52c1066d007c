import SlideDeck.Proofs.Inline.FencedCode
import SlideDeck.Proofs.Inline.Fidelity
import SlideDeck.Proofs.Text.Delimited

/-!
Contract: prose without marks, alone and around a text.

Fences, spans and placeholders begin and end with marks. Prose without any mark can thus stand
before and behind every text, also one with a part of a fence, span or placeholder at its ends: each
pass does with the text what it does without the prose, and of the prose the lines are broken.

Owns:
- `isPlain`, the characters that are no marks;
- one lemma for each pass, and `format_between` and `format_fenced` for all of them together;
- `formatText_between`.
-/

namespace SlideDeck.Markup

namespace Inline

open SlideDeck.Text

/-- A character of prose with which no rule but that for newlines has to do. -/
def isPlain (character : Char) : Bool :=
  character != backtick && character != '*' && character != placeholderMark

theorem fence_delimited :
    fence.Delimited (· = backtick) fun found run =>
      found.value.IsWritten ∧ run = found.value.source ∧ found.extent = run.length where
  some_iff := fence_some_iff
  extent := fun shaped => shaped.2.2
  first := by
    rintro found run ⟨-, rfl, -⟩
    exact ⟨backtick, rfl, rfl⟩
  last := by
    rintro found run ⟨-, rfl, -⟩
    have isLast : fenceMarks.getLast? = some backtick := rfl
    refine ⟨backtick, ?_, rfl⟩
    rw [Fence.source, List.getLast?_append, List.getLast?_append, List.getLast?_cons,
      List.getLast?_append, isLast]
    rfl

theorem placeholder_delimited :
    placeholder.Delimited (· = placeholderMark) fun found run =>
      run = placeholderOf found.value ∧ found.extent = run.length := by
  apply placeholder_spells.delimited
  · exact fun numeral => ⟨placeholderMark, rfl, rfl⟩
  · intro numeral
    refine ⟨placeholderMark, ?_, rfl⟩
    rw [MixedText.placeholderOf_eq, List.getLast?_cons, List.getLast?_append]
    rfl

/-! ### Passes -/

section Between

variable {before after : List Char}

theorem ne_of_isPlain {mark : Char} (notPlain : isPlain mark = false)
    (plain : ∀ character ∈ before, isPlain character = true) :
    ∀ character ∈ before, ¬character = mark := by
  rintro character member rfl
  rw [plain character member] at notPlain
  exact absurd notPlain (by decide)

theorem beq_of_isPlain {mark : Char} (notPlain : isPlain mark = false)
    (plain : ∀ character ∈ before, isPlain character = true) :
    ∀ character ∈ before, (character == mark) = false :=
  fun character member => beq_eq_false_iff_ne.mpr (ne_of_isPlain notPlain plain character member)

theorem isPlain_of_mem_writeLineBreaks
    (plain : ∀ character ∈ before, isPlain character = true) :
    ∀ character ∈ writeLineBreaks before, isPlain character = true ∧ character ≠ '\n' := by
  intro character member
  obtain ⟨other, inText, written⟩ := List.mem_flatMap.mp member
  split at written
  next =>
    have tag : ∀ letter ∈ "<br>".toList, isPlain letter = true ∧ letter ≠ '\n' := by
      simp [isPlain, backtick, placeholderMark]
    exact tag character written
  next notNewline =>
    rw [List.mem_singleton.mp written]
    exact ⟨plain other inText, by simpa using notNewline⟩

theorem withPlaceholders_between (next : Nat) (segments : List (Segment Char Fence)) :
    withPlaceholders next (before.map .kept ++ (segments ++ after.map .kept)) =
      before ++ (withPlaceholders next segments ++ after) := by
  rw [withPlaceholders_eq, withPlaceholders_eq, MixedText.numbered_append_kept, spell_append,
    spell_map_kept]
  congr 1
  induction segments generalizing next with
  | nil =>
      have alone := MixedText.numbered_append_kept next after ([] : MixedText Fence)
      rw [List.append_nil] at alone
      rw [List.nil_append, alone]
      simp
  | cons segment segments inductionHypothesis =>
      cases segment <;> simp [inductionHypothesis]

variable (plainBefore : ∀ character ∈ before, isPlain character = true)
  (plainAfter : ∀ character ∈ after, isPlain character = true) (text : List Char)

include plainBefore plainAfter

theorem fences_between :
    fence.segments (before ++ (text ++ after)) =
      before.map .kept ++ (fence.segments text ++ after.map .kept) :=
  fence_delimited.segments_between (ne_of_isPlain (by decide) plainBefore)
    (ne_of_isPlain (by decide) plainAfter) text

theorem blocks_between : blocks (before ++ (text ++ after)) = blocks text := by
  rw [blocks, fences_between plainBefore plainAfter, values_append, values_append, values_map_kept,
    values_map_kept, List.nil_append, List.append_nil, blocks]

theorem extract_between :
    extract (before ++ (text ++ after)) = before ++ (extract text ++ after) := by
  rw [extract, fences_between plainBefore plainAfter, withPlaceholders_between, extract]

theorem markUp_between :
    markUp (before ++ (text ++ after)) =
      writeLineBreaks before ++ (markUp text ++ writeLineBreaks after) := by
  have notPlain : isPlain backtick = false ∧ isPlain '*' = false := by decide
  have code := wrapSpans_between Nat.one_pos (beq_of_isPlain notPlain.1 plainBefore)
    (beq_of_isPlain notPlain.1 plainAfter) "<code>".toList "</code>".toList text
  have bold := wrapSpans_between Nat.two_pos (beq_of_isPlain notPlain.2 plainBefore)
    (beq_of_isPlain notPlain.2 plainAfter) "<strong>".toList "</strong>".toList
    (writeCodeSpans text)
  rw [markUp, writeCodeSpans, code, ← writeCodeSpans, writeBoldSpans, bold, writeLineBreaks,
    replaceMarks, List.flatMap_append, List.flatMap_append]
  rfl

theorem restore_between (blocks : List (List Char)) :
    restore blocks (before ++ (text ++ after)) = before ++ (restore blocks text ++ after) :=
  placeholder_delimited.replaceEach_between (ne_of_isPlain (by decide) plainBefore)
    (ne_of_isPlain (by decide) plainAfter) (resolve blocks) text

theorem format_between :
    format (before ++ (text ++ after)) =
      writeLineBreaks before ++ (format text ++ writeLineBreaks after) := by
  have brokenBefore := fun character member =>
    (isPlain_of_mem_writeLineBreaks plainBefore character member).1
  have brokenAfter := fun character member =>
    (isPlain_of_mem_writeLineBreaks plainAfter character member).1
  rw [format, blocks_between plainBefore plainAfter, extract_between plainBefore plainAfter,
    markUp_between plainBefore plainAfter, restore_between brokenBefore brokenAfter, format]

/-- Fenced code between plain prose is rendered in its place. -/
theorem format_fenced {fenced : Fence} (isWritten : fenced.IsWritten) :
    format (before ++ (fenced.source ++ after)) =
      writeLineBreaks before ++ (fenced.render ++ writeLineBreaks after) := by
  have nonempty : fenced.source ≠ [] := List.cons_ne_nil _ _
  have alone : fence.segments (fenced.source ++ []) = [.occurrence fenced] :=
    fence.segments_of_front (fence_source isWritten.word isWritten.closes []) nonempty rfl
  rw [List.append_nil] at alone
  have unmarked : .kept placeholderMark ∉ fence.segments fenced.source := by
    rw [alone]
    simp
  have unchanged : MixedText.markUp [.occurrence fenced] = [.occurrence fenced] := rfl
  rw [format_between plainBefore plainAfter, format_eq_of_unmarked unmarked, MixedText.format,
    alone, unchanged, spell_occurrence, spell_nil, List.append_nil]

end Between

end Inline

/-! ### Plain texts -/

/-- A text without any mark; it may have newlines and markup of its own. -/
def IsPlain (text : String) : Prop :=
  ∀ character ∈ text.toList, Inline.isPlain character = true

instance (text : String) : Decidable (IsPlain text) :=
  List.decidableBAll _ text.toList

/-- A text with a line break in the place of every newline. -/
def withBreaks (text : String) : String :=
  String.ofList (text.toList.flatMap fun character =>
    if character = '\n' then "<br>".toList else [character])

theorem ofList_writeLineBreaks (text : String) :
    String.ofList (Inline.writeLineBreaks text.toList) = withBreaks text := by
  simp only [Inline.writeLineBreaks, Text.replaceMarks, withBreaks, beq_iff_eq]

theorem formatText_around {before after : String} (plainBefore : IsPlain before)
    (plainAfter : IsPlain after) (text : String) :
    formatText (before ++ text ++ after) =
      withBreaks before ++ formatText text ++ withBreaks after := by
  rw [formatText, String.append_assoc, String.toList_append, String.toList_append,
    Inline.format_between plainBefore plainAfter, String.ofList_append, String.ofList_append,
    ofList_writeLineBreaks, ofList_writeLineBreaks, ← formatText, String.append_assoc]

theorem formatText_plain {text : String} (plain : IsPlain text) :
    formatText text = withBreaks text := by
  have nothing : IsPlain "" := by decide
  have alone := formatText_around plain nothing ""
  rwa [show formatText "" = "" from rfl, show withBreaks "" = "" from rfl, String.append_empty,
    String.append_empty, String.append_empty, String.append_empty] at alone

theorem withBreaks_of_noNewline {text : String} (noNewline : '\n' ∉ text.toList) :
    withBreaks text = text := by
  have kept : (text.toList.flatMap fun character =>
      if character = '\n' then "<br>".toList else [character]) = text.toList.flatMap fun letter =>
        [letter] := by
    apply List.flatMap_congr
    intro character member
    rw [if_neg]
    rintro rfl
    exact noNewline member
  rw [withBreaks, kept, List.flatMap_singleton', String.ofList_toList]

/-- Prose without marks stays by itself: whatever stands between two such texts is formatted as it
is without them, and of the texts themselves every newline becomes a line break and nothing else
changes. -/
theorem formatText_between {before after : String} (plainBefore : IsPlain before)
    (plainAfter : IsPlain after) :
    (∀ text, formatText (before ++ text ++ after) =
        withBreaks before ++ formatText text ++ withBreaks after) ∧
      formatText before = withBreaks before ∧
      formatText (formatText before) = formatText before ∧
      ('\n' ∉ before.toList → formatText before = before) := by
  have broken : ∀ character ∈ (withBreaks before).toList,
      Inline.isPlain character = true ∧ character ≠ '\n' := by
    rw [← ofList_writeLineBreaks, String.toList_ofList]
    exact Inline.isPlain_of_mem_writeLineBreaks plainBefore
  have brokenPlain : IsPlain (withBreaks before) := fun character member =>
    (broken character member).1
  have noNewline : '\n' ∉ (withBreaks before).toList := fun member => (broken _ member).2 rfl
  refine ⟨formatText_around plainBefore plainAfter, formatText_plain plainBefore, ?_, ?_⟩
  · rw [formatText_plain plainBefore, formatText_plain brokenPlain,
      withBreaks_of_noNewline noNewline]
  · intro oneLine
    rw [formatText_plain plainBefore, withBreaks_of_noNewline oneLine]

/-- The header of a fence, an open span and half a placeholder stay open, and the prose behind them
closes none. -/
theorem formatText_between_sample :
    IsPlain "<em>A</em>\n" ∧ IsPlain "\nCODEBLOCK0" ∧
      formatText ("<em>A</em>\n" ++ "```c\nx```**b\x01```rust" ++ "\nCODEBLOCK0") =
        "<em>A</em><br>" ++ formatText "```c\nx```**b\x01```rust" ++ "<br>CODEBLOCK0" := by
  have plainBefore : IsPlain "<em>A</em>\n" := by decide
  have plainAfter : IsPlain "\nCODEBLOCK0" := by decide
  exact ⟨plainBefore, plainAfter, (formatText_between plainBefore plainAfter).1 _⟩

end SlideDeck.Markup
