import SlideDeck.Proofs.Inline.PlainText
import SlideDeck.Proofs.Inline.TaggedText
import SlideDeck.Proofs.Text.Division

/-!
Contract: what each pass of the formatting finds, and what it writes.

Every pass divides its text along the leftmost runs of a form of its own, which the letters of a run
decide, and writes each run anew. All other letters stay, so a failed opening is one kept letter,
and the next run may begin right behind it.

Owns:
- the forms: `Fence.IsRun`, `SpanKind.IsSpan` and `IsPlaceholder`;
- `SpanKind.write`, the pass for the spans of a kind;
- `passes_substitute`.

Does not own: how the passes act together.
-/

namespace SlideDeck.Markup.Inline

open SlideDeck.Text

/-! ### Forms -/

/-- Three backticks, perhaps a word, a newline, a body that ends at the first three backticks, and
these. -/
def Fence.IsRun (fence : Fence) (run : List Char) : Prop :=
  fence.IsWritten ∧ run = fence.source

def IsPlaceholder (numeral : Numeral) (run : List Char) : Prop :=
  run = placeholderOf numeral

namespace SpanKind

def mark : SpanKind → Char
  | code => backtick
  | bold => '*'

/-- The number of marks on either side. -/
def width : SpanKind → Nat
  | code => 1
  | bold => 2

def marks (kind : SpanKind) : List Char :=
  List.replicate kind.width kind.mark

/-- Marks, at least one letter that is no mark, and marks again. -/
structure IsSpan (kind : SpanKind) (inside run : List Char) : Prop where
  nonempty : inside ≠ []
  unmarked : kind.mark ∉ inside
  run_eq : run = kind.marks ++ (inside ++ kind.marks)

/-- The pass for the spans of a kind. -/
def write : SpanKind → List Char → List Char
  | code => writeCodeSpans
  | bold => writeBoldSpans

theorem write_eq (kind : SpanKind) (text : List Char) :
    kind.write text = wrapSpans (· == kind.mark) kind.width kind.opening kind.closing text := by
  cases kind <;> rfl

theorem width_pos (kind : SpanKind) : 0 < kind.width := by
  cases kind <;> decide

end SpanKind

/-! ### What the patterns find -/

theorem fence_finds : fence.Finds Fence.IsRun :=
  fence_delimited.finds and_assoc.symm

theorem placeholder_finds : placeholder.Finds IsPlaceholder :=
  placeholder_delimited.finds Iff.rfl

theorem marks_iff {mark : Char} {width : Nat} {text : List Char} :
    Marks (· == mark) width text ↔ text = List.replicate width mark := by
  rw [List.eq_replicate_iff]
  constructor
  · intro isMarks
    exact ⟨isMarks.length, fun letter member => beq_iff_eq.mp (isMarks.all letter member)⟩
  · rintro ⟨length, all⟩
    exact ⟨length, fun letter member => beq_iff_eq.mpr (all letter member)⟩

theorem span_finds (kind : SpanKind) : (span (· == kind.mark) kind.width).Finds kind.IsSpan := by
  apply (span_delimited (· == kind.mark) kind.width_pos).finds
  intro found run
  constructor
  · rintro ⟨left, inside, right, isSpan, rfl, rfl⟩
    obtain ⟨isLeft, nonempty, unmarked, isRight⟩ := isSpan
    obtain rfl := marks_iff.mp isLeft
    obtain rfl := marks_iff.mp isRight
    refine ⟨⟨nonempty, ?_, rfl⟩, ?_⟩
    · intro member
      simpa using unmarked kind.mark member
    · simp only [List.length_append, List.length_replicate]
      omega
  · rintro ⟨⟨nonempty, unmarked, rfl⟩, extent⟩
    refine ⟨kind.marks, found.value, kind.marks,
      ⟨marks_iff.mpr rfl, nonempty, beq_of_not_mem unmarked, marks_iff.mpr rfl⟩, rfl, ?_⟩
    obtain ⟨value, size⟩ := found
    simp only [SpanKind.marks, List.length_append, List.length_replicate] at extent
    simp only [Found.mk.injEq, true_and]
    omega

/-! ### What the passes write -/

theorem withPlaceholders_segments (division : Division Char Fence) :
    withPlaceholders 0 division.segments =
      division.written fun index _ => placeholderOf (.ofNat index) := by
  obtain ⟨parts, last⟩ := division
  unfold Division.written
  generalize 0 = index
  induction parts generalizing index with
  | nil =>
      have alone := MixedText.numbered_append_kept index last ([] : MixedText Fence)
      rw [List.append_nil] at alone
      show withPlaceholders index (last.map .kept) = last
      rw [withPlaceholders_eq, alone, spell_append, spell_map_kept]
      exact List.append_nil last
  | cons part parts inductionHypothesis =>
      rw [Division.segments_cons, withPlaceholders_eq, MixedText.numbered_append_kept,
        MixedText.numbered_occurrence, spell_append, spell_map_kept, spell_occurrence,
        ← withPlaceholders_eq, inductionHypothesis (index + 1)]
      rfl

theorem blocks_eq {text : List Char} {division : Division Char Fence}
    (divides : Divides Fence.IsRun text division) :
    blocks text = division.parts.map fun part => part.value.render := by
  rw [blocks, fence_finds.segments_eq divides, Division.values_segments, List.map_map]
  rfl

theorem substitutes_write (kind : SpanKind) (text : List Char) :
    Substitutes kind.IsSpan (fun _ inside => kind.opening ++ inside ++ kind.closing) text
      (kind.write text) := by
  rw [kind.write_eq]
  exact (span_finds kind).substitutes_replaceEach _ text

/-- Every pass finds the leftmost runs of its form, none of which overlaps the one before, and
writes each of them anew and nothing else. Fences give way to placeholders with their numbers, and
their blocks of code are kept in order; code spans and bold spans become elements around what is
inside; placeholders give way to the blocks with their numbers, or stay where there is none. -/
theorem passes_substitute (text : List Char) :
    Substitutes Fence.IsRun (fun index _ => placeholderOf (.ofNat index)) text (extract text) ∧
      (∀ division, Divides Fence.IsRun text division →
        blocks text = division.parts.map fun part => part.value.render) ∧
      Substitutes SpanKind.code.IsSpan
        (fun _ inside => "<code>".toList ++ inside ++ "</code>".toList) text
        (writeCodeSpans text) ∧
      Substitutes SpanKind.bold.IsSpan
        (fun _ inside => "<strong>".toList ++ inside ++ "</strong>".toList) text
        (writeBoldSpans text) ∧
      ∀ blocks, Substitutes IsPlaceholder (fun _ numeral => resolve blocks numeral) text
        (restore blocks text) := by
  refine ⟨?_, fun division => blocks_eq, substitutes_write .code text, substitutes_write .bold text,
    fun blocks => ?_⟩
  · exact fence_finds.substitutes withPlaceholders_segments text
  · exact placeholder_finds.substitutes_replaceEach (resolve blocks) text

/-- A fourth backtick, a third asterisk and an asterisk inside keep a run from beginning. -/
example : writeBoldSpans "***a** **b*c** **$1**".toList =
    "*<strong>a</strong> **b*c<strong> </strong>$1**".toList := by decide

end SlideDeck.Markup.Inline
