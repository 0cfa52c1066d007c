import SlideDeck.Proofs.Inline.Fidelity

/-!
Contract: texts in which the tags around spans are letters of their own.

Owns:
- `Insert`, what stands in such a text besides characters;
- `tagged`, a text with its spans as elements;
- `format_eq_flatMap`: formatting writes every letter of the tagged text by itself.

Does not own: whether the tags are nested.
-/

namespace SlideDeck.Markup.Inline

open SlideDeck.Text

/-- The kinds of spans. -/
inductive SpanKind where
  | code
  | bold
deriving DecidableEq, Repr

namespace SpanKind

def name : SpanKind → String
  | code => "code"
  | bold => "strong"

def opening : SpanKind → List Char
  | code => "<code>".toList
  | bold => "<strong>".toList

def closing : SpanKind → List Char
  | code => "</code>".toList
  | bold => "</strong>".toList

theorem opening_mem (kind : SpanKind) : kind.opening ∈ MixedText.tags := by
  cases kind <;> decide

theorem closing_mem (kind : SpanKind) : kind.closing ∈ MixedText.tags := by
  cases kind <;> decide

end SpanKind

/-- Tags have no meaning for the inline rules. -/
theorem MixedText.Ordinary.of_mem_tags {tag : List Char} (written : tag ∈ tags) :
    Ordinary (fun character other => other == character) tag := by
  obtain ⟨rest, head⟩ := head_of_mem_tags written
  refine ⟨head ▸ List.cons_ne_nil _ _, ?_⟩
  intro mark special letter member
  refine beq_false_of_ne ?_
  rintro rfl
  exact ordinary_of_mem_tags written letter member special

/-- What stands among the characters of a text with tags: blocks, and the tags around spans. -/
inductive Insert where
  | block (fence : Fence)
  | opening (kind : SpanKind)
  | closing (kind : SpanKind)
deriving DecidableEq, Repr

namespace Insert

/-- An insert with its tag written out. -/
def written : Insert → MixedText Fence
  | block fence => [.occurrence fence]
  | opening kind => kind.opening.map .kept
  | closing kind => kind.closing.map .kept

theorem ordinary_written (insert : Insert) :
    MixedText.Ordinary MixedText.isCharacter insert.written := by
  cases insert with
  | block fence => exact ⟨List.cons_ne_nil _ _, by simp [written, MixedText.isCharacter]⟩
  | opening kind => exact (MixedText.Ordinary.of_mem_tags kind.opening_mem).map_kept
  | closing kind => exact (MixedText.Ordinary.of_mem_tags kind.closing_mem).map_kept

/-- The letter of a text with tags for a letter of a text without. -/
def letter : Segment Char Fence → Segment Char Insert
  | .kept character => .kept character
  | .occurrence fence => .occurrence (block fence)

/-- The letter of a text before code spans were written: their tags were backticks. -/
def mark : Segment Char Insert → Segment Char Fence
  | .kept character => .kept character
  | .occurrence (block fence) => .occurrence fence
  | .occurrence _ => .kept backtick

end Insert

namespace MixedText

/-- A text with its code spans as elements, each tag one letter. -/
def coded (text : MixedText Fence) : MixedText Insert :=
  wrapSpans (isCharacter backtick) 1 [.occurrence (.opening .code)] [.occurrence (.closing .code)]
    (text.map Insert.letter)

/-- A text with its spans as elements, each tag one letter. -/
def tagged (text : MixedText Fence) : MixedText Insert :=
  wrapSpans (isCharacter '*') 2 [.occurrence (.opening .bold)] [.occurrence (.closing .bold)]
    (coded text)

theorem replace_letter (text : MixedText Fence) :
    replace Insert.written (text.map Insert.letter) = text := by
  induction text with
  | nil => rfl
  | cons letter text inductionHypothesis =>
      cases letter <;> exact congrArg _ inductionHypothesis

/-- Wrapping spans commutes with writing out what has no meaning for the rules. -/
theorem wrapSpans_replace {mark : Char} {width : Nat} (special : mark ∈ specialCharacters)
    (positive : 0 < width) (opening closing text : MixedText Insert) :
    wrapSpans (isCharacter mark) width (replace Insert.written opening)
        (replace Insert.written closing) (replace Insert.written text) =
      replace Insert.written (wrapSpans (isCharacter mark) width opening closing text) :=
  KeepsMarks.wrapSpans_flatMap
    (keepsMarks_of_ordinary (fun _ => rfl) (fun _ _ => rfl) Insert.ordinary_written mark special)
    positive opening closing text

/-- The rules write the tags of the tagged text out, and then break lines. -/
theorem markUp_eq_tagged (text : MixedText Fence) :
    markUp text = replaceMarks (isCharacter '\n') ("<br>".toList.map .kept)
      (replace Insert.written (tagged text)) := by
  have code := wrapSpans_replace (by decide : backtick ∈ specialCharacters) Nat.one_pos
    [.occurrence (.opening .code)] [.occurrence (.closing .code)] (text.map Insert.letter)
  have bold := wrapSpans_replace (by decide : '*' ∈ specialCharacters) Nat.two_pos
    [.occurrence (.opening .bold)] [.occurrence (.closing .bold)] (coded text)
  rw [replace_letter] at code
  rw [markUp, rules, tagged, ← bold, coded, ← code]
  rfl

end MixedText

/-! ### Formatting letter by letter -/

/-- What formatting writes for one letter of the tagged text. -/
def shown : Segment Char Insert → List Char
  | .kept character => if character = '\n' then "<br>".toList else [character]
  | .occurrence (.block fence) => fence.render
  | .occurrence (.opening kind) => kind.opening
  | .occurrence (.closing kind) => kind.closing

theorem shown_block (fence : Fence) : shown (.occurrence (.block fence)) = fence.render := rfl

theorem shown_eq (letter : Segment Char Insert) :
    ((MixedText.replace Insert.written [letter]).flatMap fun other =>
        if MixedText.isCharacter '\n' other then "<br>".toList.map .kept else [other]).flatMap
      (Segment.letters Fence.render) = shown letter := by
  cases letter with
  | kept character =>
      by_cases newline : character = '\n'
      · subst newline
        rfl
      · simp [MixedText.replace, MixedText.isCharacter, shown, newline, Segment.letters]
  | occurrence insert =>
      cases insert with
      | block fence => simp [MixedText.replace, Insert.written, MixedText.isCharacter, shown,
          Segment.letters]
      | opening kind => cases kind <;> rfl
      | closing kind => cases kind <;> rfl

theorem format_eq_flatMap {text : List Char}
    (unmarked : .kept placeholderMark ∉ fence.segments text) :
    format text = (MixedText.tagged (fence.segments text)).flatMap shown := by
  rw [format_eq_of_unmarked unmarked, MixedText.format, MixedText.markUp_eq_tagged, replaceMarks,
    spell, MixedText.replace, List.flatMap_assoc, List.flatMap_assoc]
  refine List.flatMap_congr fun letter _ => ?_
  rw [← shown_eq, MixedText.replace, List.flatMap_singleton, List.flatMap_assoc]

end SlideDeck.Markup.Inline
