import Mathlib.Data.List.Basic
import SlideDeck.Markup.Inline
import SlideDeck.Proofs.Text.Span

/-!
Contract: inline formatting of texts whose blocks of code are letters of their own.

This is the reference for `format`. Fenced code is cut out as opaque letters, the rules for code
spans, bold spans and newlines run over characters and blocks alike, and only then each block is
written out. Before that no block has any characters, so no rule can reach into one.

Owns:
- `rules`, the inline rules over letters of any kind;
- `MixedText` with its markup, and `MixedText.format`, the reference;
- `spell_markUp` and `replace_markUp`: the rules do not depend on how blocks are written, as long
  as they are written without special characters;
- `markUp_injective`.

Does not own: placeholders.
-/

namespace SlideDeck.Markup.Inline

open SlideDeck.Text

/-! ### Rules over any letters -/

def specialCharacters : List Char := [backtick, '*', '\n']

section Rules

variable {σ τ : Type}

/-- The rules for code spans, bold spans and newlines, over letters some of which are characters:
`is` tells which character a letter is, and `letter` gives the letter of a character. -/
def rules (is : Char → σ → Bool) (letter : Char → σ) (text : List σ) : List σ :=
  let code := wrapSpans (is backtick) 1 ("<code>".toList.map letter) ("</code>".toList.map letter)
  let bold := wrapSpans (is '*') 2 ("<strong>".toList.map letter) ("</strong>".toList.map letter)
  replaceMarks (is '\n') ("<br>".toList.map letter) (bold (code text))

theorem markUp_eq_rules (text : List Char) :
    markUp text = rules (fun character other => other == character) id text := by
  simp only [rules, List.map_id_fun, id_eq]
  rfl

variable {is : Char → σ → Bool} {letter : Char → σ} {is' : Char → τ → Bool} {letter' : Char → τ}
  {write : σ → List τ}

theorem flatMap_map_letter (letters : ∀ character, write (letter character) = [letter' character])
    (text : List Char) : (text.map letter).flatMap write = text.map letter' := by
  rw [List.flatMap_map, List.map_eq_flatMap]
  exact List.flatMap_congr fun character _ => letters character

/-- The rules commute with every writing of letters that keeps special characters apart. -/
theorem rules_flatMap (keeps : ∀ mark ∈ specialCharacters, KeepsMarks (is mark) (is' mark) write)
    (letters : ∀ character, write (letter character) = [letter' character]) (text : List σ) :
    rules is' letter' (text.flatMap write) = (rules is letter text).flatMap write := by
  simp only [rules, ← flatMap_map_letter letters]
  rw [(keeps backtick (by decide)).wrapSpans_flatMap (by decide),
    (keeps '*' (by decide)).wrapSpans_flatMap (by decide),
    (keeps '\n' (by decide)).replaceMarks_flatMap]

theorem rules_injective (keeps : ∀ mark ∈ specialCharacters, KeepsMarks (is mark) (is' mark) write)
    (single : ∀ mark ∈ specialCharacters, ∀ first second, is mark first = true →
      is mark second = true → first = second)
    {first second : List σ} (alike : first.flatMap write = second.flatMap write)
    (equal : rules is letter first = rules is letter second) : first = second := by
  have keepsCode := keeps backtick (by decide)
  have keepsBold := keeps '*' (by decide)
  have codeAlike := keepsCode.wrapSpans_alike (by decide : 0 < 1)
    ("<code>".toList.map letter) ("</code>".toList.map letter) alike
  have boldAlike := keepsBold.wrapSpans_alike (by decide : 0 < 2)
    ("<strong>".toList.map letter) ("</strong>".toList.map letter) codeAlike
  have boldEqual := (keeps '\n' (by decide)).replaceMarks_injective (single '\n' (by decide)) _
    boldAlike equal
  have codeEqual := keepsBold.wrapSpans_injective (by decide) (single '*' (by decide)) _ _
    codeAlike boldEqual
  exact keepsCode.wrapSpans_injective (by decide) (single backtick (by decide)) _ _ alike codeEqual

end Rules

/-! ### Characters and blocks -/

/-- A text in which blocks stand as letters among the characters. -/
abbrev MixedText (β : Type) := List (Segment Char β)

namespace MixedText

variable {β γ : Type}

def isCharacter (character : Char) : Segment Char β → Bool
  | .kept other => other == character
  | .occurrence _ => false

theorem isCharacter_iff {character : Char} {letter : Segment Char β} :
    isCharacter character letter = true ↔ letter = .kept character := by
  cases letter <;> simp [isCharacter]

/-- The inline rules, to which a block is one letter without a meaning. -/
def markUp : MixedText β → MixedText β :=
  rules isCharacter .kept

def replace (write : β → MixedText γ) (text : MixedText β) : MixedText γ :=
  text.flatMap fun
    | .kept character => [.kept character]
    | .occurrence block => write block

/-- The inline formatting of a text, in which fenced code is written out last of all. -/
def format (text : List Char) : List Char :=
  spell Fence.render (markUp (fence.segments text))

/-! ### Blocks written as ordinary letters -/

/-- A text that is one or more letters without a meaning for the inline rules. -/
structure Ordinary {τ : Type} (is : Char → τ → Bool) (text : List τ) : Prop where
  nonempty : text ≠ []
  unmarked : ∀ mark ∈ specialCharacters, ∀ letter ∈ text, is mark letter = false

/-- Ordinary characters are ordinary in a text with blocks. -/
theorem Ordinary.map_kept {letters : List Char}
    (ordinary : Ordinary (fun character other => other == character) letters) :
    Ordinary isCharacter (letters.map .kept : MixedText β) := by
  refine ⟨by simpa using ordinary.nonempty, ?_⟩
  intro mark special letter member
  obtain ⟨character, characterMember, rfl⟩ := List.mem_map.mp member
  exact ordinary.unmarked mark special character characterMember

theorem keepsMarks_of_ordinary {τ : Type} {is : Char → τ → Bool} {letter : Char → τ}
    {write : Segment Char β → List τ}
    (letters : ∀ character, write (.kept character) = [letter character])
    (own : ∀ mark character, is mark (letter character) = (character == mark))
    (ordinary : ∀ block, Ordinary is (write (.occurrence block))) :
    ∀ mark ∈ specialCharacters, KeepsMarks (isCharacter mark) (is mark) write := by
  intro mark special
  constructor
  · rintro (character | block) marked
    · exact ⟨letter character, letters character, by simpa [own, isCharacter] using marked⟩
    · simp [isCharacter] at marked
  · rintro (character | block) -
    · simp [letters]
    · exact (ordinary block).nonempty
  · rintro (character | block) unmarked other member
    · rw [letters, List.mem_singleton] at member
      simpa [member, own, isCharacter] using unmarked
    · exact (ordinary block).unmarked mark special other member

section Spelled

variable {write : β → List Char}
  (ordinary : ∀ block, Ordinary (fun character other => other == character) (write block))

include ordinary

theorem spell_markUp (text : MixedText β) :
    Inline.markUp (spell write text) = spell write (markUp text) := by
  rw [markUp_eq_rules]
  exact rules_flatMap (keepsMarks_of_ordinary (fun _ => rfl) (fun _ _ => rfl) ordinary)
    (fun _ => rfl) text

theorem markUp_injective {first second : MixedText β}
    (alike : spell write first = spell write second) (equal : markUp first = markUp second) :
    first = second := by
  refine rules_injective (keepsMarks_of_ordinary (fun _ => rfl) (fun _ _ => rfl) ordinary) ?_
    alike equal
  intro mark _ first second isFirst isSecond
  rw [isCharacter_iff.mp isFirst, isCharacter_iff.mp isSecond]

end Spelled

theorem replace_markUp {write : β → MixedText γ}
    (ordinary : ∀ block, Ordinary isCharacter (write block)) (text : MixedText β) :
    markUp (replace write text) = replace write (markUp text) :=
  rules_flatMap (keepsMarks_of_ordinary (fun _ => rfl) (fun _ _ => rfl) ordinary)
    (fun _ => rfl) text

/-! ### What the rules exchange -/

def tags : List (List Char) :=
  ["<code>".toList, "</code>".toList, "<strong>".toList, "</strong>".toList, "<br>".toList]

theorem ordinary_of_mem_tags {tag : List Char} (written : tag ∈ tags) :
    ∀ character ∈ tag, character ∉ specialCharacters := by
  have apart : (tags.all fun tag => tag.all fun character =>
      !specialCharacters.contains character) = true := by decide
  simpa using List.all_eq_true.mp apart tag written

/-- A text becomes another one by exchanging special characters for tags in some places; all other
letters stay in their places. -/
inductive Exchanged : MixedText β → MixedText β → Prop where
  | nil : Exchanged [] []
  | keep {text result : MixedText β} (letter : Segment Char β) (rest : Exchanged text result) :
      Exchanged (letter :: text) (letter :: result)
  | exchange {text result : MixedText β} {marks tag : List Char} (nonempty : marks ≠ [])
      (special : ∀ mark ∈ marks, mark ∈ specialCharacters) (written : tag ∈ tags)
      (rest : Exchanged text result) :
      Exchanged (marks.map .kept ++ text) (tag.map .kept ++ result)

namespace Exchanged

theorem append_left {text result : MixedText β} (front : MixedText β)
    (rest : Exchanged text result) : Exchanged (front ++ text) (front ++ result) := by
  induction front with
  | nil => exact rest
  | cons letter front inductionHypothesis => exact .keep letter inductionHypothesis

theorem values_eq {text result : MixedText β} (exchanged : Exchanged text result) :
    values result = values text := by
  induction exchanged with
  | nil => rfl
  | keep letter rest inductionHypothesis =>
      cases letter <;> simp [inductionHypothesis]
  | exchange nonempty special written rest inductionHypothesis =>
      simp [inductionHypothesis]

theorem exchange_marks {text result marks : MixedText β} {mark : Char} {width : Nat}
    {tag : List Char} (special : mark ∈ specialCharacters) (positive : 0 < width)
    (isMarks : Marks (isCharacter mark) width marks) (written : tag ∈ tags)
    (rest : Exchanged text result) : Exchanged (marks ++ text) (tag.map .kept ++ result) := by
  have spelled : marks = (List.replicate width mark).map .kept := by
    rw [List.map_replicate]
    exact List.eq_replicate_iff.mpr ⟨isMarks.length, fun letter member =>
      isCharacter_iff.mp (isMarks.all letter member)⟩
  rw [spelled]
  refine .exchange ?_ ?_ written rest
  · simp only [ne_eq, List.replicate_eq_nil_iff]
    omega
  · intro other member
    rw [List.eq_of_mem_replicate member]
    exact special

theorem of_wrapSpans {mark : Char} {width : Nat} {opening closing : List Char}
    (special : mark ∈ specialCharacters) (positive : 0 < width) (opens : opening ∈ tags)
    (closes : closing ∈ tags) (text : MixedText β) :
    Exchanged text (wrapSpans (isCharacter mark) width (opening.map .kept) (closing.map .kept)
      text) := by
  induction text using span_induction (isCharacter mark) positive with
  | nil => exact .nil
  | kept letter rest absent inductionHypothesis =>
      rw [wrapSpans_of_none absent]
      exact .keep letter inductionHypothesis
  | span left inside right rest isSpan inductionHypothesis =>
      rw [wrapSpans_of_span positive isSpan]
      have behind := exchange_marks special positive isSpan.right closes inductionHypothesis
      exact exchange_marks special positive isSpan.left opens (behind.append_left inside)

theorem of_replaceMarks {mark : Char} {tag : List Char} (special : mark ∈ specialCharacters)
    (written : tag ∈ tags) (text : MixedText β) :
    Exchanged text (replaceMarks (isCharacter mark) (tag.map .kept) text) := by
  induction text with
  | nil => exact .nil
  | cons letter rest inductionHypothesis =>
      rw [replaceMarks, List.flatMap_cons]
      split
      next marked =>
        have isMarks : Marks (isCharacter mark) 1 [letter] := ⟨rfl, by simpa using marked⟩
        exact exchange_marks special (by decide) isMarks written inductionHypothesis
      next => exact .keep letter inductionHypothesis

end Exchanged

/-- What every exchange of special characters for tags keeps, the inline rules keep. -/
theorem markUp_induction {motive : MixedText β → Prop}
    (step : ∀ text result, Exchanged text result → motive text → motive result)
    (text : MixedText β) (start : motive text) : motive (markUp text) := by
  simp only [markUp, rules]
  refine step _ _ (.of_replaceMarks (by decide) (by decide) _) ?_
  refine step _ _ (.of_wrapSpans (by decide) (by decide) (by decide) (by decide) _) ?_
  exact step _ _ (.of_wrapSpans (by decide) (by decide) (by decide) (by decide) _) start

theorem values_markUp (text : MixedText β) : values (markUp text) = values text := by
  apply markUp_induction (motive := fun result => values result = values text)
  · intro middle result exchanged kept
    rw [exchanged.values_eq, kept]
  · rfl

end MixedText

end SlideDeck.Markup.Inline
