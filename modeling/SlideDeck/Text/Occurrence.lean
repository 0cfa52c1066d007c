/-!
Contract: the leftmost, non-overlapping occurrences of a pattern in a text.

A text is a list of letters of any kind. A pattern is a reader: it looks at a text from one
position on and, if an occurrence begins there, says what was found and how many letters the
occurrence takes. `segments` asks the reader at each position from left to right and goes on
behind every occurrence it finds.

Owns:
- `Found`, `Pattern`, `Segment` and `segments`;
- `spell`, the text of segments, and `values`, what is found in it;
- `replaceEach`, the text with every occurrence replaced.

Does not own: any particular pattern.
-/

namespace SlideDeck.Text

/-- An occurrence at the front of a text: what it stands for and its number of letters. -/
structure Found (α : Type) where
  value : α
  extent : Nat
deriving DecidableEq, Repr

/-- Reads an occurrence at the front of a text. -/
abbrev Pattern (σ α : Type) := List σ → Option (Found α)

/-- One piece of a text cut along the occurrences of a pattern. -/
inductive Segment (σ α : Type) where
  | kept (letter : σ)
  | occurrence (value : α)
deriving DecidableEq, Repr

/-- The letters of a segment, where an occurrence is written as a text of its own. -/
def Segment.letters {σ α : Type} (write : α → List σ) : Segment σ α → List σ
  | kept letter => [letter]
  | occurrence value => write value

/-- The text of segments, each occurrence written as a text of its own. -/
def spell {σ α : Type} (write : α → List σ) (segments : List (Segment σ α)) : List σ :=
  segments.flatMap (Segment.letters write)

/-- What the occurrences among segments stand for, in order. -/
def values {σ α : Type} (segments : List (Segment σ α)) : List α :=
  segments.filterMap fun
    | .kept _ => none
    | .occurrence value => some value

namespace Pattern

/-- Cuts a text whose first `skipped` letters belong to an occurrence found before. -/
def segmentsAfter {σ α : Type} (pattern : Pattern σ α) : Nat → List σ → List (Segment σ α)
  | _, [] => []
  | skipped + 1, _ :: rest => segmentsAfter pattern skipped rest
  | 0, letter :: rest =>
      match pattern (letter :: rest) with
      | none => .kept letter :: segmentsAfter pattern 0 rest
      | some found => .occurrence found.value :: segmentsAfter pattern (found.extent - 1) rest

/-- The pieces of a text: letters between occurrences, and occurrences. -/
def segments {σ α : Type} (pattern : Pattern σ α) (text : List σ) : List (Segment σ α) :=
  pattern.segmentsAfter 0 text

/-- Replaces every occurrence of the pattern and keeps all other letters. -/
def replaceEach {σ α : Type} (pattern : Pattern σ α) (write : α → List σ)
    (text : List σ) : List σ :=
  spell write (pattern.segments text)

theorem segmentsAfter_eq_drop {σ α : Type} (pattern : Pattern σ α) (skipped : Nat)
    (text : List σ) :
    pattern.segmentsAfter skipped text = pattern.segments (text.drop skipped) := by
  induction text generalizing skipped with
  | nil => simp [segments, segmentsAfter]
  | cons letter rest inductionHypothesis =>
      cases skipped with
      | zero => rfl
      | succ fewer => simpa [segmentsAfter] using inductionHypothesis fewer

end Pattern

end SlideDeck.Text
