import SlideDeck.Text.Occurrence

/-!
Contract: spans between marks.

A span is a number of marks, at least one letter that is no mark, and the same number of marks
again. Which letters are marks is a parameter, as is the kind of letters.

Owns:
- `afterMarks` and the pattern `span`;
- `wrapSpans`, which writes a text of its own in the place of the marks on either side;
- `replaceMarks`, which writes a text of its own in the place of single marks.
-/

namespace SlideDeck.Text

/-- What stands behind a number of marks at the front of a text, if they are there. -/
def afterMarks {σ : Type} (isMark : σ → Bool) : Nat → List σ → Option (List σ)
  | 0, text => some text
  | _ + 1, [] => none
  | width + 1, letter :: rest => if isMark letter then afterMarks isMark width rest else none

/-- A span: marks around at least one letter that is none. -/
def span {σ : Type} (isMark : σ → Bool) (width : Nat) : Pattern σ (List σ) := fun text => do
  let behind ← afterMarks isMark width text
  let inside := behind.takeWhile (!isMark ·)
  match inside, afterMarks isMark width (behind.dropWhile (!isMark ·)) with
  | _ :: _, some _ => some ⟨inside, width + inside.length + width⟩
  | _, _ => none

/-- Writes every span with an opening and a closing text in the place of its marks. -/
def wrapSpans {σ : Type} (isMark : σ → Bool) (width : Nat) (opening closing : List σ) :
    List σ → List σ :=
  (span isMark width).replaceEach fun inside => opening ++ inside ++ closing

/-- Writes a text in the place of every mark. -/
def replaceMarks {σ : Type} (isMark : σ → Bool) (replacement : List σ) (text : List σ) : List σ :=
  text.flatMap fun letter => if isMark letter then replacement else [letter]

end SlideDeck.Text
