import Mathlib.Data.List.TakeWhile

/-!
Contract: texts that are cut at a mark.

A text without the mark is cut nowhere, and with the mark behind it, it is the part that is cut off.

Owns:
- every letter of a text compared with a mark that does not stand in it;
- `takeWhile` and `dropWhile` up to a mark, or up to a letter that is not kept;
- `splitOnP` at a mark.

Does not own: which marks cut which texts.
-/

namespace SlideDeck.Text

section Kept

variable {σ : Type} {keep : σ → Bool} {front behind : List σ}

/-- A text is read as far as its letters are kept. -/
theorem takeWhile_eq_self_of_head (kept : ∀ letter ∈ front, keep letter = true)
    (stops : ∀ letter ∈ behind.head?, keep letter = false) :
    (front ++ behind).takeWhile keep = front ∧ (front ++ behind).dropWhile keep = behind := by
  rw [List.takeWhile_append_of_pos kept, List.dropWhile_append_of_pos kept]
  cases behind with
  | nil => simp
  | cons first behind =>
      have stop : keep first = false := stops first rfl
      simp [stop]

theorem takeWhile_append_cons {mark : σ} (kept : ∀ letter ∈ front, keep letter = true)
    (stop : keep mark = false) (behind : List σ) :
    (front ++ mark :: behind).takeWhile keep = front ∧
      (front ++ mark :: behind).dropWhile keep = mark :: behind := by
  apply takeWhile_eq_self_of_head kept
  intro letter isFirst
  obtain rfl : mark = letter := Option.some.inj isFirst
  exact stop

end Kept

section Marked

variable {front text : List Char} {mark : Char}

theorem beq_of_not_mem (absent : mark ∉ text) :
    ∀ character ∈ text, (character == mark) = false := by
  intro character member
  rw [beq_eq_false_iff_ne]
  rintro rfl
  exact absent member

theorem bne_of_not_mem (absent : mark ∉ text) :
    ∀ character ∈ text, (character != mark) = true := by
  intro character member
  rw [bne, beq_of_not_mem absent character member]
  rfl

/-- A text is read up to a mark that does not stand in it. -/
theorem takeWhile_ne_append (absent : mark ∉ front) (behind : List Char) :
    (front ++ mark :: behind).takeWhile (· != mark) = front ∧
      (front ++ mark :: behind).dropWhile (· != mark) = mark :: behind :=
  takeWhile_append_cons (bne_of_not_mem absent) (bne_self_eq_false mark) behind

theorem splitOnP_append_cons (absent : mark ∉ front) (behind : List Char) :
    (front ++ mark :: behind).splitOnP (· == mark) = front :: behind.splitOnP (· == mark) := by
  apply List.splitOnP_append_cons_of_forall_mem (beq_of_not_mem absent)
  exact beq_self_eq_true mark

theorem splitOnP_of_not_mem (absent : mark ∉ text) : text.splitOnP (· == mark) = [text] :=
  List.splitOnP_eq_singleton (beq_of_not_mem absent)

end Marked

end SlideDeck.Text
