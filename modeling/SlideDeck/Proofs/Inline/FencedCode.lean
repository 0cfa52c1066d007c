import SlideDeck.Markup.Inline
import SlideDeck.Proofs.Text.Cut

/-!
Contract: fenced code as it is written and found.

Owns:
- `ClosesFirst`, the bodies that end at the marks behind them and not before;
- `Fence.source`, the text of a fence, and `Fence.IsWritten`, the fences that have one;
- `fence_some_iff`: a fence is found where one is written, and nowhere else.

Does not own: what stands around fenced code.
-/

namespace SlideDeck.Markup.Inline

open SlideDeck.Text

def fenceMarks : List Char := [backtick, backtick, backtick]

/-- With the marks of a fence behind it, a body has no such marks in another place. -/
def ClosesFirst (body : List Char) : Prop :=
  ∀ front back, body ++ fenceMarks = front ++ (fenceMarks ++ back) → front = body

/-- Fenced code as it is written in a text. -/
def Fence.source (fence : Fence) : List Char :=
  fenceMarks ++ (fence.language ++ '\n' :: (fence.body ++ fenceMarks))

variable {character : Char} {language body before after : List Char}

/-! ### Finding the end of a body -/

theorem ClosesFirst.of_cons (closes : ClosesFirst (character :: body)) : ClosesFirst body := by
  intro front back whole
  have longer := closes (character :: front) back (by rw [List.cons_append, whole]; rfl)
  exact (List.cons.inj longer).2

theorem untilFence_append (closes : ClosesFirst body) (rest : List Char) :
    untilFence (body ++ (fenceMarks ++ rest)) = some body := by
  induction body with
  | nil => rfl
  | cons character body inductionHypothesis =>
      have noMarks : ∀ behind, character = backtick →
          body ++ (fenceMarks ++ rest) = backtick :: backtick :: behind → False := by
        intro behind isMark marks
        -- The other two marks lie within the body and the marks behind it.
        have begins : [backtick, backtick] <+: body ++ fenceMarks ++ rest := by
          rw [List.append_assoc, marks]
          exact List.prefix_append [backtick, backtick] behind
        have short : [backtick, backtick].length ≤ (body ++ fenceMarks).length := by
          rw [List.length_append]
          exact Nat.le_add_left_of_le (by decide)
        obtain ⟨back, whole⟩ :=
          List.prefix_of_prefix_length_le begins (List.prefix_append _ _) short
        have empty := closes [] back (by rw [List.cons_append, ← whole, isMark]; rfl)
        simp at empty
      rw [List.cons_append, untilFence.eq_3 _ _ noMarks, inductionHypothesis closes.of_cons]
      rfl

theorem length_of_untilFence {front rest inside : List Char}
    (present : untilFence (front ++ (fenceMarks ++ rest)) = some inside) :
    inside.length ≤ front.length := by
  induction front generalizing inside with
  | nil =>
      have empty : some [] = some inside := present
      rw [← Option.some.inj empty]
  | cons character front inductionHypothesis =>
      rw [List.cons_append] at present
      unfold untilFence at present
      split at present
      next equal => simp at equal
      next => simp [← Option.some.inj present]
      next _ _ _ equal =>
        obtain ⟨rfl, rfl⟩ := List.cons.inj equal
        obtain ⟨behind, found, rfl⟩ := Option.map_eq_some_iff.mp present
        exact Nat.succ_le_succ (inductionHypothesis found)

theorem closesFirst_iff : ClosesFirst body ↔ untilFence (body ++ fenceMarks) = some body := by
  constructor
  · intro closes
    simpa using untilFence_append closes []
  · intro found front back whole
    have lengths := congrArg List.length whole
    rw [whole] at found
    have shorter := length_of_untilFence found
    simp only [List.length_append] at lengths
    -- A shorter front would be found first.
    exact (List.append_inj whole (by omega)).1.symm

instance : Decidable (ClosesFirst body) :=
  decidable_of_iff _ closesFirst_iff.symm

theorem fence_source (word : ∀ letter ∈ language, isWordCharacter letter = true)
    (closes : ClosesFirst body) (rest : List Char) :
    fence (Fence.source ⟨language, body⟩ ++ rest) =
      some ⟨⟨language, body⟩, (Fence.source ⟨language, body⟩).length⟩ := by
  have header := takeWhile_append_cons word (by decide : isWordCharacter '\n' = false)
    (body ++ (fenceMarks ++ rest))
  have whole : Fence.source ⟨language, body⟩ ++ rest =
      '\x60' :: '\x60' :: '\x60' :: (language ++ '\n' :: (body ++ (fenceMarks ++ rest))) := by
    simp [Fence.source, fenceMarks, backtick]
  rw [whole, fence]
  simp only [header.1, header.2, untilFence_append closes, Option.map_some, Option.some.injEq,
    Found.mk.injEq, true_and]
  simp only [Fence.source, fenceMarks, List.length_append, List.length_cons, List.length_nil]
  omega

theorem exists_of_untilFence {text : List Char} (present : untilFence text = some body) :
    ClosesFirst body ∧ ∃ rest, text = body ++ (fenceMarks ++ rest) := by
  fun_induction untilFence text generalizing body with
  | case1 => simp at present
  | case2 rest =>
      obtain rfl : [] = body := Option.some.inj present
      exact ⟨closesFirst_iff.mpr rfl, rest, rfl⟩
  | case3 character rest noMarks inductionHypothesis =>
      obtain ⟨inside, found, rfl⟩ := Option.map_eq_some_iff.mp present
      obtain ⟨closes, behind, rfl⟩ := inductionHypothesis found
      refine ⟨?_, behind, rfl⟩
      have noMarksInside : ∀ back, character = backtick →
          inside ++ fenceMarks = backtick :: backtick :: back → False := by
        intro back isMark marks
        apply noMarks (back ++ behind) isMark
        rw [← List.append_assoc, marks]
        rfl
      rw [closesFirst_iff, List.cons_append, untilFence.eq_3 _ _ noMarksInside,
        closesFirst_iff.mp closes]
      rfl

/-- A fence that is found again where it is written. -/
structure Fence.IsWritten (fence : Fence) : Prop where
  word : ∀ letter ∈ fence.language, isWordCharacter letter = true
  closes : ClosesFirst fence.body

theorem fence_some_iff {text : List Char} {found : Found Fence} :
    fence text = some found ↔
      ∃ run rest, (found.value.IsWritten ∧ run = found.value.source ∧
        found.extent = run.length) ∧ text = run ++ rest := by
  constructor
  · intro present
    unfold fence at present
    split at present
    next rest =>
      dsimp only at present
      split at present
      next behind dropped =>
        obtain ⟨inside, untilMarks, rfl⟩ := Option.map_eq_some_iff.mp present
        obtain ⟨closes, after, rfl⟩ := exists_of_untilFence untilMarks
        have header : rest.takeWhile isWordCharacter ++
            '\n' :: (inside ++ (fenceMarks ++ after)) = rest := by
          rw [← dropped]
          exact List.takeWhile_append_dropWhile
        refine ⟨_, after, ⟨⟨fun _ => List.mem_takeWhile_imp, closes⟩, rfl, ?_⟩, ?_⟩
        · simp only [Fence.source, fenceMarks, List.length_append, List.length_cons,
            List.length_nil]
          omega
        · calc '\x60' :: '\x60' :: '\x60' :: rest
              = fenceMarks ++ (rest.takeWhile isWordCharacter ++
                  '\n' :: (inside ++ (fenceMarks ++ after))) := by
                rw [header]
                rfl
            _ = Fence.source ⟨rest.takeWhile isWordCharacter, inside⟩ ++ after := by
                simp only [Fence.source, List.append_assoc, List.cons_append]
      next => simp at present
    next => simp at present
  · rintro ⟨run, rest, ⟨isWritten, rfl, extent⟩, rfl⟩
    rw [fence_source isWritten.word isWritten.closes, ← extent]

end SlideDeck.Markup.Inline
