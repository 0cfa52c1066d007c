import SlideDeck.Proofs.Inline.Placeholder

/-!
Contract: texts whose blocks go by names, and by numbers above all.

Owns:
- the laws of replacing and renaming blocks: what is spelled, which blocks there are, and that the
  inline rules do not look at names;
- `labelled` and `numbered`, which give blocks their numbers in order;
- `withPlaceholders_eq`: placeholders are the spelling of numbers.
-/

namespace SlideDeck.Markup.Inline

open SlideDeck.Text

namespace MixedText

variable {β γ : Type}

/-! ### Replacing and renaming -/

theorem spell_congr {write other : β → List Char} {text : MixedText β}
    (same : ∀ block ∈ values text, write block = other block) :
    spell write text = spell other text := by
  induction text with
  | nil => rfl
  | cons letter text inductionHypothesis =>
      cases letter with
      | kept character => rw [spell_kept, spell_kept, inductionHypothesis same]
      | occurrence block =>
          rw [values_occurrence, List.forall_mem_cons] at same
          rw [spell_occurrence, spell_occurrence, same.1, inductionHypothesis same.2]

theorem spell_replace (write : γ → List Char) (fill : β → MixedText γ) (text : MixedText β) :
    spell write (replace fill text) = spell (fun block => spell write (fill block)) text := by
  induction text with
  | nil => rfl
  | cons letter text inductionHypothesis =>
      rw [replace, List.flatMap_cons, spell_append]
      cases letter with
      | kept character => exact congrArg (character :: ·) inductionHypothesis
      | occurrence block => exact congrArg (spell write (fill block) ++ ·) inductionHypothesis

theorem values_replace (fill : β → MixedText γ) (text : MixedText β) :
    values (replace fill text) = (values text).flatMap fun block => values (fill block) := by
  induction text with
  | nil => rfl
  | cons letter text inductionHypothesis =>
      rw [replace, List.flatMap_cons, values_append]
      cases letter with
      | kept character => exact inductionHypothesis
      | occurrence block =>
          exact congrArg (values (fill block) ++ ·) inductionHypothesis

/-- The text with every block named anew. -/
def rename (name : β → γ) : MixedText β → MixedText γ :=
  replace fun block => [.occurrence (name block)]

theorem spell_rename (write : γ → List Char) (name : β → γ) (text : MixedText β) :
    spell write (rename name text) = spell (fun block => write (name block)) text := by
  rw [rename, spell_replace]
  simp

theorem values_rename (name : β → γ) (text : MixedText β) :
    values (rename name text) = (values text).map name := by
  rw [rename, values_replace, List.map_eq_flatMap]
  rfl

theorem markUp_rename (name : β → γ) (text : MixedText β) :
    markUp (rename name text) = rename name (markUp text) := by
  refine replace_markUp (fun block => ⟨List.cons_ne_nil _ _, ?_⟩) text
  intro mark _ letter member
  rw [List.mem_singleton.mp member]
  rfl

/-! ### Numbers in order -/

/-- The text with the blocks labelled by numbers from `next` on. -/
def labelled : Nat → MixedText β → MixedText (Nat × β)
  | _, [] => []
  | next, .kept character :: text => .kept character :: labelled next text
  | next, .occurrence block :: text => .occurrence (next, block) :: labelled (next + 1) text

/-- The text with the blocks' numbers, from `next` on, in the place of the blocks. -/
def numbered (next : Nat) (text : MixedText β) : MixedText Numeral :=
  rename (fun label => .ofNat label.1) (labelled next text)

@[simp] theorem numbered_nil (next : Nat) : numbered next ([] : MixedText β) = [] := rfl

@[simp] theorem numbered_kept (next : Nat) (character : Char) (text : MixedText β) :
    numbered next (.kept character :: text) = .kept character :: numbered next text := rfl

@[simp] theorem numbered_occurrence (next : Nat) (block : β) (text : MixedText β) :
    numbered next (.occurrence block :: text) =
      .occurrence (.ofNat next) :: numbered (next + 1) text := rfl

@[simp] theorem numbered_append_kept (next : Nat) (front : List Char) (text : MixedText β) :
    numbered next (front.map .kept ++ text) = front.map .kept ++ numbered next text := by
  induction front with
  | nil => rfl
  | cons character front inductionHypothesis => simp [inductionHypothesis]

theorem rename_labelled (next : Nat) (text : MixedText β) :
    rename Prod.snd (labelled next text) = text := by
  induction text generalizing next with
  | nil => rfl
  | cons letter text inductionHypothesis =>
      cases letter with
      | kept character => exact congrArg (.kept character :: ·) (inductionHypothesis next)
      | occurrence block =>
          exact congrArg (.occurrence block :: ·) (inductionHypothesis (next + 1))

theorem values_labelled (next : Nat) (text : MixedText β) :
    values (labelled next text) = ((values text).zipIdx next).map Prod.swap := by
  induction text generalizing next with
  | nil => rfl
  | cons letter text inductionHypothesis =>
      cases letter with
      | kept character => exact inductionHypothesis next
      | occurrence block => exact congrArg ((next, block) :: ·) (inductionHypothesis (next + 1))

theorem values_numbered (next : Nat) (text : MixedText β) :
    (values (numbered next text)).map Numeral.value =
      List.range' next (values text).length := by
  rw [numbered, values_rename, values_labelled, List.map_map, List.map_map,
    ← List.zipIdx_map_snd next (values text)]
  exact List.map_congr_left fun label _ => Numeral.value_ofNat label.2

end MixedText

theorem withPlaceholders_eq (next : Nat) (segments : List (Segment Char Fence)) :
    withPlaceholders next segments =
      spell placeholderOf (MixedText.numbered next segments) := by
  induction segments generalizing next with
  | nil => rfl
  | cons segment segments inductionHypothesis =>
      cases segment with
      | kept character =>
          rw [withPlaceholders, inductionHypothesis, MixedText.numbered_kept, spell_kept]
      | occurrence found =>
          rw [withPlaceholders, inductionHypothesis, MixedText.numbered_occurrence,
            spell_occurrence]

end SlideDeck.Markup.Inline
