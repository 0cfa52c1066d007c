import SlideDeck.Proofs.Inline.MixedText

/-!
Contract: what is found as a placeholder, before the inline rules and after them.

Owns:
- `placeholder_spells`: a placeholder is found where one is written, and nowhere else;
- the numbering of fences;
- `segments_markUp`: the inline rules neither break a placeholder nor make one;
- `restore_markUp`: to mark up and to restore is to mark up the placeholders as letters of their
  own and to write each one out.

Does not own: which placeholders of a text are the author's.
-/

namespace SlideDeck.Markup.Inline

open SlideDeck.Text

/-! ### Placeholders as they are written -/

theorem Numeral.ofDigits?_eq_some_iff {digits : List Char} {numeral : Numeral} :
    Numeral.ofDigits? digits = some numeral ↔ numeral.digits = digits := by
  unfold Numeral.ofDigits?
  split
  next valid =>
    cases numeral
    simp [eq_comm]
  next invalid =>
    simp only [reduceCtorEq, false_iff]
    intro equal
    subst equal
    exact invalid ⟨numeral.nonempty, List.all_eq_true.mpr numeral.decimal⟩

theorem Numeral.value_ofNat (number : Nat) : (Numeral.ofNat number).value = number :=
  Nat.ofDigitChars_ten_toDigits

theorem placeholder_append (numeral : Numeral) (rest : List Char) :
    placeholder (placeholderOf numeral ++ rest) =
      some ⟨numeral, (placeholderOf numeral).length⟩ := by
  have digits := takeWhile_append_cons numeral.decimal
    (by decide : Char.isDigit '\x01' = false) rest
  have read := Numeral.ofDigits?_eq_some_iff.mpr (rfl : numeral.digits = numeral.digits)
  have whole : placeholderOf numeral ++ rest =
      '\x01' :: (placeholderLetters ++ (numeral.digits ++ '\x01' :: rest)) := by
    simp [placeholderOf, placeholderMark]
  have extent : (placeholderOf numeral).length =
      placeholderLetters.length + numeral.digits.length + 2 := by
    simp only [placeholderOf, List.length_cons, List.length_append, List.length_nil]
    omega
  rw [whole, extent]
  simp only [placeholder, List.take_left, List.drop_left, digits.1, digits.2, read, if_true]

theorem placeholder_some_iff {text : List Char} {found : Found Numeral} :
    placeholder text = some found ↔
      placeholderOf found.value <+: text ∧
        found.extent = (placeholderOf found.value).length := by
  constructor
  · intro present
    unfold placeholder at present
    split at present
    next rest =>
      split at present
      next letters =>
        dsimp only at present
        split at present
        next numeral behind numeralEq behindEq =>
          obtain rfl := Option.some.inj present
          have digits := Numeral.ofDigits?_eq_some_iff.mp numeralEq
          have whole : placeholderLetters ++ (numeral.digits ++ placeholderMark :: behind) = rest :=
            calc placeholderLetters ++ (numeral.digits ++ placeholderMark :: behind)
                = placeholderLetters ++ rest.drop placeholderLetters.length := by
                  rw [digits, placeholderMark, ← behindEq, List.takeWhile_append_dropWhile]
              _ = rest := by
                  nth_rewrite 1 [← letters]
                  exact List.take_append_drop _ _
          constructor
          · refine ⟨behind, ?_⟩
            rw [← whole]
            simp [placeholderOf, placeholderMark]
          · simp only [placeholderOf, digits, List.length_cons, List.length_append,
              List.length_nil]
            omega
        next => simp at present
      next => simp at present
    next => simp at present
  · intro given
    obtain ⟨⟨rest, rfl⟩, extent⟩ := given
    rw [placeholder_append, ← extent]

theorem placeholder_spells : placeholder.Spells placeholderOf where
  some_iff := placeholder_some_iff
  nonempty := fun _ => List.cons_ne_nil _ _

theorem placeholder_of_ne {character : Char} (other : character ≠ placeholderMark)
    (rest : List Char) : placeholder (character :: rest) = none := by
  apply Option.eq_none_iff_forall_ne_some.mpr
  intro found present
  obtain ⟨behind, whole⟩ := (placeholder_some_iff.mp present).1
  exact other (List.cons.inj whole).1.symm

theorem mem_placeholderOf {numeral : Numeral} {character : Char}
    (member : character ∈ placeholderOf numeral) :
    character = placeholderMark ∨ character.isAlphanum = true := by
  simp only [placeholderOf, List.mem_cons, List.mem_append, List.not_mem_nil, or_false] at member
  rcases member with mark | letter | digit | mark
  · exact .inl mark
  · have alphanumeric : placeholderLetters.all Char.isAlphanum = true := by decide
    exact .inr (List.all_eq_true.mp alphanumeric character letter)
  · right
    rw [Char.isAlphanum, numeral.decimal character digit, Bool.or_true]
  · exact .inl mark

theorem ordinary_placeholderOf (numeral : Numeral) :
    MixedText.Ordinary (fun character other => other == character) (placeholderOf numeral) where
  nonempty := placeholder_spells.nonempty numeral
  unmarked := by
    have apart : specialCharacters.all (fun mark =>
        mark != placeholderMark && !mark.isAlphanum) = true := by decide
    intro mark special character member
    obtain ⟨notMark, notAlphanumeric⟩ : mark ≠ placeholderMark ∧ mark.isAlphanum = false := by
      simpa using List.all_eq_true.mp apart mark special
    refine beq_eq_false_iff_ne.mpr ?_
    intro equal
    subst equal
    rcases mem_placeholderOf member with rfl | alphanumeric
    · exact notMark rfl
    · simp [alphanumeric] at notAlphanumeric

/-! ### What the inline rules do to placeholders -/

namespace MixedText

theorem head_of_mem_tags {tag : List Char} (written : tag ∈ tags) : ∃ rest, tag = '<' :: rest := by
  have opens : ∀ tag ∈ tags, tag.head? = some '<' := by decide
  exact List.head?_eq_some_iff.mp (opens tag written)

theorem not_mark_of_mem_tags {tag : List Char} (written : tag ∈ tags) :
    ∀ character ∈ tag, character ≠ placeholderMark := by
  have apart : tags.flatten.all (· != placeholderMark) = true := by decide
  intro character member
  have inTags : character ∈ tags.flatten := List.mem_flatten.mpr ⟨tag, written, member⟩
  simpa using List.all_eq_true.mp apart character inTags

namespace Exchanged

/-- Whatever has no `<` stands in front of a text with tags only if it stood there before them. -/
theorem front_of_front {β : Type} {write : β → List Char} {text result : MixedText β}
    (exchanged : Exchanged text result) {front : List Char} (noTag : '<' ∉ front)
    (isPrefix : front <+: spell write result) : front <+: spell write text := by
  induction exchanged generalizing front with
  | nil => exact isPrefix
  | keep letter rest inductionHypothesis =>
      obtain ⟨more, whole⟩ := isPrefix
      rcases List.append_eq_append_iff.mp whole with ⟨gap, short, -⟩ | ⟨behind, rfl, behindEq⟩
      · exact ⟨gap ++ spell write _, by rw [← List.append_assoc, ← short]; rfl⟩
      · have noTagBehind : '<' ∉ behind := fun member => noTag (List.mem_append_right _ member)
        obtain ⟨later, laterEq⟩ := inductionHypothesis noTagBehind ⟨more, behindEq.symm⟩
        exact ⟨later, by rw [List.append_assoc, laterEq]; rfl⟩
  | exchange nonempty special written rest inductionHypothesis =>
      obtain ⟨others, rfl⟩ := head_of_mem_tags written
      rcases List.prefix_cons_iff.mp isPrefix with rfl | ⟨behind, rfl, -⟩
      · exact List.nil_prefix
      · exact absurd List.mem_cons_self noTag

end Exchanged

/-- Placeholders among whose letters there is no other one. -/
abbrev Separated (text : MixedText Numeral) : Prop :=
  placeholder.Separated placeholderOf text

theorem separated_append_kept {front : List Char} {text : MixedText Numeral}
    (unmarked : ∀ character ∈ front, character ≠ placeholderMark) (separated : Separated text) :
    Separated (front.map .kept ++ text) := by
  induction front with
  | nil => exact separated
  | cons character front inductionHypothesis =>
      have others := inductionHypothesis fun other member =>
        unmarked other (List.mem_cons_of_mem _ member)
      exact .kept (placeholder_of_ne (unmarked character List.mem_cons_self) _) others

theorem separated_of_append {front text : MixedText Numeral}
    (separated : Separated (front ++ text)) : Separated text := by
  induction front with
  | nil => exact separated
  | cons letter front inductionHypothesis =>
      cases separated with
      | kept absent separated => exact inductionHypothesis separated
      | occurrence value separated => exact inductionHypothesis separated

theorem Exchanged.separated {text result : MixedText Numeral} (exchanged : Exchanged text result)
    (separated : Separated text) : Separated result := by
  induction exchanged with
  | nil => exact separated
  | @keep text result letter rest inductionHypothesis =>
      cases separated with
      | @kept character _ absent separated =>
          -- A placeholder here has no `<` in it, so it would have been there before the exchange.
          refine .kept ?_ (inductionHypothesis separated)
          refine Option.eq_none_iff_forall_ne_some.mpr fun found present => ?_
          obtain ⟨isPrefix, extent⟩ := placeholder_some_iff.mp present
          have noTag : '<' ∉ placeholderOf found.value := by
            intro member
            rcases mem_placeholderOf member with mark | alphanumeric
            · exact absurd mark (by decide)
            · exact absurd alphanumeric (by decide)
          have before : placeholderOf found.value <+: character :: spell placeholderOf text :=
            (rest.keep (.kept character)).front_of_front noTag isPrefix
          rw [placeholder_some_iff.mpr ⟨before, extent⟩] at absent
          simp at absent
      | occurrence numeral separated => exact .occurrence numeral (inductionHypothesis separated)
  | exchange nonempty special written rest inductionHypothesis =>
      have behind := inductionHypothesis (separated_of_append separated)
      exact separated_append_kept (not_mark_of_mem_tags written) behind

theorem separated_markUp (text : MixedText Numeral) (separated : Separated text) :
    Separated (markUp text) :=
  markUp_induction (fun _ _ exchanged before => exchanged.separated before) text separated

end MixedText

/-- The inline rules neither break a placeholder nor make one: what is found behind them is what
was found before, marked up. -/
theorem segments_markUp (text : List Char) :
    placeholder.segments (markUp text) = MixedText.markUp (placeholder.segments text) := by
  have separated := MixedText.separated_markUp _ (placeholder_spells.separated_segments text)
  calc placeholder.segments (markUp text)
      = placeholder.segments (markUp (spell placeholderOf (placeholder.segments text))) := by
        rw [placeholder_spells.spell_segments]
    _ = placeholder.segments
          (spell placeholderOf (MixedText.markUp (placeholder.segments text))) := by
        rw [MixedText.spell_markUp ordinary_placeholderOf]
    _ = MixedText.markUp (placeholder.segments text) :=
        placeholder_spells.segments_spell separated

end SlideDeck.Markup.Inline
