import SlideDeck.Proofs.Inline.FencedCode
import SlideDeck.Proofs.Inline.Placeholder
import SlideDeck.Proofs.Rendering.Element

/-!
Contract: formatted texts are nested if no tag stands in their prose.

Prose is what stands outside of fenced code. The inline rules write tags of their own, which need
not be closed in their order, but none of a block; blocks of code are elements with escaped bodies.
This holds also where a text imitates placeholders.

Owns:
- `Tidy`, texts with tags of the inline rules only, which the rules keep;
- `UntaggedProse`, and `Formattable` properties, which formatted texts have by their parts;
- `nested_formatText`.
-/

namespace SlideDeck.Markup

/-! ### Blocks of code -/

theorem untagged_escape (text : String) : Untagged (Text.escape text) := by
  have noTag : ∀ character, '<' ∉ Text.Escape.reference character := by
    intro character
    unfold Text.Escape.reference
    split <;> simp_all [eq_comm]
  unfold Untagged Text.escape
  rw [String.toList_ofList, Text.Escape.encode, List.mem_flatMap]
  rintro ⟨character, -, member⟩
  exact noTag character member

theorem untaggedValues_language {language : String} (untagged : Untagged language) :
    UntaggedValues [("class", "language-" ++ language)] := by
  refine .single (by decide) ?_
  simpa [Untagged] using untagged

theorem nested_codeBlock {language : String} (untagged : Untagged language) (code : String) :
    Nested (codeBlock language code) := by
  have values := untaggedValues_language untagged
  have body := Nested.of_untagged (untagged_escape code)
  have inner := body.plainElement (by decide : CleanName "code") values (by decide)
  exact inner.plainElement (by decide) untaggedValues_nil (by decide)

/-- A property that the tags of the inline rules and blocks of code have too. -/
structure Formattable (property : String → Prop) : Prop extends Joining property where
  tag {tag : List Char} : tag ∈ Inline.MixedText.tags → property (String.ofList tag)
  codeBlock {language : String} :
    Untagged language → ∀ code, property (codeBlock language code)

namespace Inline

open SlideDeck.Text

/-! ### The inline rules -/

namespace MixedText

variable {β : Type} {text result : MixedText β}

/-- Every `<` among the characters of a text begins a tag of the inline rules. -/
inductive Tidy : MixedText β → Prop where
  | nil : Tidy []
  | letter {text : MixedText β} {character : Char} (noTag : character ≠ '<') (rest : Tidy text) :
      Tidy (.kept character :: text)
  | block {text : MixedText β} (block : β) (rest : Tidy text) : Tidy (.occurrence block :: text)
  | tag {text : MixedText β} {tag : List Char} (written : tag ∈ tags) (rest : Tidy text) :
      Tidy (tag.map .kept ++ text)

theorem tidy_of_untagged (untagged : .kept '<' ∉ text) : Tidy text := by
  induction text with
  | nil => exact .nil
  | cons letter text inductionHypothesis =>
      rw [List.mem_cons, not_or] at untagged
      have rest := inductionHypothesis untagged.2
      cases letter with
      | kept character => exact .letter (fun equal => untagged.1 (by rw [equal])) rest
      | occurrence block => exact .block block rest

/-- Letters that begin no tag can be left away in front. -/
theorem Tidy.of_append {front : List Char} (noTag : '<' ∉ front)
    (tidy : Tidy (front.map .kept ++ text)) : Tidy text := by
  induction front with
  | nil => exact tidy
  | cons character front inductionHypothesis =>
      rw [List.mem_cons, not_or] at noTag
      generalize whole : (character :: front).map Segment.kept ++ text = letters at tidy
      cases tidy with
      | nil => simp at whole
      | letter _ rest =>
          obtain ⟨-, rfl⟩ := List.cons.inj whole
          exact inductionHypothesis noTag.2 rest
      | block => simp at whole
      | tag written rest =>
          obtain ⟨others, rfl⟩ := head_of_mem_tags written
          exact absurd (Segment.kept.inj (List.cons.inj whole).1).symm noTag.1

/-- What has no special characters stays in front. -/
theorem Exchanged.exists_behind {front : List Char}
    (ordinary : ∀ character ∈ front, character ∉ specialCharacters)
    (exchanged : Exchanged (front.map .kept ++ text) result) :
    ∃ behind, result = front.map .kept ++ behind ∧ Exchanged text behind := by
  induction front generalizing result with
  | nil => exact ⟨result, rfl, exchanged⟩
  | cons character front inductionHypothesis =>
      rw [List.forall_mem_cons] at ordinary
      generalize whole : (character :: front).map Segment.kept ++ text = letters at exchanged
      cases exchanged with
      | nil => simp at whole
      | keep letter rest =>
          obtain ⟨rfl, rfl⟩ := List.cons.inj whole
          obtain ⟨behind, rfl, behindExchanged⟩ := inductionHypothesis ordinary.2 rest
          exact ⟨behind, rfl, behindExchanged⟩
      | exchange nonempty special written rest =>
          obtain ⟨mark, marks, rfl⟩ := List.exists_cons_of_ne_nil nonempty
          have same : character = mark := Segment.kept.inj (List.cons.inj whole).1
          exact absurd (special mark List.mem_cons_self) (same ▸ ordinary.1)

theorem noTag_of_special {marks : List Char}
    (special : ∀ mark ∈ marks, mark ∈ specialCharacters) : '<' ∉ marks := by
  intro member
  exact absurd (special _ member) (by decide)

theorem Tidy.of_exchanged (tidy : Tidy text) (exchanged : Exchanged text result) :
    Tidy result := by
  induction tidy generalizing result with
  | nil =>
      generalize whole : ([] : MixedText β) = letters at exchanged
      cases exchanged with
      | nil => exact .nil
      | keep => simp at whole
      | exchange nonempty _ _ _ => simp [nonempty] at whole
  | @letter text character noTag rest inductionHypothesis =>
      generalize whole : Segment.kept character :: text = letters at exchanged
      cases exchanged with
      | nil => simp at whole
      | keep letter rest =>
          obtain ⟨rfl, rfl⟩ := List.cons.inj whole
          exact .letter noTag (inductionHypothesis rest)
      | @exchange text _ marks _ nonempty special written behindExchanged =>
          obtain ⟨mark, marks, rfl⟩ := List.exists_cons_of_ne_nil nonempty
          obtain ⟨-, rfl⟩ := List.cons.inj whole
          -- The other marks of the exchange are letters of the text behind the first one.
          have behind := inductionHypothesis (behindExchanged.append_left (marks.map .kept))
          rw [List.forall_mem_cons] at special
          exact .tag written (behind.of_append (noTag_of_special special.2))
  | @block text block rest inductionHypothesis =>
      generalize whole : Segment.occurrence block :: text = letters at exchanged
      cases exchanged with
      | nil => simp at whole
      | keep letter rest =>
          obtain ⟨rfl, rfl⟩ := List.cons.inj whole
          exact .block block (inductionHypothesis rest)
      | exchange nonempty _ _ _ =>
          obtain ⟨mark, marks, rfl⟩ := List.exists_cons_of_ne_nil nonempty
          simp at whole
  | tag written rest inductionHypothesis =>
      obtain ⟨behind, rfl, behindExchanged⟩ :=
        exchanged.exists_behind (ordinary_of_mem_tags written)
      exact .tag written (inductionHypothesis behindExchanged)

theorem Tidy.markUp (tidy : Tidy text) : Tidy (markUp text) :=
  markUp_induction (fun _ _ exchanged before => before.of_exchanged exchanged) text tidy

/-! ### What tidy texts are made of -/

theorem nested_tag {tag : List Char} (written : tag ∈ tags) : Nested (String.ofList tag) := by
  have code : CleanName "code" := by decide
  have strong : CleanName "strong" := by decide
  have br : CleanName "br" := by decide
  simp only [tags, List.mem_cons, List.not_mem_nil, or_false] at written
  rcases written with rfl | rfl | rfl | rfl | rfl
  · exact Nested.openTag code untaggedValues_nil rfl rfl
  · exact Nested.closeTag code rfl
  · exact Nested.openTag strong untaggedValues_nil rfl rfl
  · exact Nested.closeTag strong rfl
  · exact Nested.openTag br untaggedValues_nil rfl rfl

theorem Tidy.spell {property : String → Prop} (formattable : Formattable property)
    {write : β → List Char} (blocks : ∀ block, property (String.ofList (write block)))
    (tidy : Tidy text) : property (String.ofList (spell write text)) := by
  induction tidy with
  | nil => exact formattable.untagged (by simp [Untagged])
  | letter noTag rest inductionHypothesis =>
      rw [spell_kept, ← List.singleton_append, String.ofList_append]
      refine formattable.append (formattable.untagged ?_) inductionHypothesis
      simpa [Untagged] using Ne.symm noTag
  | block block rest inductionHypothesis =>
      rw [spell_occurrence, String.ofList_append]
      exact formattable.append (blocks block) inductionHypothesis
  | tag written rest inductionHypothesis =>
      rw [spell_append, spell_map_kept, String.ofList_append]
      exact formattable.append (formattable.tag written) inductionHypothesis

end MixedText

/-! ### Blocks of fenced code -/

/-- The language of a fence is made of word characters. -/
theorem isWordCharacter_of_mem_language {fenced : Fence} {text : List Char}
    (member : fenced ∈ values (fence.segments text)) :
    ∀ character ∈ fenced.language, isWordCharacter character = true := by
  obtain ⟨behind, found, present, rfl⟩ := Pattern.exists_found_of_mem_values member
  obtain ⟨-, -, ⟨written, -, -⟩, -⟩ := fence_some_iff.mp present
  exact written.word

/-- The language under which the code of a fence is shown. -/
theorem untagged_language {fenced : Fence} {text : List Char}
    (member : fenced ∈ values (fence.segments text)) :
    Untagged (if fenced.language.isEmpty then defaultLanguage
      else String.ofList fenced.language) := by
  split
  next => decide
  next =>
    intro tagged
    rw [String.toList_ofList] at tagged
    exact absurd (isWordCharacter_of_mem_language member _ tagged) (by decide)

theorem property_render {property : String → Prop} (formattable : Formattable property)
    {fenced : Fence} {text : List Char} (member : fenced ∈ values (fence.segments text)) :
    property (String.ofList fenced.render) := by
  rw [Fence.render, String.ofList_toList]
  exact formattable.codeBlock (untagged_language member) _

theorem untagged_placeholderOf (numeral : Numeral) : '<' ∉ placeholderOf numeral := by
  intro member
  rcases mem_placeholderOf member with mark | alphanumeric
  · exact absurd mark (by decide)
  · exact absurd alphanumeric (by decide)

theorem property_resolve {property : String → Prop} (formattable : Formattable property)
    (text : List Char) (numeral : Numeral) :
    property (String.ofList (resolve (blocks text) numeral)) := by
  rw [resolve, List.getD_eq_getElem?_getD]
  cases present : (blocks text)[numeral.value]? with
  | none =>
      refine formattable.untagged ?_
      simpa [Untagged] using untagged_placeholderOf numeral
  | some block =>
      obtain ⟨fenced, member, rfl⟩ := List.mem_map.mp (List.mem_of_getElem? present)
      exact property_render formattable member

theorem untagged_withPlaceholders {segments : List (Segment Char Fence)}
    (untagged : .kept '<' ∉ segments) (next : Nat) : '<' ∉ withPlaceholders next segments := by
  induction segments generalizing next with
  | nil => simp [withPlaceholders]
  | cons segment segments inductionHypothesis =>
      rw [List.mem_cons, not_or] at untagged
      cases segment with
      | kept character =>
          rw [withPlaceholders, List.mem_cons, not_or]
          exact ⟨fun equal => untagged.1 (by rw [equal]), inductionHypothesis untagged.2 next⟩
      | occurrence fenced =>
          rw [withPlaceholders, List.mem_append, not_or]
          exact ⟨untagged_placeholderOf _, inductionHypothesis untagged.2 _⟩

end Inline

/-! ### Formatted texts -/

section Formatted

open Inline

/-- A text without any tag outside of fenced code. -/
def UntaggedProse (text : String) : Prop :=
  Text.Segment.kept '<' ∉ fence.segments text.toList

instance (text : String) : Decidable (UntaggedProse text) :=
  inferInstanceAs (Decidable (_ ∉ _))

theorem untaggedProse_of_untagged {text : String} (untagged : Untagged text) :
    UntaggedProse text :=
  fun member => untagged (Text.Pattern.mem_of_kept_mem_segments member)

theorem Formattable.formatText {property : String → Prop} (formattable : Formattable property)
    {text : String} (untagged : UntaggedProse text) : property (formatText text) := by
  have noTag : .kept '<' ∉ placeholder.segments (extract text.toList) := fun member =>
    untagged_withPlaceholders untagged 0 (Text.Pattern.mem_of_kept_mem_segments member)
  have tidy := (MixedText.tidy_of_untagged noTag).markUp
  rw [← segments_markUp] at tidy
  exact tidy.spell formattable (property_resolve formattable text.toList)

theorem formattable_nested : Formattable Nested where
  toJoining := Nested.joining
  tag := MixedText.nested_tag
  codeBlock := nested_codeBlock

theorem nested_formatText {text : String} (untagged : UntaggedProse text) :
    Nested (formatText text) :=
  formattable_nested.formatText untagged

end Formatted

end SlideDeck.Markup
