import Mathlib.Data.List.Perm.Basic
import SlideDeck.Proofs.Inline.Passes

/-!
Contract: the order of the inline passes.

No pass sees what another one writes: a tag has no marks of the other rules, and a span that is not
empty stays so. Tags that are letters of their own show this for whole texts. A text with the tags
of both kinds is known from the two texts in which the tags of one kind are marks again, and in
these the passes for the other kind act alone.

Owns:
- `tagSpans` and `untag`, for one kind of spans at a time;
- `Pass`, a pass over texts and over texts with tags;
- `passes_commute`.

Does not own: the passes for fences and placeholders, which come before and after all others.
-/

namespace SlideDeck.Markup.Inline

open SlideDeck.Text

namespace MixedText

/-- The text with the spans of a kind as elements, each tag one letter. -/
def tagSpans (kind : SpanKind) : MixedText Insert → MixedText Insert :=
  wrapSpans (isCharacter kind.mark) kind.width [.occurrence (.opening kind)]
    [.occurrence (.closing kind)]

def IsTag (kind : SpanKind) (letter : Segment Char Insert) : Prop :=
  letter = .occurrence (.opening kind) ∨ letter = .occurrence (.closing kind)

instance (kind : SpanKind) (letter : Segment Char Insert) : Decidable (IsTag kind letter) :=
  inferInstanceAs (Decidable (_ ∨ _))

/-- A letter, or marks in the place of a tag of a kind. -/
def untag (kind : SpanKind) (letter : Segment Char Insert) : MixedText Insert :=
  if IsTag kind letter then kind.marks.map .kept else [letter]

variable {kind other : SpanKind} {letter first second : Segment Char Insert}

theorem untag_of_isTag (isTag : IsTag kind letter) : untag kind letter = kind.marks.map .kept :=
  if_pos isTag

theorem untag_of_not_isTag (noTag : ¬IsTag kind letter) : untag kind letter = [letter] :=
  if_neg noTag

theorem not_isTag_kept (kind : SpanKind) (character : Char) : ¬IsTag kind (.kept character) := by
  simp [IsTag]

theorem IsTag.not_isTag (isTag : IsTag kind letter) (different : kind ≠ other) :
    ¬IsTag other letter := by
  rcases isTag with rfl | rfl <;> simpa [IsTag] using different

/-! ### Tags and marks of one kind -/

/-- Marks in the place of tags give back what a pass has tagged. -/
theorem untag_tagSpans (kind : SpanKind) (text : MixedText Insert) :
    (tagSpans kind text).flatMap (untag kind) = text.flatMap (untag kind) := by
  have marks_eq : ∀ marks : MixedText Insert, Marks (isCharacter kind.mark) kind.width marks →
      marks.flatMap (untag kind) = kind.marks.map .kept := by
    intro marks isMarks
    have kept : ∀ letter ∈ marks, letter = .kept kind.mark := fun letter member =>
      isCharacter_iff.mp (isMarks.all letter member)
    have same : ∀ letter ∈ marks, untag kind letter = [letter] := by
      intro letter member
      rw [kept letter member]
      exact untag_of_not_isTag (not_isTag_kept kind _)
    rw [List.flatMap_congr same, List.flatMap_singleton', SpanKind.marks, List.map_replicate]
    exact List.eq_replicate_iff.mpr ⟨isMarks.length, kept⟩
  have opening : untag kind (.occurrence (.opening kind)) = kind.marks.map .kept :=
    untag_of_isTag (.inl rfl)
  have closing : untag kind (.occurrence (.closing kind)) = kind.marks.map .kept :=
    untag_of_isTag (.inr rfl)
  unfold tagSpans
  induction text using span_induction (isCharacter kind.mark) kind.width_pos with
  | nil => rfl
  | kept letter rest absent inductionHypothesis =>
      rw [wrapSpans_of_none absent, List.flatMap_cons, List.flatMap_cons, inductionHypothesis]
  | span left inside right rest isSpan inductionHypothesis =>
      rw [wrapSpans_of_span kind.width_pos isSpan]
      simp only [List.flatMap_append, List.flatMap_singleton, opening, closing,
        marks_eq left isSpan.left, marks_eq right isSpan.right, inductionHypothesis]

/-- The tags of one kind are like any letters to the rule of the other. -/
theorem keepsMarks_untag (different : kind ≠ other) :
    KeepsMarks (isCharacter kind.mark) (isCharacter kind.mark) (untag other) := by
  have marksDiffer : other.mark ≠ kind.mark := by
    revert different
    cases kind <;> cases other <;> decide
  constructor
  · intro letter marked
    obtain rfl := isCharacter_iff.mp marked
    exact ⟨_, untag_of_not_isTag (not_isTag_kept other _), marked⟩
  · intro letter _
    by_cases isTag : IsTag other letter
    · rw [untag_of_isTag isTag, SpanKind.marks]
      simpa using other.width_pos.ne'
    · rw [untag_of_not_isTag isTag]
      exact List.cons_ne_nil _ _
  · intro letter unmarked shown member
    by_cases isTag : IsTag other letter
    · rw [untag_of_isTag isTag, SpanKind.marks, List.map_replicate] at member
      rw [List.eq_of_mem_replicate member]
      simpa [isCharacter] using marksDiffer
    · rw [untag_of_not_isTag isTag, List.mem_singleton] at member
      rw [member, unmarked]

theorem tagSpans_untag (different : kind ≠ other) (text : MixedText Insert) :
    tagSpans kind (text.flatMap (untag other)) = (tagSpans kind text).flatMap (untag other) := by
  have keeps := keepsMarks_untag different
  have opening : untag other (.occurrence (.opening kind)) = [.occurrence (.opening kind)] :=
    untag_of_not_isTag (IsTag.not_isTag (.inl rfl) different)
  have closing : untag other (.occurrence (.closing kind)) = [.occurrence (.closing kind)] :=
    untag_of_not_isTag (IsTag.not_isTag (.inr rfl) different)
  have commutes := keeps.wrapSpans_flatMap kind.width_pos [.occurrence (.opening kind)]
    [.occurrence (.closing kind)] text
  rwa [List.flatMap_singleton, List.flatMap_singleton, opening, closing] at commutes

/-! ### Tags of both kinds -/

/-- A tag for code takes the place of one mark, so letters stay in their places. -/
theorem exists_untag_code (letter : Segment Char Insert) :
    ∃ shown, untag .code letter = [shown] := by
  by_cases isTag : IsTag .code letter
  · exact ⟨_, untag_of_isTag isTag⟩
  · exact ⟨_, untag_of_not_isTag isTag⟩

theorem eq_of_isTag_bold (isTag : IsTag .bold first)
    (same : untag .code first = untag .code second) : first = second := by
  rw [untag_of_not_isTag (isTag.not_isTag (by decide))] at same
  by_cases otherTag : IsTag .code second
  · rw [untag_of_isTag otherTag] at same
    obtain rfl : first = .kept backtick := List.singleton_inj.mp same
    exact absurd isTag (not_isTag_kept .bold backtick)
  · rw [untag_of_not_isTag otherTag] at same
    exact List.singleton_inj.mp same

/-- A text with tags is known from the two texts in which the tags of one kind are marks again. -/
theorem eq_of_untag {text result : MixedText Insert}
    (code : text.flatMap (untag .code) = result.flatMap (untag .code))
    (bold : text.flatMap (untag .bold) = result.flatMap (untag .bold)) : text = result := by
  induction text generalizing result with
  | nil =>
      cases result with
      | nil => rfl
      | cons other others =>
          obtain ⟨shown, single⟩ := exists_untag_code other
          simp [single] at code
  | cons letter text inductionHypothesis =>
      cases result with
      | nil =>
          obtain ⟨shown, single⟩ := exists_untag_code letter
          simp [single] at code
      | cons other result =>
          obtain ⟨shown, single⟩ := exists_untag_code letter
          obtain ⟨otherShown, otherSingle⟩ := exists_untag_code other
          rw [List.flatMap_cons, List.flatMap_cons, single, otherSingle] at code
          obtain ⟨sameHead, codeRest⟩ := List.cons.inj code
          have sameCode : untag .code letter = untag .code other := by
            rw [single, otherSingle, sameHead]
          obtain rfl : letter = other := by
            by_cases isBold : IsTag .bold letter
            · exact eq_of_isTag_bold isBold sameCode
            by_cases otherBold : IsTag .bold other
            · exact (eq_of_isTag_bold otherBold sameCode.symm).symm
            -- Without a tag for bold spans on either side, both letters stand in the other text.
            rw [List.flatMap_cons, List.flatMap_cons, untag_of_not_isTag isBold,
              untag_of_not_isTag otherBold] at bold
            exact (List.cons.inj bold).1
          rw [List.flatMap_cons, List.flatMap_cons, List.append_cancel_left_eq] at bold
          rw [inductionHypothesis codeRest bold]

/-- Code spans and bold spans are found without regard to each other. -/
theorem tagSpans_comm (text : MixedText Insert) :
    tagSpans .code (tagSpans .bold text) = tagSpans .bold (tagSpans .code text) := by
  have codeFirst : SpanKind.code ≠ .bold := by decide
  apply eq_of_untag
  · calc (tagSpans .code (tagSpans .bold text)).flatMap (untag .code)
        = (tagSpans .bold text).flatMap (untag .code) := untag_tagSpans .code _
      _ = tagSpans .bold (text.flatMap (untag .code)) := (tagSpans_untag codeFirst.symm text).symm
      _ = tagSpans .bold ((tagSpans .code text).flatMap (untag .code)) := by
          rw [untag_tagSpans]
      _ = (tagSpans .bold (tagSpans .code text)).flatMap (untag .code) :=
          tagSpans_untag codeFirst.symm _
  · calc (tagSpans .code (tagSpans .bold text)).flatMap (untag .bold)
        = tagSpans .code ((tagSpans .bold text).flatMap (untag .bold)) :=
          (tagSpans_untag codeFirst _).symm
      _ = tagSpans .code (text.flatMap (untag .bold)) := by rw [untag_tagSpans]
      _ = (tagSpans .code text).flatMap (untag .bold) := tagSpans_untag codeFirst text
      _ = (tagSpans .bold (tagSpans .code text)).flatMap (untag .bold) :=
          (untag_tagSpans .bold _).symm

end MixedText

/-! ### Passes -/

/-- The passes of the inline rules. -/
inductive Pass where
  | spans (kind : SpanKind)
  | lineBreaks
deriving DecidableEq, Repr

namespace Pass

/-- All passes, in the order in which they run. -/
def all : List Pass := [spans .code, spans .bold, lineBreaks]

/-- A pass over a text. -/
def write : Pass → List Char → List Char
  | spans kind => kind.write
  | lineBreaks => writeLineBreaks

/-- A pass over a text in which the tags around spans are letters of their own. -/
def tag : Pass → MixedText Insert → MixedText Insert
  | spans kind => MixedText.tagSpans kind
  | lineBreaks => replaceMarks (MixedText.isCharacter '\n') ("<br>".toList.map .kept)

/-- Line breaks are like any letters to the rules for spans. -/
theorem keepsMarks_lineBreaks (kind : SpanKind) :
    KeepsMarks (MixedText.isCharacter kind.mark) (MixedText.isCharacter kind.mark)
      fun letter : Segment Char Insert =>
        if MixedText.isCharacter '\n' letter then "<br>".toList.map .kept else [letter] := by
  have noNewline : kind.mark ≠ '\n' := by cases kind <;> decide
  have noMarks : kind.mark ∉ "<br>".toList := by cases kind <;> decide
  constructor
  · intro letter marked
    obtain rfl := MixedText.isCharacter_iff.mp marked
    exact ⟨_, by simp [MixedText.isCharacter, noNewline], marked⟩
  · intro letter _
    split <;> simp
  · intro letter unmarked shown member
    split at member
    · obtain ⟨character, inTag, rfl⟩ := List.mem_map.mp member
      refine beq_false_of_ne ?_
      rintro rfl
      exact noMarks inTag
    · rw [List.mem_singleton.mp member, unmarked]

theorem tag_spans_lineBreaks (kind : SpanKind) (text : MixedText Insert) :
    (spans kind).tag (lineBreaks.tag text) = lineBreaks.tag ((spans kind).tag text) :=
  (keepsMarks_lineBreaks kind).wrapSpans_flatMap kind.width_pos [.occurrence (.opening kind)]
    [.occurrence (.closing kind)] text

theorem tag_comm (first second : Pass) (text : MixedText Insert) :
    first.tag (second.tag text) = second.tag (first.tag text) := by
  match first, second with
  | spans .code, spans .code => rfl
  | spans .bold, spans .bold => rfl
  | spans .code, spans .bold => exact MixedText.tagSpans_comm text
  | spans .bold, spans .code => exact (MixedText.tagSpans_comm text).symm
  | spans kind, lineBreaks => exact tag_spans_lineBreaks kind text
  | lineBreaks, spans kind => exact (tag_spans_lineBreaks kind text).symm
  | lineBreaks, lineBreaks => rfl

/-- Characters stand for themselves among letters of any other kind. -/
theorem keepsMarks_kept (mark : Char) :
    KeepsMarks (· == mark) (MixedText.isCharacter mark)
      fun character => ([.kept character] : MixedText Fence) where
  mark := fun character marked => ⟨_, rfl, marked⟩
  nonempty := fun _ _ => List.cons_ne_nil _ _
  unmarked := by
    intro character unmarked letter member
    rw [List.mem_singleton.mp member]
    exact unmarked

/-- A pass over a text writes out what it tags. -/
theorem write_written (pass : Pass) {text : List Char} {tagged : MixedText Insert}
    (written : MixedText.replace Insert.written tagged = text.map .kept) :
    MixedText.replace Insert.written (pass.tag tagged) = (pass.write text).map .kept := by
  rw [List.map_eq_flatMap] at written ⊢
  cases pass with
  | spans kind =>
      have special : kind.mark ∈ specialCharacters := by cases kind <;> decide
      rw [write, kind.write_eq, ← (keepsMarks_kept kind.mark).wrapSpans_flatMap kind.width_pos,
        ← written, ← List.map_eq_flatMap, ← List.map_eq_flatMap]
      have commutes := MixedText.wrapSpans_replace special kind.width_pos
        [.occurrence (.opening kind)] [.occurrence (.closing kind)] tagged
      rw [tag, MixedText.tagSpans, ← commutes]
      simp [MixedText.replace, Insert.written]
  | lineBreaks =>
      have commutes : replaceMarks (MixedText.isCharacter '\n')
          (MixedText.replace Insert.written ("<br>".toList.map .kept))
          (MixedText.replace Insert.written tagged) =
            MixedText.replace Insert.written (lineBreaks.tag tagged) :=
        KeepsMarks.replaceMarks_flatMap
          (MixedText.keepsMarks_of_ordinary (fun _ => rfl) (fun _ _ => rfl)
            Insert.ordinary_written '\n' (by decide)) ("<br>".toList.map .kept) tagged
      rw [write, writeLineBreaks, ← (keepsMarks_kept '\n').replaceMarks_flatMap, ← written,
        ← commutes]
      rfl

theorem written_kept (text : List Char) :
    MixedText.replace Insert.written (text.map .kept) = text.map .kept := by
  induction text with
  | nil => rfl
  | cons character text inductionHypothesis =>
      exact congrArg (Segment.kept character :: ·) inductionHypothesis

/-- Passes over a text write out what they tag, one after the other. -/
theorem foldl_written (order : List Pass) {text : List Char} {tagged : MixedText Insert}
    (written : MixedText.replace Insert.written tagged = text.map .kept) :
    MixedText.replace Insert.written (order.foldl (fun tagged pass => pass.tag tagged) tagged) =
      (order.foldl (fun shown pass => pass.write shown) text).map .kept := by
  induction order generalizing text tagged with
  | nil => exact written
  | cons pass order inductionHypothesis =>
      exact inductionHypothesis (pass.write_written written)

theorem foldl_tag_perm {order : List Pass} (every : order.Perm all) (tagged : MixedText Insert) :
    order.foldl (fun tagged pass => pass.tag tagged) tagged =
      all.foldl (fun tagged pass => pass.tag tagged) tagged := by
  apply every.foldl_eq'
  intro first _ second _ tagged
  exact second.tag_comm first tagged

end Pass

/-- The order of the inline passes does not matter: whatever it is, they give the same text, and
the same text with tags, so that the same spans are code and the same spans are bold. -/
theorem passes_commute (text : List Char) (order : List Pass) (every : order.Perm Pass.all) :
    order.foldl (fun shown pass => pass.write shown) text = markUp text ∧
      order.foldl (fun tagged pass => pass.tag tagged) (text.map .kept) =
        Pass.lineBreaks.tag (MixedText.tagged (text.map .kept)) := by
  have sameTags := Pass.foldl_tag_perm every (text.map .kept)
  constructor
  · have shown := Pass.foldl_written order (Pass.written_kept text)
    rw [sameTags, Pass.foldl_written Pass.all (Pass.written_kept text)] at shown
    exact (List.map_injective_iff.mpr (fun _ _ => Segment.kept.inj) shown).symm
  · have lettered : ((text.map .kept : MixedText Fence).map Insert.letter) = text.map .kept := by
      rw [List.map_map]
      rfl
    rw [sameTags, MixedText.tagged, MixedText.coded, lettered]
    rfl

/-- Line breaks first and code spans last give what the passes give in their own order. -/
theorem passes_commute_reversed :
    [Pass.lineBreaks, .spans .bold, .spans .code].Perm Pass.all ∧
      [Pass.lineBreaks, .spans .bold, .spans .code].foldl (fun shown pass => pass.write shown)
        "`**x**`\n".toList = "<code><strong>x</strong></code><br>".toList := by
  have every : [Pass.lineBreaks, .spans .bold, .spans .code].Perm Pass.all := by decide
  refine ⟨every, ?_⟩
  rw [(passes_commute "`**x**`\n".toList _ every).1]
  decide

end SlideDeck.Markup.Inline
