import Mathlib.Algebra.Ring.Nat
import SlideDeck.Proofs.Rendering.InlineNesting
import SlideDeck.Proofs.Rendering.Slides

/-!
Contract: how many elements of a name a text has, on whatever level.

Owns:
- `openings`, with one law for each way to write a text;
- texts without elements of a name: formatted texts, bodies and headings.

Does not own: where the elements stand.
-/

namespace SlideDeck.Markup

open SlideDeck.Deck

/-- Whether a tag opens an element of a name. -/
def Tag.opens (name : String) : Tag → Bool
  | .opened other _ => other == name
  | .closed _ => false

/-- The number of elements of a name that are opened in a text. -/
def openings (name text : String) : Nat :=
  (tags text.toList).countP (Tag.opens name)

/-- The names of the elements that the inline rules write. -/
def inlineNames : List String :=
  ["code", "strong", "br", "pre"]

variable {name other text behind body : String} {attributes : List (String × String)}

theorem openings_append (whole : Whole text.toList) :
    openings name (text ++ behind) = openings name text + openings name behind := by
  rw [openings, String.toList_append, tags_append whole, List.countP_append]
  rfl

theorem openings_eq_zero (others : ∀ tag ∈ tags text.toList, tag.name ≠ name) :
    openings name text = 0 := by
  rw [openings, List.countP_eq_zero]
  intro tag member
  cases tag with
  | opened other attributes =>
      rw [Tag.opens, beq_iff_eq]
      exact others _ member
  | closed other => simp [Tag.opens]

theorem openings_of_untagged (untagged : Untagged text) : openings name text = 0 := by
  rw [openings, tags_eq_nil untagged, List.countP_nil]

theorem openings_line (whole : Whole text.toList) :
    openings name (line text) = openings name text := by
  rw [line, openings_append whole, openings_of_untagged (by decide : Untagged "\n"), Nat.add_zero]

theorem openings_element (whole : Whole body.toList) (clean : CleanName other)
    (values : UntaggedValues attributes) :
    openings name (element other attributes body) =
      (if other = name then 1 else 0) + openings name body := by
  have opens : Tag.opens name (.opened other (attributesRead attributes)) = (other == name) := rfl
  have closes : Tag.opens name (.closed other) = false := rfl
  rw [openings, tags_element clean values whole, List.countP_cons, List.countP_append,
    List.countP_singleton, opens, closes]
  simp only [beq_iff_eq, Bool.false_eq_true, if_false, Nat.add_zero]
  exact Nat.add_comm _ _

/-- An element of another name that begins on a line of its own has the elements of its body. -/
theorem openings_around (whole : Whole body.toList) (clean : CleanName other)
    (values : UntaggedValues attributes) (otherName : other ≠ name) :
    openings name (line (element other attributes ("\n" ++ body))) = openings name body := by
  have newline : Whole "\n".toList := whole_of_untagged (by decide)
  have inner : Whole ("\n" ++ body).toList := by
    rw [String.toList_append]
    exact newline.append whole
  rw [openings_line (whole_element inner clean values), openings_element inner clean values,
    if_neg otherName, openings_append newline, openings_of_untagged (by decide : Untagged "\n"),
    Nat.zero_add, Nat.zero_add]

theorem openings_joinMap {α : Type} {items : List α} {write : α → String}
    (whole : ∀ item ∈ items, Whole (write item).toList) :
    openings name (String.join (items.map write)) =
      (items.map fun item => openings name (write item)).sum := by
  induction items with
  | nil => rfl
  | cons first items inductionHypothesis =>
      rw [List.forall_mem_cons] at whole
      rw [List.map_cons, String.join_cons, openings_append whole.1,
        inductionHypothesis whole.2, List.map_cons, List.sum_cons]

/-! ### Texts without elements of a name -/

/-- A text in which every tag ends and no element of a name is opened. -/
structure Without (name text : String) : Prop where
  whole : Whole text.toList
  none : openings name text = 0

namespace Without

theorem joining : Joining (Without name) where
  untagged untagged := ⟨whole_of_untagged untagged, openings_of_untagged untagged⟩
  append first second := by
    refine ⟨?_, by rw [openings_append first.whole, first.none, second.none]⟩
    rw [String.toList_append]
    exact first.whole.append second.whole

theorem of_tags (whole : Whole text.toList) (others : ∀ tag ∈ tags text.toList, tag.name ≠ name) :
    Without name text :=
  ⟨whole, openings_eq_zero others⟩

theorem of_nested (nested : Nested text) (others : ∀ tag ∈ tags text.toList, tag.name ≠ name) :
    Without name text :=
  of_tags nested.whole others

theorem openTag (clean : CleanName other) (values : UntaggedValues attributes)
    (otherName : other ≠ name) : Without name (openTag other attributes) := by
  refine of_tags (whole_openTag clean values) ?_
  rw [tags_openTag clean values, List.forall_mem_singleton]
  exact otherName

theorem closeTag (clean : CleanName other) (otherName : other ≠ name) :
    Without name (closeTag other) := by
  refine of_tags (whole_closeTag clean) ?_
  rw [tags_closeTag clean, List.forall_mem_singleton]
  exact otherName

theorem element (without : Without name body) (clean : CleanName other)
    (values : UntaggedValues attributes) (otherName : other ≠ name) :
    Without name (Markup.element other attributes body) :=
  joining.append (joining.append (openTag clean values otherName) without)
    (closeTag clean otherName)

theorem formattable (notInline : name ∉ inlineNames) : Formattable (Without name) where
  toJoining := joining
  tag := by
    intro tag written
    have names : ∀ letters ∈ Inline.MixedText.tags, ∀ read ∈ tags letters,
        read.name ∈ inlineNames := by decide
    refine of_nested (Inline.MixedText.nested_tag written) ?_
    rw [String.toList_ofList]
    exact fun read member equal => notInline (equal ▸ names tag written read member)
  codeBlock := by
    intro language untagged code
    obtain ⟨attributes, read⟩ := tags_codeBlock untagged code
    refine of_nested (nested_codeBlock untagged code) ?_
    simp only [inlineNames, List.mem_cons, List.not_mem_nil, or_false, not_or] at notInline
    simp [read, Tag.name, Ne.symm notInline.1, Ne.symm notInline.2.2.2]

/-- Bodies have elements of the names of bodies and of the inline rules only. -/
theorem composed (notBody : name ∉ "div" :: bodyNames ++ inlineNames) :
    Composed (Without name) := by
  rw [List.mem_append, List.mem_cons, not_or, not_or] at notBody
  obtain ⟨⟨notDiv, notPart⟩, notInline⟩ := notBody
  refine ⟨formattable notInline, ?_, ?_⟩
  · intro other body attributes known values without
    have clean : ∀ name ∈ bodyNames, CleanName name := by decide
    exact without.element (clean other known) values fun equal => notPart (equal ▸ known)
  · intro className body attributes known values without
    have untagged : ∀ className ∈ bodyClasses, Untagged className := by decide
    exact without.element cleanName_div (.cons (by decide) (untagged className known) values)
      (Ne.symm notDiv)

theorem heading {slide : Slide} (clean : slide.Clean)
    (notInline : name ∉ "h2" :: "div" :: inlineNames) : Without name (heading slide) := by
  rw [List.mem_cons, List.mem_cons, not_or, not_or] at notInline
  refine joining.append ?_ ?_
  · refine joining.whenPresent fun title present => joining.line ?_
    exact (joining.untagged (clean.title title present)).element (by decide) untaggedValues_nil
      (Ne.symm notInline.1)
  · refine joining.whenPresent fun subtitle present => joining.line ?_
    have prose := clean.subtitle subtitle present
    exact ((formattable notInline.2.2).formatText prose).element cleanName_div
      (.single (by decide) (by decide)) (Ne.symm notInline.2.1)

end Without

end SlideDeck.Markup
