import SlideDeck.Proofs.Rendering.Tags
import SlideDeck.Proofs.Text.Cut

/-!
Contract: markup in which every block element is closed before the one around it.

Owns:
- the tags of opening tags, closing tags and elements as they are written;
- `Unmarked` texts, without the tags by which slides and their total number are told apart;
- `Joining` properties, which hold of all that is put together from texts that have them;
- `Nested` texts, which can stand inside any element, with one lemma for each way to write them;
- `IsElement`: one element that closes at the end of the text and not before.

Does not own: which parts of a slide are nested.
-/

namespace SlideDeck.Markup

variable {name className text other body : String} {attributes : List (String × String)}

/-- A text without any tag. -/
def Untagged (text : String) : Prop :=
  '<' ∉ text.toList

instance (text : String) : Decidable (Untagged text) :=
  inferInstanceAs (Decidable ('<' ∉ text.toList))

@[simp] theorem untagged_append : Untagged (text ++ other) ↔ Untagged text ∧ Untagged other := by
  simp [Untagged]

/-! ### Tags as they are written -/

/-- A name that is read back as it is written. -/
def CleanName (name : String) : Prop :=
  (!name.toList.isEmpty && name.toList.all isNameCharacter) = true

instance (name : String) : Decidable (CleanName name) :=
  inferInstanceAs (Decidable (_ = true))

def attributesText (attributes : List (String × String)) : String :=
  String.join (attributes.map attributeText)

/-- What is read of attributes: all of them, or those up to a `>` in a value. -/
def attributesRead (attributes : List (String × String)) : String :=
  String.ofList (untilEnd (attributesText attributes).toList)

theorem attributesRead_toList (attributes : List (String × String)) :
    (attributesRead attributes).toList = untilEnd (attributesText attributes).toList :=
  String.toList_ofList

/-- No tags in the attributes as they are written. -/
def UntaggedValues (attributes : List (String × String)) : Prop :=
  Untagged (attributesText attributes)

theorem untaggedValues_nil : UntaggedValues [] := by
  simp [UntaggedValues, Untagged, attributesText, String.join]

theorem attributesText_cons (first : String × String) :
    attributesText (first :: attributes) = attributeText first ++ attributesText attributes := by
  simp [attributesText, String.join_cons]

theorem UntaggedValues.cons {key value : String} (keyUntagged : Untagged key)
    (valueUntagged : Untagged value) (others : UntaggedValues attributes) :
    UntaggedValues ((key, value) :: attributes) := by
  unfold UntaggedValues Untagged at *
  rw [attributesText_cons]
  simp [attributeText, keyUntagged, valueUntagged, others]

theorem UntaggedValues.single {key value : String} (keyUntagged : Untagged key)
    (valueUntagged : Untagged value) : UntaggedValues [(key, value)] :=
  .cons keyUntagged valueUntagged untaggedValues_nil

/-- An attribute that is written only for an optional text. -/
theorem untaggedValues_optional {key : String} {write : String → String}
    {optional : Option String} (keyUntagged : Untagged key)
    (untagged : ∀ text ∈ optional, Untagged (write text)) :
    UntaggedValues (optional.toList.map fun text => (key, write text)) := by
  cases optional with
  | none => exact untaggedValues_nil
  | some text => exact .single keyUntagged (untagged text rfl)

theorem openTag_toList :
    (openTag name attributes).toList =
      '<' :: (name.toList ++ ((attributesText attributes).toList ++ ['>'])) := by
  simp [openTag, attributesText]

theorem closeTag_toList : (closeTag name).toList = '<' :: '/' :: (name.toList ++ ['>']) := by
  simp [closeTag]

theorem CleanName.nonempty (clean : CleanName name) : name.toList ≠ [] := by
  simp only [CleanName, Bool.and_eq_true, Bool.not_eq_true', List.isEmpty_eq_false_iff] at clean
  exact clean.1

theorem CleanName.characters (clean : CleanName name) :
    ∀ character ∈ name.toList, isNameCharacter character = true := by
  simp only [CleanName, Bool.and_eq_true, List.all_eq_true] at clean
  exact clean.2

theorem CleanName.untagged (clean : CleanName name) : '<' ∉ name.toList := by
  intro member
  exact absurd (clean.characters _ member) (by decide)

theorem CleanName.noEnd (clean : CleanName name) : '>' ∉ name.toList := by
  intro member
  exact absurd (clean.characters _ member) (by decide)

theorem attributesText_first (attributes : List (String × String)) :
    ∀ character ∈ ((attributesText attributes).toList ++ ['>']).head?,
      isNameCharacter character = false := by
  intro character first
  cases attributes with
  | nil =>
      simp [attributesText, String.join] at first
      subst first
      rfl
  | cons pair attributes =>
      rw [attributesText_cons] at first
      simp [attributeText] at first
      subst first
      rfl

theorem untilEnd_append_end (text : List Char) : untilEnd (text ++ ['>']) = untilEnd text := by
  by_cases ends : '>' ∈ text
  · exact untilEnd_append ends
  · have kept := Text.bne_of_not_mem ends
    rw [untilEnd, untilEnd, List.takeWhile_append_of_pos kept, List.takeWhile_eq_self_iff.mpr kept]
    simp

theorem untilEnd_isPrefix (text : List Char) : untilEnd text <+: text :=
  List.takeWhile_prefix _

theorem tags_openTag (clean : CleanName name) (values : UntaggedValues attributes) :
    tags (openTag name attributes).toList = [.opened name (attributesRead attributes)] := by
  have noSlash : ∀ rest, name.toList ++ ((attributesText attributes).toList ++ ['>']) ≠
      '/' :: rest := by
    intro rest equal
    obtain ⟨first, others, nameEq⟩ := List.exists_cons_of_ne_nil clean.nonempty
    rw [nameEq, List.cons_append, List.cons.injEq] at equal
    have isName := clean.characters first (by simp [nameEq])
    rw [equal.1] at isName
    exact absurd isName (by decide)
  have untagged : '<' ∉ name.toList ++ ((attributesText attributes).toList ++ ['>']) := by
    have inValues : '<' ∉ (attributesText attributes).toList := values
    simp [clean.untagged, inValues]
  obtain ⟨taken, dropped⟩ :=
    Text.takeWhile_eq_self_of_head clean.characters (attributesText_first attributes)
  rw [openTag_toList, tags, tags_eq_nil untagged, tagAt?_opening noSlash, taken, dropped,
    untilEnd_append_end, String.ofList_toList]
  rfl

theorem whole_openTag (clean : CleanName name) (values : UntaggedValues attributes) :
    Whole (openTag name attributes).toList := by
  rw [openTag_toList]
  refine ⟨fun _ => by simp, whole_of_untagged ?_⟩
  have inValues : '<' ∉ (attributesText attributes).toList := values
  simp [clean.untagged, inValues]

theorem tags_closeTag (clean : CleanName name) : tags (closeTag name).toList = [.closed name] := by
  have untagged : '<' ∉ '/' :: (name.toList ++ ['>']) := by simp [clean.untagged]
  have kept := Text.bne_of_not_mem clean.noEnd
  rw [closeTag_toList, tags, tags_eq_nil untagged, tagAt?_closing, if_pos (by simp),
    untilEnd_append_end, untilEnd, List.takeWhile_eq_self_iff.mpr kept, String.ofList_toList]
  rfl

theorem whole_closeTag (clean : CleanName name) : Whole (closeTag name).toList := by
  rw [closeTag_toList]
  exact ⟨fun _ => by simp, whole_of_untagged (by simp [clean.untagged])⟩

theorem blockTags_of_tags {letters : List Char} {tag : Tag} (single : tags letters = [tag]) :
    blockTags letters = if tag.isBlock then [tag] else [] := by
  rw [blockTags, single, List.filter_cons, List.filter_nil]

/-! ### Marks of slides and of their number -/

/-- How the tag of a slide begins. -/
def slideMark : String := "<div class=\"slide "

/-- The tag around the number of slides. -/
def totalMark : String := "<span id=\"total\">"

/-- Whether a tag begins like that of a slide or is that around the number of slides. -/
def Tag.isMark : Tag → Bool
  | .opened name attributes =>
      name == "div" && " class=\"slide ".toList.isPrefixOf attributes.toList ||
        name == "span" && attributes == " id=\"total\""
  | .closed _ => false

/-- A text without marks whose tags are not cut off. -/
structure Unmarked (text : String) : Prop where
  whole : Whole text.toList
  unmarked : ∀ tag ∈ tags text.toList, tag.isMark = false

/-- A text without marks in which every block element is closed before the one around it. -/
structure Nested (text : String) : Prop extends Unmarked text where
  balanced : run [] (blockTags text.toList) = some []

theorem Unmarked.append (first : Unmarked text) (second : Unmarked other) :
    Unmarked (text ++ other) := by
  constructor
  · rw [String.toList_append]
    exact first.whole.append second.whole
  · rw [String.toList_append, tags_append first.whole, List.forall_mem_append]
    exact ⟨first.unmarked, second.unmarked⟩

theorem unmarked_of_untagged (untagged : Untagged text) : Unmarked text where
  whole := whole_of_untagged untagged
  unmarked := by simp [tags_eq_nil untagged]

theorem unmarked_openTag (clean : CleanName name) (values : UntaggedValues attributes)
    (noMark : (Tag.opened name (attributesRead attributes)).isMark = false) :
    Unmarked (openTag name attributes) where
  whole := whole_openTag clean values
  unmarked := by
    rw [tags_openTag clean values]
    simpa using noMark

theorem unmarked_closeTag (clean : CleanName name) : Unmarked (closeTag name) where
  whole := whole_closeTag clean
  unmarked := by simp [tags_closeTag clean, Tag.isMark]

/-! ### Texts that are put together -/

theorem present_of_ne_empty {optional : Option String} (notEmpty : optional ≠ some "") :
    present optional = optional := by
  cases optional with
  | none => rfl
  | some text =>
      exact Option.filter_eq_some_iff.mpr
        ⟨rfl, by simpa using fun empty => notEmpty (by rw [empty])⟩

/-- A property of texts without tags that is kept where texts are put together. -/
structure Joining (property : String → Prop) : Prop where
  untagged {text : String} : Untagged text → property text
  append {text other : String} : property text → property other → property (text ++ other)

namespace Joining

variable {property : String → Prop}

theorem empty (joining : Joining property) : property "" :=
  joining.untagged (by decide)

theorem newline (joining : Joining property) : property "\n" :=
  joining.untagged (by decide)

theorem line (joining : Joining property) (holds : property text) : property (line text) :=
  joining.append holds joining.newline

theorem blockLine (joining : Joining property) (holds : property text) :
    property (blockLine text) := by
  unfold Markup.blockLine
  split
  · exact joining.empty
  · exact joining.line holds

theorem whenPresent (joining : Joining property) {optional : Option String}
    {write : String → String} (holds : ∀ text ∈ optional, property (write text)) :
    property (whenPresent optional write) := by
  unfold Markup.whenPresent
  cases shown : present optional with
  | none => exact joining.empty
  | some text => exact holds text (Option.filter_eq_some_iff.mp shown).1

theorem joinMap (joining : Joining property) {α : Type} {items : List α} {write : α → String}
    (holds : ∀ item ∈ items, property (write item)) :
    property (String.join (items.map write)) := by
  induction items with
  | nil => exact joining.empty
  | cons first items inductionHypothesis =>
      rw [List.forall_mem_cons] at holds
      rw [List.map_cons, String.join_cons]
      exact joining.append holds.1 (inductionHypothesis holds.2)

theorem lines (joining : Joining property) {texts : List String}
    (holds : ∀ text ∈ texts, property text) : property ("\n".intercalate texts) := by
  induction texts with
  | nil => exact joining.empty
  | cons first others inductionHypothesis =>
      rw [List.forall_mem_cons] at holds
      cases others with
      | nil => simpa using holds.1
      | cons second others =>
          rw [String.intercalate_cons_cons]
          exact joining.append (joining.line holds.1) (inductionHypothesis holds.2)

end Joining

/-! ### Nested texts -/

namespace Nested

theorem append (first : Nested text) (second : Nested other) : Nested (text ++ other) where
  toUnmarked := first.toUnmarked.append second.toUnmarked
  balanced := by
    rw [String.toList_append, blockTags_append first.whole, run_append, first.balanced,
      Option.bind_some, second.balanced]

theorem of_untagged (untagged : Untagged text) : Nested text where
  toUnmarked := unmarked_of_untagged untagged
  balanced := by
    rw [blockTags, tags_eq_nil untagged]
    rfl

theorem empty : Nested "" :=
  of_untagged (by decide)

theorem newline : Nested "\n" :=
  of_untagged (by decide)

/-- A tag that begins no block. -/
theorem openTag (clean : CleanName name) (values : UntaggedValues attributes)
    (noMark : (Tag.opened name (attributesRead attributes)).isMark = false)
    (noBlock : Tag.blockNames.contains name = false) : Nested (openTag name attributes) where
  toUnmarked := unmarked_openTag clean values noMark
  balanced := by
    rw [blockTags_of_tags (tags_openTag clean values), Tag.isBlock, Tag.name, noBlock]
    rfl

theorem closeTag (clean : CleanName name) (noBlock : Tag.blockNames.contains name = false) :
    Nested (closeTag name) where
  toUnmarked := unmarked_closeTag clean
  balanced := by
    rw [blockTags_of_tags (tags_closeTag clean), Tag.isBlock, Tag.name, noBlock]
    rfl

theorem blockTags_element (nested : Nested body) (clean : CleanName name)
    (values : UntaggedValues attributes) (isBlock : Tag.blockNames.contains name = true) :
    blockTags (element name attributes body).toList =
      .opened name (attributesRead attributes) :: (blockTags body.toList ++ [.closed name]) := by
  have opening : blockTags (Markup.openTag name attributes).toList =
      [.opened name (attributesRead attributes)] := by
    rw [blockTags_of_tags (tags_openTag clean values), Tag.isBlock, Tag.name, isBlock]
    rfl
  have closing : blockTags (Markup.closeTag name).toList = [.closed name] := by
    rw [blockTags_of_tags (tags_closeTag clean), Tag.isBlock, Tag.name, isBlock]
    rfl
  rw [element, String.toList_append, String.toList_append,
    blockTags_append ((whole_openTag clean values).append nested.whole),
    blockTags_append (whole_openTag clean values), opening, closing]
  rfl

theorem balanced_element (nested : Nested body) (clean : CleanName name)
    (values : UntaggedValues attributes) :
    run [] (blockTags (Markup.element name attributes body).toList) = some [] := by
  cases isBlock : Tag.blockNames.contains name with
  | false =>
      have opening : blockTags (Markup.openTag name attributes).toList = [] := by
        rw [blockTags_of_tags (tags_openTag clean values), Tag.isBlock, Tag.name, isBlock]
        rfl
      have closing : blockTags (Markup.closeTag name).toList = [] := by
        rw [blockTags_of_tags (tags_closeTag clean), Tag.isBlock, Tag.name, isBlock]
        rfl
      rw [Markup.element, String.toList_append, String.toList_append,
        blockTags_append ((whole_openTag clean values).append nested.whole),
        blockTags_append (whole_openTag clean values), opening, closing, List.nil_append,
        List.append_nil, nested.balanced]
  | true =>
      have inside := run_around nested.balanced [(name, attributesRead attributes)]
      rw [List.nil_append] at inside
      rw [nested.blockTags_element clean values isBlock, run, run_append, inside]
      simp [run]

theorem element (nested : Nested body) (clean : CleanName name)
    (values : UntaggedValues attributes)
    (noMark : (Tag.opened name (attributesRead attributes)).isMark = false) :
    Nested (element name attributes body) where
  toUnmarked := ((unmarked_openTag clean values noMark).append nested.toUnmarked).append
    (unmarked_closeTag clean)
  balanced := nested.balanced_element clean values

/-- An element that is neither the container of a slide nor that of a number. -/
theorem plainElement (nested : Nested body) (clean : CleanName name)
    (values : UntaggedValues attributes) (noMark : name ≠ "div" ∧ name ≠ "span") :
    Nested (Markup.element name attributes body) :=
  nested.element clean values (by simp [Tag.isMark, noMark])

/-- An element other than these without attributes. -/
theorem bare (nested : Nested body) (clean : CleanName name)
    (noMark : name ≠ "div" ∧ name ≠ "span") : Nested (Markup.element name [] body) :=
  nested.plainElement clean untaggedValues_nil noMark

theorem joining : Joining Nested where
  untagged := of_untagged
  append := append

theorem line (nested : Nested text) : Nested (line text) :=
  joining.line nested

theorem blockLine (nested : Nested text) : Nested (blockLine text) :=
  joining.blockLine nested

theorem whenPresent {optional : Option String} {write : String → String}
    (nested : ∀ text ∈ optional, Nested (write text)) : Nested (whenPresent optional write) :=
  joining.whenPresent nested

theorem joinMap {α : Type} {items : List α} {write : α → String}
    (nested : ∀ item ∈ items, Nested (write item)) : Nested (String.join (items.map write)) :=
  joining.joinMap nested

end Nested

/-! ### Containers -/

theorem prefix_of_prefix_append {pattern front behind : List Char} {stop : Char}
    (noStop : stop ∉ pattern) (stands : pattern <+: front ++ stop :: behind) :
    pattern <+: front := by
  rcases Nat.lt_or_ge front.length pattern.length with long | short
  · have whole : front ++ [stop] <+: front ++ stop :: behind := ⟨behind, by simp⟩
    have inside : front ++ [stop] <+: pattern :=
      List.prefix_of_prefix_length_le whole stands (by simp; omega)
    exact absurd (inside.subset (by simp)) noStop
  · exact List.prefix_of_prefix_length_le stands (List.prefix_append _ _) short

theorem isMark_class (other : ¬"slide ".toList <+: className.toList) :
    (Tag.opened "div" (attributesRead (("class", className) :: attributes))).isMark = false := by
  have absent : ¬" class=\"slide ".toList <+:
      (attributesRead (("class", className) :: attributes)).toList := by
    intro stands
    rw [attributesRead_toList] at stands
    have inText := stands.trans (untilEnd_isPrefix _)
    have shape : (attributesText (("class", className) :: attributes)).toList =
        " class=\"".toList ++ (className.toList ++ '"' :: (attributesText attributes).toList) := by
      simp [attributesText_cons, attributeText]
    have split : " class=\"slide ".toList = " class=\"".toList ++ "slide ".toList := by decide
    rw [shape, split, List.prefix_append_right_inj] at inText
    exact other (prefix_of_prefix_append (by decide) inText)
  have noMark : " class=\"slide ".toList.isPrefixOf
      (attributesRead (("class", className) :: attributes)).toList = false := by
    rw [Bool.eq_false_iff, ne_eq, List.isPrefixOf_iff_prefix]
    exact absent
  rw [Tag.isMark, noMark]
  rfl

theorem cleanName_div : CleanName "div" := by
  decide

theorem Nested.div (nested : Nested body) : Nested (Markup.element "div" [] body) :=
  nested.element cleanName_div untaggedValues_nil rfl

/-- A container with a class that is not that of slides. -/
theorem Nested.container (nested : Nested body) (untagged : Untagged className)
    (noSlide : ¬"slide ".toList <+: className.toList) (values : UntaggedValues attributes) :
    Nested (Markup.element "div" (("class", className) :: attributes) body) :=
  nested.element cleanName_div (.cons (by decide) untagged values) (isMark_class noSlide)

/-! ### Single elements -/

/-- A text is one element with a line break behind it: its first tag opens the element, and no
sooner than with the last one is everything closed. -/
structure IsElement (name text : String) : Prop where
  opens : ("<" ++ name).toList <+: text.toList
  ends : (closeTag name ++ "\n").toList <:+ text.toList
  closes : run [] (blockTags text.toList) = some []
  inside : ∀ front back, blockTags text.toList = front ++ back → front ≠ [] → back ≠ [] →
    ∃ opened, run [] front = some opened ∧ opened ≠ []

theorem blockTags_line (text : String) (whole : Whole text.toList) :
    blockTags (line text).toList = blockTags text.toList := by
  rw [line, String.toList_append, blockTags_append whole]
  exact List.append_nil _

theorem whole_element (whole : Whole body.toList) (clean : CleanName name)
    (values : UntaggedValues attributes) : Whole (element name attributes body).toList := by
  rw [element, String.toList_append, String.toList_append]
  exact ((whole_openTag clean values).append whole).append (whole_closeTag clean)

theorem Nested.isElement (nested : Nested body) (clean : CleanName name)
    (values : UntaggedValues attributes) (isBlock : Tag.blockNames.contains name = true) :
    IsElement name (Markup.line (Markup.element name attributes body)) := by
  have blocks : blockTags (Markup.line (Markup.element name attributes body)).toList =
      .opened name (attributesRead attributes) :: (blockTags body.toList ++ [.closed name]) := by
    rw [blockTags_line _ (whole_element nested.whole clean values),
      nested.blockTags_element clean values isBlock]
  have around := run_around nested.balanced [(name, attributesRead attributes)]
  constructor
  · refine ⟨(attributesText attributes).toList ++
      ('>' :: (body ++ Markup.closeTag name ++ "\n").toList), ?_⟩
    simp [Markup.line, Markup.element, openTag_toList]
  · refine ⟨(Markup.openTag name attributes ++ body).toList, ?_⟩
    simp [Markup.line, Markup.element]
  · rw [blocks, run, run_append, ← List.nil_append [(name, attributesRead attributes)], around]
    simp [run]
  · intro front back whole frontNonempty backNonempty
    obtain ⟨tag, front, rfl⟩ := List.exists_cons_of_ne_nil frontNonempty
    rw [blocks, List.cons_append, List.cons.injEq] at whole
    obtain ⟨rfl, whole⟩ := whole
    -- What stands before the last tag is a part of the body, in which nothing of outside closes.
    rcases List.eq_nil_or_concat back with rfl | ⟨middle, last, rfl⟩
    · exact absurd rfl backNonempty
    · rw [List.concat_eq_append, ← List.append_assoc] at whole
      obtain ⟨inBody, -⟩ := List.append_inj' whole rfl
      have balanced := nested.balanced
      rw [inBody, run_append] at balanced
      obtain ⟨opened, ran, -⟩ := Option.bind_eq_some_iff.mp balanced
      refine ⟨opened ++ [(name, attributesRead attributes)], ?_, by simp⟩
      exact run_around ran _

end SlideDeck.Markup
