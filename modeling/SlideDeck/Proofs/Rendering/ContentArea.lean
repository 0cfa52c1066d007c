import SlideDeck.Proofs.Rendering.Children
import SlideDeck.Proofs.Rendering.Openings
import SlideDeck.Proofs.Rendering.TwoColumn

/-!
Contract: the content area of a slide, as it is read.

On every slide with a heading the content area is in the same place: no part of the heading is taken
for it. What stands in it is read as if it were alone.

Owns:
- the paths to the content area and to the rows of a table in it;
- lists of texts that are one child each;
- the number of elements in the content area.

Does not own: what the layouts put there.
-/

namespace SlideDeck.Markup

open SlideDeck.Deck

/-! ### Paths -/

def anyChild : Child → Bool :=
  fun _ => true

def hasName (name : String) : Child → Bool :=
  fun child => child.name == name

def hasClass (className : String) : Child → Bool :=
  fun child => child.className == className

/-- The way from a slide to the children of its content area. -/
def areaPath : List (Child → Bool) :=
  [anyChild, hasClass "content"]

def headPath : List (Child → Bool) :=
  areaPath ++ [hasName "table", hasName "thead", hasName "tr"]

def rowsPath : List (Child → Bool) :=
  areaPath ++ [hasName "table", hasName "tbody"]

/-! ### Items of a container -/

section Items

variable {α : Type} {items : List α} {texts : List String} {relation : α → Child → Prop}

/-- A text that is read as one child. -/
def ReadsAs (text : String) (property : Child → Prop) : Prop :=
  Nested text ∧ ∃ child, children text = [child] ∧ property child

/-- Texts that are one child each are read one by one. -/
theorem forall₂_children
    (each : List.Forall₂ (fun item text => ReadsAs text (relation item)) items texts) :
    List.Forall₂ relation items (children (String.join texts)) := by
  induction each with
  | nil => exact .nil
  | cons first _ inductionHypothesis =>
      obtain ⟨nested, child, single, related⟩ := first
      rw [String.join_cons, children_append nested, single]
      exact .cons related inductionHypothesis

theorem nested_join_reads
    (each : List.Forall₂ (fun item text => ReadsAs text (relation item)) items texts) :
    Nested (String.join texts) := by
  induction each with
  | nil => exact .empty
  | cons first _ inductionHypothesis =>
      rw [String.join_cons]
      exact first.1.append inductionHypothesis

theorem forall₂_children_map {write : α → String}
    (each : ∀ item ∈ items, ReadsAs (write item) (relation item)) :
    List.Forall₂ relation items (children (String.join (items.map write))) := by
  apply forall₂_children
  rw [List.forall₂_map_right_iff, List.forall₂_same]
  exact each

theorem ReadsAs.line {text : String} {property : Child → Prop} (reads : ReadsAs text property) :
    ReadsAs (Markup.line text) property := by
  obtain ⟨nested, single⟩ := reads
  rw [ReadsAs, children_line nested]
  exact ⟨nested.line, single⟩

theorem ReadsAs.blockLine {text : String} {property : Child → Prop}
    (reads : ReadsAs text property) : ReadsAs (Markup.blockLine text) property := by
  obtain ⟨nested, single⟩ := reads
  rw [ReadsAs, children_blockLine nested]
  exact ⟨nested.blockLine, single⟩

theorem ReadsAs.imp {text : String} {property result : Child → Prop}
    (reads : ReadsAs text property) (implies : ∀ child, property child → result child) :
    ReadsAs text result := by
  obtain ⟨nested, child, single, holds⟩ := reads
  exact ⟨nested, child, single, implies child holds⟩

/-- A class that is read as it was written. -/
def IsPlainClass (className : String) : Prop :=
  Untagged className ∧ ¬"slide ".toList <+: className.toList ∧
    '>' ∉ className.toList ∧ '"' ∉ className.toList

instance (className : String) : Decidable (IsPlainClass className) :=
  inferInstanceAs (Decidable (_ ∧ _))

theorem Encloses.readsAs {className text : String}
    (encloses : Encloses Nested "div" [("class", className)] text)
    (plain : IsPlainClass className) :
    ReadsAs text fun child => child.className = className ∧ child.written = text := by
  have nested := encloses.classed plain.1 plain.2.1
  obtain ⟨body, inner, rfl⟩ := encloses
  have values : UntaggedValues [("class", className)] := .single (by decide) plain.1
  exact ⟨nested, _, children_element inner cleanName_div values rfl,
    Child.className_ofElement plain.2.2.1 plain.2.2.2, Child.written_ofElement _ _ _⟩

/-- The first child of a text that begins with a box is the box. -/
theorem children_box {className body : String} (nested : Nested body)
    (plain : IsPlainClass className) (behind : String) :
    ∃ child others, children (box className body ++ behind) = child :: others ∧
      child.className = className ∧ children child.body = children body := by
  have values : UntaggedValues [("class", className)] := .single (by decide) plain.1
  have inner := Nested.newline.append nested
  refine ⟨.ofElement "div" [("class", className)] ("\n" ++ body), children ("\n" ++ behind), ?_,
    Child.className_ofElement plain.2.2.1 plain.2.2.2,
    (Child.children_body values).trans (children_newline body)⟩
  rw [box, line, String.append_assoc]
  exact children_element_append inner cleanName_div values rfl ("\n" ++ behind)

/-- Of the first element, whatever it is, the path goes to its children. -/
theorem descend_first {text : String} {child : Child} {others : List Child}
    (read : children text = child :: others) : descend [anyChild] text = children child.body := by
  rw [descend, read, List.find?_cons_of_pos rfl]
  rfl

end Items

/-! ### The content area -/

section Area

variable {slide : Slide} {index : Nat} {deckTransition : Option String} {text : String}
  {path : List (Child → Bool)}

theorem forall_children_whenPresent {optional : Option String} {write : String → String}
    {property : Child → Prop} (each : ∀ text ∈ optional, ∀ child ∈ children (write text),
      property child) : ∀ child ∈ children (whenPresent optional write), property child := by
  unfold whenPresent
  cases shown : present optional with
  | none => exact fun _ member => absurd member (by simp [children, childrenFrom])
  | some text => exact each text (Option.filter_eq_some_iff.mp shown).1

/-- No part of a heading is taken for the content area. -/
theorem heading_hasClass (clean : slide.Clean) :
    ∀ child ∈ children (heading slide), hasClass "content" child = false := by
  have title : Nested (whenPresent slide.title fun title => line (element "h2" [] title)) :=
    nested_titleLine (by decide) (by decide) clean.title
  rw [heading, children_append title, List.forall_mem_append]
  constructor
  · refine forall_children_whenPresent fun title present => ?_
    have body := Nested.of_untagged (clean.title title present)
    rw [children_line (body.bare (by decide) (by decide)),
      children_element body (by decide) untaggedValues_nil rfl, List.forall_mem_singleton,
      Child.ofElement_nil]
    rfl
  · refine forall_children_whenPresent fun subtitle present => ?_
    have body := nested_formatText (clean.subtitle subtitle present)
    have values : UntaggedValues [("class", "subtitle")] := .single (by decide) (by decide)
    rw [children_line (body.classed (by decide) (by decide)), classed,
      children_element body cleanName_div values rfl, List.forall_mem_singleton, hasClass,
      Child.className_ofElement (by decide) (by decide)]
    rfl

theorem untaggedValues_frame (clean : slide.Clean)
    (deckUntagged : ∀ name ∈ deckTransition, Untagged name) :
    UntaggedValues [("class", frameClass index false (transition slide deckTransition)),
      ("data-transition", transition slide deckTransition)] :=
  .cons (by decide) (untagged_frameClass false (untagged_transition clean deckUntagged))
    (.single (by decide) (untagged_transition clean deckUntagged))

/-- From a slide the way leads to what it shows in its content area. -/
theorem descend_framed (clean : slide.Clean)
    (deckUntagged : ∀ name ∈ deckTransition, Untagged name) (nested : Nested text) :
    descend (areaPath ++ path) (framed slide index deckTransition text) = descend path text := by
  have body := (nested_heading clean).append nested.contentArea
  have areaValues : UntaggedValues [("class", "content")] := .single (by decide) (by decide)
  have chosen : hasClass "content" (.ofElement "div" [("class", "content")] ("\n" ++ text)) =
      true := by
    rw [hasClass, Child.className_ofElement (by decide) (by decide)]
    rfl
  calc descend (areaPath ++ path) (framed slide index deckTransition text)
      = descend (hasClass "content" :: path) ("\n" ++ (heading slide ++ contentArea text)) :=
        descend_element .empty (by simp [children, childrenFrom]) (Nested.newline.append body)
          cleanName_div (untaggedValues_frame clean deckUntagged) rfl rfl "\n"
    _ = descend (hasClass "content" :: path) (heading slide ++ contentArea text) :=
        descend_congr (children_newline _)
    _ = descend path ("\n" ++ text) :=
        descend_element (nested_heading clean) (heading_hasClass clean)
          (Nested.newline.append nested) cleanName_div areaValues rfl chosen "\n"
    _ = descend path text := descend_congr (children_newline _)

theorem descend_areaPath (clean : slide.Clean)
    (deckUntagged : ∀ name ∈ deckTransition, Untagged name) (nested : Nested text) :
    descend areaPath (framed slide index deckTransition text) = children text := by
  rw [← List.append_nil areaPath, descend_framed clean deckUntagged nested]
  rfl

/-- A box at the top of the content area is the first element that is read there. -/
theorem descend_box {className behind : String} (clean : slide.Clean)
    (deckUntagged : ∀ name ∈ deckTransition, Untagged name) (nested : Nested text)
    (nestedBehind : Nested behind) (plain : IsPlainClass className) :
    ∃ container others,
      descend areaPath (framed slide index deckTransition (box className text ++ behind)) =
        container :: others ∧
      container.className = className ∧ children container.body = children text := by
  rw [descend_areaPath clean deckUntagged ((nested.box plain.1 plain.2.1).append nestedBehind)]
  exact children_box nested plain behind

/-- A step goes to the first element of a name. -/
theorem descend_hasName {name front body : String} (nestedFront : Nested front)
    (passes : ∀ child ∈ children front, child.name ≠ name) (nested : Nested body)
    (clean : CleanName name) (isBlock : Tag.blockNames.contains name = true) (behind : String) :
    descend (hasName name :: path) (front ++ (element name [] body ++ behind)) =
      descend path body := by
  refine descend_element nestedFront ?_ nested clean untaggedValues_nil isBlock ?_ behind
  · intro child member
    exact beq_eq_false_iff_ne.mpr (passes child member)
  · exact beq_iff_eq.mpr rfl

theorem openings_framed {name : String} (clean : slide.Clean)
    (deckUntagged : ∀ name ∈ deckTransition, Untagged name) (nested : Nested text)
    (notInline : name ∉ "h2" :: "div" :: inlineNames) :
    openings name (framed slide index deckTransition text) = openings name text := by
  have otherName : "div" ≠ name := fun equal => notInline (by simp [← equal])
  have body := (nested_heading clean).append nested.contentArea
  calc openings name (framed slide index deckTransition text)
      = openings name (heading slide ++ contentArea text) :=
        openings_around body.whole cleanName_div (untaggedValues_frame clean deckUntagged) otherName
    _ = openings name (contentArea text) := by
        rw [openings_append (nested_heading clean).whole, (Without.heading clean notInline).none,
          Nat.zero_add]
    _ = openings name text :=
        openings_around nested.whole cleanName_div (.single (by decide) (by decide)) otherName

end Area

end SlideDeck.Markup
