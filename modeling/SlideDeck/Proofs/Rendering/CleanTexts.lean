import SlideDeck.Deck.Slide
import SlideDeck.Proofs.Rendering.FormattedText

/-!
Contract: decks whose author wrote no tags.

A text that is formatted must have no tag in its prose, any other text none at all. Bodies of code
may have tags, in fences as well as in fields of their own.

Owns:
- `Clean` for everything that holds texts of the author;
- the texts of leaves: numbers and truth values bring no tags.
-/

namespace SlideDeck.Deck

open Markup (Untagged UntaggedProse untaggedProse_of_untagged)

/-! ### Leaves -/

/-- A condition on the text of a leaf, if the author wrote it as one. -/
def Leaf.Texts (condition : String → Prop) (leaf : Leaf) : Prop :=
  ∀ text, leaf = .text text → condition text

theorem untagged_toDigits (number : Nat) : '<' ∉ Nat.toDigits 10 number := by
  intro member
  exact absurd (Nat.isDigit_of_mem_toDigits (by decide) (by decide) member) (by decide)

theorem untagged_toString_int (number : Int) : Untagged (toString number) := by
  unfold Markup.Untagged
  rw [Int.toString_eq_repr, Int.repr_eq_if]
  split <;> simp [untagged_toDigits]

theorem untagged_fixedPoint (format : Decimal.NumberFormat) {digits : List Char}
    (untagged : '<' ∉ digits) (point : Int) : '<' ∉ format.fixedPoint digits point := by
  have taken : '<' ∉ digits.take point.toNat := fun member => untagged (List.mem_of_mem_take member)
  have dropped : '<' ∉ digits.drop point.toNat := fun member =>
    untagged (List.mem_of_mem_drop member)
  unfold Decimal.NumberFormat.fixedPoint
  dsimp only
  split
  · split <;> simp [untagged]
  · split <;> simp [untagged, taken, dropped]

theorem untagged_write (number : Decimal.Binary64) :
    Untagged (Leaf.numberFormat.write number) := by
  unfold Decimal.NumberFormat.write
  split
  · decide
  split
  · split <;> decide
  · have positional : ∀ point, Leaf.numberFormat.positional point = true := fun _ => rfl
    have fixed := untagged_fixedPoint Leaf.numberFormat
      (untagged_toDigits (Decimal.shortest Leaf.numberFormat.tie number.magnitude).digits)
    simp only [positional, or_true, if_true, Nat.toString_eq_repr, Nat.toList_repr]
    unfold Markup.Untagged
    rw [String.toList_ofList]
    split <;> simp [fixed]

theorem Leaf.untagged_display {leaf : Leaf} (texts : leaf.Texts Untagged) :
    Untagged leaf.display := by
  cases leaf with
  | null => decide
  | bool value => cases value <;> decide
  | integer value => exact untagged_toString_int value
  | float value => exact untagged_write value
  | text text => exact texts text rfl

theorem Leaf.untaggedProse_display {leaf : Leaf} (texts : leaf.Texts UntaggedProse) :
    UntaggedProse leaf.display := by
  cases leaf with
  | text text => exact texts text rfl
  | null | bool | integer | float =>
      exact untaggedProse_of_untagged (Leaf.untagged_display nofun)

/-! ### Blocks and bodies -/

structure Bullets.Clean (list : Bullets) : Prop where
  items : ∀ items ∈ list.items, ∀ item ∈ items, UntaggedProse item
  style : ∀ style ∈ list.style, Untagged style

structure Listing.Clean (listing : Listing) : Prop where
  language : ∀ language ∈ listing.language, Untagged language

structure FlowBox.Clean (box : FlowBox) : Prop where
  title : ∀ title ∈ box.title, Untagged title
  subtitle : ∀ subtitle ∈ box.subtitle, Untagged subtitle
  content : ∀ content ∈ box.content, UntaggedProse content

inductive FlowItem.Clean : FlowItem → Prop where
  | arrow {glyph : Option String} (untagged : ∀ text ∈ glyph, Untagged text) : Clean (.arrow glyph)
  | box {box : FlowBox} (clean : box.Clean) : Clean (.box box)

structure Flow.Clean (flow : Flow) : Prop where
  style : ∀ style ∈ flow.style, Untagged style
  items : ∀ items ∈ flow.items, ∀ item ∈ items, item.Clean

mutual

inductive Content.Clean : Content → Prop where
  | text {text : String} (prose : UntaggedProse text) : Content.Clean (.text text)
  | blocks {items : List Block} (all : ∀ item ∈ items, Block.Clean item) :
      Content.Clean (.blocks items)
  | other : Content.Clean .other

inductive Block.Clean : Block → Prop where
  | paragraph {text : String} (prose : UntaggedProse text) : Block.Clean (.paragraph text)
  | list {list : Bullets} (clean : list.Clean) : Block.Clean (.list list)
  | card {card : Card} (clean : Card.Clean card) : Block.Clean (.card card)
  | quote {quoted : Option String} (prose : ∀ text ∈ quoted, UntaggedProse text) :
      Block.Clean (.quote quoted)
  | callout {body : Option Content} {style : Option String}
      (bodyClean : ∀ content ∈ body, Content.Clean content)
      (styleUntagged : ∀ text ∈ style, Untagged text) : Block.Clean (.callout body style)
  | code {listing : Listing} (clean : listing.Clean) : Block.Clean (.code listing)
  | flow {flow : Flow} (clean : flow.Clean) : Block.Clean (.flow flow)
  | columns {left right : Option Column} (leftClean : ∀ column ∈ left, Column.Clean column)
      (rightClean : ∀ column ∈ right, Column.Clean column) : Block.Clean (.columns left right)
  | unknown : Block.Clean .unknown

inductive Card.Clean : Card → Prop where
  | card {title style : Option String} {body : Option Content}
      (titleUntagged : ∀ text ∈ title, Untagged text)
      (styleUntagged : ∀ text ∈ style, Untagged text)
      (bodyClean : ∀ content ∈ body, Content.Clean content) : Card.Clean ⟨title, style, body⟩

inductive Column.Clean : Column → Prop where
  | column {title : Option String} {cards : Option (List Card)} {body : Option Content}
      (titleUntagged : ∀ text ∈ title, Untagged text)
      (cardsClean : ∀ shown ∈ cards, ∀ card ∈ shown, Card.Clean card)
      (bodyClean : ∀ content ∈ body, Content.Clean content) : Column.Clean ⟨title, cards, body⟩

end

/-! ### Slides -/

structure Hero.Clean (hero : Hero) : Prop where
  logo : ∀ logo ∈ hero.logo, Untagged logo
  titleSize : ∀ size ∈ hero.titleSize, Untagged size

structure GalleryImage.Clean (image : GalleryImage) : Prop where
  source : Untagged image.source
  alt : ∀ alt ∈ image.alt?, Untagged alt
  caption : ∀ caption ∈ image.caption?, UntaggedProse caption

structure Picture.Clean (picture : Picture) : Prop where
  image : ∀ source ∈ picture.image, Untagged source
  alt : ∀ alt ∈ picture.alt, Untagged alt
  caption : ∀ caption ∈ picture.caption, UntaggedProse caption
  images : ∀ images ∈ picture.images, ∀ image ∈ images, image.Clean
  content : ∀ content ∈ picture.content, content.Clean

structure TwoColumn.Clean (columns : TwoColumn) : Prop where
  left : ∀ column ∈ columns.left, column.Clean
  right : ∀ column ∈ columns.right, column.Clean
  content : ∀ content ∈ columns.content, content.Clean

structure GridItem.Clean (item : GridItem) : Prop where
  icon : ∀ icon ∈ item.icon, Untagged icon
  stat : ∀ stat ∈ item.stat, stat.Texts Untagged
  title : ∀ title ∈ item.title, Untagged title
  label : ∀ label ∈ item.label, Untagged label
  content : ∀ content ∈ item.content, content.Clean

structure Grid.Clean (grid : Grid) : Prop where
  items : ∀ items ∈ grid.items, ∀ item ∈ items, item.Clean

structure Code.Clean (code : Code) : Prop where
  listing : code.listing.Clean
  description : ∀ description ∈ code.description, UntaggedProse description
  notes : ∀ notes ∈ code.notes, UntaggedProse notes

structure TimelineEntry.Clean (entry : TimelineEntry) : Prop where
  period : ∀ period ∈ entry.period, period.Texts Untagged
  title : ∀ title ∈ entry.title, Untagged title
  description : ∀ description ∈ entry.description, UntaggedProse description
  items : ∀ items ∈ entry.items, ∀ item ∈ items, UntaggedProse item

structure Timeline.Clean (timeline : Timeline) : Prop where
  items : ∀ items ∈ timeline.items, ∀ item ∈ items, item.Clean

structure Table.Clean (table : Table) : Prop where
  headers : ∀ headers ∈ table.headers, ∀ header ∈ headers, header.Texts Untagged
  rows : ∀ rows ∈ table.rows, ∀ row ∈ rows, ∀ cell ∈ row, cell.Texts UntaggedProse

structure Diagrams.Clean (diagrams : Diagrams) : Prop where
  description : ∀ description ∈ diagrams.description, UntaggedProse description
  flows : ∀ flows ∈ diagrams.flows, ∀ flow ∈ flows, flow.Clean
  content : ∀ content ∈ diagrams.content, content.Clean

inductive Layout.Clean : Layout → Prop where
  | hero {hero : Hero} (clean : hero.Clean) : Clean (.hero hero)
  | image {picture : Picture} (clean : picture.Clean) : Clean (.image picture)
  | twoColumn {columns : TwoColumn} (clean : columns.Clean) : Clean (.twoColumn columns)
  | grid {grid : Grid} (clean : grid.Clean) : Clean (.grid grid)
  | code {code : Code} (clean : code.Clean) : Clean (.code code)
  | timeline {timeline : Timeline} (clean : timeline.Clean) : Clean (.timeline timeline)
  | table {table : Table} (clean : table.Clean) : Clean (.table table)
  | flow {diagrams : Diagrams} (clean : diagrams.Clean) : Clean (.flow diagrams)
  | plain {body : Option Content} (clean : ∀ content ∈ body, content.Clean) : Clean (.plain body)

structure Slide.Clean (slide : Slide) : Prop where
  title : ∀ title ∈ slide.title, Untagged title
  subtitle : ∀ subtitle ∈ slide.subtitle, UntaggedProse subtitle
  transition : ∀ transition ∈ slide.transition, Untagged transition
  layout : slide.layout.Clean

theorem Slide.Clean.of_layout {slide : Slide} {shown : Layout} (clean : slide.Clean)
    (same : slide.layout = shown) : shown.Clean := by
  rw [← same]
  exact clean.layout

end SlideDeck.Deck
