import SlideDeck.Markup.Slide
import SlideDeck.Proofs.Rendering.EmptyTexts
import SlideDeck.Proofs.Result

/-!
Contract: blocks that are not shown can be left away.

Unknown blocks show nothing, and neither do two-column markers where they give no columns. Still
they take a line of their own among the other blocks, and a body of nothing else is not empty. So a
slide without some of them is rendered as before but for newlines, and fails as before.

Owns:
- `Thinned`, what remains of a slide when ignored blocks are deleted at any depth;
- texts without their newlines;
- one lemma for each kind of part and layout, and `ignored_blocks_show_nothing`.

Does not own: the first marker in the body of a two-column slide, which gives the columns.
-/

namespace SlideDeck.Deck

/-! ### Deleting blocks -/

/-- Where blocks stand: directly in the body of a two-column slide, or anywhere else. -/
inductive BlockPlace where
  | columnBody
  | elsewhere

/-- The blocks that show nothing in a place. -/
inductive Block.Ignored : BlockPlace → Block → Prop where
  | unknown (place : BlockPlace) : Ignored place .unknown
  | columns (left right : Option Column) : Ignored .elsewhere (.columns left right)

mutual

/-- A body, and what remains when ignored blocks are deleted in it and within its blocks. -/
inductive Content.Thinned : BlockPlace → Option Content → Option Content → Prop where
  | same (place : BlockPlace) (body : Option Content) : Content.Thinned place body body
  | blocks {place : BlockPlace} {items others : List Block}
      (thinned : Block.AllThinned place items others) :
      Content.Thinned place (some (.blocks items)) (some (.blocks others))

inductive Block.AllThinned : BlockPlace → List Block → List Block → Prop where
  | nil (place : BlockPlace) : Block.AllThinned place [] []
  | keep {place : BlockPlace} {item other : Block} {items others : List Block}
      (first : Block.Thinned item other) (rest : Block.AllThinned place items others) :
      Block.AllThinned place (item :: items) (other :: others)
  | delete {place : BlockPlace} {item : Block} {items others : List Block}
      (ignored : Block.Ignored place item) (rest : Block.AllThinned place items others) :
      Block.AllThinned place (item :: items) others

inductive Block.Thinned : Block → Block → Prop where
  | same (item : Block) : Block.Thinned item item
  | card {item other : Card} (thinned : Card.Thinned item other) :
      Block.Thinned (.card item) (.card other)
  | callout {body other : Option Content} (style : Option String)
      (thinned : Content.Thinned .elsewhere body other) :
      Block.Thinned (.callout body style) (.callout other style)
  | columns {left left' right right' : Option Column} (thinnedLeft : Column.Thinned left left')
      (thinnedRight : Column.Thinned right right') :
      Block.Thinned (.columns left right) (.columns left' right')

inductive Card.Thinned : Card → Card → Prop where
  | card (title style : Option String) {body other : Option Content}
      (thinned : Content.Thinned .elsewhere body other) :
      Card.Thinned ⟨title, style, body⟩ ⟨title, style, other⟩

inductive Card.AllThinned : List Card → List Card → Prop where
  | nil : Card.AllThinned [] []
  | cons {item other : Card} {items others : List Card} (first : Card.Thinned item other)
      (rest : Card.AllThinned items others) : Card.AllThinned (item :: items) (other :: others)

inductive Column.Thinned : Option Column → Option Column → Prop where
  | absent : Column.Thinned none none
  | bare (title : Option String) {body other : Option Content}
      (thinned : Content.Thinned .elsewhere body other) :
      Column.Thinned (some ⟨title, none, body⟩) (some ⟨title, none, other⟩)
  | cards (title : Option String) {items others : List Card} {body other : Option Content}
      (cards : Card.AllThinned items others) (thinned : Content.Thinned .elsewhere body other) :
      Column.Thinned (some ⟨title, some items, body⟩) (some ⟨title, some others, other⟩)

end

theorem Block.AllThinned.same (place : BlockPlace) (items : List Block) :
    Block.AllThinned place items items := by
  induction items with
  | nil => exact .nil place
  | cons first others inductionHypothesis => exact .keep (.same first) inductionHypothesis

theorem Card.AllThinned.same : ∀ items, Card.AllThinned items items
  | [] => .nil
  | ⟨title, style, body⟩ :: others => .cons (.card title style (.same _ body)) (.same others)

theorem Column.Thinned.same : ∀ column, Column.Thinned column column
  | none => .absent
  | some ⟨title, none, body⟩ => .bare title (.same _ body)
  | some ⟨title, some items, body⟩ => .cards title (.same items) (.same _ body)

def GridItem.Thinned (item other : GridItem) : Prop :=
  ∃ body, Content.Thinned .elsewhere item.content body ∧ other = { item with content := body }

/-- A layout, and what remains when ignored blocks are deleted. Directly in the body of a two-column
slide markers remain. -/
inductive Layout.Thinned : Layout → Layout → Prop where
  | same (layout : Layout) : Layout.Thinned layout layout
  | image (picture : Picture) {body : Option Content}
      (thinned : Content.Thinned .elsewhere picture.content body) :
      Layout.Thinned (.image picture) (.image { picture with content := body })
  | twoColumn {left left' right right' : Option Column} {body other : Option Content}
      (thinnedLeft : Column.Thinned left left') (thinnedRight : Column.Thinned right right')
      (thinned : Content.Thinned .columnBody body other) :
      Layout.Thinned (.twoColumn ⟨left, right, body⟩) (.twoColumn ⟨left', right', other⟩)
  | grid (columns : Option Nat) {items others : List GridItem}
      (thinned : List.Forall₂ GridItem.Thinned items others) :
      Layout.Thinned (.grid ⟨columns, some items⟩) (.grid ⟨columns, some others⟩)
  | flow (diagrams : Diagrams) {body : Option Content}
      (thinned : Content.Thinned .elsewhere diagrams.content body) :
      Layout.Thinned (.flow diagrams) (.flow { diagrams with content := body })
  | plain {body other : Option Content} (thinned : Content.Thinned .elsewhere body other) :
      Layout.Thinned (.plain body) (.plain other)

def Slide.Thinned (slide other : Slide) : Prop :=
  ∃ layout, Layout.Thinned slide.layout layout ∧ other = { slide with layout := layout }

end SlideDeck.Deck

namespace SlideDeck.Markup

open SlideDeck.Deck
open SlideDeck.Result

/-! ### Texts without newlines -/

def withoutNewlines (text : String) : String :=
  String.ofList (text.toList.filter (· != '\n'))

section Newlines

variable (text other : String)

@[simp] theorem withoutNewlines_append :
    withoutNewlines (text ++ other) = withoutNewlines text ++ withoutNewlines other := by
  rw [withoutNewlines, String.toList_append, List.filter_append, String.ofList_append]
  rfl

@[simp] theorem withoutNewlines_empty : withoutNewlines "" = "" := rfl

@[simp] theorem withoutNewlines_newline : withoutNewlines "\n" = "" := rfl

@[simp] theorem withoutNewlines_line : withoutNewlines (line text) = withoutNewlines text := by
  rw [line, withoutNewlines_append, withoutNewlines_newline, String.append_empty]

/-- Whether a text is empty does not matter once there are no newlines. -/
@[simp] theorem withoutNewlines_blockLine :
    withoutNewlines (blockLine text) = withoutNewlines text := by
  rw [blockLine]
  split
  next isEmpty =>
    rw [String.isEmpty_iff.mp isEmpty]
  next => exact withoutNewlines_line text

@[simp] theorem withoutNewlines_element (name : String) (attributes : List (String × String))
    (body : String) :
    withoutNewlines (element name attributes body) =
      withoutNewlines (openTag name attributes) ++ withoutNewlines body ++
        withoutNewlines (closeTag name) := by
  rw [element, withoutNewlines_append, withoutNewlines_append]

theorem withoutNewlines_join (texts : List String) :
    withoutNewlines (String.join texts) = String.join (texts.map withoutNewlines) := by
  induction texts with
  | nil => rfl
  | cons first others inductionHypothesis =>
      rw [String.join_cons, withoutNewlines_append, inductionHypothesis, List.map_cons,
        String.join_cons]

theorem withoutNewlines_lines (texts : List String) :
    withoutNewlines ("\n".intercalate texts) = withoutNewlines (String.join texts) := by
  induction texts with
  | nil => rfl
  | cons first others inductionHypothesis =>
      cases others with
      | nil => simp
      | cons second rest =>
          rw [String.intercalate_cons_cons, String.join_cons, withoutNewlines_append,
            withoutNewlines_append, inductionHypothesis]
          simp

theorem withoutNewlines_blockLines {texts others : List String}
    (same : texts.map withoutNewlines = others.map withoutNewlines) :
    withoutNewlines (String.join (texts.map blockLine)) =
      withoutNewlines (String.join (others.map blockLine)) := by
  have lines : withoutNewlines ∘ blockLine = withoutNewlines := funext withoutNewlines_blockLine
  rw [withoutNewlines_join, withoutNewlines_join, List.map_map, List.map_map, lines, same]

end Newlines

/-! ### Bodies -/

/-- What the texts of blocks show together, newlines aside. -/
def together (texts : List String) : String :=
  withoutNewlines (String.join texts)

@[simp] theorem together_cons (first : String) (others : List String) :
    together (first :: others) = withoutNewlines first ++ together others := by
  rw [together, String.join_cons, withoutNewlines_append, together]

theorem block_ignored {place : BlockPlace} {item : Block} (ignored : item.Ignored place) :
    block item = .ok "" := by
  cases ignored <;> rw [block]

theorem optionalContent_blocks (items : List Block) :
    optionalContent (some (.blocks items)) = blockLines items := by
  rw [optionalContent, content, blockLines]
  simp

theorem blockLines_alike {items others : List Block}
    (alike : (blocks items).map together = (blocks others).map together) :
    (blockLines items).map withoutNewlines = (blockLines others).map withoutNewlines := by
  apply map_bind_congr alike
  intro texts otherTexts same
  apply congrArg Except.ok
  rw [withoutNewlines_lines, withoutNewlines_lines]
  exact same

theorem cardBox_alike {attributes : List (String × String)} {title : Option String}
    {text other : String} (same : withoutNewlines text = withoutNewlines other) :
    withoutNewlines (cardBox attributes title text) =
      withoutNewlines (cardBox attributes title other) := by
  simp [cardBox, same]

-- One case for each way to thin a part; what is deleted renders as the empty text.
mutual

theorem optionalContent_thinned {place : BlockPlace} : ∀ {body other : Option Content},
    Content.Thinned place body other →
      (optionalContent body).map withoutNewlines = (optionalContent other).map withoutNewlines
  | _, _, .same _ _ => rfl
  | _, _, .blocks thinned => by
      rw [optionalContent_blocks, optionalContent_blocks]
      exact blockLines_alike (blocks_thinned thinned)

theorem blocks_thinned {place : BlockPlace} : ∀ {items others : List Block},
    Block.AllThinned place items others → (blocks items).map together = (blocks others).map together
  | _, _, .nil _ => rfl
  | _, _, .keep first rest => by
      rw [blocks, blocks]
      apply map_bind_congr (block_thinned first)
      intro text otherText same
      apply map_bind_congr (blocks_thinned rest)
      intro texts otherTexts sameTexts
      apply congrArg Except.ok
      rw [together_cons, together_cons, same, sameTexts]
  | _, others, .delete ignored rest => by
      have unchanged : blocks others >>= pure = blocks others := bind_pure _
      rw [blocks, block_ignored ignored, ← unchanged]
      apply map_bind_congr (blocks_thinned rest)
      intro texts otherTexts sameTexts
      apply congrArg Except.ok
      rw [together_cons, withoutNewlines_empty, String.empty_append, sameTexts]

theorem block_thinned : ∀ {item other : Block}, Block.Thinned item other →
    (block item).map withoutNewlines = (block other).map withoutNewlines
  | _, _, .same _ => rfl
  | _, _, .card thinned => by
      rw [block, block]
      exact card_thinned thinned
  | _, _, .callout style thinned => by
      rw [block, block]
      apply map_bind_congr (optionalContent_thinned thinned)
      intro text otherText same
      exact congrArg Except.ok (cardBox_alike same)
  | _, _, .columns _ _ => by
      rw [block, block]

theorem card_thinned : ∀ {item other : Card}, Card.Thinned item other →
    (card item).map withoutNewlines = (card other).map withoutNewlines
  | _, _, .card title style thinned => by
      rw [card, card]
      apply map_bind_congr (optionalContent_thinned thinned)
      intro text otherText same
      exact congrArg Except.ok (cardBox_alike same)

end

/-! ### Columns -/

theorem cards_thinned : ∀ {items others : List Card}, Card.AllThinned items others →
    List.Forall₂ (fun item other =>
      (card item).map withoutNewlines = (card other).map withoutNewlines) items others
  | _, _, .nil => .nil
  | _, _, .cons first rest => .cons (card_thinned first) (cards_thinned rest)

/-- Columns with a title look the same if their cards and bodies do. -/
theorem column_alike {title : Option String} {items others : Option (List Card)}
    {body other : Option Content}
    (cards : ((items.getD []).mapM card).map (List.map withoutNewlines) =
      ((others.getD []).mapM card).map (List.map withoutNewlines))
    (bodies : (optionalContent body).map withoutNewlines =
      (optionalContent other).map withoutNewlines) :
    (column (some ⟨title, items, body⟩)).map withoutNewlines =
      (column (some ⟨title, others, other⟩)).map withoutNewlines := by
  rw [column, column]
  apply map_bind_congr cards
  intro texts otherTexts sameTexts
  apply map_bind_congr bodies
  intro text otherText same
  apply congrArg Except.ok
  simp [withoutNewlines_blockLines sameTexts, same]

theorem column_thinned {shown other : Option Column} (thinned : Column.Thinned shown other) :
    (column shown).map withoutNewlines = (column other).map withoutNewlines := by
  cases thinned with
  | absent => rfl
  | bare title thinned => exact column_alike rfl (optionalContent_thinned thinned)
  | cards title cards thinned =>
      exact column_alike (map_mapM_congr (cards_thinned cards)) (optionalContent_thinned thinned)

theorem columnPair_thinned {left left' right right' : Option Column}
    (thinnedLeft : Column.Thinned left left') (thinnedRight : Column.Thinned right right') :
    (columnPair left right).map withoutNewlines =
      (columnPair left' right').map withoutNewlines := by
  apply map_bind_congr (column_thinned thinnedLeft)
  intro leftText leftOther sameLeft
  apply map_bind_congr (column_thinned thinnedRight)
  intro rightText rightOther sameRight
  apply congrArg Except.ok
  simp [box, classed, sameLeft, sameRight]

/-! ### Bodies of two-column slides -/

section ColumnBody

variable {item other : Block} {body otherBody : Option Content}

theorem isColumns_thinned (thinned : Block.Thinned item other) :
    item.isColumns = other.isColumns := by
  cases thinned <;> rfl

/-- What is deleted in the body of a two-column slide is no marker. -/
theorem isColumns_ignored (ignored : item.Ignored .columnBody) : item.isColumns = false := by
  cases ignored
  rfl

/-- The blocks that are no markers are thinned as well. -/
theorem others_thinned : ∀ {items others : List Block}, Block.AllThinned .columnBody items others →
    Block.AllThinned .columnBody (items.filter (!·.isColumns)) (others.filter (!·.isColumns))
  | _, _, .nil _ => .nil _
  | _, _, .keep first rest => by
      rw [List.filter_cons, List.filter_cons, ← isColumns_thinned first]
      split
      next => exact .keep first (others_thinned rest)
      next => exact others_thinned rest
  | _, _, .delete ignored rest => by
      rw [List.filter_cons, isColumns_ignored ignored]
      exact .delete ignored (others_thinned rest)

/-- The columns of a marker, or that there are none, and what remains of them. -/
def PairThinned : Option (Option Column × Option Column) → Option (Option Column × Option Column) →
    Prop :=
  Option.Rel fun pair other => Column.Thinned pair.1 other.1 ∧ Column.Thinned pair.2 other.2

theorem columns?_thinned (thinned : Block.Thinned item other) :
    PairThinned item.columns? other.columns? := by
  cases thinned with
  | same =>
      cases item with
      | columns left right => exact .some ⟨.same left, .same right⟩
      | paragraph | list | card | quote | callout | code | flow | unknown => exact .none
  | card | callout => exact .none
  | columns thinnedLeft thinnedRight => exact .some ⟨thinnedLeft, thinnedRight⟩

/-- The first marker remains the first. -/
theorem marker_thinned : ∀ {items others : List Block}, Block.AllThinned .columnBody items others →
    PairThinned (items.findSome? Block.columns?) (others.findSome? Block.columns?)
  | _, _, .nil _ => .none
  | item :: _, other :: _, .keep first rest => by
      have columns := columns?_thinned first
      rw [List.findSome?_cons, List.findSome?_cons]
      generalize item.columns? = shown at columns ⊢
      generalize other.columns? = remaining at columns ⊢
      cases columns with
      | none => exact marker_thinned rest
      | some thinned => exact .some thinned
  | item :: _, _, .delete ignored rest => by
      have none : item.columns? = none := by
        cases ignored
        rfl
      rw [List.findSome?_cons, none]
      exact marker_thinned rest

theorem toBlocks_thinned (thinned : Content.Thinned .columnBody body otherBody) :
    Block.AllThinned .columnBody (body.elim [] Content.toBlocks)
      (otherBody.elim [] Content.toBlocks) := by
  cases thinned with
  | same => exact .same _ _
  | blocks thinned => exact thinned

end ColumnBody

/-! ### Layouts -/

section Layouts

variable {slide : Slide}

theorem contentArea_alike {text other : String}
    (same : withoutNewlines text = withoutNewlines other) :
    withoutNewlines (heading slide ++ contentArea text) =
      withoutNewlines (heading slide ++ contentArea other) := by
  simp [contentArea, classed, same]

theorem twoColumn_thinned {left left' right right' : Option Column} {body other : Option Content}
    (thinnedLeft : Column.Thinned left left') (thinnedRight : Column.Thinned right right')
    (thinned : Content.Thinned .columnBody body other) :
    (twoColumn slide ⟨left, right, body⟩).map withoutNewlines =
      (twoColumn slide ⟨left', right', other⟩).map withoutNewlines := by
  have items := toBlocks_thinned thinned
  have marker := marker_thinned items
  unfold twoColumn
  simp only [bind_columns?_eq]
  generalize (body.elim [] Content.toBlocks).findSome? Block.columns? = found at marker ⊢
  generalize (other.elim [] Content.toBlocks).findSome? Block.columns? = otherFound at marker ⊢
  cases marker with
  | none =>
      apply map_bind_congr (columnPair_thinned thinnedLeft thinnedRight)
      intro pair otherPair samePair
      apply map_bind_congr (optionalContent_thinned thinned)
      intro below otherBelow sameBelow
      apply congrArg Except.ok
      apply contentArea_alike
      simp [samePair, sameBelow]
  | some columns =>
      apply map_bind_congr (blockLines_alike (blocks_thinned (others_thinned items)))
      intro above otherAbove sameAbove
      apply map_bind_congr (columnPair_thinned columns.1 columns.2)
      intro pair otherPair samePair
      apply congrArg Except.ok
      apply contentArea_alike
      simp [samePair, sameAbove]

theorem gridItem_thinned {item other : GridItem} (thinned : item.Thinned other) :
    (gridItem item).map withoutNewlines = (gridItem other).map withoutNewlines := by
  obtain ⟨body, thinned, rfl⟩ := thinned
  apply map_bind_congr (optionalContent_thinned thinned)
  intro text otherText same
  apply congrArg Except.ok
  simp [classed, same]

theorem grid_thinned (columns : Option Nat) {items others : List GridItem}
    (thinned : List.Forall₂ GridItem.Thinned items others) :
    (grid slide ⟨columns, some items⟩).map withoutNewlines =
      (grid slide ⟨columns, some others⟩).map withoutNewlines := by
  show ((items.mapM gridItem) >>= _).map _ = ((others.mapM gridItem) >>= _).map _
  apply map_bind_congr (map_mapM_congr (thinned.imp fun _ _ => gridItem_thinned))
  intro texts otherTexts same
  apply congrArg Except.ok
  apply contentArea_alike
  simp [box, classed, withoutNewlines_blockLines same, gridColumns]

/-- The image has to be there before the body is rendered, and no body does without it. -/
theorem picture_thinned (shown : Picture) {body : Option Content}
    (thinned : Content.Thinned .elsewhere shown.content body) :
    (picture slide shown).map withoutNewlines =
      (picture slide { shown with content := body }).map withoutNewlines := by
  unfold picture
  cases shown.preset with
  | grid | fullscreen | center => rfl
  | split =>
      unfold splitPicture
      apply map_bind_congr_right
      intro source
      apply map_bind_congr (optionalContent_thinned thinned)
      intro text otherText same
      apply congrArg Except.ok
      cases shown.side with
      | left => simp [box, classed, same]
      | right => simp [box, classed, same]
  | icon =>
      unfold iconPicture
      apply map_bind_congr_right
      intro source
      apply map_bind_congr (optionalContent_thinned thinned)
      intro text otherText same
      apply congrArg Except.ok
      simp [same]

theorem diagrams_thinned (shown : Diagrams) {body : Option Content}
    (thinned : Content.Thinned .elsewhere shown.content body) :
    (diagrams slide shown).map withoutNewlines =
      (diagrams slide { shown with content := body }).map withoutNewlines := by
  apply map_bind_congr (optionalContent_thinned thinned)
  intro text otherText same
  apply congrArg Except.ok
  apply contentArea_alike
  simp [same]

theorem plain_thinned {body other : Option Content}
    (thinned : Content.Thinned .elsewhere body other) :
    (plain slide body).map withoutNewlines = (plain slide other).map withoutNewlines := by
  apply map_bind_congr (optionalContent_thinned thinned)
  intro text otherText same
  apply congrArg Except.ok
  apply contentArea_alike
  simp [same]

theorem layout_thinned {shown : Layout} (thinned : slide.layout.Thinned shown) :
    (layout slide).map withoutNewlines =
      (layout { slide with layout := shown }).map withoutNewlines := by
  unfold layout
  generalize slide.layout = own at thinned
  cases thinned with
  | same => cases shown <;> rfl
  | image picture thinned => exact picture_thinned picture thinned
  | twoColumn thinnedLeft thinnedRight thinned =>
      exact twoColumn_thinned thinnedLeft thinnedRight thinned
  | grid columns thinned => exact grid_thinned columns thinned
  | flow diagrams thinned => exact diagrams_thinned diagrams thinned
  | plain thinned => exact plain_thinned thinned

end Layouts

/-! ### Slides -/

/-- Blocks that are not shown can be deleted at any depth of a slide: unknown ones everywhere, and
two-column markers unless they stand directly in the body of a two-column slide. The slide then
fails with the same missing field, or it is rendered as before but for newlines. -/
theorem ignored_blocks_show_nothing {slide other : Slide} (thinned : slide.Thinned other)
    (index : Nat) (deckTransition : Option String) :
    (Markup.slide slide index deckTransition).map withoutNewlines =
      (Markup.slide other index deckTransition).map withoutNewlines := by
  obtain ⟨shown, thinned, rfl⟩ := thinned
  apply map_bind_congr (layout_thinned thinned)
  intro body otherBody same
  apply congrArg Except.ok
  simp [frame, transition, same]

/-- A two-column slide with unknown blocks in its body, in a card and in a column of its marker. A
second marker stands in the card. -/
def crowdedSlide : Slide :=
  ⟨none, none, none, .twoColumn ⟨none, none, some (.blocks
    [.unknown,
      .card ⟨none, none, some (.blocks [.columns none none, .unknown, .paragraph "a"])⟩,
      .columns (some ⟨none, none, some (.blocks [.unknown])⟩) none])⟩⟩

/-- The same slide without any of them but the first marker. -/
def thinnedSlide : Slide :=
  ⟨none, none, none, .twoColumn ⟨none, none, some (.blocks
    [.card ⟨none, none, some (.blocks [.paragraph "a"])⟩,
      .columns (some ⟨none, none, some (.blocks [])⟩) none])⟩⟩

theorem ignored_blocks_show_nothing_sample :
    crowdedSlide.Thinned thinnedSlide ∧
      ∀ index deckTransition,
        (Markup.slide crowdedSlide index deckTransition).map withoutNewlines =
          (Markup.slide thinnedSlide index deckTransition).map withoutNewlines := by
  have inCard : Content.Thinned .elsewhere
      (some (.blocks [.columns none none, .unknown, .paragraph "a"]))
      (some (.blocks [.paragraph "a"])) :=
    .blocks (.delete (.columns none none) (.delete (.unknown _) (.same _ _)))
  have inColumn : Column.Thinned (some ⟨none, none, some (.blocks [.unknown])⟩)
      (some ⟨none, none, some (.blocks [])⟩) :=
    .bare none (.blocks (.delete (.unknown _) (.nil _)))
  have thinned : crowdedSlide.Thinned thinnedSlide := by
    refine ⟨_, .twoColumn .absent .absent (.blocks (.delete (.unknown _) ?_)), rfl⟩
    exact .keep (.card (.card none none inCard)) (.keep (.columns inColumn .absent) (.nil _))
  exact ⟨thinned, ignored_blocks_show_nothing thinned⟩

end SlideDeck.Markup
