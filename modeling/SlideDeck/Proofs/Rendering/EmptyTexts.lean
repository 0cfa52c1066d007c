import SlideDeck.Markup.Slide

/-!
Contract: an empty text is shown as if it were absent.

Pruning puts nothing in the place of each empty text at any depth of a slide, in all fields but
those where an empty text is a value: the sources and own alternative texts of images, languages of
listings in bodies, styles, items of lists and cells.

Owns:
- `prune` for everything that holds optional texts or bodies;
- one lemma for each layout: nothing that is shown changes;
- `empty_texts_absent`.

Does not own: what is shown for texts that are not empty.
-/

namespace SlideDeck.Deck

open SlideDeck.Markup (present)

/-! ### Pruning -/

def FlowBox.prune (box : FlowBox) : FlowBox :=
  ⟨present box.title, present box.subtitle, present box.content⟩

def FlowItem.prune : FlowItem → FlowItem
  | .arrow glyph => .arrow (present glyph)
  | .box item => .box item.prune

def Flow.prune (flow : Flow) : Flow :=
  { flow with items := flow.items.map (List.map FlowItem.prune) }

mutual

def Content.prune : Content → Content
  | .text text => .text text
  | .blocks items => .blocks (Block.pruneAll items)
  | .other => .other

/-- An optional body; an empty text is none. -/
def Content.pruneOptional : Option Content → Option Content
  | none => none
  | some (.text text) => if text.isEmpty then none else some (.text text)
  | some body => some body.prune

def Block.prune : Block → Block
  | .paragraph text => .paragraph text
  | .list list => .list list
  | .card item => .card item.prune
  | .quote text => .quote (present text)
  | .callout body style => .callout (Content.pruneOptional body) style
  | .code listing => .code { listing with code := present listing.code }
  | .flow diagram => .flow diagram.prune
  | .columns left right => .columns (Column.pruneOptional left) (Column.pruneOptional right)
  | .unknown => .unknown

def Block.pruneAll : List Block → List Block
  | [] => []
  | first :: others => first.prune :: Block.pruneAll others

def Card.prune : Card → Card
  | ⟨title, style, body⟩ => ⟨present title, style, Content.pruneOptional body⟩

def Card.pruneAll : List Card → List Card
  | [] => []
  | first :: others => first.prune :: Card.pruneAll others

def Column.pruneOptional : Option Column → Option Column
  | none => none
  | some ⟨title, none, body⟩ => some ⟨present title, none, Content.pruneOptional body⟩
  | some ⟨title, some cards, body⟩ =>
      some ⟨present title, some (Card.pruneAll cards), Content.pruneOptional body⟩

end

def Hero.prune (hero : Hero) : Hero :=
  ⟨present hero.logo, present hero.titleSize⟩

/-- An image of a gallery. Its own alternative text, if it is empty, hides that of the slide. -/
def GalleryImage.prune : GalleryImage → GalleryImage
  | .bare source => .bare source
  | .detailed source alt caption => .detailed source alt (present caption)

@[simp] theorem GalleryImage.source_prune (image : GalleryImage) :
    image.prune.source = image.source := by
  cases image <;> rfl

@[simp] theorem GalleryImage.alt?_prune (image : GalleryImage) :
    image.prune.alt? = image.alt? := by
  cases image <;> rfl

@[simp] theorem GalleryImage.caption?_prune (image : GalleryImage) :
    image.prune.caption? = present image.caption? := by
  cases image <;> rfl

def Picture.prune (picture : Picture) : Picture :=
  { picture with
    alt := present picture.alt
    caption := present picture.caption
    images := picture.images.map (List.map GalleryImage.prune)
    content := Content.pruneOptional picture.content }

def TwoColumn.prune (columns : TwoColumn) : TwoColumn :=
  ⟨Column.pruneOptional columns.left, Column.pruneOptional columns.right,
    Content.pruneOptional columns.content⟩

def GridItem.prune (item : GridItem) : GridItem :=
  { item with
    icon := present item.icon
    title := present item.title
    label := present item.label
    content := Content.pruneOptional item.content }

def Grid.prune (grid : Grid) : Grid :=
  { grid with items := grid.items.map (List.map GridItem.prune) }

def Code.prune (code : Code) : Code :=
  ⟨⟨present code.listing.code, present code.listing.language⟩, present code.description,
    present code.notes⟩

def TimelineEntry.prune (entry : TimelineEntry) : TimelineEntry :=
  ⟨entry.period.filter (· != .text ""), present entry.title, present entry.description,
    entry.items⟩

def Timeline.prune (timeline : Timeline) : Timeline :=
  ⟨timeline.items.map (List.map TimelineEntry.prune)⟩

def Diagrams.prune (diagrams : Diagrams) : Diagrams :=
  ⟨present diagrams.description, diagrams.flows.map (List.map Flow.prune),
    Content.pruneOptional diagrams.content⟩

def Layout.prune : Layout → Layout
  | .hero item => .hero item.prune
  | .image item => .image item.prune
  | .twoColumn columns => .twoColumn columns.prune
  | .grid item => .grid item.prune
  | .code item => .code item.prune
  | .timeline item => .timeline item.prune
  | .table item => .table item
  | .flow item => .flow item.prune
  | .plain body => .plain (Content.pruneOptional body)

def Slide.prune (slide : Slide) : Slide :=
  ⟨present slide.title, present slide.subtitle, present slide.transition, slide.layout.prune⟩

@[simp] theorem Slide.title_prune (slide : Slide) : slide.prune.title = present slide.title := rfl

@[simp] theorem Slide.transition_prune (slide : Slide) :
    slide.prune.transition = present slide.transition := rfl

end SlideDeck.Deck

namespace SlideDeck.Markup

open SlideDeck.Deck

/-! ### Optional texts -/

section Optional

variable {text : Option String}

@[simp] theorem present_present : present (present text) = present text := by
  simp [present, Option.filter_filter]

@[simp] theorem whenPresent_present {write : String → String} :
    whenPresent (present text) write = whenPresent text write := by
  rw [whenPresent, whenPresent, present_present]

@[simp] theorem present_getD_empty : (present text).getD "" = text.getD "" := by
  cases text with
  | none => rfl
  | some text =>
      by_cases isEmpty : text = ""
      · rw [isEmpty]
        rfl
      · simp [present, Option.filter, isEmpty]

theorem required_map {α β : Type} {field : Option α} {missing : Missing} {change : α → β} :
    required (field.map change) missing = (required field missing).map change := by
  cases field <;> rfl

end Optional

/-- A traversal does not see a change that its step does not see. -/
theorem mapM_unchanged {α : Type} {write : α → Rendering String} {change : α → α}
    (same : ∀ item, write (change item) = write item) (items : List α) :
    (items.map change).mapM write = items.mapM write := by
  induction items with
  | nil => rfl
  | cons first others inductionHypothesis =>
      rw [List.map_cons, List.mapM_cons, List.mapM_cons, same, inductionHypothesis]

/-! ### Bodies -/

theorem flowItem_prune (item : FlowItem) : flowItem item.prune = flowItem item := by
  cases item with
  | arrow glyph => simp [FlowItem.prune, flowItem]
  | box item => simp [FlowItem.prune, FlowBox.prune, flowItem, flowBox]

theorem flow_prune (diagram : Flow) : flow diagram.prune = flow diagram := by
  have items : diagram.prune.items.getD [] = (diagram.items.getD []).map FlowItem.prune := by
    rw [Flow.prune]
    cases diagram.items <;> rfl
  rw [flow, flow, items]
  cases diagram.items.getD [] with
  | nil => rfl
  | cons first others =>
      have texts : ((first :: others).map FlowItem.prune).map (fun item => line (flowItem item)) =
          (first :: others).map fun item => line (flowItem item) := by
        rw [List.map_map]
        exact List.map_congr_left fun item _ => congrArg line (flowItem_prune item)
      exact congrArg (fun texts => element "div" (("class", "flow") :: styleAttribute diagram.style)
        ("\n" ++ String.join texts)) texts

theorem cardBox_present (attributes : List (String × String)) (title : Option String)
    (body : String) : cardBox attributes (present title) body = cardBox attributes title body := by
  rw [cardBox, whenPresent_present, cardBox]

-- One case for each constructor, as the markup is written.
mutual

theorem content_prune : ∀ body : Content, content body.prune = content body
  | .text text => rfl
  | .blocks items => by
      rw [Content.prune, content, content, blocks_pruneAll items]
  | .other => rfl

theorem optionalContent_prune :
    ∀ body : Option Content, optionalContent (Content.pruneOptional body) = optionalContent body
  | none => rfl
  | some (.text text) => by
      rw [Content.pruneOptional]
      split
      next isEmpty => rw [optionalContent, optionalContent, if_pos isEmpty]
      next => rfl
  | some (.blocks items) => content_prune (.blocks items)
  | some .other => rfl

theorem blocks_pruneAll : ∀ items : List Block, blocks (Block.pruneAll items) = blocks items
  | [] => rfl
  | first :: others => by
      rw [Block.pruneAll, blocks, blocks, block_prune first, blocks_pruneAll others]

theorem block_prune : ∀ item : Block, block item.prune = block item
  | .card item => card_prune item
  | .quote text => by
      rw [Block.prune, block, block, present_getD_empty]
  | .callout body style => by
      rw [Block.prune, block, block, optionalContent_prune body]
  | .code shown => by
      rw [Block.prune, block, block, listing, listing, present_getD_empty]
  | .flow diagram => by
      rw [Block.prune, block, block, flow_prune diagram]
  | .paragraph _ | .list _ | .columns _ _ | .unknown => rfl

theorem card_prune : ∀ item : Card, card item.prune = card item
  | ⟨title, style, body⟩ => by
      rw [Card.prune, card, card, optionalContent_prune body]
      simp only [cardBox_present]

end

/-! ### Columns -/

theorem pruneAll_eq_map (items : List Block) : Block.pruneAll items = items.map Block.prune := by
  induction items with
  | nil => rfl
  | cons first others inductionHypothesis => rw [Block.pruneAll, inductionHypothesis, List.map_cons]

theorem cards_pruneAll (cards : List Card) : Card.pruneAll cards = cards.map Card.prune := by
  induction cards with
  | nil => rfl
  | cons first others inductionHypothesis => rw [Card.pruneAll, inductionHypothesis, List.map_cons]

theorem column_pruneOptional (shown : Option Column) :
    column (Column.pruneOptional shown) = column shown := by
  match shown with
  | none => rfl
  | some ⟨title, none, body⟩ =>
      simp only [Column.pruneOptional, column, optionalContent_prune, whenPresent_present]
  | some ⟨title, some cards, body⟩ =>
      simp only [Column.pruneOptional, column, optionalContent_prune, whenPresent_present,
        Option.getD_some, cards_pruneAll, mapM_unchanged card_prune]

theorem columnPair_pruneOptional (left right : Option Column) :
    columnPair (Column.pruneOptional left) (Column.pruneOptional right) =
      columnPair left right := by
  simp only [columnPair, column_pruneOptional]

/-- Markers stay where they are. -/
theorem isColumns_prune (item : Block) : item.prune.isColumns = item.isColumns := by
  cases item <;> rfl

theorem columns?_prune (item : Block) :
    item.prune.columns? = item.columns?.map fun pair =>
      (Column.pruneOptional pair.1, Column.pruneOptional pair.2) := by
  cases item <;> rfl

theorem toBlocks_pruneOptional (body : Option Content) :
    (Content.pruneOptional body).elim [] Content.toBlocks =
      (body.elim [] Content.toBlocks).map Block.prune := by
  match body with
  | none | some .other => rfl
  | some (.text text) =>
      rw [Content.pruneOptional]
      split <;> rfl
  | some (.blocks items) => exact pruneAll_eq_map items

theorem bind_columns?_eq (body : Option Content) :
    body.bind Content.columns? = (body.elim [] Content.toBlocks).findSome? Block.columns? := by
  cases body <;> rfl

theorem bind_columns?_pruneOptional (body : Option Content) :
    (Content.pruneOptional body).bind Content.columns? =
      (body.bind Content.columns?).map fun pair =>
        (Column.pruneOptional pair.1, Column.pruneOptional pair.2) := by
  rw [bind_columns?_eq, bind_columns?_eq, toBlocks_pruneOptional, List.findSome?_map,
    List.map_findSome?]
  exact congrArg (List.findSome? · _) (funext columns?_prune)

theorem blockLines_others (body : Option Content) :
    blockLines (((Content.pruneOptional body).elim [] Content.toBlocks).filter (!·.isColumns)) =
      blockLines ((body.elim [] Content.toBlocks).filter (!·.isColumns)) := by
  have kept : (fun item : Block => !item.isColumns) ∘ Block.prune = fun item => !item.isColumns :=
    funext fun item => congrArg (!·) (isColumns_prune item)
  rw [toBlocks_pruneOptional, List.filter_map, kept, ← pruneAll_eq_map, blockLines, blockLines,
    blocks_pruneAll]

/-! ### Layouts -/

section Layouts

variable {slide : Slide}

theorem subtitle_prune : subtitle slide.prune = subtitle slide := by
  simp [subtitle, Slide.prune]

theorem heading_prune : heading slide.prune = heading slide := by
  simp [heading, subtitle_prune]

theorem altText_prune (own : Option String) : altText own slide.prune = altText own slide := by
  simp [altText]

/-- Behind an own text, present or not, that of the slide may be pruned. -/
theorem altText_or_present (own shared : Option String) :
    altText (own.or (present shared)) slide = altText (own.or shared) slide := by
  cases own with
  | none => simp [altText]
  | some text => rfl

theorem altText_present (own : Option String) : altText (present own) slide = altText own slide :=
  altText_or_present none own

theorem twoColumn_prune (columns : TwoColumn) :
    twoColumn slide.prune columns.prune = twoColumn slide columns := by
  unfold twoColumn
  rw [TwoColumn.prune]
  simp only [heading_prune, bind_columns?_pruneOptional, blockLines_others,
    optionalContent_prune, columnPair_pruneOptional]
  cases columns.content.bind Content.columns? with
  | none => rfl
  | some pair => simp only [Option.map_some, columnPair_pruneOptional]

theorem gridItem_prune (item : GridItem) : gridItem item.prune = gridItem item := by
  simp only [gridItem, GridItem.prune, optionalContent_prune, whenPresent_present]

theorem grid_prune (shown : Grid) : grid slide.prune shown.prune = grid slide shown := by
  have columns : gridColumns shown.prune = gridColumns shown := rfl
  rw [grid, grid, columns, heading_prune, Grid.prune]
  cases shown.items with
  | none => rfl
  | some items =>
      change ((items.map GridItem.prune).mapM gridItem >>= _) = (items.mapM gridItem >>= _)
      rw [mapM_unchanged gridItem_prune]

theorem hero_prune (shown : Hero) : hero slide.prune shown.prune = hero slide shown := by
  simp [hero, subtitle_prune, Hero.prune]

theorem code_prune (shown : Code) : code slide.prune shown.prune = code slide shown := by
  simp [code, description, heading_prune, Code.prune]

theorem timelineEntry_prune (entry : TimelineEntry) :
    timelineEntry entry.prune = timelineEntry entry := by
  have period : (entry.period.filter (· != .text "")).elim "" Leaf.display =
      entry.period.elim "" Leaf.display := by
    cases entry.period with
    | none => rfl
    | some period =>
        by_cases isEmpty : period = .text ""
        · rw [isEmpty]
          rfl
        · simp [Option.filter, isEmpty]
  simp only [timelineEntry, TimelineEntry.prune, description, period, whenPresent_present,
    present_getD_empty]

theorem timeline_prune (shown : Timeline) :
    timeline slide.prune shown.prune = timeline slide shown := by
  rw [timeline, timeline, heading_prune, Timeline.prune]
  cases shown.items with
  | none => rfl
  | some entries =>
      have texts : (entries.map TimelineEntry.prune).map timelineEntry =
          entries.map timelineEntry := by
        rw [List.map_map]
        exact List.map_congr_left fun entry _ => timelineEntry_prune entry
      exact congrArg (fun texts => Except.ok (heading slide ++ contentArea (String.join texts)))
        texts

theorem table_prune (shown : Table) : table slide.prune shown = table slide shown := by
  simp only [table, heading_prune]

theorem caption_prune (text : Option String) : caption (present text) = caption text :=
  whenPresent_present

theorem figure_prune (shown : Picture) (image : GalleryImage) :
    figure slide.prune shown.prune image.prune = figure slide shown image := by
  have alt : altText (image.alt?.or shown.prune.alt) slide.prune =
      altText (image.alt?.or shown.alt) slide := by
    rw [altText_prune]
    exact altText_or_present image.alt? shown.alt
  simp only [figure, GalleryImage.source_prune, GalleryImage.alt?_prune,
    GalleryImage.caption?_prune, whenPresent_present, alt]

theorem gallery_eq (shown : Picture) :
    gallery slide shown = (required shown.images .galleryImages).map fun images =>
      heading slide ++ contentArea
        (box (galleryClass images.length) (String.join (images.map (figure slide shown))) ++
          caption shown.caption) := by
  rw [gallery]
  cases shown.images <;> rfl

theorem gallery_prune (shown : Picture) :
    gallery slide.prune shown.prune = gallery slide shown := by
  have captions : caption shown.prune.caption = caption shown.caption := caption_prune _
  have pruned : shown.prune.images = shown.images.map (List.map GalleryImage.prune) := rfl
  have figures : figure slide.prune shown.prune ∘ GalleryImage.prune = figure slide shown :=
    funext (figure_prune shown)
  rw [gallery_eq, gallery_eq, heading_prune, captions, pruned, required_map]
  cases shown.images with
  | none => simp only [required, Except.map]
  | some images => simp only [required, Except.map, List.length_map, List.map_map, figures]

theorem picture_prune (shown : Picture) :
    picture slide.prune shown.prune = picture slide shown := by
  have preset : shown.prune.preset = shown.preset := rfl
  unfold picture
  rw [preset]
  cases shown.preset with
  | grid => exact gallery_prune shown
  | split | fullscreen | icon | center =>
      simp only [splitPicture, fullscreenPicture, iconPicture, centerPicture, Picture.prune,
        altText_prune, altText_present, heading_prune, caption_prune, optionalContent_prune,
        whenPresent_present, Slide.title_prune]

theorem diagrams_prune (shown : Diagrams) :
    diagrams slide.prune shown.prune = diagrams slide shown := by
  have flows : (shown.prune.flows.getD []).map (fun item => blockLine (flow item)) =
      (shown.flows.getD []).map fun item => blockLine (flow item) := by
    rw [Diagrams.prune]
    cases shown.flows with
    | none => rfl
    | some flows =>
        simp only [Option.map_some, Option.getD_some, List.map_map]
        exact List.map_congr_left fun item _ => congrArg blockLine (flow_prune item)
  simp only [diagrams, flows, heading_prune, description]
  simp only [Diagrams.prune, optionalContent_prune, whenPresent_present]

theorem plain_prune (body : Option Content) :
    plain slide.prune (Content.pruneOptional body) = plain slide body := by
  simp only [plain, heading_prune, optionalContent_prune]

theorem layout_prune : layout slide.prune = layout slide := by
  have pruned : slide.prune.layout = slide.layout.prune := rfl
  unfold layout
  rw [pruned]
  cases slide.layout with
  | hero shown => exact congrArg Except.ok (hero_prune shown)
  | image shown => exact picture_prune shown
  | twoColumn columns => exact twoColumn_prune columns
  | grid shown => exact grid_prune shown
  | code shown => exact congrArg Except.ok (code_prune shown)
  | timeline shown => exact timeline_prune shown
  | table shown => exact table_prune shown
  | flow shown => exact diagrams_prune shown
  | plain body => exact plain_prune body

end Layouts

/-! ### Slides -/

theorem slide_prune (slide : Slide) (index : Nat) (deckTransition : Option String) :
    Markup.slide slide.prune index (present deckTransition) =
      Markup.slide slide index deckTransition := by
  have named : transition slide.prune (present deckTransition) =
      transition slide deckTransition := by
    simp [transition]
  have frames : frame slide.prune index (present deckTransition) "" =
      frame slide index deckTransition "" := by
    funext body
    rw [frame, frame, named]
  rw [Markup.slide, Markup.slide, layout_prune, frames]

/-- Empty texts are as good as absent ones: a slide is rendered as it is without any of them, and so
are two slides that differ in empty texts only, each of which may be there or not. -/
theorem empty_texts_absent :
    (∀ (slide : Slide) (index : Nat) (deckTransition : Option String),
      Markup.slide slide.prune index (present deckTransition) =
        Markup.slide slide index deckTransition) ∧
    ∀ (slide other : Slide) (deckTransition otherTransition : Option String),
      slide.prune = other.prune → present deckTransition = present otherTransition →
        ∀ index, Markup.slide slide index deckTransition =
          Markup.slide other index otherTransition := by
  refine ⟨slide_prune, ?_⟩
  intro slide other deckTransition otherTransition same sameTransition index
  rw [← slide_prune slide, ← slide_prune other, same, sameTransition]

/-- A slide with empty texts on three levels. -/
def emptyTexts : Slide :=
  ⟨some "", some "", some "", .plain (some (.blocks
    [.callout (some (.blocks [.card ⟨some "", none, some (.text "")⟩])) none, .quote (some "")]))⟩

/-- The same slide without some of them. -/
def fewerTexts : Slide :=
  ⟨none, some "", none, .plain (some (.blocks
    [.callout (some (.blocks [.card ⟨some "", none, none⟩])) none, .quote none]))⟩

theorem empty_texts_absent_sample :
    emptyTexts.prune = fewerTexts.prune ∧ present (some "") = present none ∧
      ∀ index, Markup.slide emptyTexts index (some "") = Markup.slide fewerTexts index none := by
  have same : emptyTexts.prune = fewerTexts.prune := rfl
  have sameTransition : present (some "") = present none := rfl
  exact ⟨same, sameTransition,
    empty_texts_absent.2 emptyTexts fewerTexts (some "") none same sameTransition⟩

end SlideDeck.Markup
