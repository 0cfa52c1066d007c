import Mathlib.Data.List.Basic
import SlideDeck.Markup.Slide

/-!
Contract: which slides cannot be rendered, and what is reported of them.

A gap is a field that something on a slide needs and lacks. What is never rendered has no gaps:
the own columns of a slide with a two-column marker, all markers but the first, the body under a
plain image.

Owns:
- `layoutGaps`, the gaps of a layout in the order in which its parts are written;
- `LayoutFails`, the layouts that cannot be rendered, with `ContentFails` and `BlockFails`;
- `slide_fails_iff`: exactly the slides with such a layout fail, with the first of their gaps.

Does not own: what rendered slides look like.
-/

namespace SlideDeck.Markup

open SlideDeck.Deck

/-! ### Gaps in the order of writing -/

/-- A field that is needed and absent: what needs it, and its name. -/
structure Gap where
  owner : String
  field : String
deriving DecidableEq, Repr

def Missing.gap (missing : Missing) : Gap :=
  ⟨missing.owner, missing.field⟩

def needed {α : Type} (field : Option α) (owner name : String) : List Gap :=
  if field.isSome then [] else [⟨owner, name⟩]

mutual

def contentGaps : Content → List Gap
  | .blocks items => blocksGaps items
  | .text _ | .other => []

def optionalGaps : Option Content → List Gap
  | none => []
  | some body => contentGaps body

def blocksGaps : List Block → List Gap
  | [] => []
  | first :: others => blockGaps first ++ blocksGaps others

def blockGaps : Block → List Gap
  | .list list => needed list.items "list" "items"
  | .card item => cardGaps item
  | .callout body _ => optionalGaps body
  | .paragraph _ | .quote _ | .code _ | .flow _ | .columns _ _ | .unknown => []

def cardGaps : Card → List Gap
  | ⟨_, _, body⟩ => optionalGaps body

end

/-- The gaps of a column: those of its cards, then those of its body. -/
def columnGaps : Option Column → List Gap
  | none => []
  | some column => (column.cards.getD []).flatMap cardGaps ++ optionalGaps column.content

def pictureGaps (picture : Picture) : List Gap :=
  match picture.preset with
  | .grid => needed picture.images "image slide" "images"
  | .center | .fullscreen => needed picture.image "image slide" "image"
  | .split | .icon =>
      needed picture.image "image slide" "image" ++ optionalGaps picture.content

def blocksAbove (columns : TwoColumn) : List Block :=
  (columns.content.elim [] Content.toBlocks).filter (!·.isColumns)

def twoColumnGaps (columns : TwoColumn) : List Gap :=
  match columns.content.bind Content.columns? with
  | some (left, right) => blocksGaps (blocksAbove columns) ++ (columnGaps left ++ columnGaps right)
  | none => (columnGaps columns.left ++ columnGaps columns.right) ++ optionalGaps columns.content

def layoutGaps : Layout → List Gap
  | .hero _ | .code _ => []
  | .image picture => pictureGaps picture
  | .twoColumn columns => twoColumnGaps columns
  | .grid grid =>
      needed grid.items "grid slide" "items" ++
        (grid.items.getD []).flatMap fun item => optionalGaps item.content
  | .timeline timeline => needed timeline.items "timeline slide" "items"
  | .table table =>
      needed table.headers "table slide" "headers" ++ needed table.rows "table slide" "rows"
  | .flow diagrams => optionalGaps diagrams.content
  | .plain body => optionalGaps body

/-! ### What cannot be rendered -/

mutual

/-- A body fails if it is a sequence with a failing block. -/
inductive ContentFails : Content → Prop where
  | blocks {items : List Block} {item : Block} (member : item ∈ items) (fails : BlockFails item) :
      ContentFails (.blocks items)

/-- A block fails if it is a list without items, or a card or callout with a failing body. -/
inductive BlockFails : Block → Prop where
  | list {list : Bullets} (absent : list.items = none) : BlockFails (.list list)
  | card {title style : Option String} {body : Content} (fails : ContentFails body) :
      BlockFails (.card ⟨title, style, some body⟩)
  | callout {style : Option String} {body : Content} (fails : ContentFails body) :
      BlockFails (.callout (some body) style)

end

def OptionalFails (body : Option Content) : Prop :=
  ∃ content, body = some content ∧ ContentFails content

/-- A column fails if one of its cards or its body fails. -/
def ColumnFails (column : Option Column) : Prop :=
  ∃ shown, column = some shown ∧
    ((∃ item ∈ shown.cards.getD [], BlockFails (.card item)) ∨ OptionalFails shown.content)

def PictureFails (picture : Picture) : Prop :=
  match picture.preset with
  | .grid => picture.images = none
  | .center | .fullscreen => picture.image = none
  | .split | .icon => picture.image = none ∨ OptionalFails picture.content

/-- The two-column slides that fail. The first marker decides which columns there are. -/
def TwoColumnFails (columns : TwoColumn) : Prop :=
  match columns.content.bind Content.columns? with
  | some (left, right) =>
      (∃ item ∈ blocksAbove columns, BlockFails item) ∨ ColumnFails left ∨ ColumnFails right
  | none => ColumnFails columns.left ∨ ColumnFails columns.right ∨ OptionalFails columns.content

def LayoutFails : Layout → Prop
  | .hero _ | .code _ => False
  | .image picture => PictureFails picture
  | .twoColumn columns => TwoColumnFails columns
  | .grid grid =>
      grid.items = none ∨ ∃ item ∈ grid.items.getD [], OptionalFails item.content
  | .timeline timeline => timeline.items = none
  | .table table => table.headers = none ∨ table.rows = none
  | .flow diagrams => OptionalFails diagrams.content
  | .plain body => OptionalFails body

/-! ### Failing is having gaps -/

theorem needed_ne_nil_iff {α : Type} {field : Option α} {owner name : String} :
    needed field owner name ≠ [] ↔ field = none := by
  cases field <;> simp [needed]

theorem append_ne_nil_iff {front back : List Gap} :
    front ++ back ≠ [] ↔ front ≠ [] ∨ back ≠ [] := by
  rw [ne_eq, List.append_eq_nil_iff, not_and_or]

mutual

theorem contentFails_iff : ∀ body : Content, ContentFails body ↔ contentGaps body ≠ []
  | .text _ => by
      simp only [contentGaps, ne_eq, not_true_eq_false, iff_false]
      intro impossible
      cases impossible
  | .other => by
      simp only [contentGaps, ne_eq, not_true_eq_false, iff_false]
      intro impossible
      cases impossible
  | .blocks items => by
      rw [contentGaps, ← blocksFail_iff items]
      constructor
      · intro given
        obtain ⟨member, fails⟩ := given
        exact ⟨_, member, fails⟩
      · intro given
        obtain ⟨item, member, fails⟩ := given
        exact .blocks member fails

theorem optionalFails_iff : ∀ body : Option Content, OptionalFails body ↔ optionalGaps body ≠ []
  | none => by simp [OptionalFails, optionalGaps]
  | some body => by
      rw [optionalGaps, ← contentFails_iff body]
      simp [OptionalFails]

theorem blocksFail_iff :
    ∀ items : List Block, (∃ item ∈ items, BlockFails item) ↔ blocksGaps items ≠ []
  | [] => by simp [blocksGaps]
  | first :: others => by
      rw [List.exists_mem_cons_iff, blocksGaps, append_ne_nil_iff, blockFails_iff first,
        blocksFail_iff others]

theorem blockFails_iff : ∀ item : Block, BlockFails item ↔ blockGaps item ≠ []
  | .list list => by
      rw [blockGaps, needed_ne_nil_iff]
      constructor
      · intro given
        obtain ⟨absent⟩ := given
        exact absent
      · exact .list
  | .card item => by
      rw [blockGaps, cardFails_iff item]
  | .callout body style => by
      rw [blockGaps, ← optionalFails_iff body]
      constructor
      · rintro (_ | _ | fails)
        exact ⟨_, rfl, fails⟩
      · intro given
        obtain ⟨content, rfl, fails⟩ := given
        exact .callout fails
  | .paragraph _ | .quote _ | .code _ | .flow _ | .columns _ _ | .unknown => by
      simp only [blockGaps, ne_eq, not_true_eq_false, iff_false]
      intro impossible
      cases impossible

theorem cardFails_iff : ∀ item : Card, BlockFails (.card item) ↔ cardGaps item ≠ []
  | ⟨title, style, body⟩ => by
      rw [cardGaps, ← optionalFails_iff body]
      constructor
      · rintro (_ | fails | _)
        exact ⟨_, rfl, fails⟩
      · intro given
        obtain ⟨content, rfl, fails⟩ := given
        exact .card fails

end

theorem columnFails_iff (column : Option Column) :
    ColumnFails column ↔ columnGaps column ≠ [] := by
  cases column with
  | none => simp [ColumnFails, columnGaps]
  | some column =>
      have cards : (∃ item ∈ column.cards.getD [], BlockFails (.card item)) ↔
          (column.cards.getD []).flatMap cardGaps ≠ [] := by
        simp [cardFails_iff]
      rw [columnGaps, append_ne_nil_iff, ← cards, ← optionalFails_iff]
      simp [ColumnFails]

theorem pictureFails_iff (picture : Picture) :
    PictureFails picture ↔ pictureGaps picture ≠ [] := by
  unfold PictureFails pictureGaps
  cases picture.preset <;>
    simp only [append_ne_nil_iff, needed_ne_nil_iff, optionalFails_iff]

theorem twoColumnFails_iff (columns : TwoColumn) :
    TwoColumnFails columns ↔ twoColumnGaps columns ≠ [] := by
  unfold TwoColumnFails twoColumnGaps
  cases columns.content.bind Content.columns? with
  | none => simp only [append_ne_nil_iff, columnFails_iff, optionalFails_iff, or_assoc]
  | some pair => simp only [append_ne_nil_iff, blocksFail_iff, columnFails_iff]

theorem layoutFails_iff (layout : Layout) : LayoutFails layout ↔ layoutGaps layout ≠ [] := by
  cases layout with
  | hero | code => simp [LayoutFails, layoutGaps]
  | image picture => exact pictureFails_iff picture
  | twoColumn columns => exact twoColumnFails_iff columns
  | grid grid =>
      have items : (∃ item ∈ grid.items.getD [], OptionalFails item.content) ↔
          (grid.items.getD []).flatMap (fun item => optionalGaps item.content) ≠ [] := by
        simp [optionalFails_iff]
      rw [LayoutFails, layoutGaps, append_ne_nil_iff, needed_ne_nil_iff, items]
  | timeline timeline => exact needed_ne_nil_iff.symm
  | table table =>
      rw [LayoutFails, layoutGaps, append_ne_nil_iff, needed_ne_nil_iff, needed_ne_nil_iff]
  | flow diagrams => exact optionalFails_iff diagrams.content
  | plain body => exact optionalFails_iff body

/-! ### Rendering reports the first gap -/

/-- A rendering fails with the first of some gaps, and does not fail if there is none. -/
def Reports {α : Type} (gaps : List Gap) : Rendering α → Prop
  | .ok _ => gaps = []
  | .error missing => gaps.head? = some missing.gap

namespace Reports

variable {α β : Type} {gaps others : List Gap} {rendering : Rendering α}

theorem ok (value : α) : Reports [] (.ok value : Rendering α) := rfl

/-- What is written later is reported only if everything before it has no gaps. -/
theorem bind {next : α → Rendering β} (first : Reports gaps rendering)
    (second : ∀ value, rendering = .ok value → Reports others (next value)) :
    Reports (gaps ++ others) (rendering >>= next) := by
  cases rendering with
  | ok value =>
      obtain rfl : gaps = [] := first
      exact second value rfl
  | error missing =>
      have reported : gaps.head? = some missing.gap := first
      show (gaps ++ others).head? = some missing.gap
      rw [List.head?_append, reported, Option.some_or]

theorem map {write : α → β} (reports : Reports gaps rendering) :
    Reports gaps (rendering >>= fun value => pure (write value)) := by
  have whole : Reports (gaps ++ []) (rendering >>= fun value => pure (write value)) :=
    reports.bind fun value _ => ok (write value)
  rwa [List.append_nil] at whole

theorem required {field : Option α} {missing : Missing} :
    Reports (needed field missing.owner missing.field) (required field missing) := by
  cases field <;> rfl

theorem mapM {write : α → Rendering β} {gapsOf : α → List Gap}
    (each : ∀ item, Reports (gapsOf item) (write item)) (items : List α) :
    Reports (items.flatMap gapsOf) (items.mapM write) := by
  induction items with
  | nil => exact ok []
  | cons first items inductionHypothesis =>
      rw [List.mapM_cons, List.flatMap_cons]
      exact (each first).bind fun value _ => inductionHypothesis.map

end Reports

-- One case for each constructor; the order of the gaps is the order of the binds.
mutual

theorem content_reports : ∀ body : Content, Reports (contentGaps body) (content body)
  | .text text => by
      rw [contentGaps, content]
      exact .ok _
  | .blocks items => by
      rw [contentGaps, content]
      exact (blocks_reports items).map
  | .other => by
      rw [contentGaps, content]
      exact .ok _

theorem optionalContent_reports :
    ∀ body : Option Content, Reports (optionalGaps body) (optionalContent body)
  | none => by
      rw [optionalGaps, optionalContent]
      exact .ok _
  | some (.text text) => by
      rw [optionalGaps, contentGaps, optionalContent]
      exact .ok _
  | some (.blocks items) => by
      rw [optionalGaps, optionalContent]
      · exact content_reports (.blocks items)
      · simp
  | some .other => by
      rw [optionalGaps, optionalContent]
      · exact content_reports .other
      · simp

theorem blocks_reports : ∀ items : List Block, Reports (blocksGaps items) (blocks items)
  | [] => by
      rw [blocksGaps, blocks]
      exact .ok _
  | first :: others => by
      rw [blocksGaps, blocks]
      exact (block_reports first).bind fun _ _ => (blocks_reports others).map

theorem block_reports : ∀ item : Block, Reports (blockGaps item) (block item)
  | .list list => by
      rw [blockGaps, block]
      exact Reports.required.map
  | .card item => by
      rw [blockGaps, block]
      exact card_reports item
  | .callout body style => by
      rw [blockGaps, block]
      exact (optionalContent_reports body).map
  | .paragraph _ | .quote _ | .code _ | .flow _ | .columns _ _ | .unknown => by
      rw [blockGaps, block]
      exact .ok _

theorem card_reports : ∀ item : Card, Reports (cardGaps item) (card item)
  | ⟨title, style, body⟩ => by
      rw [cardGaps, card]
      exact (optionalContent_reports body).map

end

theorem column_reports (shown : Option Column) : Reports (columnGaps shown) (column shown) := by
  cases shown with
  | none => exact .ok _
  | some shown =>
      rw [columnGaps, column]
      have cards := Reports.mapM card_reports (shown.cards.getD [])
      exact cards.bind fun _ _ => (optionalContent_reports shown.content).map

theorem columnPair_reports (left right : Option Column) :
    Reports (columnGaps left ++ columnGaps right) (columnPair left right) :=
  (column_reports left).bind fun _ _ => (column_reports right).map

theorem blockLines_reports (items : List Block) :
    Reports (blocksGaps items) (blockLines items) :=
  (blocks_reports items).map

theorem twoColumn_reports (slide : Slide) (columns : TwoColumn) :
    Reports (twoColumnGaps columns) (twoColumn slide columns) := by
  unfold twoColumnGaps twoColumn
  cases columns.content.bind Content.columns? with
  | none =>
      simp only [pure_bind]
      have pair := columnPair_reports columns.left columns.right
      exact pair.bind fun _ _ => (optionalContent_reports columns.content).map
  | some pair =>
      simp only [pure_bind]
      have above := blockLines_reports (blocksAbove columns)
      exact above.bind fun _ _ => (columnPair_reports pair.1 pair.2).map

theorem picture_reports (slide : Slide) (picture : Picture) :
    Reports (pictureGaps picture) (Markup.picture slide picture) := by
  unfold pictureGaps Markup.picture
  cases picture.preset with
  | grid => exact Reports.required.map
  | center => exact Reports.required.map
  | fullscreen => exact Reports.required.map
  | split => exact Reports.required.bind fun _ _ => (optionalContent_reports picture.content).map
  | icon => exact Reports.required.bind fun _ _ => (optionalContent_reports picture.content).map

theorem grid_reports (slide : Slide) (grid : Grid) :
    Reports (layoutGaps (.grid grid)) (Markup.grid slide grid) := by
  rw [layoutGaps, Markup.grid]
  -- The gaps of the items count only if there are items.
  refine Reports.required.bind fun items present => ?_
  have shown : grid.items.getD [] = items := by
    cases itemsEq : grid.items with
    | none => simp [itemsEq, required] at present
    | some others => simpa [itemsEq, required] using present
  rw [shown]
  have each : ∀ item, Reports (optionalGaps item.content) (gridItem item) := fun item =>
    (optionalContent_reports item.content).map
  exact (Reports.mapM each items).map

theorem layout_reports (slide : Slide) : Reports (layoutGaps slide.layout) (layout slide) := by
  unfold layout
  cases slide.layout with
  | hero | code => exact .ok _
  | image picture => exact picture_reports slide picture
  | twoColumn columns => exact twoColumn_reports slide columns
  | grid grid => exact grid_reports slide grid
  | timeline timeline => exact Reports.required.map
  | table table => exact Reports.required.bind fun _ _ => Reports.required.map
  | flow diagrams => exact (optionalContent_reports diagrams.content).map
  | plain body => exact (optionalContent_reports body).map

theorem slide_reports (slide : Slide) (index : Nat) (deckTransition : Option String) :
    Reports (layoutGaps slide.layout) (Markup.slide slide index deckTransition) :=
  (layout_reports slide).map

/-- A slide fails exactly if its layout does, and reports the first gap in the order of writing. -/
theorem slide_fails_iff (slide : Slide) (index : Nat) (deckTransition : Option String) :
    ((∃ missing, Markup.slide slide index deckTransition = .error missing) ↔
        LayoutFails slide.layout) ∧
      ∀ missing, Markup.slide slide index deckTransition = .error missing →
        (layoutGaps slide.layout).head? = some ⟨missing.owner, missing.field⟩ := by
  rw [layoutFails_iff]
  have reports := slide_reports slide index deckTransition
  cases rendered : Markup.slide slide index deckTransition with
  | ok text =>
      rw [rendered] at reports
      have empty : layoutGaps slide.layout = [] := reports
      simp [empty]
  | error missing =>
      rw [rendered] at reports
      have reported : (layoutGaps slide.layout).head? = some missing.gap := reports
      constructor
      · refine ⟨fun _ empty => ?_, fun _ => ⟨missing, rfl⟩⟩
        simp [empty] at reported
      · intro other impossible
        cases impossible
        exact reported

end SlideDeck.Markup
