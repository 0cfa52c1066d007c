import SlideDeck.Markup.Picture

/-!
Contract: the markup of all layouts.

Owns:
- two columns, from the slide or from a marker in its body;
- grids, code, timelines, tables, flow diagrams, opening slides and plain slides;
- `layout`, which picks the form of a slide.
-/

namespace SlideDeck.Markup

open SlideDeck.Deck

/-- A column. A missing one still takes its place. -/
def column : Option Column → Rendering String
  | none => .ok (line (element "div" [] ""))
  | some column => do
      let cards ← (column.cards.getD []).mapM card
      let body ← optionalContent column.content
      return line (element "div" []
        ("\n" ++ whenPresent column.title (fun title => line (element "h3" [] title)) ++
          String.join (cards.map blockLine) ++ blockLine body))

def columnPair (left right : Option Column) : Rendering String := do
  let leftText ← column left
  let rightText ← column right
  return box "two-column" (leftText ++ rightText)

/-- A two-column slide. A marker in the body gives both columns, and the other blocks stand above
them; without one the columns of the slide stand above the body. -/
def twoColumn (slide : Slide) (columns : TwoColumn) : Rendering String := do
  let body ←
    match columns.content.bind Content.columns? with
    | some (left, right) => do
        let others := (columns.content.elim [] Content.toBlocks).filter (!·.isColumns)
        let above ← blockLines others
        let pair ← columnPair left right
        pure (blockLine above ++ pair)
    | none => do
        let pair ← columnPair columns.left columns.right
        let below ← optionalContent columns.content
        pure (pair ++ blockLine below)
  return heading slide ++ contentArea body

/-- The number of columns of a grid that does not give one. -/
def defaultGridColumns : Nat := 3

/-- The number of columns of a grid; zero counts as absent. -/
def gridColumns (grid : Grid) : Nat :=
  (grid.columns.filter (0 < ·)).getD defaultGridColumns

def gridItem (item : GridItem) : Rendering String := do
  let body ← optionalContent item.content
  return classed "div" item.kind.className
    ("\n" ++
      whenPresent item.icon (fun icon => line (classed "div" "feature-icon" icon)) ++
      item.stat.elim "" (fun stat => line (classed "div" "stat" stat.display)) ++
      whenPresent item.title (fun title => line (element "h3" [] title)) ++
      whenPresent item.label (fun label => line (classed "div" "stat-label" label)) ++
      blockLine body)

def grid (slide : Slide) (grid : Grid) : Rendering String := do
  let items ← required grid.items .gridItems
  let texts ← items.mapM gridItem
  return heading slide ++
    contentArea
      (box ("grid-" ++ toString (gridColumns grid)) (String.join (texts.map blockLine)))

/-- The size of the title of an opening slide that does not give one. -/
def defaultTitleSize : String := "5rem"

def hero (slide : Slide) (hero : Hero) : String :=
  let titleSize := (present hero.titleSize).getD defaultTitleSize
  line (element "div"
    [("class", "content"), ("style", "justify-content: center; text-align: center;")]
    ("\n" ++ box "hero"
      (whenPresent hero.logo (fun logo => line (classed "div" "logo" logo)) ++
        line (styled "h1" ("font-size: " ++ titleSize ++ ";") (slide.title.getD "")) ++
        subtitle slide)))

/-- A description above other contents, with a margin below it. -/
def description (margin : String) (text : Option String) : String :=
  whenPresent text fun content =>
    line (styled "p" ("color: " ++ mutedColor ++ "; " ++ margin) (formatText content))

def code (slide : Slide) (code : Code) : String :=
  let language := (present code.listing.language).getD defaultLanguage
  heading slide ++
    contentArea
      (description "margin-bottom: 1rem;" code.description ++
        line (codeBlock language (code.listing.code.getD "")) ++
        whenPresent code.notes fun notes =>
          line (element "div" [("class", "card"), ("style", "margin-top: 1rem;")]
            (styled "p" ("color: " ++ mutedColor ++ ";") (formatText notes))))

def timelineEntry (entry : TimelineEntry) : String :=
  box "timeline-item"
    (line (element "strong" [] (entry.period.elim "" Leaf.display) ++ " - " ++
        entry.title.getD "") ++
      description "margin-top: 0.5rem;" entry.description ++
      entry.items.elim "" fun items => line (itemList [] items))

def timeline (slide : Slide) (timeline : Timeline) : Rendering String := do
  let entries ← required timeline.items .timelineItems
  return heading slide ++ contentArea (String.join (entries.map timelineEntry))

def tableRow (cells : List String) : String :=
  element "tr" [] (String.join cells)

/-- A table slide. Header labels are markup; cells are formatted. -/
def table (slide : Slide) (table : Table) : Rendering String := do
  let headers ← required table.headers .tableHeaders
  let rows ← required table.rows .tableRows
  let head := tableRow (headers.map fun header => element "th" [] header.display)
  let body := rows.map fun row =>
    line (tableRow (row.map fun cell => element "td" [] (formatText cell.display)))
  return heading slide ++
    contentArea
      (line (element "table" []
        ("\n" ++ line (element "thead" [] ("\n" ++ line head)) ++
          line (element "tbody" [] ("\n" ++ String.join body)))))

def diagrams (slide : Slide) (diagrams : Diagrams) : Rendering String := do
  let body ← optionalContent diagrams.content
  return heading slide ++
    contentArea
      (description "margin-bottom: 1.5rem;" diagrams.description ++
        String.join ((diagrams.flows.getD []).map fun item => blockLine (flow item)) ++
        blockLine body)

def plain (slide : Slide) (body : Option Content) : Rendering String := do
  let text ← optionalContent body
  return heading slide ++ contentArea (blockLine text)

def layout (slide : Slide) : Rendering String :=
  match slide.layout with
  | .hero item => .ok (hero slide item)
  | .image item => picture slide item
  | .twoColumn columns => twoColumn slide columns
  | .grid item => grid slide item
  | .code item => .ok (code slide item)
  | .timeline item => timeline slide item
  | .table item => table slide item
  | .flow item => diagrams slide item
  | .plain body => plain slide body

end SlideDeck.Markup
