import SlideDeck.Deck.Flow
import SlideDeck.Markup.Inline

/-!
Contract: the markup of flow diagrams.
-/

namespace SlideDeck.Markup

open SlideDeck.Deck (Flow FlowBox FlowItem)

/-- The glyph of an arrow that has none of its own. -/
def defaultArrow : String := "→"

def mutedColor : String := "#6b7280"

/-- A box: its title, subtitle and formatted content, as far as they are there. -/
def flowBox (box : FlowBox) : String :=
  classed "div" "flow-item"
    (whenPresent box.title (element "strong" [] ·) ++
      whenPresent box.subtitle (fun subtitle =>
        openTag "br" [] ++ styled "small" ("color: " ++ mutedColor ++ ";") subtitle) ++
      whenPresent box.content (fun content => openTag "br" [] ++ formatText content))

def flowItem : FlowItem → String
  | .arrow glyph => classed "div" "flow-arrow" ((present glyph).getD defaultArrow)
  | .box box => flowBox box

def styleAttribute (style : Option String) : List (String × String) :=
  style.toList.map (("style", ·))

/-- A flow diagram; one without items shows nothing. -/
def flow (flow : Flow) : String :=
  match flow.items.getD [] with
  | [] => ""
  | items =>
      element "div" (("class", "flow") :: styleAttribute flow.style)
        ("\n" ++ String.join (items.map fun item => line (flowItem item)))

end SlideDeck.Markup
