import SlideDeck.Deck.Slide
import SlideDeck.Markup.Inline

/-!
Contract: the parts that layouts share: headings, and the area below them.
-/

namespace SlideDeck.Markup

open SlideDeck.Deck (Slide)

def subtitle (slide : Slide) : String :=
  whenPresent slide.subtitle fun text => line (classed "div" "subtitle" (formatText text))

def heading (slide : Slide) : String :=
  whenPresent slide.title (fun title => line (element "h2" [] title)) ++ subtitle slide

def contentArea (body : String) : String :=
  line (classed "div" "content" ("\n" ++ body))

/-- A box on lines of its own with further lines inside. -/
def box (className body : String) : String :=
  line (classed "div" className ("\n" ++ body))

end SlideDeck.Markup
