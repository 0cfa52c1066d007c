/-!
Contract: flow diagrams, boxes and arrows in reading order.
-/

namespace SlideDeck.Deck

/-- A box of a flow diagram. -/
structure FlowBox where
  title : Option String
  subtitle : Option String
  content : Option String
deriving DecidableEq, Repr

def FlowBox.empty : FlowBox := ⟨none, none, none⟩

/-- An item of a flow diagram. An arrow may carry a glyph of its own. -/
inductive FlowItem where
  | arrow (glyph : Option String)
  | box (box : FlowBox)
deriving DecidableEq, Repr

/-- A flow diagram. -/
structure Flow where
  style : Option String
  items : Option (List FlowItem)
deriving DecidableEq, Repr

def Flow.empty : Flow := ⟨none, none⟩

end SlideDeck.Deck
