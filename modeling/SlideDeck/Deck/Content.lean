import SlideDeck.Deck.Flow

/-!
Contract: the bodies of slides, cards, columns and callouts.

A body is one paragraph, or a sequence of blocks; anything else that a deck holds in its place
shows nothing. Cards, callouts and columns hold bodies themselves.

Owns:
- `Content`, `Block`, `Card` and `Column`, which refer to each other;
- bullet lists and code listings;
- the two-column marker of a body.
-/

namespace SlideDeck.Deck

/-- A bulleted list with an optional colour. -/
structure Bullets where
  items : Option (List String)
  style : Option String
deriving DecidableEq, Repr

/-- A code listing, whose text is never formatted. -/
structure Listing where
  code : Option String
  language : Option String
deriving DecidableEq, Repr

mutual

/-- The body of a slide, card, column or callout. -/
inductive Content where
  | text (text : String)
  | blocks (blocks : List Block)
  | other

/-- One unit of a body. A two-column marker gives both columns of a two-column slide and shows
nothing elsewhere. -/
inductive Block where
  | paragraph (text : String)
  | list (list : Bullets)
  | card (card : Card)
  | quote (text : Option String)
  | callout (content : Option Content) (style : Option String)
  | code (listing : Listing)
  | flow (flow : Flow)
  | columns (left right : Option Column)
  | unknown

/-- A box with a title around a body. -/
structure Card where
  title : Option String
  style : Option String
  content : Option Content

/-- One side of a two-column layout: cards, a body, both or neither. -/
structure Column where
  title : Option String
  cards : Option (List Card)
  content : Option Content

end

deriving instance Repr for Content, Block, Card, Column

def Card.empty : Card := ⟨none, none, none⟩

def Column.empty : Column := ⟨none, none, none⟩

namespace Block

def isColumns : Block → Bool
  | columns _ _ => true
  | _ => false

def columns? : Block → Option (Option Column × Option Column)
  | columns left right => some (left, right)
  | _ => none

end Block

namespace Content

/-- The blocks of a body; a body that is no sequence has none. -/
def toBlocks : Content → List Block
  | blocks items => items
  | _ => []

def columns? (content : Content) : Option (Option Column × Option Column) :=
  content.toBlocks.findSome? Block.columns?

end Content

end SlideDeck.Deck
