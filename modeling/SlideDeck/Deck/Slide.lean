import SlideDeck.Deck.Content
import SlideDeck.Deck.Leaf

/-!
Contract: slides, their layouts, and the deck that holds them.

What all slides share stands in `Slide`; everything else belongs to a layout. An unknown kind of
slide has the plain layout.

Owns:
- the layouts with their fields;
- `Slide` and `Deck`;
- the names by which kinds, presets and sides are written.
-/

namespace SlideDeck.Deck

/-- The opening or closing slide. -/
structure Hero where
  logo : Option String
  titleSize : Option String
deriving DecidableEq, Repr

/-- The arrangement of an image slide. -/
inductive ImagePreset where
  | center
  | fullscreen
  | split
  | icon
  | grid
deriving DecidableEq, Repr

/-- The preset of a name; an unknown name is centred. -/
def ImagePreset.ofName : String → ImagePreset
  | "fullscreen" => .fullscreen
  | "split" => .split
  | "icon" => .icon
  | "grid" => .grid
  | _ => .center

/-- The side of the image on a split slide. -/
inductive Side where
  | left
  | right
deriving DecidableEq, Repr

/-- The side of a name; an unknown name is the left side. -/
def Side.ofName : String → Side
  | "right" => .right
  | _ => .left

/-- An image of a gallery: a bare path, or a path with texts. -/
inductive GalleryImage where
  | bare (source : String)
  | detailed (source : String) (alt caption : Option String)
deriving DecidableEq, Repr

namespace GalleryImage

def source : GalleryImage → String
  | bare source | detailed source _ _ => source

def alt? : GalleryImage → Option String
  | bare _ => none
  | detailed _ alt _ => alt

def caption? : GalleryImage → Option String
  | bare _ => none
  | detailed _ _ caption => caption

end GalleryImage

/-- A slide around one image, or around a gallery. -/
structure Picture where
  preset : ImagePreset
  image : Option String
  alt : Option String
  caption : Option String
  side : Side
  images : Option (List GalleryImage)
  content : Option Content
deriving Repr

/-- Two columns side by side. -/
structure TwoColumn where
  left : Option Column
  right : Option Column
  content : Option Content
deriving Repr

/-- The box style of a grid item. -/
inductive GridItemKind where
  | feature
  | metric
  | card
deriving DecidableEq, Repr

namespace GridItemKind

/-- The kind of a name; an unknown name is a card. -/
def ofName : String → GridItemKind
  | "feature" => .feature
  | "metric" => .metric
  | _ => .card

def className : GridItemKind → String
  | feature => "feature-box"
  | metric => "metric-box"
  | card => "card"

end GridItemKind

/-- An item of a grid. -/
structure GridItem where
  kind : GridItemKind
  icon : Option String
  stat : Option Leaf
  title : Option String
  label : Option String
  content : Option Content
deriving Repr

/-- Items in rows of a number of columns. -/
structure Grid where
  columns : Option Nat
  items : Option (List GridItem)
deriving Repr

/-- A slide around one code listing. -/
structure Code where
  listing : Listing
  description : Option String
  notes : Option String
deriving DecidableEq, Repr

/-- One entry of a timeline. -/
structure TimelineEntry where
  period : Option Leaf
  title : Option String
  description : Option String
  items : Option (List String)
deriving DecidableEq, Repr

/-- Entries in the order of the deck. -/
structure Timeline where
  items : Option (List TimelineEntry)
deriving DecidableEq, Repr

/-- A table; rows may be longer or shorter than the header. -/
structure Table where
  headers : Option (List Leaf)
  rows : Option (List (List Leaf))
deriving DecidableEq, Repr

/-- Flow diagrams with a description and a body. -/
structure Diagrams where
  description : Option String
  flows : Option (List Flow)
  content : Option Content
deriving Repr

/-- The layout of a slide with its own fields. -/
inductive Layout where
  | hero (hero : Hero)
  | image (picture : Picture)
  | twoColumn (columns : TwoColumn)
  | grid (grid : Grid)
  | code (code : Code)
  | timeline (timeline : Timeline)
  | table (table : Table)
  | flow (diagrams : Diagrams)
  | plain (content : Option Content)
deriving Repr

/-- The name by which the kind of a slide is written. -/
def Layout.name : Layout → String
  | hero _ => "hero"
  | image _ => "image"
  | twoColumn _ => "two-column"
  | grid _ => "grid"
  | code _ => "code"
  | timeline _ => "timeline"
  | table _ => "table"
  | flow _ => "flow"
  | plain _ => "default"

/-- One panel of a deck. -/
structure Slide where
  title : Option String
  subtitle : Option String
  transition : Option String
  layout : Layout
deriving Repr

end SlideDeck.Deck

namespace SlideDeck

/-- A presentation: settings for all slides, and the slides in order. -/
structure Deck where
  title : Option String
  lang : Option String
  theme : Option String
  codeTheme : Option String
  transition : Option String
  slides : List Deck.Slide
deriving Repr

def Deck.empty : Deck := ⟨none, none, none, none, none, []⟩

end SlideDeck
