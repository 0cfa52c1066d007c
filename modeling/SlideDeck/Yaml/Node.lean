import SlideDeck.Yaml.TagName
import SlideDeck.Yaml.Token

/-!
Contract: the nodes of a YAML document, before any text is given a type.

Owns:
- `Tag`, what a tag says about a node;
- `Node`, with tags and with anchors as numbers;
- the size of a node and the node an anchor number stands for.

Does not own: the grammar that makes nodes of tokens, and values.
-/

namespace SlideDeck.Yaml

/-- What a tag says. A custom tag begins with an exclamation mark; four tags of the core schema
force a type; every other tag makes a plain text a string and is ignored on collections. -/
inductive Tag where
  | custom (name : String)
  | boolean
  | integer
  | float
  | null
  | other
deriving DecidableEq, Repr

namespace Tag

/-- The tag with a resolved text. The lone exclamation mark is a custom tag too. -/
def ofText (text : String) : Tag :=
  if text.toList.head? = some '!' then custom (TagName.bare text)
  else if text = "tag:yaml.org,2002:bool" then boolean
  else if text = "tag:yaml.org,2002:int" then integer
  else if text = "tag:yaml.org,2002:float" then float
  else if text = "tag:yaml.org,2002:null" then null
  else other

def customName? : Tag → Option String
  | custom name => some name
  | _ => none

/-- The tag with a resolved address, which says nothing when it is no text. -/
def ofAddress (address : Address) : Tag :=
  address.text?.elim other ofText

end Tag

/-- Anchor and tag in front of a node. -/
structure Properties where
  anchor : Option Nat
  tag : Option Tag
deriving DecidableEq, Repr

def Properties.none : Properties := ⟨Option.none, Option.none⟩

def Properties.isMarked (properties : Properties) : Bool :=
  properties.anchor.isSome || properties.tag.isSome

/-- A node of a document. -/
inductive Node where
  | text (properties : Properties) (content : String) (style : TextStyle)
  | sequence (properties : Properties) (items : List Node)
  | mapping (properties : Properties) (entries : List (Node × Node))
  | reference (anchor : Nat)
deriving Repr

namespace Node

/-- The node that stands where the source has none: a plain empty text. -/
def empty : Node := .text .none "" .plain

def anchor? : Node → Option Nat
  | text properties _ _ => properties.anchor
  | sequence properties _ => properties.anchor
  | mapping properties _ => properties.anchor
  | reference _ => Option.none

mutual

/-- A node and all nodes below it, each before the ones below it. -/
def preorder : Node → List Node
  | text properties content style => [.text properties content style]
  | sequence properties items => .sequence properties items :: preorderItems items
  | mapping properties entries => .mapping properties entries :: preorderEntries entries
  | reference anchor => [.reference anchor]

def preorderItems : List Node → List Node
  | [] => []
  | item :: items => item.preorder ++ preorderItems items

def preorderEntries : List (Node × Node) → List Node
  | [] => []
  | (key, value) :: entries => key.preorder ++ value.preorder ++ preorderEntries entries

end

/-- The number of marks a node takes in a serial form of its document: one for a text or a
reference, two for the ends of a collection. -/
def marks : Node → Nat
  | text _ _ _ | reference _ => 1
  | sequence _ _ | mapping _ _ => 2

end Node

/-- A document, which is its root node. -/
structure Document where
  root : Node
deriving Repr

namespace Document

/-- The nodes that carry an anchor, the last one first, since of several nodes with one number the
last is meant. -/
def anchored (document : Document) : List (Nat × Node) :=
  (document.root.preorder.filterMap fun node => node.anchor?.map (·, node)).reverse

/-- The length of the serial form of the document. -/
def size (document : Document) : Nat :=
  (document.root.preorder.map Node.marks).foldr Nat.add 0

end Document

end SlideDeck.Yaml
