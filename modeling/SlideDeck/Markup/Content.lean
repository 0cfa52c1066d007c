import SlideDeck.Deck.Content
import SlideDeck.Markup.Flow
import SlideDeck.Markup.Missing

/-!
Contract: the markup of bodies and of the blocks in them.

Bodies and blocks refer to each other, since cards and callouts hold bodies. Rendering fails with
the first missing field in the order in which it is written.

Owns:
- named colours;
- lists, cards, callouts and all other blocks;
- bodies, as sequences of blocks one per line.
-/

namespace SlideDeck.Markup

open SlideDeck.Deck

/-- The colour of a token; a text that is no token is a colour already. -/
def resolveColor : String → String
  | "red" => "#f87171"
  | "green" => "#4ade80"
  | "blue" => "#60a5fa"
  | "yellow" => "#fbbf24"
  | "gray" => "#6b7280"
  | color => color

def paragraph (text : String) : String :=
  element "p" [] (formatText text)

def itemList (attributes : List (String × String)) (items : List String) : String :=
  element "ul" attributes
    (String.join (items.map fun item => element "li" [] (formatText item)))

def bullets (list : Bullets) : Rendering String := do
  let items ← required list.items .listItems
  let color := list.style.toList.map fun style => ("style", "color: " ++ resolveColor style ++ ";")
  return itemList color items

def listing (listing : Listing) : String :=
  codeBlock (listing.language.getD defaultLanguage) (listing.code.getD "")

/-- A box around a body that is already rendered. -/
def cardBox (attributes : List (String × String)) (title : Option String) (body : String) :
    String :=
  element "div" (("class", "card") :: attributes)
    ("\n" ++ whenPresent title (fun text => line (element "h3" [] text)) ++ blockLine body)

/-- The style of a callout: centred, then its own. -/
def calloutStyle (style : Option String) : String :=
  "text-align: center;" ++ style.elim "" (" " ++ ·)

mutual

/-- A body: one paragraph, or its blocks in order. -/
def content : Content → Rendering String
  | .text text => .ok (paragraph text)
  | .blocks items => do
      return "\n".intercalate (← blocks items)
  | .other => .ok ""

/-- An optional body; an empty text shows nothing. -/
def optionalContent : Option Content → Rendering String
  | none => .ok ""
  | some (.text text) => .ok (if text.isEmpty then "" else paragraph text)
  | some body => content body

def blocks : List Block → Rendering (List String)
  | [] => .ok []
  | first :: others => do
      let firstText ← block first
      let otherTexts ← blocks others
      return firstText :: otherTexts

/-- A block. Two-column markers and unknown blocks show nothing. -/
def block : Block → Rendering String
  | .paragraph text => .ok (paragraph text)
  | .list list => bullets list
  | .card item => card item
  | .quote text => .ok (classed "div" "quote" (formatText (text.getD "")))
  | .callout body style => do
      return cardBox [("style", calloutStyle style)] none (← optionalContent body)
  | .code item => .ok (listing item)
  | .flow diagram => .ok (flow diagram)
  | .columns _ _ | .unknown => .ok ""

def card : Card → Rendering String
  | ⟨title, style, body⟩ => do
      return cardBox (styleAttribute style) title (← optionalContent body)

end

def blockLines (items : List Block) : Rendering String := do
  return "\n".intercalate (← blocks items)

end SlideDeck.Markup
