import SlideDeck.Deck.Content
import SlideDeck.Schema.Shape

/-!
Contract: the shapes of bodies and of the blocks in them.

Bodies nest, so every reader of something that holds a body takes the reader of bodies as an
argument, and `contentWithin` ties the knot with a bound on the nesting. `content` supplies the
depth of the value, which no body inside it exceeds. Bodies, blocks and items of flow diagrams
are taken as a whole.

Owns:
- flow diagrams, lists, listings, cards, columns, blocks and bodies.
-/

namespace SlideDeck.Schema

open SlideDeck.Deck
open SlideDeck.Yaml (Value)

def flowBox : Reader FlowBox :=
  record "FlowBox"
    [.loose ["title"] fun title box => { box with title },
      .loose ["subtitle"] fun subtitle box => { box with subtitle },
      .loose ["content"] fun content box => { box with content }]
    .empty

def arrowGlyph : Reader (Option String) :=
  record "Arrow" [.loose ["text"] fun glyph _ => glyph] none

/-- Reads an item of a flow diagram; what is no mapping is an empty box. -/
def flowItem : Reader FlowItem := fun value =>
  if value.typeName? = some "arrow" then (arrowGlyph value).map .arrow
  else if value.isMapping then (flowBox value).map .box
  else .ok (.box .empty)

def flow : Reader Flow :=
  record "Flow"
    [.of ["style"] (optional strictText) fun style flow => { flow with style },
      .of ["items"] (optional (list (whole flowItem))) fun items flow => { flow with items }]
    .empty

def bullets : Reader Bullets :=
  record "ListNode"
    [.of ["items"] (optional looseTexts) fun items list => { list with items },
      .of ["style"] (optional strictText) fun style list => { list with style }]
    ⟨none, none⟩

def quoteText : Reader (Option String) :=
  record "QuoteNode" [.loose ["text"] fun text _ => text] none

def listing : Reader Listing :=
  record "CodeNode"
    [.of ["code"] (optional strictText) fun code listing => { listing with code },
      .of ["language", "lang"] (optional strictText) fun language listing =>
        { listing with language }]
    ⟨none, none⟩

def card (body : Reader Content) : Reader Card :=
  record "Card"
    [.loose ["title"] fun title card => { card with title },
      .of ["style"] (optional strictText) fun style card => { card with style },
      .of ["content"] (optional body) fun content card => { card with content }]
    .empty

def callout (body : Reader Content) : Reader (Option Content × Option String) :=
  record "Callout"
    [.of ["content"] (optional body) fun content callout => (content, callout.2),
      .of ["style"] (optional strictText) fun style callout => (callout.1, style)]
    (none, none)

def column (body : Reader Content) : Reader Column :=
  record "Column"
    [.loose ["title"] fun title column => { column with title },
      .of ["cards"] (optional (list (card body))) fun cards column => { column with cards },
      .of ["content"] (optional body) fun content column => { column with content }]
    .empty

def columnPair (body : Reader Content) : Reader (Option Column × Option Column) :=
  record "TwoColumnContent"
    [.of ["left"] (optional (column body)) fun left columns => (left, columns.2),
      .of ["right"] (optional (column body)) fun right columns => (columns.1, right)]
    (none, none)

/-- Reads a block that is written as a mapping, by the name of its type. -/
def typedBlock (body : Reader Content) (typeName : Option String) : Reader Block := fun value =>
  match typeName with
  | some "list" => (bullets value).map .list
  | some "card" => (card body value).map .card
  | some "quote" => (quoteText value).map .quote
  | some "callout" => (callout body value).map fun (content, style) => .callout content style
  | some "code" => (listing value).map .code
  | some "flow" => (flow value).map .flow
  | some "two-column-content" =>
      (columnPair body value).map fun (left, right) => .columns left right
  | _ => .ok .unknown

/-- Reads a block: a string is a paragraph, a mapping has a type, anything else is unknown. -/
def blockAround (body : Reader Content) : Reader Block := fun value =>
  match value with
  | .string text => .ok (.paragraph text)
  | _ => if value.isMapping then typedBlock body value.typeName? value else .ok .unknown

/-- Reads a body with at most `depth` bodies inside each other. -/
def contentWithin : (depth : Nat) → Reader Content
  | 0, _ => .ok .other
  | depth + 1, value =>
      match value with
      | .string text => .ok (.text text)
      | .sequence items =>
          (items.mapM (whole (blockAround (whole (contentWithin depth))))).map .blocks
      | _ => .ok .other

def content : Reader Content := fun value =>
  contentWithin value.depth value

def block : Reader Block :=
  blockAround (whole content)

end SlideDeck.Schema
