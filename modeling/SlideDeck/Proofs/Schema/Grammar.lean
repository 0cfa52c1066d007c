import SlideDeck.Yaml.Value

/-!
Contract: which values a deck can hold where, said without any reader.

A place asks for a shape. Of a mapping a record asks only for its own fields: each value under one
of the names of a field has the shape of the field, and all other keys are free.

Owns:
- `Shape`, what a place can ask for, and the shapes of all layouts, blocks and items;
- `Rules`, the two choices in what conforms;
- `Conforms` and `ConformsSlide`.

Does not own: what is read from a value that conforms.
-/

namespace SlideDeck.Schema

open SlideDeck.Yaml (Value)

/-- What a place can ask for. -/
inductive Shape where
  | anything
  | text
  | natural
  | optional (shape : Shape)
  | list (item : Shape)
  /-- Fields with their names and shapes. -/
  | record (fields : List (List String × Shape))
  /-- A picture of a gallery. -/
  | image
  | content
  | block

namespace Shape

/-! ### Fields and records -/

/-- A field for a text that may be written as any value. -/
def loose (names : List String) : List String × Shape :=
  (names, anything)

def strict (names : List String) : List String × Shape :=
  (names, optional text)

def lists (name : String) (item : Shape) : List String × Shape :=
  ([name], optional (list item))

def body : List String × Shape :=
  (["content"], optional content)

def language : List String × Shape :=
  strict ["language", "lang"]

def flow : Shape :=
  record [strict ["style"], lists "items" anything]

def bullets : Shape :=
  record [lists "items" anything, strict ["style"]]

def quoteText : Shape :=
  record [loose ["text"]]

def listing : Shape :=
  record [strict ["code"], language]

def card : Shape :=
  record [loose ["title"], strict ["style"], body]

def callout : Shape :=
  record [body, strict ["style"]]

def column : Shape :=
  record [loose ["title"], lists "cards" card, body]

def columnPair : Shape :=
  record [(["left"], optional column), (["right"], optional column)]

/-- The shape of a block that is a mapping, by the name of its type. -/
def typedBlock : Option String → Shape
  | some "list" => bullets
  | some "card" => card
  | some "quote" => quoteText
  | some "callout" => callout
  | some "code" => listing
  | some "flow" => flow
  | some "two-column-content" => columnPair
  | _ => anything

def hero : Shape :=
  record [loose ["logo"], loose ["titleSize", "title_size"]]

def picture : Shape :=
  record
    [(["preset"], text), strict ["image"], loose ["alt"], loose ["caption"], (["position"], text),
      lists "images" image, body]

def twoColumn : Shape :=
  record [(["left"], optional column), (["right"], optional column), body]

def gridItem : Shape :=
  record
    [(["type"], text), loose ["icon"], (["stat"], optional anything), loose ["title"],
      loose ["label"], body]

def grid : Shape :=
  record [(["columns"], optional natural), lists "items" gridItem]

def code : Shape :=
  record [strict ["code"], language, loose ["description"], loose ["notes"]]

def timelineEntry : Shape :=
  record
    [(["period"], optional anything), loose ["title"], loose ["description"],
      lists "items" anything]

def timeline : Shape :=
  record [lists "items" timelineEntry]

def table : Shape :=
  record [lists "headers" anything, lists "rows" (list anything)]

def diagrams : Shape :=
  record [loose ["description"], lists "flows" flow, body]

def plainBody : Shape :=
  record [body]

/-- The shape of a layout, by the name of its type. -/
def layout : Option String → Shape
  | some "hero" => hero
  | some "image" => picture
  | some "two-column" => twoColumn
  | some "grid" => grid
  | some "code" => code
  | some "timeline" => timeline
  | some "table" => table
  | some "flow" => diagrams
  | _ => plainBody

def header : Shape :=
  record [loose ["title"], loose ["subtitle"], strict ["transition"]]

end Shape

/-! ### Conformance -/

/-- What the shapes leave open. -/
structure Rules where
  /-- Whether null stands for a list without items and for a record without fields. -/
  nullIsEmpty : Bool
  /-- Whether a field must not come under two of its names. -/
  oneName : Bool

/-- The rules by which decks are read. -/
def Rules.reading : Rules where
  nullIsEmpty := true
  oneName := true

/-- The rules that say no more than the shapes. -/
def Rules.bare : Rules where
  nullIsEmpty := false
  oneName := false

/-- A value has the shape that its place asks for. -/
inductive Conforms (rules : Rules) : Shape → Value → Prop where
  | anything (value : Value) : Conforms rules .anything value
  | text (text : String) : Conforms rules .text (.string text)
  | natural {number : Int} (least : 0 ≤ number) (most : number ≤ Int.pow 2 32 - 1) :
      Conforms rules .natural (.integer number)
  | absent (shape : Shape) : Conforms rules (.optional shape) .null
  | present {shape : Shape} {value : Value} (conforms : Conforms rules shape value) :
      Conforms rules (.optional shape) value
  | emptyList (rule : rules.nullIsEmpty = true) (item : Shape) :
      Conforms rules (.list item) .null
  | list {item : Shape} {values : List Value}
      (items : ∀ value ∈ values, Conforms rules item value) :
      Conforms rules (.list item) (.sequence values)
  | emptyRecord (rule : rules.nullIsEmpty = true) (fields : List (List String × Shape)) :
      Conforms rules (.record fields) .null
  | record {fields : List (List String × Shape)} {entries : List (Value × Value)}
      (values : ∀ field ∈ fields, ∀ name ∈ field.1, ∀ value, (.string name, value) ∈ entries →
        Conforms rules field.2 value)
      (names : rules.oneName = true → ∀ field ∈ fields, ∀ first ∈ field.1, ∀ second ∈ field.1,
        ∀ firstValue secondValue, (.string first, firstValue) ∈ entries →
          (.string second, secondValue) ∈ entries → first = second) :
      Conforms rules (.record fields) (.mapping entries)
  | path (path : String) : Conforms rules .image (.string path)
  | detailed {path : String} {entries : List (Value × Value)}
      (source : (.string "src", .string path) ∈ entries) :
      Conforms rules .image (.mapping entries)
  | blocks {values : List Value} (items : ∀ value ∈ values, Conforms rules .block value) :
      Conforms rules .content (.sequence values)
  | noBlocks {value : Value} (noSequence : ∀ values, value ≠ .sequence values) :
      Conforms rules .content value
  | typed {entries : List (Value × Value)}
      (conforms : Conforms rules (.typedBlock (Value.mapping entries).typeName?)
        (.mapping entries)) :
      Conforms rules .block (.mapping entries)
  | untyped {value : Value} (noMapping : ∀ entries, value ≠ .mapping entries) :
      Conforms rules .block value

/-- A value is a mapping with the fields that all slides share and those of its layout. -/
structure ConformsSlide (rules : Rules) (value : Value) : Prop where
  isMapping : value.isMapping = true
  header : Conforms rules .header value
  layout : Conforms rules (.layout value.typeName?) value

end SlideDeck.Schema
