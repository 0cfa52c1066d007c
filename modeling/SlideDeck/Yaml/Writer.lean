import SlideDeck.Decimal.NumberFormat
import SlideDeck.Yaml.WrittenText

/-!
Contract: the text of a value in block-style YAML.

Sequences and mappings take a line for each entry; only empty ones are written in brackets. A
sequence that is the value of a key is not indented. A key of at most 128 bytes on one line is
written in front of its colon, any other key behind a question mark.

A mapping of a single entry is where a custom tag would be announced. So a single entry whose
key is itself a single entry or a tagged value has no text.

Owns:
- the notation of floating point numbers;
- `Writer.write?`, the text of a value.

Does not own: the forms of texts.
-/

namespace SlideDeck.Yaml.Writer

open SlideDeck.Decimal (NumberFormat)

/-- Numbers keep `.0` when they are whole and have an exponent from 10 to the 16 up and below
10 to the -5; a tie between two decimals goes to the even one. -/
def numberFormat : NumberFormat where
  positional point := -5 < point && point ≤ 16
  pointZero := true
  tie := .toEven
  nan := ".nan"
  infinity := ".inf"
  minusInfinity := "-.inf"

/-- What stands in front of a node on its line. -/
inductive Place where
  | lineStart
  | behindIndicator
  | behindKey
deriving DecidableEq, Repr

/-- How a node stands: the column of the collection around it, whether that is a mapping, and
what is in front of it. -/
structure Position where
  column : Option Nat
  inMapping : Bool
  place : Place
deriving DecidableEq, Repr

def Position.deeper (position : Position) : Nat :=
  position.column.elim 0 (· + 2)

/-- The column of the further lines of a text. -/
def Position.textColumn (position : Position) : Nat :=
  position.column.elim 2 (· + 2)

/-- The space that separates a node from what is in front of it. -/
def Position.lead (position : Position) : List Char :=
  match position.place with
  | .lineStart => []
  | .behindIndicator | .behindKey => [' ']

/-- Whether a character of a tag is written as it is. -/
def isTagCharacter (character : Char) : Bool :=
  (isAddressCharacter character && character != '!') || [',', '[', ']'].contains character

/-- What is written for one character of a tag: the bytes of other characters are escaped. -/
def tagCharacter (character : Char) : List Char :=
  if isTagCharacter character then [character]
  else
    (String.singleton character).toUTF8.toList.flatMap fun byte =>
      '%' :: WrittenText.upperHex 2 byte.toNat

/-- The text of a custom tag. The lone exclamation mark is escaped between angle brackets. -/
def tagText (name : String) : List Char :=
  match TagName.suffix name with
  | [] => "!<%21>".toList
  | suffix => '!' :: suffix.flatMap tagCharacter

/-- The number of bytes of a custom tag before any of them is escaped. -/
def tagSize (name : String) : Nat :=
  byteCount (TagName.suffix name) + 1

/-- What is in front of a value that begins on the same line. -/
def inlineLead (position : Position) (tag : Option String) : List Char :=
  match tag with
  | none => position.lead
  | some name => position.lead ++ tagText name ++ [' ']

/-- Whether the first entry of a collection can begin on the line of its indicator. -/
def beginsInline (position : Position) (tag : Option String) : Bool :=
  tag.isNone && position.place != .behindKey

/-- What is in front of the first entry of a collection at a column. -/
def opening (position : Position) (tag : Option String) (column : Nat) : List Char :=
  if beginsInline position tag then position.lead
  else
    (tag.elim [] fun name => position.lead ++ tagText name) ++
      '\n' :: WrittenText.spaces column

/-- Goes on at a column of a new line, unless a line break was written last. -/
def nextLine (column : Nat) (written : List Char) : List Char :=
  let lineBreak := if written.getLast?.any isLineBreak then [] else ['\n']
  written ++ lineBreak ++ WrittenText.spaces column

/-- The written form of a value that is no collection, and its text. -/
def leaf? : Value → Option (TextForm × List Char)
  | .null => some (.plain, "null".toList)
  | .bool value => some (.plain, (if value then "true" else "false").toList)
  | .integer value => some (.plain, (toString value).toList)
  | .float value => some (.plain, (numberFormat.write value).toList)
  | .string text => some (WrittenText.stringForm text, text.toList)
  | _ => none

/-- Whether a value can stand in front of a colon. -/
def isSimpleKey (tag : Option String) (key : Value) : Bool :=
  let tagSize := tag.elim 0 tagSize
  match key with
  | .sequence [] | .mapping [] => tagSize ≤ 128
  | _ =>
      match leaf? key with
      | some (_, text) => !text.any isLineBreak && tagSize + byteCount text ≤ 128
      | none => false

/-- The value without a custom tag, and the tag. -/
def splitTag : Value → Option String × Value
  | .tagged name value => (some name, value)
  | value => (none, value)

/-- Whether a key of a single entry takes away the place where a tag would be announced. -/
def hidesTag : Value → Bool
  | .tagged _ _ => true
  | .mapping [_] => true
  | _ => false

mutual

/-- The text of a value with the tag in front of it. -/
def node (position : Position) (tag : Option String) : Value → Option (List Char)
  | .tagged name value => node position (some name) value
  | .sequence [] => some (inlineLead position tag ++ ['[', ']'])
  | .mapping [] => some (inlineLead position tag ++ ['\x7b', '\x7d'])
  | .sequence (item :: items) => do
      let flush := position.inMapping && !beginsInline position tag
      let column := if flush then position.column.getD 0 else position.deeper
      let first ← node ⟨some column, false, .behindIndicator⟩ none item
      let text ← laterItems column ('-' :: first) items
      some (opening position tag column ++ text)
  | .mapping (first :: entries) => do
      if tag.isNone && entries.isEmpty && hidesTag first.1 then none
      else
        let column := position.deeper
        let firstText ← entry column first
        let text ← laterEntries column firstText entries
        some (opening position tag column ++ text)
  | leaf => do
      let (form, text) ← leaf? leaf
      some (inlineLead position tag ++ WrittenText.write form position.textColumn text)

/-- The entries of a sequence behind what is already written. -/
def laterItems (column : Nat) (written : List Char) : List Value → Option (List Char)
  | [] => some written
  | item :: items => do
      let next ← node ⟨some column, false, .behindIndicator⟩ none item
      laterItems column (nextLine column written ++ '-' :: next) items

def entry (column : Nat) : Value × Value → Option (List Char)
  | (key, value) => do
      if isSimpleKey (splitTag key).1 (splitTag key).2 then
        let keyText ← node ⟨some column, true, .lineStart⟩ none key
        let valueText ← node ⟨some column, true, .behindKey⟩ none value
        some (keyText ++ ':' :: valueText)
      else
        let keyText ← node ⟨some column, true, .behindIndicator⟩ none key
        let valueText ← node ⟨some column, true, .behindIndicator⟩ none value
        some (nextLine column ('?' :: keyText) ++ ':' :: valueText)

/-- The entries of a mapping behind what is already written. -/
def laterEntries (column : Nat) (written : List Char) :
    List (Value × Value) → Option (List Char)
  | [] => some written
  | next :: entries => do
      let text ← entry column next
      laterEntries column (nextLine column written ++ text) entries

end

/-- The text of a value as a document of its own. -/
def write? (value : Value) : Option (List Char) :=
  node ⟨none, false, .lineStart⟩ none value

end SlideDeck.Yaml.Writer
