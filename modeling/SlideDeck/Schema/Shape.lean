import SlideDeck.Deck.Leaf
import SlideDeck.Schema.Mismatch
import SlideDeck.Text.Blank
import SlideDeck.Yaml.Writer

/-!
Contract: readers of values, which give what a value stands for or say why it does not fit.

Custom tags are looked through everywhere except where a value is taken as a whole, and each time
a part of a value is taken as a whole its tag names are made bare. A record is read from the
entries of a mapping in their order: unknown keys are passed over, and a field must not come
twice.

Owns:
- `whole`, the reading of a part that is taken as a whole;
- leaves and loose texts, the only readers that look at every kind of value;
- strict texts, natural numbers, lists and optional values;
- `Field` and `record`, the reading of records.
-/

namespace SlideDeck.Schema

open SlideDeck.Decimal (Binary64)
open SlideDeck.Deck (Leaf)
open SlideDeck.Yaml (Value)

/-- Reads a value or says why it does not fit. -/
abbrev Reader (α : Type) := Value → Except Mismatch α

/-- The leaf of a value. A collection stands for its text as YAML, without white space at the end,
and for the empty text when it has none. Integers beyond 63 bits become floating point
numbers. -/
def leaf : Value → Leaf
  | .null => .null
  | .bool value => .bool value
  | .integer value =>
      if value < Int.pow 2 63 then .integer value else .float (Binary64.ofNat value.toNat)
  | .float value => .float value
  | .string text => .text text
  | .tagged _ value => leaf value
  | collection =>
      .text (String.ofList (Text.dropBlankEnd ((Yaml.Writer.write? collection).getD [])))

/-- Whether a value is null, not counting a tagged one. -/
def isNull : Value → Bool
  | .null => true
  | _ => false

/-- Reads a part of a value that is taken as a whole, with bare tag names. -/
def whole {α : Type} (read : Reader α) : Reader α := fun value =>
  match value.bare? with
  | some bareValue => read bareValue
  | none => .error .sameKeys

/-- Reads a part of a value as a leaf. -/
def wholeLeaf : Reader Leaf :=
  whole fun value => .ok (leaf value)

/-- Reads a part of a value as a text that may be written as any value. -/
def looseText : Reader (Option String) := fun value =>
  (wholeLeaf value).map Leaf.text?

/-- Nothing for null, else what the reader gives. -/
def optional {α : Type} (read : Reader α) : Reader (Option α) := fun value =>
  if isNull value then .ok none else (read value).map some

/-- A text that must be written as a string. -/
def strictText : Reader String := fun value =>
  match value.untagged with
  | .string text => .ok text
  | _ => .error (.wrongType (.ofValue value) .text)

def natural : Reader Nat := fun value =>
  match value.untagged with
  | .integer number =>
      if 0 ≤ number ∧ number < Int.pow 2 32 then .ok number.toNat
      else .error (.outOfRange (.integer number) .natural)
  | _ => .error (.wrongType (.ofValue value) .natural)

/-- A list with every item read; null is the empty list. -/
def list {α : Type} (read : Reader α) : Reader (List α) := fun value =>
  match value.untagged with
  | .sequence items => items.mapM read
  | .null => .ok []
  | _ => .error (.wrongType (.ofValue value) .sequence)

def leaves : Reader (List Leaf) :=
  list wholeLeaf

/-- A list of texts, each written as any value. -/
def looseTexts : Reader (List String) :=
  list fun value => (wholeLeaf value).map Leaf.display

/-- A field of a record: the keys that name it, the first being its own name, and what its value
changes in the record. -/
structure Field (α : Type) where
  keys : List String
  read : Value → α → Except Mismatch α

namespace Field

def of {α β : Type} (keys : List String) (read : Reader β) (put : β → α → α) : Field α :=
  ⟨keys, fun value record => (read value).map (put · record)⟩

/-- A field with a text that may be written as any value. -/
def loose {α : Type} (keys : List String) (put : Option String → α → α) : Field α :=
  .of keys looseText put

def name {α : Type} (field : Field α) : String :=
  field.keys.headD ""

end Field

def fieldKey (key : Value) : Except Mismatch String :=
  match key.untagged with
  | .string text => .ok text
  | _ => .error (.wrongType (.ofValue key) .fieldName)

/-- Reads entries into a record; `seen` are the fields that came before. -/
def readEntries {α : Type} (fields : List (Field α)) :
    (seen : List String) → (record : α) → List (Value × Value) → Except Mismatch α
  | _, record, [] => .ok record
  | seen, record, (key, value) :: entries => do
      let name ← fieldKey key
      match fields.find? (·.keys.contains name) with
      | none => readEntries fields seen record entries
      | some field =>
          if seen.contains field.name then .error (.duplicateField field.name)
          else do
            let next ← field.read value record
            readEntries fields (field.name :: seen) next entries

/-- Reads a record from a mapping; null is a record without any field. -/
def record {α : Type} (name : String) (fields : List (Field α)) (start : α) : Reader α :=
  fun value =>
    match value.untagged with
    | .mapping entries => readEntries fields [] start entries
    | .null => .ok start
    | _ => .error (.wrongType (.ofValue value) (.record name))

end SlideDeck.Schema
