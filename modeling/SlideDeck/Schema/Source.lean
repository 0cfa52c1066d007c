import SlideDeck.Schema.Slide
import SlideDeck.Yaml.Composition

/-!
Contract: the reading of whole sources as decks, cards, flow diagrams or single values.

A deck, card or flow diagram that is a source of its own is read from nodes. Its strict texts take
any text of the source as it is written, its keys may be texts of any type, and values under
unknown keys are never composed. A mismatch names the field in whose reading it arose. A node that
is taken as a whole value has been read when its shape is asked for, so a mismatch in its shape
arises in what is around it: in the list for an item, in the record itself for a field.

A mismatch is reported only for a source that is readable as one value; any other source is
malformed.

Owns:
- `ReadError` and its message;
- the root records and `deck`, `cardSource`, `flowSource`;
- `valueSource`, for everything that is read from one value.
-/

namespace SlideDeck.Schema

open SlideDeck.Deck
open SlideDeck.Yaml (Anchored Composer Document Node Tag TextStyle Value)

/-- Why a source has no reading. -/
inductive ReadError where
  | malformed
  | mismatch (cause : Mismatch)
deriving DecidableEq, Repr

def ReadError.message : ReadError → String
  | malformed => "malformed source"
  | mismatch cause => cause.message

namespace Root

/-- Reading nodes with a number of steps over references left. -/
abbrev Reading := StateT Nat (Except ReadError)

/-- Composing as a part of reading: it fails on malformed sources only. -/
def composing {α : Type} (composer : Composer α) : Reading α := fun left =>
  match composer left with
  | some result => .ok result
  | none => .error .malformed

def refuse {α : Type} (cause : Mismatch) : Reading α :=
  throw (.mismatch cause)

/-- What a node is, as far as a message tells. -/
def found (node : Node) : Reading Found :=
  match node with
  | .text properties content style =>
      match Yaml.textValue? properties.tag content style with
      | some value => return .ofValue value
      | none => throw .malformed
  | .sequence _ _ => return .sequence
  | .mapping _ _ => return .mapping
  | .reference _ => throw .malformed

/-- Reports that a node is not what is expected. -/
def wrongType {α : Type} (node : Node) (expected : Expected) : Reading α := do
  refuse (.wrongType (← found node) expected)

/-- Whether a node is a plain text without any character. -/
def isBlank : Node → Bool
  | .text _ content .plain => content.isEmpty
  | _ => false

/-- Whether a node stands for the absence of an optional value. A plain text that is tagged as
null must be one. -/
def isAbsent : Node → Reading Bool
  | .text properties content .plain =>
      match properties.tag with
      | none => return content.isEmpty || Yaml.PlainValue.isNull content
      | some .null => if Yaml.PlainValue.isNull content then return true else throw .malformed
      | some _ => return false
  | _ => return false

/-- Reads a node, which is no reference any more. -/
abbrev NodeReader (α : Type) := Node → Reading α

/-- Nothing for absence, else what the reader gives. -/
def optional {α : Type} (read : NodeReader α) : NodeReader (Option α) := fun node => do
  if ← isAbsent node then return none else some <$> read node

def verbatimText : NodeReader String := fun node =>
  match node with
  | .text _ content _ => return content
  | _ => wrongType node .text

/-- A value read by shape; `depth` levels of collections are left for it. -/
def shaped {α : Type} (anchored : Anchored) (depth : Nat) (read : Reader α) : NodeReader α :=
  fun node => do
    let value ← composing (Yaml.compose anchored depth node)
    match read value with
    | .ok result => return result
    | .error cause => refuse cause

/-- A list whose items are read by shape; a blank text is the empty list. -/
def list {α : Type} (anchored : Anchored) (depth : Nat) (read : Reader α) :
    NodeReader (List α) := fun node =>
  match node with
  | .sequence _ items =>
      match depth with
      | 0 => throw .malformed
      | inner + 1 => items.mapM (shaped anchored inner read)
  | _ => if isBlank node then return [] else wrongType node .sequence

def within {α : Type} (label : String) (reading : Reading α) : Reading α := fun left =>
  match reading left with
  | .error (.mismatch cause) => .error (.mismatch (.within label cause))
  | result => result

/-- A field of a root record. What it reads depends on the name by which its key reports a
mismatch. -/
structure Field (α : Type) where
  keys : List String
  read : (label : String) → Node → α → Reading α

/-- A field that a reader of nodes fills in. -/
def Field.of {α β : Type} (keys : List String) (read : NodeReader β) (put : β → α → α) :
    Field α :=
  ⟨keys, fun label node record => (put · record) <$> within label (read node)⟩

/-- An optional field that is taken as a whole value. -/
def Field.whole {α β : Type} (anchored : Anchored) (depth : Nat) (keys : List String)
    (read : Reader β) (put : Option β → α → α) : Field α :=
  ⟨keys, fun _ node record => (put · record) <$> optional (shaped anchored depth read) node⟩

/-- The text of a key and the name by which a mismatch below it is reported. -/
def key (anchored : Anchored) (node : Node) : Reading (String × String) := do
  match ← composing (Composer.target anchored node) with
  | .text _ content _ =>
      return (content, match node with
        | .reference _ => "?"
        | _ => content)
  | other => wrongType other .fieldName

/-- Reads entries into a record; `seen` are the fields that came before. -/
def readEntries {α : Type} (anchored : Anchored) (fields : List (Field α)) :
    (seen : List String) → (record : α) → List (Node × Node) → Reading α
  | _, record, [] => return record
  | seen, record, (keyNode, valueNode) :: entries => do
      let (name, label) ← key anchored keyNode
      match fields.find? (·.keys.contains name) with
      | none => readEntries anchored fields seen record entries
      | some field =>
          let own := field.keys.headD ""
          if seen.contains own then refuse (.duplicateField own)
          else do
            let target ← composing (Composer.target anchored valueNode)
            let next ← field.read label target record
            readEntries anchored fields (own :: seen) next entries

/-- Reads the root node into a record; a blank text is a record without any field. -/
def record {α : Type} (name : String) (anchored : Anchored) (fields : List (Field α))
    (start : α) : NodeReader α := fun node =>
  match node with
  | .mapping _ entries => readEntries anchored fields [] start entries
  | _ => if isBlank node then return start else wrongType node (.record name)

def innerDepth : Nat := Yaml.maxDepth - 1

def strictField {α : Type} (keys : List String) (put : Option String → α → α) : Field α :=
  .of keys (optional verbatimText) put

def looseField {α : Type} (anchored : Anchored) (keys : List String)
    (put : Option String → α → α) : Field α :=
  .whole anchored innerDepth keys (fun value => .ok (leaf value).text?) fun text => put text.join

def deck (anchored : Anchored) : NodeReader SlideDeck.Deck :=
  record "Document" anchored
    [looseField anchored ["title"] fun title deck => { deck with title },
      strictField ["lang"] fun lang deck => { deck with lang },
      strictField ["theme"] fun theme deck => { deck with theme },
      strictField ["codeTheme", "code_theme"] fun codeTheme deck => { deck with codeTheme },
      strictField ["transition"] fun transition deck => { deck with transition },
      .of ["slides"] (list anchored innerDepth slide) fun slides deck => { deck with slides }]
    .empty

def card (anchored : Anchored) : NodeReader Card :=
  record "Card" anchored
    [looseField anchored ["title"] fun title card => { card with title },
      strictField ["style"] fun style card => { card with style },
      .whole anchored innerDepth ["content"] content fun content card => { card with content }]
    .empty

def flow (anchored : Anchored) : NodeReader Flow :=
  record "Flow" anchored
    [strictField ["style"] fun style flow => { flow with style },
      .of ["items"] (optional (list anchored innerDepth flowItem)) fun items flow =>
        { flow with items }]
    .empty

end Root

/-- A mismatch counts only when the document is readable as a value. -/
def settle {α : Type} (document : Document) (result : Except ReadError α) : Except ReadError α :=
  match result with
  | .error (.mismatch _) => if document.value?.isSome then result else .error .malformed
  | _ => result

/-- Reads a source by a root reader. An empty source is the empty record. -/
def rootSource {α : Type} (read : Anchored → Root.NodeReader α) (start : α) (source : String) :
    Except ReadError α :=
  match Yaml.sourceDocument? source with
  | none => .error .malformed
  | some none => .ok start
  | some (some document) =>
      settle document ((read document.anchored document.root).run' document.referenceSteps)

def deck (source : String) : Except ReadError SlideDeck.Deck :=
  rootSource Root.deck .empty source

def cardSource (source : String) : Except ReadError Card :=
  rootSource Root.card .empty source

def flowSource (source : String) : Except ReadError Flow :=
  rootSource Root.flow .empty source

/-- Reads a source as one value; an empty source is null. -/
def valueOfSource (source : String) : Except ReadError Value :=
  match Yaml.sourceDocument? source with
  | none => .error .malformed
  | some none => .ok .null
  | some (some document) => document.value?.elim (.error .malformed) .ok

/-- Reads a source as one value of a shape. -/
def valueSource {α : Type} (read : Reader α) (source : String) : Except ReadError α := do
  let value ← valueOfSource source
  match read value with
  | .ok result => return result
  | .error cause => throw (.mismatch cause)

end SlideDeck.Schema
