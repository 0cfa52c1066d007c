import SlideDeck.Yaml.Grammar
import SlideDeck.Yaml.PlainValue
import SlideDeck.Yaml.TokenStream

/-!
Contract: the values that the nodes of a document stand for.

Collections nest at most 128 deep, references followed included, and a document of a given size
admits a hundred times as many steps over references; so a value always has a finite size. No
two keys of a mapping are the same value.

Owns:
- the value of a text under its tag;
- `Composer`, which counts the steps over references;
- `compose`, the value of a node, and `value?`, the value of a source.

Does not own: the shape that a deck asks of a value.
-/

namespace SlideDeck.Yaml

def maxDepth : Nat := 128

/-- The nodes that references stand for, by their numbers. -/
abbrev Anchored := List (Nat × Node)

/-- Composing with a number of steps over references left; it can fail. -/
abbrev Composer := StateT Nat Option

namespace Composer

/-- The node meant: a reference is followed, at the cost of one step. -/
def target (anchored : Anchored) : Node → Composer Node
  | .reference number => do
      let left ← get
      match left, anchored.lookup number with
      | more + 1, some node => do
          set more
          return node
      | _, _ => failure
  | node => return node

end Composer

def untaggedText? (content : String) (style : TextStyle) : Option Value :=
  match style with
  | .plain => PlainValue.read content
  | .quoted => some (.string content)

def textValue? (tag : Option Tag) (content : String) (style : TextStyle) : Option Value :=
  match tag with
  | none => untaggedText? content style
  | some (.custom name) => (untaggedText? content style).map (.tagged name)
  | some .other => some (.string content)
  | some .boolean => (PlainValue.bool? content).map .bool
  | some .integer =>
      (PlainValue.integer? content.toList).bind fun value =>
        if PlainValue.width value = .word then some (.integer value) else none
  | some .float => (PlainValue.float? content.toList).map .float
  | some .null => if PlainValue.isNull content then some .null else none

/-- Puts a custom tag around the value of a collection. -/
def withTag (tag : Option Tag) (value : Value) : Value :=
  match tag.bind Tag.customName? with
  | some name => .tagged name value
  | none => value

/-- Composes entries in order; a key that came before is refused. -/
def composeEntries (one : Node → Composer Value) :
    (before : List (Value × Value)) → List (Node × Node) → Composer (List (Value × Value))
  | before, [] => return before.reverse
  | before, (key, value) :: entries => do
      let keyValue ← one key
      if before.any fun entry => entry.1.same keyValue then failure
      else
        let valueValue ← one value
        composeEntries one ((keyValue, valueValue) :: before) entries

/-- The value of a node with `depth` levels of collections left. -/
def compose (anchored : Anchored) : (depth : Nat) → Node → Composer Value
  | 0, node => do
      match ← Composer.target anchored node with
      | .text properties content style => (textValue? properties.tag content style).elim failure pure
      | _ => failure
  | depth + 1, node => do
      match ← Composer.target anchored node with
      | .text properties content style => (textValue? properties.tag content style).elim failure pure
      | .sequence properties items => do
          return withTag properties.tag (.sequence (← items.mapM (compose anchored depth)))
      | .mapping properties entries => do
          return withTag properties.tag
            (.mapping (← composeEntries (compose anchored depth) [] entries))
      | .reference _ => failure

namespace Document

def referenceSteps (document : Document) : Nat :=
  100 * document.size

def value? (document : Document) : Option Value :=
  (compose document.anchored maxDepth document.root).run' document.referenceSteps

end Document

/-- The document of a source, inner `none` when the source is empty; `none` when the source
cannot be read. -/
def sourceDocument? (source : String) : Option (Option Document) :=
  (tokens? source.toList).bind document?

end SlideDeck.Yaml
