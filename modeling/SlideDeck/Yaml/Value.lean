import SlideDeck.Decimal.Binary64
import SlideDeck.Yaml.TagName

/-!
Contract: YAML values, the typed form of nodes.

A mapping keeps its entries in the order of the source; no two of its keys are the same value.

Owns:
- `Value` and the removal of custom tags;
- `Value.same`, equality of values as mapping keys;
- `Value.bare?`, the value with bare tag names;
- depth, occurrence of tags and look-up in mappings.

Does not own: how values are read from nodes or written as text.
-/

namespace SlideDeck.Yaml

open SlideDeck.Decimal (Binary64)

/-- A YAML value. -/
inductive Value where
  | null
  | bool (value : Bool)
  | integer (value : Int)
  | float (value : Binary64)
  | string (text : String)
  | sequence (items : List Value)
  | mapping (entries : List (Value × Value))
  | tagged (name : String) (value : Value)
deriving Repr, Inhabited

namespace Value

def untagged : Value → Value
  | tagged _ value => value.untagged
  | value => value

mutual

/-- Whether two values are the same as mapping keys: the order of entries does not matter,
numbers are compared as numbers and tags by their bare names. -/
def same : Value → Value → Bool
  | null, null => true
  | bool left, bool right => left == right
  | integer left, integer right => left == right
  | float left, float right => left.sameNumber right
  | string left, string right => left == right
  | sequence left, sequence right => sameItems left right
  | mapping left, mapping right => left.length == right.length && containsEntries left right
  | tagged leftName left, tagged rightName right =>
      TagName.same leftName rightName && same left right
  | _, _ => false

/-- Whether two lists hold the same values in the same order. -/
def sameItems : List Value → List Value → Bool
  | [], [] => true
  | left :: lefts, right :: rights => same left right && sameItems lefts rights
  | _, _ => false

/-- Whether every entry of the first list is in the second one. -/
def containsEntries : List (Value × Value) → List (Value × Value) → Bool
  | [], _ => true
  | (key, value) :: lefts, rights =>
      rights.any (fun entry => same key entry.1 && same value entry.2) &&
        containsEntries lefts rights

end

mutual

/-- The value with all names of custom tags made bare. There is none when two keys of a mapping
become the same by that, as can happen to names with different numbers of marks. -/
def bare? : Value → Option Value
  | tagged name value => value.bare?.map (tagged (TagName.bare name))
  | sequence items => (bareItems? items).map sequence
  | mapping entries => (bareEntries? [] entries).map mapping
  | value => some value

/-- The values of a list with bare tag names. -/
def bareItems? : List Value → Option (List Value)
  | [] => some []
  | item :: items => do
      let bareItem ← item.bare?
      return bareItem :: (← bareItems? items)

/-- Entries with bare tag names behind those that came before, which are in reverse order. -/
def bareEntries? (before : List (Value × Value)) :
    List (Value × Value) → Option (List (Value × Value))
  | [] => some before.reverse
  | (key, value) :: entries => do
      let bareKey ← key.bare?
      if before.any fun entry => entry.1.same bareKey then none
      else
        let bareValue ← value.bare?
        bareEntries? ((bareKey, bareValue) :: before) entries

end

mutual

/-- How deep a value nests; a value that holds no other has depth one. -/
def depth : Value → Nat
  | tagged _ value => value.depth + 1
  | sequence items => depthOfItems items + 1
  | mapping entries => depthOfEntries entries + 1
  | _ => 1

def depthOfItems : List Value → Nat
  | [] => 0
  | item :: items => max item.depth (depthOfItems items)

/-- How deep the keys and values of a list of entries nest. -/
def depthOfEntries : List (Value × Value) → Nat
  | [] => 0
  | (key, value) :: entries => max (max key.depth value.depth) (depthOfEntries entries)

end

mutual

/-- Whether a custom tag occurs anywhere in a value. -/
def hasTag : Value → Bool
  | tagged _ _ => true
  | sequence items => itemsHaveTag items
  | mapping entries => entriesHaveTag entries
  | _ => false

/-- Whether a custom tag occurs in a list of values. -/
def itemsHaveTag : List Value → Bool
  | [] => false
  | item :: items => item.hasTag || itemsHaveTag items

/-- Whether a custom tag occurs in a list of entries. -/
def entriesHaveTag : List (Value × Value) → Bool
  | [] => false
  | (key, value) :: entries => key.hasTag || value.hasTag || entriesHaveTag entries

end

/-- Whether the value is a mapping, with custom tags or without. -/
def isMapping (value : Value) : Bool :=
  match value.untagged with
  | mapping _ => true
  | _ => false

/-- The value of a string key in a mapping. -/
def get? (value : Value) (key : String) : Option Value :=
  match value.untagged with
  | mapping entries =>
      (entries.find? fun entry => match entry.1 with
        | string text => text == key
        | _ => false).map (·.2)
  | _ => none

/-- The text of a string, with custom tags or without. -/
def text? (value : Value) : Option String :=
  match value.untagged with
  | string text => some text
  | _ => none

/-- The text under the key `type`, which chooses the form of slides, nodes and items. -/
def typeName? (value : Value) : Option String :=
  (value.get? "type").bind text?

end Value

end SlideDeck.Yaml
