import SlideDeck.Yaml.Address

/-!
Contract: the tokens of a YAML source.

Indentation is made explicit: the start and the end of every block collection is a token of its
own, and a mapping key is announced by a `key` token even where the source only shows the colon
behind it.
-/

namespace SlideDeck.Yaml

/-- Whether a text was written without quotes and block indicators. -/
inductive TextStyle where
  | plain
  | quoted
deriving DecidableEq, Repr

/-- A token of a source. -/
inductive Token where
  | version (major minor : Nat)
  | tagHandle (handle : String) (address : Address)
  | documentStart
  | documentEnd
  | blockSequenceStart
  | blockMappingStart
  | blockEnd
  | flowSequenceStart
  | flowSequenceEnd
  | flowMappingStart
  | flowMappingEnd
  | blockEntry
  | flowEntry
  | key
  | value
  | reference (name : String)
  | anchor (name : String)
  | tag (handle : String) (suffix : Address)
  | text (content : String) (style : TextStyle)
deriving DecidableEq, Repr

end SlideDeck.Yaml
