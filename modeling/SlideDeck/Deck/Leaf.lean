import SlideDeck.Decimal.NumberFormat

/-!
Contract: loosely typed leaf values: table cells, header labels, figures and periods.

Owns:
- `Leaf` and its text;
- the notation of floating point numbers in texts.
-/

namespace SlideDeck.Deck

open SlideDeck.Decimal (Binary64 NumberFormat)

/-- A leaf value. -/
inductive Leaf where
  | null
  | bool (value : Bool)
  | integer (value : Int)
  | float (value : Binary64)
  | text (text : String)
deriving DecidableEq, Repr

namespace Leaf

/-- Numbers are written without an exponent and whole ones without a point; a tie between two
shortest decimals goes upward. -/
def numberFormat : NumberFormat where
  positional _ := true
  pointZero := false
  tie := .upward
  nan := "NaN"
  infinity := "Infinity"
  minusInfinity := "-Infinity"

def display : Leaf → String
  | null => "null"
  | bool value => if value then "true" else "false"
  | integer value => toString value
  | float value => numberFormat.write value
  | text content => content

def text? : Leaf → Option String
  | null => none
  | leaf => some leaf.display

end Leaf

end SlideDeck.Deck
