import SlideDeck.Decimal.Shortest

/-!
Contract: the text of a 64-bit floating point number in a stated notation.

Owns:
- `NumberFormat`, the decisions in which notations differ: which point positions are written
  without an exponent, whether a whole number keeps `.0`, how a tie between two shortest
  decimals goes, and the texts of the values that are not finite;
- `NumberFormat.write`.

Does not own: which notation an output uses.
-/

namespace SlideDeck.Decimal

/-- How a floating point number is written.

The point position of a decimal is the number of its digits before the point, negative when
zeros follow the point. -/
structure NumberFormat where
  positional : Int → Bool
  pointZero : Bool
  tie : Tie
  nan : String
  infinity : String
  minusInfinity : String

namespace NumberFormat

/-- The digits without an exponent, with zeros filled in around the point. -/
def fixedPoint (format : NumberFormat) (digits : List Char) (point : Int) : List Char :=
  let tail := if format.pointZero then ['.', '0'] else []
  if digits.length ≤ point then
    digits ++ List.replicate (point.toNat - digits.length) '0' ++ tail
  else if point ≤ 0 then
    ['0', '.'] ++ List.replicate point.natAbs '0' ++ digits
  else
    digits.take point.toNat ++ ['.'] ++ digits.drop point.toNat

/-- One digit before the point and a power of ten behind an `e`. -/
def scientific (digits : List Char) (point : Int) : List Char :=
  let exponent := (toString (point - 1)).toList
  match digits with
  | [] => []
  | [only] => [only, 'e'] ++ exponent
  | first :: rest => [first, '.'] ++ rest ++ ['e'] ++ exponent

def write (format : NumberFormat) (number : Binary64) : String :=
  if number.isNaN then format.nan
  else if number.isInfinite then
    if number.negative then format.minusInfinity else format.infinity
  else
    let numeral := shortest format.tie number.magnitude
    let digits := (toString numeral.digits).toList
    let point : Int := digits.length + numeral.exponent
    let body :=
      if numeral.digits = 0 ∨ format.positional point then format.fixedPoint digits point
      else scientific digits point
    String.ofList (if number.negative then '-' :: body else body)

end NumberFormat

end SlideDeck.Decimal
