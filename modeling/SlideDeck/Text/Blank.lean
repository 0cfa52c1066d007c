/-!
Contract: the Unicode property White_Space and the removal of white space at the ends of a text.

Owns:
- `isBlank`, the property as ranges of code points;
- `dropBlankEnd` and `trim` on lists of characters.
-/

namespace SlideDeck.Text

def isBlank (character : Char) : Bool :=
  let point := character.toNat
  (0x09 ≤ point && point ≤ 0x0D) || point == 0x20 || point == 0x85 || point == 0xA0 ||
    point == 0x1680 || (0x2000 ≤ point && point ≤ 0x200A) || point == 0x2028 ||
    point == 0x2029 || point == 0x202F || point == 0x205F || point == 0x3000

def dropBlankEnd (text : List Char) : List Char :=
  (text.reverse.dropWhile isBlank).reverse

def trim (text : List Char) : List Char :=
  dropBlankEnd (text.dropWhile isBlank)

end SlideDeck.Text
