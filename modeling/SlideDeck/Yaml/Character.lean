/-!
Contract: the classes of characters that the YAML syntax distinguishes.

Owns:
- which characters a source may hold at all;
- blanks, line breaks and the characters of names and addresses;
- the text that a line break stands for in content.
-/

namespace SlideDeck.Yaml

/-- Characters a source may hold. All others, the control characters among them, make a source
unreadable. -/
def isAllowed (character : Char) : Bool :=
  let point := character.toNat
  point == 0x09 || point == 0x0A || point == 0x0D || (0x20 ≤ point && point ≤ 0x7E) ||
    point == 0x85 || (0xA0 ≤ point && point ≤ 0xD7FF) || (0xE000 ≤ point && point ≤ 0xFFFD) ||
    0x10000 ≤ point

/-- The byte order mark, which may stand at the start of a line. -/
def byteOrderMark : Char := '\uFEFF'

def isSpaceOrTab (character : Char) : Bool :=
  character == ' ' || character == '\t'

def isLineBreak (character : Char) : Bool :=
  character == '\n' || character == '\r' || character == '\u0085' ||
    character == '\u2028' || character == '\u2029'

def isSeparator (character : Char) : Bool :=
  isSpaceOrTab character || isLineBreak character

/-- The text of a line break in content: the line and paragraph separators stand for themselves
and every other break is a newline. -/
def lineBreakText (character : Char) : Char :=
  if character == '\u2028' || character == '\u2029' then character else '\n'

/-- Characters of anchor names, tag handles and directive names. -/
def isNameCharacter (character : Char) : Bool :=
  character.isAlphanum || character == '_' || character == '-'

def isAddressCharacter (character : Char) : Bool :=
  isNameCharacter character ||
    [';', '/', '?', ':', '@', '&', '=', '+', '$', '.', '!', '~', '*', '\'', '(', ')'].contains
      character

def byteCount (text : List Char) : Nat :=
  (text.map Char.utf8Size).foldr Nat.add 0

def isFlowIndicator (character : Char) : Bool :=
  [',', '[', ']', '{', '}'].contains character

def isIndicator (character : Char) : Bool :=
  isFlowIndicator character ||
    ['-', '?', ':', '#', '&', '*', '!', '|', '>', '\'', '"', '%', '@', '\x60'].contains character

def hexDigit? (character : Char) : Option Nat :=
  if '0' ≤ character ∧ character ≤ '9' then some (character.toNat - '0'.toNat)
  else if 'a' ≤ character ∧ character ≤ 'f' then some (character.toNat - 'a'.toNat + 10)
  else if 'A' ≤ character ∧ character ≤ 'F' then some (character.toNat - 'A'.toNat + 10)
  else none

/-- The value of a list of hexadecimal digits, if all of them are such. -/
def hexNumber? (digits : List Char) : Option Nat :=
  digits.foldlM (fun value digit => (hexDigit? digit).map (value * 16 + ·)) 0

end SlideDeck.Yaml
