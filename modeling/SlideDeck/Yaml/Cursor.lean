import SlideDeck.Yaml.Character

/-!
Contract: a position in a YAML source.

Owns:
- `Cursor`, the characters still to read with their line and column;
- steps over characters and line breaks;
- the tests on the next characters that decide what a token is.

Does not own: tokens.
-/

namespace SlideDeck.Yaml

/-- The rest of a source and where it begins. The index counts bytes, the column characters. -/
structure Cursor where
  rest : List Char
  index : Nat
  line : Nat
  column : Nat
deriving DecidableEq, Repr

namespace Cursor

def start (source : List Char) : Cursor :=
  ⟨source, 0, 0, 0⟩

/-- Goes on by some characters of the same line. -/
def advance (cursor : Cursor) (count : Nat) : Cursor :=
  { cursor with
    rest := cursor.rest.drop count
    index := cursor.index + byteCount (cursor.rest.take count)
    column := cursor.column + count }

/-- Goes over one line break, if one comes next; a carriage return with a line feed is one. -/
def nextLine (cursor : Cursor) : Cursor :=
  match cursor.rest with
  | '\r' :: '\n' :: rest => ⟨rest, cursor.index + 2, cursor.line + 1, 0⟩
  | character :: rest =>
      if isLineBreak character then
        ⟨rest, cursor.index + character.utf8Size, cursor.line + 1, 0⟩
      else cursor
  | [] => cursor

/-- The text that the next line break stands for; empty when none comes next. -/
def breakText (cursor : Cursor) : List Char :=
  match cursor.rest with
  | character :: _ => if isLineBreak character then [lineBreakText character] else []
  | [] => []

def peek? (cursor : Cursor) : Option Char :=
  cursor.rest.head?

/-- Whether nothing is left. -/
def atEnd (cursor : Cursor) : Bool :=
  cursor.rest.isEmpty

def sees (cursor : Cursor) (character : Char) : Bool :=
  cursor.peek? == some character

/-- Whether the character behind the next `offset` ones is a separator or missing. -/
def separatorAt (cursor : Cursor) (offset : Nat) : Bool :=
  match cursor.rest[offset]? with
  | some character => isSeparator character
  | none => true

def seesSpaceOrTab (cursor : Cursor) : Bool :=
  cursor.peek?.any isSpaceOrTab

def seesLineBreak (cursor : Cursor) : Bool :=
  cursor.peek?.any isLineBreak

/-- The characters up to the first one outside a class, within the line. -/
def run (cursor : Cursor) (inClass : Char → Bool) : List Char :=
  cursor.rest.takeWhile inClass

/-- Goes over the characters of a class. The class holds no line break. -/
def skip (cursor : Cursor) (inClass : Char → Bool) : Cursor :=
  cursor.advance (cursor.run inClass).length

def skipLine (cursor : Cursor) : Cursor :=
  cursor.skip (fun character => !isLineBreak character)

/-- Whether the line is a document marker: three given characters at its start, then a
separator or nothing. -/
def seesMarker (cursor : Cursor) (character : Char) : Bool :=
  cursor.column == 0 && cursor.rest.take 3 == [character, character, character] &&
    cursor.separatorAt 3

/-- Whether a document begins or ends here by a marker. -/
def seesDocumentMarker (cursor : Cursor) : Bool :=
  cursor.seesMarker '-' || cursor.seesMarker '.'

end Cursor

end SlideDeck.Yaml
