import SlideDeck.Yaml.Gap

/-!
Contract: texts that flow over lines: plain texts and the two quoted forms.

Owns:
- `PlainText.read`, a text without quotes;
- `QuotedText.read`, a text in single or double quotes with its escapes.

Does not own: block texts, and what type a plain text has.
-/

namespace SlideDeck.Yaml

namespace PlainText

/-- The characters of a plain text up to a separator or to what ends the text. In a flow
collection a colon directly before a bracket, brace, comma or question mark is refused. -/
def piece (inFlow : Bool) : List Char → Option (List Char)
  | [] => some []
  | character :: rest =>
      if isSeparator character then some []
      else if character == ':' && rest.head?.all isSeparator then some []
      else if inFlow && character == ':' &&
          rest.head?.any (fun next => isFlowIndicator next || next == '?') then none
      else if inFlow && isFlowIndicator character then some []
      else (piece inFlow rest).map (character :: ·)

/-- A plain text and how it ended. -/
structure Reading where
  content : List Char
  endsBroken : Bool
  cursor : Cursor

/-- Reads pieces and gaps; `content` is the text before the pending gap. A comment, a document
marker and, in a block, a line that is indented too little end the text. -/
def readFrom (inFlow : Bool) (indent : Nat) :
    (fuel : Nat) → (content : List Char) → Gap → Cursor → Option Reading
  | 0, _, _, _ => none
  | fuel + 1, content, gap, cursor =>
      if cursor.seesDocumentMarker || cursor.sees '#' then
        some ⟨content, gap.broken, cursor⟩
      else do
        let characters ← piece inFlow cursor.rest
        let joined := if characters.isEmpty then content else content ++ gap.text ++ characters
        let broken := if characters.isEmpty then gap.broken else false
        let behind := cursor.advance characters.length
        if behind.seesSpaceOrTab || behind.seesLineBreak then
          let (next, after) ← Gap.read indent Gap.none behind
          if !inFlow && after.column < indent then
            some ⟨joined, next.broken, after⟩
          else readFrom inFlow indent fuel joined next after
        else some ⟨joined, broken, behind⟩

/-- Reads a plain text; in a block its further lines are indented by `indent` at least. -/
def read (inFlow : Bool) (indent : Nat) (cursor : Cursor) : Option Reading :=
  readFrom inFlow indent (cursor.rest.length + 1) [] Gap.none cursor

end PlainText

namespace QuotedText

/-- The character behind a backslash that stands for one character. -/
def simpleEscape? : Char → Option Char
  | '0' => some '\x00'
  | 'a' => some '\x07'
  | 'b' => some '\x08'
  | 't' => some '\t'
  | '\t' => some '\t'
  | 'n' => some '\n'
  | 'v' => some '\x0b'
  | 'f' => some '\x0c'
  | 'r' => some '\r'
  | 'e' => some '\x1b'
  | ' ' => some ' '
  | '"' => some '"'
  | '/' => some '/'
  | '\\' => some '\\'
  | 'N' => some '\u0085'
  | '_' => some '\u00a0'
  | 'L' => some '\u2028'
  | 'P' => some '\u2029'
  | _ => none

/-- The number of hexadecimal digits behind an escape by code point. -/
def codeLength? : Char → Option Nat
  | 'x' => some 2
  | 'u' => some 4
  | 'U' => some 8
  | _ => none

/-- The character of a code point, if it has one. -/
def character? (point : Nat) : Option Char :=
  if point.isValidChar then some (Char.ofNat point) else none

/-- An escape behind its backslash: the character and how many characters were read. -/
def escape? (text : List Char) : Option (Char × Nat) := do
  let letter ← text.head?
  match codeLength? letter with
  | some length =>
      let digits := (text.drop 1).take length
      if digits.length = length then
        let character ← (hexNumber? digits).bind character?
        some (character, length + 1)
      else none
  | none => (simpleEscape? letter).map (·, 1)

/-- A piece of quoted text: its characters, whether an escaped line break ended it, and where it
ended. -/
structure Piece where
  characters : List Char
  escapedBreak : Bool
  cursor : Cursor

def Piece.push (character : Char) (piece : Piece) : Piece :=
  { piece with characters := character :: piece.characters }

/-- Reads the characters of a quoted text up to a separator, a closing quote or an escaped line
break. -/
def pieceFrom (double : Bool) : (fuel : Nat) → Cursor → Option Piece
  | 0, cursor => some ⟨[], false, cursor⟩
  | fuel + 1, cursor =>
      match double, cursor.rest with
      | _, [] => some ⟨[], false, cursor⟩
      | false, '\'' :: '\'' :: _ => (pieceFrom double fuel (cursor.advance 2)).map (·.push '\'')
      | false, '\'' :: _ => some ⟨[], false, cursor⟩
      | true, '"' :: _ => some ⟨[], false, cursor⟩
      | true, '\\' :: escaped =>
          if escaped.head?.any isLineBreak then
            some ⟨[], true, (cursor.advance 1).nextLine⟩
          else do
            let (character, length) ← escape? escaped
            (pieceFrom double fuel (cursor.advance (length + 1))).map (·.push character)
      | _, character :: _ =>
          if isSeparator character then some ⟨[], false, cursor⟩
          else (pieceFrom double fuel (cursor.advance 1)).map (·.push character)

/-- Reads pieces and gaps up to the closing quote. A document marker inside is refused. -/
def readFrom (double : Bool) :
    (fuel : Nat) → (content : List Char) → Cursor → Option (List Char × Cursor)
  | 0, _, _ => none
  | fuel + 1, content, cursor =>
      if cursor.seesDocumentMarker || cursor.atEnd then none
      else do
        let piece ← pieceFrom double cursor.rest.length cursor
        let joined := content ++ piece.characters
        if piece.cursor.sees (if double then '"' else '\'') then
          some (joined, piece.cursor.advance 1)
        else
          let before := if piece.escapedBreak then Gap.escapedBreak else Gap.none
          let (gap, after) ← Gap.read 0 before piece.cursor
          readFrom double fuel (joined ++ gap.text) after

/-- Reads a quoted text from its opening quote to its closing quote. -/
def read (double : Bool) (cursor : Cursor) : Option (List Char × Cursor) :=
  readFrom double (cursor.rest.length + 1) [] (cursor.advance 1)

end QuotedText

end SlideDeck.Yaml
