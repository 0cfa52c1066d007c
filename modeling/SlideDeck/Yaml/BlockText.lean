import SlideDeck.Yaml.Cursor

/-!
Contract: block texts, the literal and the folded form.

The header gives how the line breaks at the end are treated and, optionally, the indentation.
Without it the indentation is that of the first line that is not empty. In the folded form a
single line break between two lines that begin with no blank is a space.

Owns:
- `BlockText.Header` and its reading;
- `BlockText.read`, the content of a block text.
-/

namespace SlideDeck.Yaml.BlockText

/-- What happens to the line breaks at the end of the text. -/
inductive Chomping where
  | strip
  | clip
  | keep
deriving DecidableEq, Repr

/-- The header of a block text. An indent of zero is to be found out. -/
structure Header where
  chomping : Chomping
  increment : Nat
deriving DecidableEq, Repr

def chomping? : Char → Option Chomping
  | '+' => some .keep
  | '-' => some .strip
  | _ => none

/-- A digit from one to nine; a zero is refused by `none`. -/
def increment? (cursor : Cursor) : Option (Nat × Cursor) :=
  match cursor.peek? with
  | some character =>
      if character == '0' then none
      else if character.isDigit then some (character.toNat - '0'.toNat, cursor.advance 1)
      else some (0, cursor)
  | none => some (0, cursor)

def chomping (cursor : Cursor) : Option Chomping × Cursor :=
  match cursor.peek?.bind chomping? with
  | some found => (some found, cursor.advance 1)
  | none => (none, cursor)

/-- Reads the header behind the block indicator: chomping and indentation in either order, then
nothing but a comment. The cursor is at the start of the next line. -/
def header (cursor : Cursor) : Option (Header × Cursor) := do
  let (first, behindFirst) := chomping cursor
  let (increment, behindIncrement) ← increment? behindFirst
  let (second, behindSecond) :=
    if first.isNone && increment != 0 then chomping behindIncrement else (none, behindIncrement)
  let blanks := behindSecond.skip isSpaceOrTab
  let behind := if blanks.sees '#' then blanks.skipLine else blanks
  if behind.atEnd || behind.seesLineBreak then
    some (⟨(first.or second).getD .clip, increment⟩, behind.nextLine)
  else none

/-- Empty lines before a line of text: their breaks, the widest indentation met and where the
line of text begins. -/
structure EmptyLines where
  breaks : List Char
  widest : Nat
  cursor : Cursor

/-- Goes over indentation and empty lines. An indent of zero admits any indentation. A tab where
indentation is expected is refused. -/
def emptyLinesFrom (indent : Nat) :
    (fuel : Nat) → (breaks : List Char) → (widest : Nat) → Cursor → Option EmptyLines
  | 0, breaks, widest, cursor => some ⟨breaks, widest, cursor⟩
  | fuel + 1, breaks, widest, cursor =>
      let spaces := (cursor.run (· == ' ')).length
      let eaten := if indent == 0 then spaces else min spaces (indent - cursor.column)
      let behind := cursor.advance eaten
      let wider := max widest behind.column
      if (indent == 0 || behind.column < indent) && behind.sees '\t' then none
      else if behind.seesLineBreak then
        emptyLinesFrom indent fuel (breaks ++ behind.breakText) wider behind.nextLine
      else some ⟨breaks, wider, behind⟩

/-- Goes over indentation and empty lines. -/
def emptyLines (indent : Nat) (cursor : Cursor) : Option EmptyLines :=
  emptyLinesFrom indent (cursor.rest.length + 1) [] 0 cursor

/-- The part of a block text read so far and the line breaks that are not yet written. -/
structure Reading where
  content : List Char
  lineBreak : List Char
  emptyBreaks : List Char
  blankLed : Bool
  cursor : Cursor

/-- Reads lines as long as they are indented as the text is. -/
def linesFrom (folded : Bool) (indent : Nat) : (fuel : Nat) → Reading → Option Reading
  | 0, reading => some reading
  | fuel + 1, reading =>
      let cursor := reading.cursor
      if cursor.column = indent && !cursor.atEnd then do
        let blank := cursor.seesSpaceOrTab
        let joins := folded && reading.lineBreak == ['\n'] && !reading.blankLed && !blank
        let between :=
          if joins then
            (if reading.emptyBreaks.isEmpty then [' '] else []) ++ reading.emptyBreaks
          else reading.lineBreak ++ reading.emptyBreaks
        let line := cursor.run (fun character => !isLineBreak character)
        let lineEnd := cursor.advance line.length
        let empty ← emptyLines indent lineEnd.nextLine
        linesFrom folded indent fuel
          ⟨reading.content ++ between ++ line, lineEnd.breakText, empty.breaks, blank,
            empty.cursor⟩
      else some reading

/-- Reads a block text from its indicator on. `parentIndent` is the indentation of the block
around it, none at the top. -/
def read (folded : Bool) (parentIndent : Option Nat) (cursor : Cursor) :
    Option (List Char × Cursor) := do
  let (head, start) ← header (cursor.advance 1)
  let given := if head.increment = 0 then 0 else parentIndent.getD 0 + head.increment
  let empty ← emptyLines given start
  let least := match parentIndent with
    | some parent => parent + 1
    | none => 0
  let indent := if given = 0 then max (max empty.widest least) 1 else given
  let reading ← linesFrom folded indent (start.rest.length + 1)
    ⟨[], [], empty.breaks, false, empty.cursor⟩
  let final := match head.chomping with
    | .strip => []
    | .clip => reading.lineBreak
    | .keep => reading.lineBreak ++ reading.emptyBreaks
  some (reading.content ++ final, reading.cursor)

end SlideDeck.Yaml.BlockText
