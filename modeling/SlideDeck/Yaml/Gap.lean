import SlideDeck.Yaml.Cursor

/-!
Contract: the white space between two pieces of a flowing text.

Within a line the white space is kept as it is. Over line breaks it is folded: one break is a
space, and of several breaks all but the first are kept. A first break that is a line or
paragraph separator is never folded.

Owns:
- `Gap` and its text;
- `Gap.read`, which goes over spaces, tabs and line breaks.
-/

namespace SlideDeck.Yaml

/-- White space between two pieces of text. -/
structure Gap where
  broken : Bool
  blanks : List Char
  firstBreak : List Char
  laterBreaks : List Char
deriving DecidableEq, Repr

namespace Gap

def none : Gap := ⟨false, [], [], []⟩

/-- A line break that is written in the source but taken back by an escape. -/
def escapedBreak : Gap := ⟨true, [], [], []⟩

def text (gap : Gap) : List Char :=
  if gap.broken then
    if gap.firstBreak = ['\n'] then
      if gap.laterBreaks.isEmpty then [' '] else gap.laterBreaks
    else gap.firstBreak ++ gap.laterBreaks
  else gap.blanks

/-- Reads spaces, tabs and line breaks. A tab left of `indent` on a line of its own makes the
text unreadable. -/
def readFrom (indent : Nat) : (fuel : Nat) → Gap → Cursor → Option (Gap × Cursor)
  | 0, gap, cursor => some (gap, cursor)
  | fuel + 1, gap, cursor =>
      match cursor.peek? with
      | some character =>
          if isSpaceOrTab character then
            if gap.broken && cursor.column < indent && character == '\t' then Option.none
            else
              let blanks := if gap.broken then gap.blanks else gap.blanks ++ [character]
              readFrom indent fuel { gap with blanks := blanks } (cursor.advance 1)
          else if isLineBreak character then
            let next : Gap :=
              if gap.broken then
                { gap with laterBreaks := gap.laterBreaks ++ cursor.breakText }
              else ⟨true, [], cursor.breakText, []⟩
            readFrom indent fuel next cursor.nextLine
          else some (gap, cursor)
      | Option.none => some (gap, cursor)

def read (indent : Nat) (gap : Gap) (cursor : Cursor) : Option (Gap × Cursor) :=
  readFrom indent cursor.rest.length gap cursor

end Gap

end SlideDeck.Yaml
