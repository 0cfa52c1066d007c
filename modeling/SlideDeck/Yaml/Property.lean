import SlideDeck.Yaml.Token

/-!
Contract: the tokens that name something: anchors and references to them, tags and directives.

Owns:
- anchors, references, tags, and the two directives.

Does not own: the reading of addresses, and what a tag handle stands for.
-/

namespace SlideDeck.Yaml

/-- Reads the name of an anchor or a reference behind its indicator. -/
def readAnchorName (cursor : Cursor) : Option (String × Cursor) :=
  let start := cursor.advance 1
  let name := start.run isNameCharacter
  let behind := start.advance name.length
  let ends := behind.separatorAt 0 ||
    behind.peek?.any ['?', ':', ',', ']', '}', '%', '@', '\x60'].contains
  if name.isEmpty || !ends then none else some (String.ofList name, behind)

/-- Reads a tag handle: an exclamation mark, a name and, if it comes, a closing mark. -/
def readTagHandle (cursor : Cursor) : Option (List Char × Cursor) :=
  if cursor.sees '!' then
    let name := (cursor.advance 1).run isNameCharacter
    let behind := cursor.advance (name.length + 1)
    if behind.sees '!' then some ('!' :: name ++ ['!'], behind.advance 1)
    else some ('!' :: name, behind)
  else none

/-- Reads handle and suffix of a tag. A tag between angle brackets has an empty handle, and so
has the lone exclamation mark, whose suffix it is itself. -/
def readTagParts (cursor : Cursor) : Option (String × Address × Cursor) :=
  if cursor.rest[1]? == some '<' then do
    let (suffix, behind) ← Address.read true (cursor.advance 2)
    if suffix.isEmpty || !behind.sees '>' then none
    else some ("", suffix.untilNull, behind.advance 1)
  else do
    let (handle, start) ← readTagHandle cursor
    let (address, behind) ← Address.read false start
    if handle.length > 1 && handle.getLast? == some '!' then
      if address.isEmpty then none
      else some (String.ofList handle, address.untilNull, behind)
    else
      let suffix := (Address.ofText (handle.drop 1) ++ address).untilNull
      if suffix.isEmpty then some ("", Address.ofText ['!'], behind)
      else some ("!", suffix, behind)

/-- Reads a tag; a separator follows it, or a comma in a flow collection. -/
def readTag (inFlow : Bool) (cursor : Cursor) : Option (Token × Cursor) := do
  let (handle, suffix, behind) ← readTagParts cursor
  if behind.separatorAt 0 || (inFlow && behind.sees ',') then
    some (.tag handle suffix, behind)
  else none

namespace Directive

/-- Reads a number of at most nine digits. -/
def number (cursor : Cursor) : Option (Nat × Cursor) :=
  let digits := cursor.run Char.isDigit
  if digits.isEmpty || digits.length > 9 then none
  else
    some (digits.foldl (fun value digit => value * 10 + (digit.toNat - '0'.toNat)) 0,
      cursor.advance digits.length)

def version (cursor : Cursor) : Option (Token × Cursor) := do
  let (major, behindMajor) ← number (cursor.skip isSpaceOrTab)
  if behindMajor.sees '.' then
    let (minor, behind) ← number (behindMajor.advance 1)
    some (.version major minor, behind)
  else none

/-- Reads a handle and the address it stands for. -/
def tagHandle (cursor : Cursor) : Option (Token × Cursor) := do
  let (handle, behindHandle) ← readTagHandle (cursor.skip isSpaceOrTab)
  if (handle == ['!'] || handle.getLast? == some '!') && behindHandle.seesSpaceOrTab then
    let (address, behind) ← Address.read true (behindHandle.skip isSpaceOrTab)
    if address.isEmpty || !behind.separatorAt 0 then none
    else some (.tagHandle (String.ofList handle) address.untilNull, behind)
  else none

/-- Reads a directive line. Only versions and tag handles are known. -/
def read (cursor : Cursor) : Option (Token × Cursor) := do
  let start := cursor.advance 1
  let name := start.run isNameCharacter
  let behindName := start.advance name.length
  if !behindName.separatorAt 0 then none
  else
    let (token, behind) ←
      if name = "YAML".toList then version behindName
      else if name = "TAG".toList then tagHandle behindName
      else none
    let blanks := behind.skip isSpaceOrTab
    let lineEnd := if blanks.sees '#' then blanks.skipLine else blanks
    if lineEnd.atEnd || lineEnd.seesLineBreak then some (token, lineEnd.nextLine) else none

end Directive

end SlideDeck.Yaml
