import SlideDeck.Yaml.BlockText
import SlideDeck.Yaml.FlowText
import SlideDeck.Yaml.Property

/-!
Contract: the tokens of a whole source, in order.

A colon can turn the token before it into a mapping key. So a place where a key may have begun
is remembered, one for every open flow collection and one outside, and when its colon comes the
`key` token is put in front of it. Such a key ends on the line where it began and is at most
1024 bytes long.

Owns:
- `Scan`, the state of reading: cursor, tokens, open block collections, possible keys;
- `tokens?`, the tokens of a source, `none` when it has no reading as tokens.

Does not own: how tokens nest into nodes.
-/

namespace SlideDeck.Yaml

/-- A place where a mapping key may have begun. `required` holds for the first token of a line
of a block mapping, which cannot be anything else than a key. -/
structure PossibleKey where
  position : Nat
  required : Bool
  index : Nat
  line : Nat
  column : Nat
deriving DecidableEq, Repr

/-- The state of reading tokens. `blocks` are the columns of the open block collections and
`outerKeys` the possible keys outside the open flow collections, innermost first. -/
structure Scan where
  cursor : Cursor
  tokens : Array Token
  blocks : List Nat
  keyAllowed : Bool
  possibleKey : Option PossibleKey
  outerKeys : List (Option PossibleKey)
  finished : Bool

namespace Scan

def start (source : List Char) : Scan :=
  { cursor := Cursor.start source
    tokens := #[]
    blocks := []
    keyAllowed := true
    possibleKey := none
    outerKeys := []
    finished := false }

def inFlow (scan : Scan) : Bool :=
  !scan.outerKeys.isEmpty

/-- The least column at which a further line of a text continues it. -/
def textIndent (scan : Scan) : Nat :=
  match scan.blocks with
  | column :: _ => column + 1
  | [] => 0

def emit (scan : Scan) (token : Token) : Scan :=
  { scan with tokens := scan.tokens.push token }

def emitTo (scan : Scan) (token : Token) (cursor : Cursor) : Scan :=
  { scan with tokens := scan.tokens.push token, cursor := cursor }

/-- Goes over blanks, comments and line breaks to the next token. Tabs count as blanks only
where no key can begin. -/
def skipToToken : (fuel : Nat) → Scan → Scan
  | 0, scan => scan
  | fuel + 1, scan =>
      let cursor := scan.cursor
      let marked :=
        if cursor.column == 0 && cursor.sees byteOrderMark then cursor.advance 1 else cursor
      let tabs := scan.inFlow || !scan.keyAllowed
      let blanks := marked.skip (fun character => character == ' ' || (tabs && character == '\t'))
      let behind := if blanks.sees '#' then blanks.skipLine else blanks
      if behind.seesLineBreak then
        skipToToken fuel
          { scan with cursor := behind.nextLine, keyAllowed := scan.keyAllowed || !scan.inFlow }
      else { scan with cursor := behind }

/-- Forgets the possible key; a required one must not be forgotten. -/
def dropKey (scan : Scan) : Option Scan :=
  match scan.possibleKey with
  | some key => if key.required then none else some { scan with possibleKey := none }
  | none => some scan

/-- A possible key that its line or its length has ruled out. -/
def isStale (cursor : Cursor) (key : PossibleKey) : Bool :=
  key.line < cursor.line || key.index + 1024 < cursor.index

def dropStaleKeys (scan : Scan) : Option Scan :=
  let stale (key : Option PossibleKey) : Bool := key.any (isStale scan.cursor)
  let all := scan.possibleKey :: scan.outerKeys
  if all.any (fun key => stale key && key.any (·.required)) then none
  else
    let keep (key : Option PossibleKey) : Option PossibleKey := if stale key then none else key
    some { scan with possibleKey := keep scan.possibleKey, outerKeys := scan.outerKeys.map keep }

def saveKey (scan : Scan) : Option Scan :=
  if scan.keyAllowed then do
    let scan ← scan.dropKey
    let cursor := scan.cursor
    let key : PossibleKey :=
      { position := scan.tokens.size
        required := !scan.inFlow && scan.blocks.head? == some cursor.column
        index := cursor.index
        line := cursor.line
        column := cursor.column }
    some { scan with possibleKey := some key }
  else some scan

/-- Ends the block collections right of a column, or all of them. -/
def closeBlocks (scan : Scan) (column : Option Nat) : Scan :=
  if scan.inFlow then scan
  else
    let ends (block : Nat) : Bool := column.all (· < block)
    let closed := scan.blocks.takeWhile ends
    { scan with
      tokens := scan.tokens ++ closed.map (fun _ => Token.blockEnd)
      blocks := scan.blocks.dropWhile ends }

/-- Begins a block collection at a column, if none begins there or right of it; its token is put
at a position. -/
def openBlock (scan : Scan) (column position : Nat) (token : Token) : Scan :=
  if scan.inFlow then scan
  else if scan.blocks.head?.any (column ≤ ·) then scan
  else
    { scan with
      tokens := scan.tokens.insertIdxIfInBounds position token
      blocks := column :: scan.blocks }

/-- A token of one character, behind which a key may begin or not. -/
def emitIndicator (scan : Scan) (token : Token) (keyAllowed : Bool) : Scan :=
  { scan.emitTo token (scan.cursor.advance 1) with keyAllowed := keyAllowed }

/-- The end of the source: every block collection ends. -/
def finish (scan : Scan) : Option Scan := do
  let scan ← (scan.closeBlocks none).dropKey
  some { scan with finished := true }

def documentMarker (scan : Scan) (token : Token) : Option Scan := do
  let scan ← (scan.closeBlocks none).dropKey
  some { scan.emitTo token (scan.cursor.advance 3) with keyAllowed := false }

def directive (scan : Scan) : Option Scan := do
  let scan ← (scan.closeBlocks none).dropKey
  let (token, cursor) ← Directive.read scan.cursor
  some { scan.emitTo token cursor with keyAllowed := false }

def openFlow (scan : Scan) (token : Token) : Option Scan := do
  let scan ← scan.saveKey
  let scan := scan.emitIndicator token true
  some { scan with possibleKey := none, outerKeys := scan.possibleKey :: scan.outerKeys }

def closeFlow (scan : Scan) (token : Token) : Option Scan := do
  let scan ← scan.dropKey
  let scan := scan.emitIndicator token false
  match scan.outerKeys with
  | outer :: others => some { scan with possibleKey := outer, outerKeys := others }
  | [] => some scan

/-- A comma between the entries of a flow collection. -/
def flowEntry (scan : Scan) : Option Scan := do
  let scan ← scan.dropKey
  some (scan.emitIndicator .flowEntry true)

/-- A dash that begins an entry of a block sequence. -/
def blockEntry (scan : Scan) : Option Scan := do
  if !scan.inFlow && !scan.keyAllowed then none
  else
    let scan := scan.openBlock scan.cursor.column scan.tokens.size .blockSequenceStart
    let scan ← scan.dropKey
    some (scan.emitIndicator .blockEntry true)

def explicitKey (scan : Scan) : Option Scan := do
  if !scan.inFlow && !scan.keyAllowed then none
  else
    let scan := scan.openBlock scan.cursor.column scan.tokens.size .blockMappingStart
    let scan ← scan.dropKey
    some (scan.emitIndicator .key (!scan.inFlow))

/-- A colon that begins a value. It turns a possible key into a key. -/
def keyValue (scan : Scan) : Option Scan :=
  match scan.possibleKey with
  | some key =>
      let keyed := { scan with tokens := scan.tokens.insertIdxIfInBounds key.position .key }
      let opened := keyed.openBlock key.column key.position .blockMappingStart
      some { opened.emitIndicator .value false with possibleKey := none }
  | none =>
      if !scan.inFlow && !scan.keyAllowed then none
      else
        let opened := scan.openBlock scan.cursor.column scan.tokens.size .blockMappingStart
        some (opened.emitIndicator .value (!scan.inFlow))

def anchorOr (scan : Scan) (token : String → Token) : Option Scan := do
  let scan ← scan.saveKey
  let (name, cursor) ← readAnchorName scan.cursor
  some { scan.emitTo (token name) cursor with keyAllowed := false }

def tag (scan : Scan) : Option Scan := do
  let scan ← scan.saveKey
  let (token, cursor) ← readTag scan.inFlow scan.cursor
  some { scan.emitTo token cursor with keyAllowed := false }

def blockText (scan : Scan) (folded : Bool) : Option Scan := do
  let scan ← scan.dropKey
  let (content, cursor) ← BlockText.read folded scan.blocks.head? scan.cursor
  some { scan.emitTo (.text (String.ofList content) .quoted) cursor with keyAllowed := true }

def quotedText (scan : Scan) (double : Bool) : Option Scan := do
  let scan ← scan.saveKey
  let (content, cursor) ← QuotedText.read double scan.cursor
  some { scan.emitTo (.text (String.ofList content) .quoted) cursor with keyAllowed := false }

/-- A plain text. When a line break follows it a key may begin behind it. -/
def plainText (scan : Scan) : Option Scan := do
  let scan ← scan.saveKey
  let reading ← PlainText.read scan.inFlow scan.textIndent scan.cursor
  some
    { scan.emitTo (.text (String.ofList reading.content) .plain) reading.cursor with
      keyAllowed := reading.endsBroken }

/-- Whether a plain text begins with the next character. A dash, and in a block a question mark
or a colon, begins one when no separator follows. A tab that is no blank begins nothing. -/
def beginsPlain (scan : Scan) (character : Char) : Bool :=
  (!isSeparator character && !isIndicator character) ||
    (character == '-' && !(scan.cursor.rest[1]?.any isSpaceOrTab)) ||
    (!scan.inFlow && (character == '?' || character == ':') && !scan.cursor.separatorAt 1)

def step (scan : Scan) : Option Scan := do
  let scan := skipToToken (scan.cursor.rest.length + 1) scan
  let scan ← scan.dropStaleKeys
  let scan := scan.closeBlocks (some scan.cursor.column)
  let cursor := scan.cursor
  match cursor.peek? with
  | none => scan.finish
  | some character =>
      if cursor.column == 0 && character == '%' then scan.directive
      else if cursor.seesMarker '-' then scan.documentMarker .documentStart
      else if cursor.seesMarker '.' then scan.documentMarker .documentEnd
      else if character == '[' then scan.openFlow .flowSequenceStart
      else if character == '{' then scan.openFlow .flowMappingStart
      else if character == ']' then scan.closeFlow .flowSequenceEnd
      else if character == '}' then scan.closeFlow .flowMappingEnd
      else if character == ',' then scan.flowEntry
      else if character == '-' && cursor.separatorAt 1 then scan.blockEntry
      else if character == '?' && (scan.inFlow || cursor.separatorAt 1) then scan.explicitKey
      else if character == ':' && (scan.inFlow || cursor.separatorAt 1) then scan.keyValue
      else if character == '*' then scan.anchorOr .reference
      else if character == '&' then scan.anchorOr .anchor
      else if character == '!' then scan.tag
      else if character == '|' && !scan.inFlow then scan.blockText false
      else if character == '>' && !scan.inFlow then scan.blockText true
      else if character == '\'' then scan.quotedText false
      else if character == '"' then scan.quotedText true
      else if scan.beginsPlain character then scan.plainText
      else none

/-- Reads tokens up to the end of the source. -/
def run : (fuel : Nat) → Scan → Option (Array Token)
  | 0, _ => none
  | fuel + 1, scan => do
      let next ← scan.step
      if next.finished then some next.tokens else run fuel next

end Scan

/-- The tokens of a source, if it holds only allowed characters and every token can be read. -/
def tokens? (source : List Char) : Option (List Token) :=
  if source.all isAllowed then
    (Scan.run (source.length + 1) (Scan.start source)).map Array.toList
  else none

end SlideDeck.Yaml
