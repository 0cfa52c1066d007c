import SlideDeck.Yaml.PlainValue

/-!
Contract: the written forms of a text in block-style YAML.

A text is written plain where that reads back as the same string, else in single quotes, else in
double quotes with escapes. A text with newlines is written as a literal block where that keeps
it.

Owns:
- `Survey`, what a text contains that rules out some forms;
- `TextForm` and its choice;
- the characters written in each form.

Does not own: where a text stands in a document.
-/

namespace SlideDeck.Yaml

/-- The written forms of a text. -/
inductive TextForm where
  | plain
  | singleQuoted
  | doubleQuoted
  | literal
deriving DecidableEq, Repr

namespace WrittenText

/-- Characters that are written as they are; all others need an escape. -/
def isShown (character : Char) : Bool :=
  let point := character.toNat
  point == 0x0A || (0x20 ≤ point && point ≤ 0x7E) || (0xA0 ≤ point && point ≤ 0xD7FF) ||
    (0xE000 ≤ point && point ≤ 0xFFFD && point != 0xFEFF) || 0x10000 ≤ point

/-- What a text contains. -/
structure Survey where
  indicators : Bool
  lineBreaks : Bool
  hiddenCharacters : Bool
  outerSpace : Bool
  trailingSpace : Bool
  spaceBeforeBreak : Bool
  spaceAfterBreak : Bool
deriving DecidableEq, Repr

/-- Whether a test holds of some character and the one behind it. -/
def anyPair (test : Char → Char → Bool) : List Char → Bool
  | first :: second :: rest => test first second || anyPair test (second :: rest)
  | _ => false

/-- Characters that cannot begin a plain text in any position. -/
def beginsReserved (character : Char) : Bool :=
  ['#', ',', '[', ']', '{', '}', '&', '*', '!', '|', '>', '\'', '"', '%', '@', '\x60'].contains
    character

/-- Whether a plain text would be taken for something else in a block. -/
def hasIndicators (text : List Char) : Bool :=
  let start := text.take 3
  let followed (rest : List Char) : Bool := rest.head?.all isSeparator
  let first := match text with
    | [] => false
    | character :: rest =>
        beginsReserved character || (['?', ':', '-'].contains character && followed rest)
  start == ['-', '-', '-'] || start == ['.', '.', '.'] || first ||
    text.getLast? == some ':' ||
    anyPair (fun character next => character == ':' && isSeparator next) text ||
    anyPair (fun previous character => isSeparator previous && character == '#') text

def survey (text : List Char) : Survey :=
  let ends (test : Char → Bool) : Bool := text.head?.any test || text.getLast?.any test
  { indicators := hasIndicators text
    lineBreaks := text.any isLineBreak
    hiddenCharacters := text.any fun character => !isShown character
    outerSpace := ends fun character => character == ' ' || isLineBreak character
    trailingSpace := text.getLast? == some ' '
    spaceBeforeBreak := anyPair (fun left right => left == ' ' && isLineBreak right) text
    spaceAfterBreak := anyPair (fun left right => isLineBreak left && right == ' ') text }

namespace Survey

def allowsPlain (survey : Survey) : Bool :=
  !survey.indicators && !survey.lineBreaks && !survey.hiddenCharacters && !survey.outerSpace

def allowsSingleQuotes (survey : Survey) : Bool :=
  !survey.spaceAfterBreak && !survey.spaceBeforeBreak && !survey.hiddenCharacters

def allowsLiteral (survey : Survey) : Bool :=
  !survey.trailingSpace && !survey.spaceBeforeBreak && !survey.hiddenCharacters

end Survey

/-- Whether a text without quotes would be read as something else than a string, or is a row of
digits that only looks like a number. -/
def needsQuotes (text : String) : Bool :=
  match PlainValue.read text with
  | some (.string _) => PlainValue.hasLeadingZero text.toList
  | _ => true

def stringForm (text : String) : TextForm :=
  let characters := text.toList
  let found := survey characters
  if characters.contains '\n' then
    if found.allowsLiteral then .literal else .doubleQuoted
  else if !needsQuotes text && found.allowsPlain then .plain
  else if found.allowsSingleQuotes then .singleQuoted
  else .doubleQuoted

def spaces (count : Nat) : List Char :=
  List.replicate count ' '

/-- Writes each line behind an indentation; `fresh` says that a line has just begun. -/
def indentLines (indent : Nat) (double : Char → List Char) : (fresh : Bool) → List Char → List Char
  | _, [] => []
  | fresh, character :: rest =>
      if isLineBreak character then character :: indentLines indent double true rest
      else
        (if fresh then spaces indent else []) ++ double character ++
          indentLines indent double false rest

/-- A text in single quotes; a quote inside is doubled. -/
def singleQuoted (indent : Nat) (text : List Char) : List Char :=
  let double (character : Char) : List Char :=
    if character == '\'' then ['\'', '\''] else [character]
  let closing := if text.getLast?.any isLineBreak then spaces indent else []
  '\'' :: indentLines indent double false text ++ closing ++ ['\'']

/-- The digits of a number in upper-case hexadecimal, filled up with zeros. -/
def upperHex (width value : Nat) : List Char :=
  let digits := (Nat.toDigits 16 value).map Char.toUpper
  List.replicate (width - digits.length) '0' ++ digits

/-- What is written for a character between double quotes. -/
def escape (character : Char) : List Char :=
  match character with
  | '\x00' => ['\\', '0']
  | '\x07' => ['\\', 'a']
  | '\x08' => ['\\', 'b']
  | '\t' => ['\\', 't']
  | '\n' => ['\\', 'n']
  | '\x0b' => ['\\', 'v']
  | '\x0c' => ['\\', 'f']
  | '\r' => ['\\', 'r']
  | '\x1b' => ['\\', 'e']
  | '"' => ['\\', '"']
  | '\\' => ['\\', '\\']
  | '\u0085' => ['\\', 'N']
  | '\u2028' => ['\\', 'L']
  | '\u2029' => ['\\', 'P']
  | _ =>
      if isShown character then [character]
      else
        let point := character.toNat
        if point ≤ 0xFF then '\\' :: 'x' :: upperHex 2 point
        else if point ≤ 0xFFFF then '\\' :: 'u' :: upperHex 4 point
        else '\\' :: 'U' :: upperHex 8 point

def doubleQuoted (text : List Char) : List Char :=
  '"' :: text.flatMap escape ++ ['"']

/-- The marks behind the bar of a literal block: an indentation when the text begins with a space
or a break, and how its final line breaks are to be read. -/
def literalHints (text : List Char) : List Char :=
  let indentation :=
    if text.head?.any (fun character => character == ' ' || isLineBreak character) then ['2']
    else []
  let chomping := match text.reverse with
    | [] => ['-']
    | [last] => if isLineBreak last then ['+'] else ['-']
    | last :: previous :: _ =>
        if !isLineBreak last then ['-'] else if isLineBreak previous then ['+'] else []
  indentation ++ chomping

def literal (indent : Nat) (text : List Char) : List Char :=
  '|' :: literalHints text ++ '\n' :: indentLines indent (fun character => [character]) true text

/-- A text in a given form; further lines are indented. -/
def write (form : TextForm) (indent : Nat) (text : List Char) : List Char :=
  match form with
  | .plain => text
  | .singleQuoted => singleQuoted indent text
  | .doubleQuoted => doubleQuoted text
  | .literal => literal indent text

end WrittenText

end SlideDeck.Yaml
