import SlideDeck.Markup.Element
import SlideDeck.Text.Blank
import SlideDeck.Text.Escape
import SlideDeck.Text.Span

/-!
Contract: the inline formatting of texts.

A text may hold fenced code, code spans, bold spans and newlines; everything else passes through.
Fenced code is rendered first and a placeholder put in its place, so that no later rule reaches
into it; then code spans, bold spans and newlines are replaced, each in a pass of its own over the
whole text; at last every placeholder with the number of a block is replaced by the block.

Owns:
- the patterns of fences and placeholders, and the numerals in placeholders;
- the passes and `formatText`;
- `codeBlock`, the only place where text is escaped here.
-/

namespace SlideDeck.Markup

open SlideDeck.Text (Pattern)

def defaultLanguage : String := "plaintext"

/-- A block of code with its language; the code is escaped. -/
def codeBlock (language code : String) : String :=
  element "pre" [] (classed "code" ("language-" ++ language) (Text.escape code))

namespace Inline

def backtick : Char := '\x60'

def placeholderMark : Char := '\x01'

/-- ASCII letters, digits and the underscore, of which names of languages consist. -/
def isWordCharacter (character : Char) : Bool :=
  character.isAlphanum || character == '_'

/-- Fenced code: the language, empty when none is named, and the text between the fences. -/
structure Fence where
  language : List Char
  body : List Char
deriving DecidableEq, Repr

/-- The text up to the first three backticks, if there are any. -/
def untilFence : List Char → Option (List Char)
  | [] => none
  | '\x60' :: '\x60' :: '\x60' :: _ => some []
  | character :: rest => (untilFence rest).map (character :: ·)

/-- A fence: three backticks, perhaps a language, a newline, and the text up to the next three
backticks. -/
def fence : Pattern Char Fence
  | '\x60' :: '\x60' :: '\x60' :: rest =>
      let language := rest.takeWhile isWordCharacter
      match rest.dropWhile isWordCharacter with
      | '\n' :: behind =>
          (untilFence behind).map fun body =>
            ⟨⟨language, body⟩, 3 + language.length + 1 + body.length + 3⟩
      | _ => none
  | _ => none

/-- The decimal digits of a number, at least one. -/
structure Numeral where
  digits : List Char
  nonempty : digits ≠ []
  decimal : ∀ digit ∈ digits, digit.isDigit = true
deriving DecidableEq, Repr

namespace Numeral

def ofNat (number : Nat) : Numeral :=
  ⟨Nat.toDigits 10 number, Nat.toDigits_ne_nil, fun _ member =>
    Nat.isDigit_of_mem_toDigits (by decide) (by decide) member⟩

/-- Reads digits and nothing else. -/
def ofDigits? (digits : List Char) : Option Numeral :=
  if valid : digits ≠ [] ∧ digits.all Char.isDigit = true then
    some ⟨digits, valid.1, List.all_eq_true.mp valid.2⟩
  else none

def value (numeral : Numeral) : Nat :=
  Nat.ofDigitChars 10 numeral.digits 0

end Numeral

/-- The letters in front of the number in a placeholder. -/
def placeholderLetters : List Char := "CODEBLOCK".toList

def placeholderOf (numeral : Numeral) : List Char :=
  placeholderMark :: (placeholderLetters ++ (numeral.digits ++ [placeholderMark]))

def placeholder : Pattern Char Numeral
  | '\x01' :: rest =>
      if rest.take placeholderLetters.length = placeholderLetters then
        let digits := (rest.drop placeholderLetters.length).takeWhile Char.isDigit
        match Numeral.ofDigits? digits,
          (rest.drop placeholderLetters.length).dropWhile Char.isDigit with
        | some numeral, '\x01' :: _ =>
            some ⟨numeral, placeholderLetters.length + digits.length + 2⟩
        | _, _ => none
      else none
  | _ => none

/-- The code block of a fence: its body without white space at the ends, under its language. -/
def Fence.render (fence : Fence) : List Char :=
  let language :=
    if fence.language.isEmpty then defaultLanguage else String.ofList fence.language
  (codeBlock language (String.ofList (Text.trim fence.body))).toList

/-- The code blocks of the fences in a text, in order. -/
def blocks (text : List Char) : List (List Char) :=
  (Text.values (fence.segments text)).map Fence.render

/-- The text of segments with the fences numbered from `next` on. -/
def withPlaceholders (next : Nat) : List (Text.Segment Char Fence) → List Char
  | [] => []
  | .kept character :: segments => character :: withPlaceholders next segments
  | .occurrence _ :: segments =>
      placeholderOf (.ofNat next) ++ withPlaceholders (next + 1) segments

def extract (text : List Char) : List Char :=
  withPlaceholders 0 (fence.segments text)

/-- Writes every code span as an element: a run between backticks, which is not escaped. -/
def writeCodeSpans : List Char → List Char :=
  Text.wrapSpans (· == backtick) 1 "<code>".toList "</code>".toList

/-- Writes every bold span as an element: a run between two asterisks on either side. -/
def writeBoldSpans : List Char → List Char :=
  Text.wrapSpans (· == '*') 2 "<strong>".toList "</strong>".toList

def writeLineBreaks : List Char → List Char :=
  Text.replaceMarks (· == '\n') "<br>".toList

/-- The rules for code spans, bold spans and newlines, in this order. -/
def markUp (text : List Char) : List Char :=
  writeLineBreaks (writeBoldSpans (writeCodeSpans text))

/-- The block with a number, or the placeholder itself where there is no such block. -/
def resolve (blocks : List (List Char)) (numeral : Numeral) : List Char :=
  blocks.getD numeral.value (placeholderOf numeral)

/-- Replaces every placeholder that has the number of a block by the block. -/
def restore (blocks : List (List Char)) : List Char → List Char :=
  placeholder.replaceEach (resolve blocks)

def format (text : List Char) : List Char :=
  restore (blocks text) (markUp (extract text))

end Inline

def formatText (text : String) : String :=
  String.ofList (Inline.format text.toList)

end SlideDeck.Markup
