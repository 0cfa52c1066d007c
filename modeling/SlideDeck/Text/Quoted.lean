import SlideDeck.Text.Hidden

/-!
Contract: a text shown in double quotes in a message.

Quotes, backslashes and the usual control characters are escaped by a backslash; every other
character that shows nothing of its own is written by its code point in braces.
-/

namespace SlideDeck.Text.Quoted

/-- The digits of a code point in braces behind `\u`. -/
def byCodePoint (character : Char) : List Char :=
  ['\\', 'u', '\x7b'] ++ Nat.toDigits 16 character.toNat ++ ['\x7d']

def escape (character : Char) : List Char :=
  match character with
  | '\x00' => ['\\', '0']
  | '\t' => ['\\', 't']
  | '\r' => ['\\', 'r']
  | '\n' => ['\\', 'n']
  | '"' => ['\\', '"']
  | '\\' => ['\\', '\\']
  | _ => if isHidden character then byCodePoint character else [character]

def encode (text : String) : String :=
  String.ofList ('"' :: text.toList.flatMap escape ++ ['"'])

end SlideDeck.Text.Quoted
