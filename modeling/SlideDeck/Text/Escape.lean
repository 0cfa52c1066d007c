/-!
Contract: the character references that keep a text from being read as markup.

Owns:
- the reference written for each of the five metacharacters;
- `encode`, which replaces every metacharacter by its reference.

Does not own: which texts of a page are encoded and which are trusted markup.
-/

namespace SlideDeck.Text.Escape

/-- What is written for one character: a reference for a metacharacter, else the character. -/
def reference : Char → List Char
  | '&' => ['&', 'a', 'm', 'p', ';']
  | '<' => ['&', 'l', 't', ';']
  | '>' => ['&', 'g', 't', ';']
  | '"' => ['&', 'q', 'u', 'o', 't', ';']
  | '\'' => ['&', '#', '0', '3', '9', ';']
  | other => [other]

def encode (text : List Char) : List Char :=
  text.flatMap reference

@[simp] theorem encode_nil : encode [] = [] := rfl

@[simp] theorem encode_cons (head : Char) (tail : List Char) :
    encode (head :: tail) = reference head ++ encode tail := by
  simp [encode]

theorem encode_append (left right : List Char) :
    encode (left ++ right) = encode left ++ encode right := by
  simp [encode]

end SlideDeck.Text.Escape

namespace SlideDeck.Text

/-- The text with its five metacharacters written as references. -/
def escape (text : String) : String :=
  String.ofList (Escape.encode text.toList)

end SlideDeck.Text
