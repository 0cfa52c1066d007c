/-!
Contract: how elements are written.

Attribute values and bodies are markup already: they are written as they are, so that authors can
embed markup of their own. What has to be escaped is escaped by the caller.

Owns:
- opening tags and elements;
- blocks, each on a line of its own, and optional texts, where the empty text counts as absent.
-/

namespace SlideDeck.Markup

/-- An attribute, by name and value, with a space in front of it. -/
def attributeText (pair : String × String) : String :=
  " " ++ pair.1 ++ "=\"" ++ pair.2 ++ "\""

def openTag (name : String) (attributes : List (String × String)) : String :=
  "<" ++ name ++ String.join (attributes.map attributeText) ++ ">"

def closeTag (name : String) : String :=
  "</" ++ name ++ ">"

def element (name : String) (attributes : List (String × String)) (body : String) : String :=
  openTag name attributes ++ body ++ closeTag name

def classed (name className body : String) : String :=
  element name [("class", className)] body

def styled (name style body : String) : String :=
  element name [("style", style)] body

def line (text : String) : String :=
  text ++ "\n"

/-- A block on lines of its own; an empty block takes no line. -/
def blockLine (text : String) : String :=
  if text.isEmpty then "" else line text

/-- An optional text, absent when it is empty. -/
def present (text : Option String) : Option String :=
  text.filter fun content => !content.isEmpty

/-- What is written for a text that is neither absent nor empty. -/
def whenPresent (text : Option String) (write : String → String) : String :=
  match present text with
  | some content => write content
  | none => ""

end SlideDeck.Markup
