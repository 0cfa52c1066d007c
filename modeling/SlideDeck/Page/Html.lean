import SlideDeck.Markup.Slide
import SlideDeck.Page.Script
import SlideDeck.Text.Escape

/-!
Contract: the page of a deck.

Settings of the deck and of the configuration are escaped in the head of the page; slides and
navigation labels are written as they are.

Owns:
- `Config` and its default;
- the head, the body and the whole page;
- the refusal of a deck without slides.
-/

namespace SlideDeck.Page

open SlideDeck.Markup (SlideFailure element line openTag closeTag present)
open SlideDeck.Text (escape)

/-- How pages are built. -/
structure Config where
  stylesheet : String
  defaultLang : String
  defaultCodeTheme : String
  highlight : Bool
  isolateFailures : Bool
  previousLabel : String
  nextLabel : String
deriving DecidableEq, Repr

/-- The configuration when nothing else is asked for. -/
def Config.default : Config where
  stylesheet := "presentation.css"
  defaultLang := "es"
  defaultCodeTheme := "github-dark"
  highlight := true
  isolateFailures := false
  previousLabel := "← Anterior"
  nextLabel := "Siguiente →"

/-- Why a deck has no page. -/
inductive PageError where
  | empty
  | slide (failure : SlideFailure)
deriving DecidableEq, Repr

def PageError.message : PageError → String
  | empty => "presentation has no slides"
  | slide failure => failure.message

def highlighterBase : String :=
  "https://cdnjs.cloudflare.com/ajax/libs/highlight.js/11.9.0"

/-- A line of the page at a depth of indentation. -/
def indented (depth : Nat) (text : String) : String :=
  String.join (List.replicate depth "    ") ++ line text

def stylesheetLink (address : String) : String :=
  indented 1 (openTag "link" [("rel", "stylesheet"), ("href", address)])

def highlighter (theme : String) : String :=
  stylesheetLink (highlighterBase ++ "/styles/" ++ escape theme ++ ".min.css") ++
    indented 1 (element "script" [("src", highlighterBase ++ "/highlight.min.js")] "")

/-- The page up to the end of its head. -/
def head (deck : Deck) (config : Config) : String :=
  line "<!DOCTYPE html>" ++
    line (openTag "html" [("lang", escape (deck.lang.getD config.defaultLang))]) ++
    line (openTag "head" []) ++
    indented 1 (openTag "meta" [("charset", "UTF-8")]) ++
    indented 1 (openTag "meta"
      [("name", "viewport"), ("content", "width=device-width, initial-scale=1.0")]) ++
    indented 1 (element "title" [] (escape (deck.title.getD ""))) ++
    stylesheetLink (escape config.stylesheet) ++
    ((present deck.theme).elim "" fun theme => stylesheetLink (escape theme ++ ".css")) ++
    (if config.highlight then highlighter (deck.codeTheme.getD config.defaultCodeTheme) else "") ++
    line (closeTag "head")

/-- A navigation button that goes on by a step. -/
def button (identifier step label : String) : String :=
  indented 2 (element "button"
    [("id", identifier), ("onclick", "changeSlide(" ++ step ++ ")")] label)

/-- A part of the page between its tags, with an empty line behind it. -/
def part (attributes : List (String × String)) (body : String) : String :=
  indented 1 (openTag "div" attributes) ++ body ++ indented 1 (closeTag "div") ++ "\n"

def body (slides : List String) (config : Config) : String :=
  line (openTag "body" []) ++
    indented 1 (element "div" [("class", "progress-bar"), ("id", "progressBar")] "") ++ "\n" ++
    part [("class", "slide-container")] ("\n".intercalate slides) ++
    part [("class", "slide-number")]
      (indented 2 (element "span" [("id", "current")] "1" ++ " / " ++
        element "span" [("id", "total")] (toString slides.length))) ++
    part [("class", "navigation")]
      (button "prev" "-1" config.previousLabel ++ button "next" "1" config.nextLabel) ++
    indented 1 (element "script" [] (navigationScript ++ "    ")) ++
    line (closeTag "body") ++
    line (closeTag "html")

def slides (deck : Deck) (config : Config) : Except SlideFailure (List String) :=
  Markup.slides deck config.isolateFailures

def page (deck : Deck) (config : Config) : Except PageError String :=
  if deck.slides.isEmpty then .error .empty
  else
    match slides deck config with
    | .ok texts => .ok (head deck config ++ body texts config)
    | .error failure => .error (.slide failure)

end SlideDeck.Page
