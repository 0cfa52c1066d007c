import SlideDeck.Markup.Layout

/-!
Contract: the markup of slides, which is one element each, and of a whole deck of them.

Owns:
- the transition of a slide: its own, else that of the deck, else the default;
- slides, and the slides put in the place of ones that cannot be rendered;
- the rendering of all slides under either policy for failures.
-/

namespace SlideDeck.Markup

open SlideDeck.Deck (Slide)

/-- The transition of slides when neither they nor the deck name one. -/
def defaultTransition : String := "fade"

def transition (slide : Slide) (deckTransition : Option String) : String :=
  ((present slide.transition).or (present deckTransition)).getD defaultTransition

def transitionClass (name : String) : String :=
  if name = "none" then "no-transition" else "transition-" ++ name

/-- The element of a slide. The first slide is the active one. -/
def frame (slide : Slide) (index : Nat) (deckTransition : Option String) (mark body : String) :
    String :=
  let name := transition slide deckTransition
  let active := if index = 0 then " active" else ""
  line (element "div"
    [("class", "slide" ++ active ++ mark ++ " " ++ transitionClass name),
      ("data-transition", name)]
    ("\n" ++ body))

def slide (slide : Slide) (index : Nat) (deckTransition : Option String) : Rendering String := do
  return frame slide index deckTransition "" (← layout slide)

/-- A slide that cannot be rendered, by its number from one on. -/
structure SlideFailure where
  number : Nat
  cause : Missing
deriving DecidableEq, Repr

/-- The message about a slide that cannot be rendered. -/
def SlideFailure.message (failure : SlideFailure) : String :=
  "slide " ++ toString failure.number ++ ": " ++ failure.cause.message

/-- The slide that takes the place of one that cannot be rendered. It keeps place and
transition. -/
def failureSlide (slide : Slide) (index : Nat) (deckTransition : Option String)
    (failure : SlideFailure) : String :=
  frame slide index deckTransition " slide-error"
    (line (element "h2" []
        ("Slide " ++ toString (index + 1) ++ " could not be rendered")) ++
      box "content" (line (codeBlock defaultLanguage failure.message)))

/-- One slide of a deck, or why it cannot be rendered. -/
def slideOrFailure (slide : Slide) (index : Nat) (deckTransition : Option String) :
    Except SlideFailure String :=
  match Markup.slide slide index deckTransition with
  | .ok text => .ok text
  | .error missing => .error ⟨index + 1, missing⟩

/-- The slides from an index on. Where failures are isolated each is replaced; else the first one
ends the rendering. -/
def slidesFrom (isolate : Bool) (deckTransition : Option String) :
    (index : Nat) → List Slide → Except SlideFailure (List String)
  | _, [] => .ok []
  | index, first :: others => do
      let text ←
        match slideOrFailure first index deckTransition with
        | .ok text => .ok text
        | .error failure =>
            if isolate then .ok (failureSlide first index deckTransition failure)
            else .error failure
      let texts ← slidesFrom isolate deckTransition (index + 1) others
      return text :: texts

def slides (deck : SlideDeck.Deck) (isolate : Bool) : Except SlideFailure (List String) :=
  slidesFrom isolate deck.transition 0 deck.slides

end SlideDeck.Markup
