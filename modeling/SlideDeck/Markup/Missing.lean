/-!
Contract: the fields without which a layout cannot be rendered.
-/

namespace SlideDeck.Markup

/-- A field that is absent and cannot be done without. -/
inductive Missing where
  | listItems
  | image
  | galleryImages
  | gridItems
  | timelineItems
  | tableHeaders
  | tableRows
deriving DecidableEq, Repr

namespace Missing

def owner : Missing → String
  | listItems => "list"
  | image | galleryImages => "image slide"
  | gridItems => "grid slide"
  | timelineItems => "timeline slide"
  | tableHeaders | tableRows => "table slide"

def field : Missing → String
  | listItems | gridItems | timelineItems => "items"
  | image => "image"
  | galleryImages => "images"
  | tableHeaders => "headers"
  | tableRows => "rows"

/-- The message about a missing field. -/
def message (missing : Missing) : String :=
  missing.owner ++ " is missing required field `" ++ missing.field ++ "`"

end Missing

/-- Rendering, which fails when a field is missing. -/
abbrev Rendering := Except Missing

def required {α : Type} (field : Option α) (missing : Missing) : Rendering α :=
  match field with
  | some value => .ok value
  | none => .error missing

end SlideDeck.Markup
