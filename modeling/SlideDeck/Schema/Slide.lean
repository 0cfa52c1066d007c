import SlideDeck.Deck.Slide
import SlideDeck.Schema.Content

/-!
Contract: the shapes of slides and of their layouts.

A slide is read twice: once for what all slides share, then for the layout that its type names.
So a mismatch in a shared field is reported before one in a field of the layout.

Owns:
- the records of all layouts;
- gallery images, which have two forms;
- slides.
-/

namespace SlideDeck.Schema

open SlideDeck.Deck
open SlideDeck.Yaml (Value)

def hero : Reader Hero :=
  record "HeroSlide"
    [.loose ["logo"] fun logo hero => { hero with logo },
      .loose ["titleSize", "title_size"] fun titleSize hero => { hero with titleSize }]
    ⟨none, none⟩

namespace GalleryForm

/-- The fields of a gallery image with texts, by key; a whole number stands for the field at that
place. `none` refuses the key, an inner `none` passes it over. -/
def field? : Value → Option (Option Nat)
  | .string "src" => some (some 0)
  | .string "alt" => some (some 1)
  | .string "caption" => some (some 2)
  | .string _ => some none
  | .integer place => if place < 0 then none else some (if place < 3 then some place.toNat else none)
  | _ => none

/-- What was read of a gallery image. -/
structure Partial where
  source : Option String
  alt : Option (Option String)
  caption : Option (Option String)

/-- Puts the value of a field; a field must not come twice and the path must be a string. -/
def put (image : Partial) (field : Nat) (value : Value) : Option Partial :=
  match field, value with
  | 0, .string source => if image.source.isSome then none else some { image with source := source }
  | 0, _ => none
  | 1, _ => if image.alt.isSome then none else some { image with alt := some (leaf value).text? }
  | _, _ =>
      if image.caption.isSome then none else some { image with caption := some (leaf value).text? }

def readEntries : Partial → List (Value × Value) → Option Partial
  | image, [] => some image
  | image, (key, value) :: entries =>
      match field? key with
      | none => none
      | some none => readEntries image entries
      | some (some field) => (put image field value).bind (readEntries · entries)

end GalleryForm

def detailedImage? (entries : List (Value × Value)) : Option GalleryImage := do
  let image ← GalleryForm.readEntries ⟨none, none, none⟩ entries
  let source ← image.source
  some (.detailed source (image.alt.getD none) (image.caption.getD none))

/-- Reads a gallery image, a path or a mapping with a path. No custom tag may occur in it. -/
def galleryImage : Reader GalleryImage := fun value =>
  if value.hasTag then .error .taggedImage
  else
    match value with
    | .string source => .ok (.bare source)
    | .mapping entries => (detailedImage? entries).elim (.error .noImageForm) .ok
    | _ => .error .noImageForm

def picture : Reader Picture :=
  record "ImageSlide"
    [.of ["preset"] strictText fun name picture => { picture with preset := .ofName name },
      .of ["image"] (optional strictText) fun image picture => { picture with image },
      .loose ["alt"] fun alt picture => { picture with alt },
      .loose ["caption"] fun caption picture => { picture with caption },
      .of ["position"] strictText fun name picture => { picture with side := .ofName name },
      .of ["images"] (optional (list galleryImage)) fun images picture => { picture with images },
      .of ["content"] (optional (whole content)) fun content picture => { picture with content }]
    ⟨.center, none, none, none, .left, none, none⟩

def twoColumn : Reader TwoColumn :=
  record "TwoColumnSlide"
    [.of ["left"] (optional (column (whole content))) fun left columns => { columns with left },
      .of ["right"] (optional (column (whole content))) fun right columns => { columns with right },
      .of ["content"] (optional (whole content)) fun content columns => { columns with content }]
    ⟨none, none, none⟩

def gridItem : Reader GridItem :=
  record "GridItem"
    [.of ["type"] strictText fun name item => { item with kind := .ofName name },
      .loose ["icon"] fun icon item => { item with icon },
      .of ["stat"] (optional wholeLeaf) fun stat item => { item with stat },
      .loose ["title"] fun title item => { item with title },
      .loose ["label"] fun label item => { item with label },
      .of ["content"] (optional (whole content)) fun content item => { item with content }]
    ⟨.card, none, none, none, none, none⟩

def grid : Reader Grid :=
  record "GridSlide"
    [.of ["columns"] (optional natural) fun columns grid => { grid with columns },
      .of ["items"] (optional (list gridItem)) fun items grid => { grid with items }]
    ⟨none, none⟩

def code : Reader Code :=
  record "CodeSlide"
    [.of ["code"] (optional strictText) fun code slide =>
        { slide with listing := { slide.listing with code } },
      .of ["language", "lang"] (optional strictText) fun language slide =>
        { slide with listing := { slide.listing with language } },
      .loose ["description"] fun description slide => { slide with description },
      .loose ["notes"] fun notes slide => { slide with notes }]
    ⟨⟨none, none⟩, none, none⟩

def timelineEntry : Reader TimelineEntry :=
  record "TimelineEntry"
    [.of ["period"] (optional wholeLeaf) fun period entry =>
        { entry with period },
      .loose ["title"] fun title entry => { entry with title },
      .loose ["description"] fun description entry => { entry with description },
      .of ["items"] (optional looseTexts) fun items entry => { entry with items }]
    ⟨none, none, none, none⟩

def timeline : Reader Timeline :=
  record "TimelineSlide"
    [.of ["items"] (optional (list timelineEntry)) fun items timeline => { timeline with items }]
    ⟨none⟩

def table : Reader Table :=
  record "TableSlide"
    [.of ["headers"] (optional leaves) fun headers table => { table with headers },
      .of ["rows"] (optional (list leaves)) fun rows table => { table with rows }]
    ⟨none, none⟩

def diagrams : Reader Diagrams :=
  record "FlowSlide"
    [.loose ["description"] fun description slide => { slide with description },
      .of ["flows"] (optional (list flow)) fun flows slide => { slide with flows },
      .of ["content"] (optional (whole content)) fun content slide => { slide with content }]
    ⟨none, none, none⟩

def plainBody : Reader (Option Content) :=
  record "DefaultSlide" [.of ["content"] (optional (whole content)) fun content _ => content] none

/-- Reads a layout by the name of its type; an unknown name is the plain layout. -/
def layout (typeName : Option String) : Reader Layout := fun value =>
  match typeName with
  | some "hero" => (hero value).map .hero
  | some "image" => (picture value).map .image
  | some "two-column" => (twoColumn value).map .twoColumn
  | some "grid" => (grid value).map .grid
  | some "code" => (code value).map .code
  | some "timeline" => (timeline value).map .timeline
  | some "table" => (table value).map .table
  | some "flow" => (diagrams value).map .flow
  | _ => (plainBody value).map .plain

/-- What all slides share. -/
structure Header where
  title : Option String
  subtitle : Option String
  transition : Option String
deriving DecidableEq, Repr

def header : Reader Header :=
  record "Header"
    [.loose ["title"] fun title header => { header with title },
      .loose ["subtitle"] fun subtitle header => { header with subtitle },
      .of ["transition"] (optional strictText) fun transition header =>
        { header with transition }]
    ⟨none, none, none⟩

def slide : Reader Slide := fun value =>
  if value.isMapping then do
    let shared ← header value
    let layout ← layout value.typeName? value
    return ⟨shared.title, shared.subtitle, shared.transition, layout⟩
  else .error .slideNotMapping

end SlideDeck.Schema
