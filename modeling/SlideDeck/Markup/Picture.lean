import SlideDeck.Markup.Content
import SlideDeck.Markup.Heading

/-!
Contract: the markup of image slides, one form for each preset.

Owns:
- the alternative text of an image: its own, else the title of the slide, else a fixed word;
- galleries and the four forms around one image.
-/

namespace SlideDeck.Markup

open SlideDeck.Deck (GalleryImage ImagePreset Picture Side Slide)

/-- The alternative text of an image when neither it nor its slide gives one. -/
def defaultAlt : String := "Image"

/-- The first alternative text that is there: the own one, then the title of the slide. -/
def altText (own : Option String) (slide : Slide) : String :=
  ((present own).or (present slide.title)).getD defaultAlt

/-- The class of a gallery: three and four images have a class of their own. -/
def galleryClass : Nat → String
  | 3 => "image-gallery gallery-3"
  | 4 => "image-gallery gallery-4"
  | _ => "image-gallery"

def imageTag (source alt : String) (attributes : List (String × String)) : String :=
  openTag "img" ([("src", source), ("alt", alt)] ++ attributes)

def caption (text : Option String) : String :=
  whenPresent text fun content =>
    line (styled "p" ("margin-top: 1rem; color: " ++ mutedColor ++ ";") (formatText content))

def figure (slide : Slide) (picture : Picture) (image : GalleryImage) : String :=
  line (element "figure" []
    (imageTag image.source (altText (image.alt?.or picture.alt) slide) [] ++
      whenPresent image.caption? fun text => element "figcaption" [] (formatText text)))

def gallery (slide : Slide) (picture : Picture) : Rendering String := do
  let images ← required picture.images .galleryImages
  return heading slide ++
    contentArea
      (box (galleryClass images.length) (String.join (images.map (figure slide picture))) ++
        caption picture.caption)

def splitPicture (slide : Slide) (picture : Picture) : Rendering String := do
  let source ← required picture.image .image
  let image := box "split-image"
    (line (imageTag source (altText picture.alt slide) []) ++ caption picture.caption)
  let body ← optionalContent picture.content
  let text := box "split-content" (heading slide ++ blockLine body)
  return match picture.side with
    | .left => box "image-split image-left" (image ++ text)
    | .right => box "image-split image-right" (text ++ image)

def fullscreenPicture (slide : Slide) (picture : Picture) : Rendering String := do
  let source ← required picture.image .image
  let fill := [("style", "width: 100%; height: 100%; object-fit: cover;")]
  return box "image-slide preset-fullscreen"
    (line (imageTag source (altText picture.alt slide) fill) ++
      whenPresent picture.caption fun text =>
        line (classed "div" "image-caption" (formatText text)))

/-- A small image above a heading and a body. -/
def iconPicture (slide : Slide) (picture : Picture) : Rendering String := do
  let source ← required picture.image .image
  let body ← optionalContent picture.content
  return line (element "div"
    [("class", "content preset-icon"),
      ("style", "justify-content: center; text-align: center;")]
    ("\n" ++ line (imageTag source (altText picture.alt slide) [("class", "icon-image")]) ++
      heading slide ++ blockLine body ++ caption picture.caption))

def centerPicture (slide : Slide) (picture : Picture) : Rendering String := do
  let source ← required picture.image .image
  return box "image-slide preset-center"
    (whenPresent slide.title (fun title => line (element "h1" [] title)) ++
      line (imageTag source (altText picture.alt slide) []) ++ caption picture.caption)

def picture (slide : Slide) (picture : Picture) : Rendering String :=
  match picture.preset with
  | .grid => gallery slide picture
  | .split => splitPicture slide picture
  | .fullscreen => fullscreenPicture slide picture
  | .icon => iconPicture slide picture
  | .center => centerPicture slide picture

end SlideDeck.Markup
