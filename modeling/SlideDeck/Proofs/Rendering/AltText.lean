import SlideDeck.Proofs.Rendering.ContentArea

/-!
Contract: the alternative texts of image slides.

Each preset shows its images in order with parts of the slide between them, and in these parts there
is no image. The alternative text of an image is the first that is there of its own, that of the
slide and the title; but an own text that is empty hides that of the slide.

Owns:
- `Interleaves`, texts in order with gaps between them;
- `alternative_texts`: which image has which alternative text.

Does not own: which slides can be rendered.
-/

namespace SlideDeck.Markup

open SlideDeck.Deck
open SlideDeck.Result

/-! ### Parts with gaps between them -/

/-- A text that consists of given parts in order, with gaps between and around them. -/
inductive Interleaves (isGap : String → Prop) : List String → String → Prop where
  | gap {text : String} (holds : isGap text) : Interleaves isGap [] text
  | part {front part behind : String} {parts : List String} (holds : isGap front)
      (others : Interleaves isGap parts behind) :
      Interleaves isGap (part :: parts) (front ++ (part ++ behind))

namespace Interleaves

variable {isGap : String → Prop} {parts others : List String} {text other : String}

theorem behind (joining : Joining isGap) (holds : isGap text)
    (interleaves : Interleaves isGap parts other) : Interleaves isGap parts (text ++ other) := by
  cases interleaves with
  | gap otherHolds => exact .gap (joining.append holds otherHolds)
  | part frontHolds others =>
      rw [← String.append_assoc]
      exact .part (joining.append holds frontHolds) others

theorem append (joining : Joining isGap) (first : Interleaves isGap parts text)
    (second : Interleaves isGap others other) :
    Interleaves isGap (parts ++ others) (text ++ other) := by
  induction first with
  | gap holds => exact second.behind joining holds
  | part holds _ inductionHypothesis =>
      rw [String.append_assoc, String.append_assoc]
      exact .part holds inductionHypothesis

theorem before (joining : Joining isGap) (interleaves : Interleaves isGap parts text)
    (holds : isGap other) : Interleaves isGap parts (text ++ other) := by
  rw [← List.append_nil parts]
  exact interleaves.append joining (.gap holds)

theorem single (joining : Joining isGap) (part : String) : Interleaves isGap [part] part := by
  have around : Interleaves isGap [part] ("" ++ (part ++ "")) :=
    .part joining.empty (.gap joining.empty)
  rwa [String.empty_append, String.append_empty] at around

theorem joinMap (joining : Joining isGap) {α : Type} {items : List α} {part write : α → String}
    (each : ∀ item ∈ items, Interleaves isGap [part item] (write item)) :
    Interleaves isGap (items.map part) (String.join (items.map write)) := by
  induction items with
  | nil => exact .gap joining.empty
  | cons first items inductionHypothesis =>
      rw [List.forall_mem_cons] at each
      rw [List.map_cons, List.map_cons, String.join_cons]
      exact each.1.append joining (inductionHypothesis each.2)

theorem imp {other : String → Prop} (interleaves : Interleaves isGap parts text)
    (implies : ∀ gap, isGap gap → other gap) : Interleaves other parts text := by
  induction interleaves with
  | gap holds => exact .gap (implies _ holds)
  | part holds _ inductionHypothesis => exact .part (implies _ holds) inductionHypothesis

end Interleaves

/-! ### Gaps without images -/

section Gaps

variable {condition : Prop} {attributes : List (String × String)} {body : String}
  {parts : List String}

/-- Where a condition holds, there is no image. -/
def ImageFree (condition : Prop) (text : String) : Prop :=
  condition → Without "img" text

theorem ImageFree.joining : Joining (ImageFree condition) where
  untagged untagged _ := Without.joining.untagged untagged
  append first second holds := Without.joining.append (first holds) (second holds)

/-- Elements of other names add to the gaps. -/
theorem Interleaves.element {name : String}
    (interleaves : Interleaves (ImageFree condition) parts body) (clean : CleanName name)
    (values : condition → UntaggedValues attributes) (otherName : name ≠ "img") :
    Interleaves (ImageFree condition) parts (element name attributes body) := by
  have opening : ImageFree condition (openTag name attributes) :=
    fun holds => Without.openTag clean (values holds) otherName
  have closing : ImageFree condition (closeTag name) :=
    fun _ => Without.closeTag clean otherName
  exact (interleaves.behind ImageFree.joining opening).before ImageFree.joining closing

/-- A block that begins on a line of its own. -/
theorem Interleaves.block (interleaves : Interleaves (ImageFree condition) parts body)
    (values : condition → UntaggedValues attributes) :
    Interleaves (ImageFree condition) parts
      (line (Markup.element "div" attributes ("\n" ++ body))) := by
  have inner := interleaves.behind ImageFree.joining ImageFree.joining.newline
  exact (inner.element cleanName_div values (by decide)).before ImageFree.joining
    ImageFree.joining.newline

theorem composed_imageFree : Composed (Without "img") :=
  Without.composed (by decide)

theorem Without.caption {text : Option String} (prose : ∀ content ∈ text, UntaggedProse content) :
    Without "img" (caption text) :=
  composed_imageFree.whenPresent fun content present => composed_imageFree.line <|
    composed_imageFree.element (by decide) (.single (by decide) (by decide))
      (composed_imageFree.formatText (prose content present))

end Gaps

/-! ### Image slides -/

section Pictures

variable {slide : Slide} {shown : Picture}

/-- The attributes of images besides their source and their alternative text. -/
def imageAttributes : ImagePreset → List (String × String)
  | .fullscreen => [("style", "width: 100%; height: 100%; object-fit: cover;")]
  | .icon => [("class", "icon-image")]
  | .grid | .split | .center => []

/-- The images of a slide: those of the gallery, or the one image of the other presets. -/
def shownImages (picture : Picture) : List GalleryImage :=
  match picture.preset with
  | .grid => picture.images.getD []
  | .fullscreen | .split | .icon | .center => (picture.image.map .bare).toList

/-- An image as it is written. -/
def imageText (slide : Slide) (picture : Picture) (image : GalleryImage) : String :=
  imageTag image.source (altText (image.alt?.or picture.alt) slide)
    (imageAttributes picture.preset)

variable {condition : Prop} (clean : condition → slide.Clean ∧ shown.Clean)

/-- What is shown of the images of a slide, with gaps between them. -/
def ShowsImages (condition : Prop) (slide : Slide) (picture : Picture) (text : String) : Prop :=
  Interleaves (ImageFree condition) ((shownImages picture).map (imageText slide picture)) text

include clean in
theorem imageFree_heading : ImageFree condition (heading slide) :=
  fun holds => Without.heading (clean holds).1 (by decide)

include clean in
theorem imageFree_caption : ImageFree condition (caption shown.caption) :=
  fun holds => Without.caption (clean holds).2.caption

include clean in
theorem imageFree_body : Yields (ImageFree condition) (optionalContent shown.content) :=
  fun text written holds =>
    composed_imageFree.optionalContent shown.content (clean holds).2.content text written

theorem classValues {className : String} (untagged : Untagged className) :
    condition → UntaggedValues [("class", className)] :=
  fun _ => .single (by decide) untagged

theorem interleaves_line (tag : String) : Interleaves (ImageFree condition) [tag] (line tag) :=
  (Interleaves.single ImageFree.joining _).before ImageFree.joining ImageFree.joining.newline

theorem interleaves_figure (isGallery : shown.preset = .grid) {image : GalleryImage}
    (imageClean : condition → image.Clean) :
    Interleaves (ImageFree condition) [imageText slide shown image]
      (figure slide shown image) := by
  have caption : ImageFree condition
      (whenPresent image.caption? fun text => element "figcaption" [] (formatText text)) :=
    fun holds => Without.joining.whenPresent fun text present =>
      (composed_imageFree.formatText ((imageClean holds).caption text present)).element
        (by decide) untaggedValues_nil (by decide)
  have written : figure slide shown image =
      line (element "figure" [] (imageText slide shown image ++
        whenPresent image.caption? fun text => element "figcaption" [] (formatText text))) := by
    rw [figure, imageText, isGallery]
    rfl
  have tag : Interleaves (ImageFree condition) [imageText slide shown image] _ :=
    (Interleaves.single ImageFree.joining _).before ImageFree.joining caption
  rw [written]
  exact (tag.element (by decide) (fun _ => untaggedValues_nil) (by decide)).before ImageFree.joining
    ImageFree.joining.newline

theorem yields_required {α : Type} {field : Option α} {missing : Missing} :
    Yields (fun value => field = some value) (required field missing) :=
  .required fun _ present => present

include clean in
theorem showsImages_gallery (isGallery : shown.preset = .grid) :
    Yields (ShowsImages condition slide shown) (gallery slide shown) := by
  refine yields_required.map fun images listed => ?_
  have figures : Interleaves (ImageFree condition) (images.map (imageText slide shown))
      (String.join (images.map (figure slide shown))) :=
    .joinMap ImageFree.joining fun image member => interleaves_figure isGallery fun holds =>
      (clean holds).2.images images listed image member
  have untagged : Untagged (galleryClass images.length) := by unfold galleryClass; split <;> decide
  have all : shownImages shown = images := by
    rw [shownImages, isGallery, listed]
    rfl
  rw [ShowsImages, all]
  have container := (figures.block (classValues untagged)).before ImageFree.joining
    (imageFree_caption clean)
  exact (container.block (classValues (by decide))).behind ImageFree.joining
    (imageFree_heading clean)

section OneImage

variable {source text : String} {attributes : List (String × String)}

theorem shownImages_single (other : shown.preset ≠ .grid) (listed : shown.image = some source) :
    shownImages shown = [.bare source] := by
  unfold shownImages
  split
  next isGallery => exact absurd isGallery other
  all_goals simp [listed]

/-- A slide with one image shows it with the alternative text of the slide. -/
theorem showsImages_single (single : shownImages shown = [.bare source])
    (same : imageAttributes shown.preset = attributes)
    (interleaves : Interleaves (ImageFree condition)
      [imageTag source (altText shown.alt slide) attributes] text) :
    ShowsImages condition slide shown text := by
  rw [ShowsImages, single, List.map_singleton, imageText, same]
  exact interleaves

include clean in
theorem showsImages_splitPicture (isSplit : shown.preset = .split) :
    Yields (ShowsImages condition slide shown) (splitPicture slide shown) := by
  refine yields_required.bind fun source listed => ?_
  refine (imageFree_body clean).map fun body bodyFree => ?_
  have image := ((interleaves_line (imageTag source (altText shown.alt slide) [])).before
    ImageFree.joining (imageFree_caption clean)).block
      (classValues (by decide : Untagged "split-image"))
  have text : ImageFree condition (box "split-content" (heading slide ++ blockLine body)) := by
    intro holds
    have inner := Without.joining.append (imageFree_heading clean holds)
      (Without.joining.blockLine (bodyFree holds))
    exact Without.joining.line ((Without.joining.append Without.joining.newline inner).element
      cleanName_div (.single (by decide) (by decide)) (by decide))
  have single := shownImages_single (by rw [isSplit]; decide) listed
  have same : imageAttributes shown.preset = [] := by rw [isSplit]; rfl
  cases shown.side with
  | left =>
      exact showsImages_single single same
        ((image.before ImageFree.joining text).block (classValues (by decide)))
  | right =>
      exact showsImages_single single same
        ((image.behind ImageFree.joining text).block (classValues (by decide)))

include clean in
theorem showsImages_fullscreenPicture (isFullscreen : shown.preset = .fullscreen) :
    Yields (ShowsImages condition slide shown) (fullscreenPicture slide shown) := by
  refine yields_required.map fun source listed => ?_
  have single := shownImages_single (by rw [isFullscreen]; decide) listed
  have same : imageAttributes shown.preset =
      [("style", "width: 100%; height: 100%; object-fit: cover;")] := by rw [isFullscreen]; rfl
  have caption : ImageFree condition (whenPresent shown.caption fun text =>
      line (classed "div" "image-caption" (formatText text))) :=
    fun holds => Without.joining.whenPresent fun text present => Without.joining.line <|
      (composed_imageFree.formatText ((clean holds).2.caption text present)).element
        cleanName_div (.single (by decide) (by decide)) (by decide)
  exact showsImages_single single same
    (((interleaves_line _).before ImageFree.joining caption).block (classValues (by decide)))

include clean in
theorem showsImages_iconPicture (isIcon : shown.preset = .icon) :
    Yields (ShowsImages condition slide shown) (iconPicture slide shown) := by
  refine yields_required.bind fun source listed => ?_
  refine (imageFree_body clean).map fun body bodyFree => ?_
  have single := shownImages_single (by rw [isIcon]; decide) listed
  have same : imageAttributes shown.preset = [("class", "icon-image")] := by rw [isIcon]; rfl
  have behind : ImageFree condition
      (heading slide ++ blockLine body ++ caption shown.caption) := by
    refine ImageFree.joining.append (ImageFree.joining.append (imageFree_heading clean) ?_)
      (imageFree_caption clean)
    exact ImageFree.joining.blockLine bodyFree
  have values : condition → UntaggedValues [("class", "content preset-icon"),
      ("style", "justify-content: center; text-align: center;")] :=
    fun _ => .cons (by decide) (by decide) (.single (by decide) (by decide))
  have shows := ((interleaves_line (imageTag source (altText shown.alt slide)
    [("class", "icon-image")])).before ImageFree.joining behind).block values
  refine showsImages_single single same ?_
  simpa only [String.append_assoc] using shows

include clean in
theorem showsImages_centerPicture (isCenter : shown.preset = .center) :
    Yields (ShowsImages condition slide shown) (centerPicture slide shown) := by
  refine yields_required.map fun source listed => ?_
  have single := shownImages_single (by rw [isCenter]; decide) listed
  have same : imageAttributes shown.preset = [] := by rw [isCenter]; rfl
  have title : ImageFree condition
      (whenPresent slide.title fun title => line (element "h1" [] title)) :=
    fun holds => Without.joining.whenPresent fun text present => Without.joining.line <|
      (Without.joining.untagged ((clean holds).1.title text present)).element (by decide)
        untaggedValues_nil (by decide)
  exact showsImages_single single same
    ((((interleaves_line _).behind ImageFree.joining title).before ImageFree.joining
      (imageFree_caption clean)).block (classValues (by decide)))

end OneImage

include clean in
theorem showsImages_picture : Yields (ShowsImages condition slide shown) (picture slide shown) := by
  unfold picture
  cases preset : shown.preset with
  | grid => exact showsImages_gallery clean preset
  | split => exact showsImages_splitPicture clean preset
  | fullscreen => exact showsImages_fullscreenPicture clean preset
  | icon => exact showsImages_iconPicture clean preset
  | center => exact showsImages_centerPicture clean preset

/-- The frame of a slide adds to the gaps. -/
theorem showsImages_slide {index : Nat} {deckTransition : Option String}
    (isPicture : slide.layout = .image shown) :
    Yields (ShowsImages (slide.Clean ∧ ∀ name ∈ deckTransition, Untagged name) slide shown)
      (Markup.slide slide index deckTransition) := by
  have clean : (slide.Clean ∧ ∀ name ∈ deckTransition, Untagged name) →
      slide.Clean ∧ shown.Clean := by
    rintro ⟨slideClean, -⟩
    cases slideClean.of_layout isPicture with
    | image pictureClean => exact ⟨slideClean, pictureClean⟩
  have body := showsImages_picture clean
  rw [Markup.slide, layout, isPicture]
  exact body.map fun text shows => Interleaves.block shows fun holds =>
    untaggedValues_frame holds.1 holds.2

end Pictures

/-! ### Alternative texts -/

/-- The first of some texts that is neither absent nor empty, and else the fixed word. -/
def firstAlternative (texts : List (Option String)) : String :=
  (texts.findSome? present).getD defaultAlt

section Alternatives

variable {slide : Slide} {own shared : Option String}

theorem altText_eq_first : altText own slide = firstAlternative [own, slide.title] := by
  unfold altText firstAlternative
  cases ownShown : present own <;> cases titleShown : present slide.title <;>
    simp [ownShown, titleShown]

theorem altText_of_ne_empty (notEmpty : own ≠ some "") :
    altText (own.or shared) slide = firstAlternative [own, shared, slide.title] := by
  rw [altText_eq_first]
  cases own with
  | none => rfl
  | some text => simp [firstAlternative, present_of_ne_empty notEmpty]

/-- An own text that is empty hides that of the slide. -/
theorem altText_of_empty :
    altText ((some "").or shared) slide = firstAlternative [slide.title] := by
  rw [altText_eq_first]
  rfl

theorem firstAlternative_empty :
    firstAlternative [some "", shared, slide.title] =
      (present shared).getD (firstAlternative [slide.title]) := by
  have empty : present (some "") = none := rfl
  cases shown : present shared <;> simp [firstAlternative, empty, shown]

theorem altText_eq_chain_iff :
    altText (own.or shared) slide = firstAlternative [own, shared, slide.title] ↔
      ¬(own = some "" ∧ ∃ text ∈ present shared, text ≠ firstAlternative [slide.title]) := by
  by_cases isEmpty : own = some ""
  · subst isEmpty
    rw [altText_of_empty, firstAlternative_empty]
    cases shown : present shared with
    | none => simp
    | some text => simp [eq_comm]
  · simp [altText_of_ne_empty isEmpty, isEmpty]

end Alternatives

/-- An image slide shows its images in order, and no others. The alternative text of an image is the
first that is there of its own, that of the slide and the title; but an own text that is empty hides
that of the slide, which makes a difference exactly if the slide has one that is not also what is
shown without it. -/
theorem alternative_texts (slide : Slide) (index : Nat) (deckTransition : Option String)
    (picture : Picture) (page : String) (isPicture : slide.layout = .image picture)
    (rendered : Markup.slide slide index deckTransition = .ok page) :
    let alt (image : GalleryImage) := altText (image.alt?.or picture.alt) slide
    let chain (image : GalleryImage) := firstAlternative [image.alt?, picture.alt, slide.title]
    Interleaves (fun gap => slide.Clean → (∀ name ∈ deckTransition, Untagged name) →
          openings "img" gap = 0)
        ((shownImages picture).map fun image =>
          imageTag image.source (alt image) (imageAttributes picture.preset)) page ∧
      (∀ image, alt image =
        if image.alt? = some "" then firstAlternative [slide.title] else chain image) ∧
      (∀ image, alt image = chain image ↔ ¬(image.alt? = some "" ∧
        ∃ text ∈ present picture.alt, text ≠ firstAlternative [slide.title])) ∧
      (picture.preset ≠ .grid → ∀ image ∈ shownImages picture,
        alt image = firstAlternative [picture.alt, slide.title]) := by
  intro alt chain
  refine ⟨?_, ?_, fun image => altText_eq_chain_iff, ?_⟩
  · have shows := showsImages_slide isPicture page rendered
    exact shows.imp fun gap free clean untagged => (free ⟨clean, untagged⟩).none
  · intro image
    split
    next isEmpty =>
      have hidden : altText ((some "").or picture.alt) slide = _ := altText_of_empty
      rwa [← isEmpty] at hidden
    next notEmpty => exact altText_of_ne_empty notEmpty
  · intro otherPreset image member
    have bare : image.alt? = none := by
      unfold shownImages at member
      split at member
      next isGallery => exact absurd isGallery otherPreset
      all_goals
        obtain ⟨source, -, rfl⟩ := Option.map_eq_some_iff.mp (Option.mem_toList.mp member)
        rfl
    change altText (image.alt?.or picture.alt) slide = _
    rw [bare, Option.none_or, altText_eq_first]

/-- A gallery whose image has an empty alternative text, below that of the slide. -/
def hiddenAlternative : Slide :=
  ⟨some "T", none, none,
    .image ⟨.grid, none, some "A", none, .left, some [.detailed "a.png" (some "") none], none⟩⟩

/-- The first text that is there is `A`, and the title is shown. -/
theorem hiddenAlternative_shown :
    let page (alt : String) := "<div class=\"slide transition-fade\" data-transition=\"fade\">\n" ++
      "<h2>T</h2>\n<div class=\"content\">\n<div class=\"image-gallery\">\n<figure>" ++
      imageTag "a.png" alt [] ++ "</figure>\n</div>\n</div>\n</div>\n"
    Markup.slide hiddenAlternative 1 none = .ok (page "T") ∧
      firstAlternative [some "", some "A", some "T"] = "A" ∧ page "A" ≠ page "T" := by
  decide +kernel

theorem hiddenAlternative_interleaves :
    ∃ page, Markup.slide hiddenAlternative 1 none = .ok page ∧
      Interleaves (fun gap => hiddenAlternative.Clean →
          (∀ name ∈ (none : Option String), Untagged name) → openings "img" gap = 0)
        ["<img src=\"a.png\" alt=\"T\">"] page :=
  ⟨_, rfl, (alternative_texts hiddenAlternative 1 none _ _ rfl rfl).1⟩

end SlideDeck.Markup
