import SlideDeck.Markup.Slide
import SlideDeck.Proofs.Rendering.Bodies
import SlideDeck.Proofs.Rendering.Stretch

/-!
Contract: slides are single elements if their authors wrote no tags.

The body of a slide is nested in each of the layouts; the frame puts it into a container, which is
closed with the last tag and is the only tag that marks a slide.

Owns:
- one lemma for each layout, and `nested_layout`;
- `IsSlide`, for slides and for what takes their place.

Does not own: which slides can be rendered.
-/

namespace SlideDeck.Markup

open SlideDeck.Deck

/-! ### Parts of layouts -/

section Parts

variable {slide : Slide} {text : Option String} {className body : String}

theorem Nested.box (nested : Nested body) (untagged : Untagged className)
    (noSlide : ¬"slide ".toList <+: className.toList) : Nested (box className body) :=
  ((Nested.newline.append nested).classed untagged noSlide).line

theorem nested_titleLine {name : String} {title : Option String} (clean : CleanName name)
    (noMark : name ≠ "div" ∧ name ≠ "span") (untagged : ∀ text ∈ title, Untagged text) :
    Nested (whenPresent title fun text => line (element name [] text)) :=
  .whenPresent fun text present =>
    ((Nested.of_untagged (untagged text present)).bare clean noMark).line

theorem nested_subtitle (clean : slide.Clean) : Nested (subtitle slide) :=
  .whenPresent fun text present =>
    ((nested_formatText (clean.subtitle text present)).classed (by decide) (by decide)).line

theorem nested_heading (clean : slide.Clean) : Nested (heading slide) :=
  (nested_titleLine (by decide) (by decide) clean.title).append (nested_subtitle clean)

theorem Nested.contentArea (nested : Nested body) : Nested (contentArea body) :=
  nested.box (by decide) (by decide)

theorem nested_description {margin : String} (margins : Untagged margin)
    (prose : ∀ content ∈ text, UntaggedProse content) : Nested (description margin text) := by
  refine .whenPresent fun content present => ?_
  have style : Untagged ("color: " ++ mutedColor ++ "; " ++ margin) := by
    rw [untagged_append]
    exact ⟨by decide, margins⟩
  exact ((nested_formatText (prose content present)).styled (by decide) style
    (by decide)).line

theorem nested_caption (prose : ∀ content ∈ text, UntaggedProse content) :
    Nested (caption text) :=
  .whenPresent fun content present =>
    ((nested_formatText (prose content present)).styled (by decide) (by decide)
      (by decide)).line

theorem nested_imageTag {source alt : String} {attributes : List (String × String)}
    (sourceUntagged : Untagged source) (altUntagged : Untagged alt)
    (values : UntaggedValues attributes) : Nested (imageTag source alt attributes) :=
  .openTag (by decide)
    (.cons (by decide) sourceUntagged (.cons (by decide) altUntagged values)) rfl rfl

/-- The first of two optional texts that is there, else a third one. -/
theorem untagged_present_or {first second : Option String} {default : String}
    (firstUntagged : ∀ text ∈ first, Untagged text)
    (secondUntagged : ∀ text ∈ second, Untagged text) (otherwise : Untagged default) :
    Untagged (((present first).or (present second)).getD default) := by
  cases shown : present first with
  | none =>
      rw [Option.none_or]
      exact untagged_present_getD secondUntagged otherwise
  | some text => exact firstUntagged text (Option.filter_eq_some_iff.mp shown).1

theorem untagged_altText {own : Option String} (untagged : ∀ alt ∈ own, Untagged alt)
    (clean : slide.Clean) : Untagged (altText own slide) :=
  untagged_present_or untagged clean.title (by decide)

end Parts

/-! ### Layouts -/

section Layouts

variable {slide : Slide}

theorem nested_hero {hero : Hero} (slideClean : slide.Clean) (clean : hero.Clean) :
    Nested (Markup.hero slide hero) := by
  have logo : Nested (whenPresent hero.logo fun logo => line (classed "div" "logo" logo)) :=
    .whenPresent fun logo present =>
      ((Nested.of_untagged (clean.logo logo present)).classed (by decide) (by decide)).line
  have size : Untagged ((present hero.titleSize).getD defaultTitleSize) :=
    untagged_present_getD clean.titleSize (by decide)
  have title : Untagged (slide.title.getD "") := by
    cases shown : slide.title with
    | none => decide
    | some title => exact slideClean.title title shown
  have titleLine : Nested (line (styled "h1"
      ("font-size: " ++ (present hero.titleSize).getD defaultTitleSize ++ ";")
      (slide.title.getD ""))) := by
    refine ((Nested.of_untagged title).styled (by decide) ?_ (by decide)).line
    rw [untagged_append, untagged_append]
    exact ⟨⟨by decide, size⟩, by decide⟩
  have inner := ((logo.append titleLine).append (nested_subtitle slideClean)).box
    (by decide : Untagged "hero") (by decide)
  exact ((Nested.newline.append inner).container (by decide) (by decide)
    (.single (by decide) (by decide))).line

theorem exists_figure {shown : Picture} {image : GalleryImage} (slideClean : slide.Clean)
    (clean : shown.Clean) (imageClean : image.Clean) :
    ∃ text, Encloses Nested "figure" [] text ∧ figure slide shown image = line text := by
  have alt : ∀ alt ∈ image.alt?.or shown.alt, Untagged alt := by
    intro alt present
    rcases Option.or_eq_some_iff.mp present with own | ⟨-, shared⟩
    · exact imageClean.alt alt own
    · exact clean.alt alt shared
  have tag := nested_imageTag imageClean.source (untagged_altText alt slideClean)
    untaggedValues_nil
  have caption : Nested
      (whenPresent image.caption? fun text => element "figcaption" [] (formatText text)) :=
    .whenPresent fun text present =>
      (nested_formatText (imageClean.caption text present)).bare (by decide) (by decide)
  exact ⟨_, ⟨_, tag.append caption, rfl⟩, rfl⟩

theorem nested_figure {shown : Picture} {image : GalleryImage} (slideClean : slide.Clean)
    (clean : shown.Clean) (imageClean : image.Clean) : Nested (figure slide shown image) := by
  obtain ⟨_, ⟨body, nested, rfl⟩, written⟩ := exists_figure slideClean clean imageClean
  rw [written]
  exact (nested.bare (by decide) (by decide)).line

theorem nested_gallery {shown : Picture} (slideClean : slide.Clean) (clean : shown.Clean) :
    Yields Nested (gallery slide shown) := by
  refine (Yields.required clean.images).map fun images imagesClean => ?_
  have figures : Nested (String.join (images.map (figure slide shown))) :=
    .joinMap fun image member => nested_figure slideClean clean (imagesClean image member)
  have className : Untagged (galleryClass images.length) ∧
      ¬"slide ".toList <+: (galleryClass images.length).toList := by
    unfold galleryClass
    split <;> decide
  exact (nested_heading slideClean).append
    ((figures.box className.1 className.2).append (nested_caption clean.caption)).contentArea

theorem nested_sourceTag {shown : Picture} {attributes : List (String × String)}
    (slideClean : slide.Clean) (clean : shown.Clean) {source : String}
    (untagged : Untagged source) (values : UntaggedValues attributes) :
    Nested (line (imageTag source (altText shown.alt slide) attributes)) :=
  (nested_imageTag untagged (untagged_altText clean.alt slideClean) values).line

theorem nested_splitPicture {shown : Picture} (slideClean : slide.Clean) (clean : shown.Clean) :
    Yields Nested (splitPicture slide shown) := by
  refine (Yields.required clean.image).bind fun source untagged => ?_
  refine (Nested.composed.optionalContent shown.content clean.content).map fun body bodyNested => ?_
  have tag := nested_sourceTag slideClean clean untagged untaggedValues_nil
  have image := (tag.append (nested_caption clean.caption)).box
    (by decide : Untagged "split-image") (by decide)
  have text := ((nested_heading slideClean).append bodyNested.blockLine).box
    (by decide : Untagged "split-content") (by decide)
  cases shown.side with
  | left => exact (image.append text).box (by decide) (by decide)
  | right => exact (text.append image).box (by decide) (by decide)

theorem nested_fullscreenPicture {shown : Picture} (slideClean : slide.Clean)
    (clean : shown.Clean) : Yields Nested (fullscreenPicture slide shown) := by
  refine (Yields.required clean.image).map fun source untagged => ?_
  have caption : Nested (whenPresent shown.caption fun text =>
      line (classed "div" "image-caption" (formatText text))) :=
    .whenPresent fun text present =>
      ((nested_formatText (clean.caption text present)).classed (by decide) (by decide)).line
  refine (Nested.append (nested_sourceTag slideClean clean untagged ?_) caption).box
    (by decide) (by decide)
  exact .single (by decide) (by decide)

theorem nested_iconPicture {shown : Picture} (slideClean : slide.Clean) (clean : shown.Clean) :
    Yields Nested (iconPicture slide shown) := by
  refine (Yields.required clean.image).bind fun source untagged => ?_
  refine (Nested.composed.optionalContent shown.content clean.content).map fun body bodyNested => ?_
  have tag : Nested
      (line (imageTag source (altText shown.alt slide) [("class", "icon-image")])) :=
    nested_sourceTag slideClean clean untagged (.single (by decide) (by decide))
  have inner := (((Nested.newline.append tag).append (nested_heading slideClean)).append
    bodyNested.blockLine).append (nested_caption clean.caption)
  exact (inner.container (by decide) (by decide)
    (.single (by decide) (by decide))).line

theorem nested_centerPicture {shown : Picture} (slideClean : slide.Clean) (clean : shown.Clean) :
    Yields Nested (centerPicture slide shown) := by
  refine (Yields.required clean.image).map fun source untagged => ?_
  have title : Nested (whenPresent slide.title fun title => line (element "h1" [] title)) :=
    nested_titleLine (by decide) (by decide) slideClean.title
  have tag := nested_sourceTag slideClean clean untagged untaggedValues_nil
  exact ((title.append tag).append (nested_caption clean.caption)).box (by decide) (by decide)

theorem nested_picture {shown : Picture} (slideClean : slide.Clean) (clean : shown.Clean) :
    Yields Nested (picture slide shown) := by
  unfold picture
  cases shown.preset with
  | grid => exact nested_gallery slideClean clean
  | split => exact nested_splitPicture slideClean clean
  | fullscreen => exact nested_fullscreenPicture slideClean clean
  | icon => exact nested_iconPicture slideClean clean
  | center => exact nested_centerPicture slideClean clean

theorem nested_column {shown : Option Column} (clean : ∀ column ∈ shown, column.Clean) :
    Yields Nested (column shown) := by
  cases shown with
  | none => exact .ok Nested.empty.div.line
  | some shown =>
      cases clean shown rfl with
      | @column title cards body titleUntagged cardsClean bodyClean =>
          have each : ∀ item ∈ cards.getD [], Yields Nested (card item) := fun item member =>
            Nested.composed.card item (forall_mem_getD cardsClean item member)
          refine (Yields.mapM each).bind fun cardTexts cardsNested => ?_
          refine (Nested.composed.optionalContent body bodyClean).map fun bodyText bodyNested => ?_
          have lines : Nested (String.join (cardTexts.map blockLine)) :=
            .joinMap fun text member => (cardsNested text member).blockLine
          have heading := Nested.newline.append (Nested.composed.heading titleUntagged)
          exact ((heading.append lines).append bodyNested.blockLine).div.line

theorem nested_columnPair {left right : Option Column} (leftClean : ∀ column ∈ left, column.Clean)
    (rightClean : ∀ column ∈ right, column.Clean) : Yields Nested (columnPair left right) := by
  refine (nested_column leftClean).bind fun leftText leftNested => ?_
  refine (nested_column rightClean).map fun rightText rightNested => ?_
  exact (leftNested.append rightNested).box (by decide) (by decide)

theorem clean_of_mem_toBlocks {body : Content} (clean : body.Clean) :
    ∀ item ∈ body.toBlocks, item.Clean := by
  cases clean with
  | text | other => simp [Content.toBlocks]
  | blocks all => exact all

/-- The columns of a marker are as clean as the body in which it stands. -/
theorem clean_of_columns? {body : Option Content} (clean : ∀ content ∈ body, content.Clean)
    {left right : Option Column} (marked : body.bind Content.columns? = some (left, right)) :
    (∀ column ∈ left, column.Clean) ∧ ∀ column ∈ right, column.Clean := by
  obtain ⟨content, present, marked⟩ := Option.bind_eq_some_iff.mp marked
  obtain ⟨marker, member, columns⟩ := List.exists_of_findSome?_eq_some marked
  cases clean_of_mem_toBlocks (clean content present) marker member with
  | columns leftClean rightClean =>
      obtain ⟨rfl, rfl⟩ := Prod.mk.inj (Option.some.inj columns)
      exact ⟨leftClean, rightClean⟩
  | _ => simp [Block.columns?] at columns

theorem nested_twoColumn {columns : TwoColumn} (slideClean : slide.Clean)
    (clean : columns.Clean) : Yields Nested (twoColumn slide columns) := by
  unfold twoColumn
  have heading := nested_heading slideClean
  -- A marker in the body decides which columns are shown; its own are as clean as the body.
  cases marked : columns.content.bind Content.columns? with
  | none =>
      simp only [pure_bind]
      refine (nested_columnPair clean.left clean.right).bind fun pair pairNested => ?_
      refine (Nested.composed.optionalContent columns.content clean.content).map
        fun below belowNested => ?_
      exact heading.append (pairNested.append belowNested.blockLine).contentArea
  | some pair =>
      obtain ⟨leftClean, rightClean⟩ := clean_of_columns? clean.content marked
      have othersClean : ∀ item ∈
          (columns.content.elim [] Content.toBlocks).filter (!·.isColumns), item.Clean := by
        intro item member
        have inBody := List.mem_of_mem_filter member
        cases present : columns.content with
        | none => simp [present] at inBody
        | some content =>
            rw [present, Option.elim_some] at inBody
            exact clean_of_mem_toBlocks (clean.content content present) item inBody
      simp only [pure_bind]
      refine (Nested.composed.blockLines othersClean).bind fun above aboveNested => ?_
      refine (nested_columnPair leftClean rightClean).map fun pair pairNested => ?_
      exact heading.append (aboveNested.blockLine.append pairNested).contentArea

theorem encloses_gridItem {item : GridItem} (clean : item.Clean) :
    Yields (Encloses Nested "div" [("class", item.kind.className)]) (gridItem item) := by
  refine (Nested.composed.optionalContent item.content clean.content).map fun body bodyNested => ?_
  have textLine : ∀ {className text : String}, Untagged className →
      ¬"slide ".toList <+: className.toList → Untagged text →
        Nested (line (classed "div" className text)) := fun classUntagged noSlide untagged =>
    ((Nested.of_untagged untagged).classed classUntagged noSlide).line
  have icon : Nested
      (whenPresent item.icon fun icon => line (classed "div" "feature-icon" icon)) :=
    .whenPresent fun icon present => textLine (by decide) (by decide) (clean.icon icon present)
  have stat : Nested
      (item.stat.elim "" fun stat => line (classed "div" "stat" stat.display)) := by
    cases present : item.stat with
    | none => exact .empty
    | some stat =>
        exact textLine (by decide) (by decide) (Leaf.untagged_display (clean.stat stat present))
  have label : Nested
      (whenPresent item.label fun label => line (classed "div" "stat-label" label)) :=
    .whenPresent fun label present => textLine (by decide) (by decide) (clean.label label present)
  have title := Nested.composed.heading clean.title
  have inner := ((((Nested.newline.append icon).append stat).append title).append label).append
    bodyNested.blockLine
  exact ⟨_, inner, rfl⟩

theorem nested_gridItem {item : GridItem} (clean : item.Clean) : Yields Nested (gridItem item) := by
  have className : Untagged item.kind.className ∧
      ¬"slide ".toList <+: item.kind.className.toList := by
    cases item.kind <;> decide
  intro text written
  exact (encloses_gridItem clean text written).classed className.1 className.2

theorem nested_grid {shown : Grid} (slideClean : slide.Clean) (clean : shown.Clean) :
    Yields Nested (grid slide shown) := by
  refine (Yields.required clean.items).bind fun items itemsClean => ?_
  have each := Yields.mapM fun item member => nested_gridItem (itemsClean item member)
  refine each.map fun texts textsNested => ?_
  have lines : Nested (String.join (texts.map blockLine)) :=
    .joinMap fun text member => (textsNested text member).blockLine
  have untagged : Untagged ("grid-" ++ toString (gridColumns shown)) := by
    simp [Untagged, untagged_toDigits]
  have noSlide : ¬"slide ".toList <+: ("grid-" ++ toString (gridColumns shown)).toList := by
    simp
  exact (nested_heading slideClean).append (lines.box untagged noSlide).contentArea

theorem nested_code {code : Code} (slideClean : slide.Clean) (clean : code.Clean) :
    Nested (Markup.code slide code) := by
  have description : Nested (description "margin-bottom: 1rem;" code.description) :=
    nested_description (by decide) clean.description
  have language : Untagged ((present code.listing.language).getD defaultLanguage) :=
    untagged_present_getD clean.listing.language (by decide)
  have notes : Nested (whenPresent code.notes fun notes =>
      line (element "div" [("class", "card"), ("style", "margin-top: 1rem;")]
        (styled "p" ("color: " ++ mutedColor ++ ";") (formatText notes)))) := by
    refine .whenPresent fun notes present => ?_
    have paragraph : Nested (styled "p" ("color: " ++ mutedColor ++ ";") (formatText notes)) :=
      (nested_formatText (clean.notes notes present)).styled (by decide) (by decide)
        (by decide)
    exact (paragraph.container (by decide) (by decide)
      (.single (by decide) (by decide))).line
  exact (nested_heading slideClean).append
    ((description.append (nested_codeBlock language _).line).append notes).contentArea

theorem exists_timelineEntry {entry : TimelineEntry} (clean : entry.Clean) :
    ∃ text, Encloses Nested "div" [("class", "timeline-item")] text ∧
      timelineEntry entry = line text := by
  have period : Untagged (entry.period.elim "" Leaf.display) := by
    cases present : entry.period with
    | none => decide
    | some period => exact Leaf.untagged_display (clean.period period present)
  have title : Untagged (entry.title.getD "") := by
    cases present : entry.title with
    | none => decide
    | some title => exact clean.title title present
  have strong : Nested (element "strong" [] (entry.period.elim "" Leaf.display)) :=
    (Nested.of_untagged period).bare (by decide) (by decide)
  have behind : Nested " - " := .of_untagged (by decide)
  have description : Nested (description "margin-top: 0.5rem;" entry.description) :=
    nested_description (by decide) clean.description
  have items : Nested (entry.items.elim "" fun items => line (itemList [] items)) := by
    cases present : entry.items with
    | none => exact .empty
    | some items =>
        exact (Nested.composed.itemList untaggedValues_nil (clean.items items present)).line
  have first := ((strong.append behind).append (.of_untagged title)).line
  exact ⟨_, ⟨_, Nested.newline.append ((first.append description).append items), rfl⟩, rfl⟩

theorem nested_timelineEntry {entry : TimelineEntry} (clean : entry.Clean) :
    Nested (timelineEntry entry) := by
  obtain ⟨text, encloses, written⟩ := exists_timelineEntry clean
  rw [written]
  exact (encloses.classed (by decide) (by decide)).line

theorem nested_timeline {shown : Timeline} (slideClean : slide.Clean) (clean : shown.Clean) :
    Yields Nested (timeline slide shown) := by
  refine (Yields.required clean.items).map fun entries entriesClean => ?_
  have texts : Nested (String.join (entries.map timelineEntry)) :=
    .joinMap fun entry member => nested_timelineEntry (entriesClean entry member)
  exact (nested_heading slideClean).append texts.contentArea

theorem nested_tableRow {cells : List Leaf} {write : Leaf → String}
    (nested : ∀ cell ∈ cells, Nested (write cell)) : Nested (tableRow (cells.map write)) :=
  (Nested.joinMap nested).bare (by decide) (by decide)

def headRow (headers : List Leaf) : String :=
  tableRow (headers.map fun header => element "th" [] header.display)

def bodyRow (row : List Leaf) : String :=
  tableRow (row.map fun cell => element "td" [] (formatText cell.display))

/-- A table as it stands in the content area. -/
def tableText (headers : List Leaf) (rows : List (List Leaf)) : String :=
  line (element "table" []
    ("\n" ++ line (element "thead" [] ("\n" ++ line (headRow headers))) ++
      line (element "tbody" [] ("\n" ++ String.join (rows.map fun row => line (bodyRow row))))))

theorem nested_headRow {headers : List Leaf}
    (clean : ∀ header ∈ headers, header.Texts Untagged) : Nested (headRow headers) :=
  nested_tableRow fun header member =>
    (Nested.of_untagged (Leaf.untagged_display (clean header member))).bare (by decide) (by decide)

theorem nested_bodyRow {row : List Leaf} (clean : ∀ cell ∈ row, cell.Texts UntaggedProse) :
    Nested (bodyRow row) :=
  nested_tableRow fun cell member =>
    (nested_formatText (Leaf.untaggedProse_display (clean cell member))).bare
      (by decide) (by decide)

theorem nested_bodyRows {rows : List (List Leaf)}
    (clean : ∀ row ∈ rows, ∀ cell ∈ row, cell.Texts UntaggedProse) :
    Nested (String.join (rows.map fun row => line (bodyRow row))) :=
  .joinMap fun row member => (nested_bodyRow (clean row member)).line

theorem nested_tableText {headers : List Leaf} {rows : List (List Leaf)}
    (headersClean : ∀ header ∈ headers, header.Texts Untagged)
    (rowsClean : ∀ row ∈ rows, ∀ cell ∈ row, cell.Texts UntaggedProse) :
    Nested (tableText headers rows) := by
  have head : Nested (line (element "thead" [] ("\n" ++ line (headRow headers)))) :=
    ((Nested.newline.append (nested_headRow headersClean).line).bare (by decide) (by decide)).line
  have body : Nested (line (element "tbody" []
      ("\n" ++ String.join (rows.map fun row => line (bodyRow row))))) :=
    ((Nested.newline.append (nested_bodyRows rowsClean)).bare (by decide) (by decide)).line
  exact (((Nested.newline.append head).append body).bare (by decide) (by decide)).line

theorem nested_table {shown : Table} (slideClean : slide.Clean) (clean : shown.Clean) :
    Yields Nested (table slide shown) := by
  refine (Yields.required clean.headers).bind fun headers headersClean => ?_
  refine (Yields.required clean.rows).map fun rows rowsClean => ?_
  exact (nested_heading slideClean).append (nested_tableText headersClean rowsClean).contentArea

theorem nested_diagrams {shown : Diagrams} (slideClean : slide.Clean) (clean : shown.Clean) :
    Yields Nested (diagrams slide shown) := by
  refine (Nested.composed.optionalContent shown.content clean.content).map fun body bodyNested => ?_
  have description : Nested (description "margin-bottom: 1.5rem;" shown.description) :=
    nested_description (by decide) clean.description
  have flows : Nested
      (String.join ((shown.flows.getD []).map fun item => blockLine (flow item))) :=
    .joinMap fun item member =>
      (Nested.composed.flow (forall_mem_getD clean.flows item member)).blockLine
  exact (nested_heading slideClean).append
    ((description.append flows).append bodyNested.blockLine).contentArea

theorem nested_plain {body : Option Content} (slideClean : slide.Clean)
    (clean : ∀ content ∈ body, content.Clean) : Yields Nested (plain slide body) :=
  (Nested.composed.optionalContent body clean).map fun _ nested =>
    (nested_heading slideClean).append nested.blockLine.contentArea

theorem nested_layout (clean : slide.Clean) : Yields Nested (layout slide) := by
  have shown := clean.layout
  unfold layout
  generalize slide.layout = layout at shown
  cases shown with
  | hero heroClean => exact .ok (nested_hero clean heroClean)
  | image pictureClean => exact nested_picture clean pictureClean
  | twoColumn columnsClean => exact nested_twoColumn clean columnsClean
  | grid gridClean => exact nested_grid clean gridClean
  | code codeClean => exact .ok (nested_code clean codeClean)
  | timeline timelineClean => exact nested_timeline clean timelineClean
  | table tableClean => exact nested_table clean tableClean
  | flow diagramsClean => exact nested_diagrams clean diagramsClean
  | plain bodyClean => exact nested_plain clean bodyClean

end Layouts

/-! ### Slides -/

/-- One element that is marked as a slide and has no other mark in it. -/
structure IsSlide (text : String) : Prop extends IsElement "div" text, Marked slideMark text

section Slides

variable {slide : Slide} {index : Nat} {deckTransition : Option String}

theorem untagged_transition (clean : slide.Clean)
    (deckUntagged : ∀ name ∈ deckTransition, Untagged name) :
    Untagged (transition slide deckTransition) :=
  untagged_present_or clean.transition deckUntagged (by decide)

theorem untagged_transitionClass {name : String} (untagged : Untagged name) :
    Untagged (transitionClass name) := by
  unfold transitionClass
  split
  · decide
  · rw [untagged_append]
    exact ⟨by decide, untagged⟩

/-- The classes of a slide, with or without those of the first and of a failing one. -/
def frameClass (index : Nat) (failed : Bool) (name : String) : String :=
  "slide" ++ (if index = 0 then " active" else "") ++ (if failed then " slide-error" else "") ++
    " " ++ transitionClass name

theorem untagged_frameClass {name : String} (failed : Bool) (untagged : Untagged name) :
    Untagged (frameClass index failed name) := by
  have active : Untagged (if index = 0 then " active" else "") := by split <;> decide
  have error : Untagged (if failed then " slide-error" else "") := by split <;> decide
  simp only [frameClass, untagged_append]
  exact ⟨⟨⟨⟨by decide, active⟩, error⟩, by decide⟩, untagged_transitionClass untagged⟩

theorem slideMark_begins (failed : Bool) (name : String) :
    slideMark.toList <+: (openTag "div"
      [("class", frameClass index failed name), ("data-transition", name)]).toList := by
  by_cases start : index = 0 <;> cases failed <;>
    simp [slideMark, frameClass, openTag, attributeText, start]

theorem isSlide_frame {body : String} (failed : Bool)
    (untagged : Untagged (transition slide deckTransition)) (nested : Nested body) :
    IsSlide (frame slide index deckTransition (if failed then " slide-error" else "") body) := by
  have values : UntaggedValues
      [("class", frameClass index failed (transition slide deckTransition)),
        ("data-transition", transition slide deckTransition)] :=
    .cons (by decide) (untagged_frameClass failed untagged)
      (.single (by decide) untagged)
  have inner := Nested.newline.append nested
  have marked := Marked.element inner cleanName_div values (by simp) (slideMark_begins failed _)
  constructor
  · exact inner.isElement cleanName_div values rfl
  · exact marked.append Nested.newline.toUnmarked

theorem isSlide_of_slide (clean : slide.Clean)
    (deckUntagged : ∀ name ∈ deckTransition, Untagged name) :
    Yields IsSlide (Markup.slide slide index deckTransition) :=
  (nested_layout clean).map fun _ nested =>
    isSlide_frame false (untagged_transition clean deckUntagged) nested

theorem isSlide_failureSlide (clean : slide.Clean)
    (deckUntagged : ∀ name ∈ deckTransition, Untagged name) (failure : SlideFailure) :
    IsSlide (failureSlide slide index deckTransition failure) := by
  have number : Untagged (toString (index + 1)) := by simp [Untagged, untagged_toDigits]
  have title : Untagged ("Slide " ++ toString (index + 1) ++ " could not be rendered") := by
    rw [untagged_append, untagged_append]
    exact ⟨⟨by decide, number⟩, by decide⟩
  have heading := ((Nested.of_untagged title).bare
    (by decide : CleanName "h2") (by decide)).line
  have message := (nested_codeBlock (by decide : Untagged defaultLanguage) failure.message).line
  exact isSlide_frame true (untagged_transition clean deckUntagged)
    (heading.append (message.box (by decide) (by decide)))

end Slides

end SlideDeck.Markup
