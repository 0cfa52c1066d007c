import SlideDeck.Proofs.Rendering.TableReading

/-!
Contract: layouts that show a sequence can be read back.

The items of a sequence are children of one container, whose place on the slide is fixed. Each item
is there once and in order, and each is read as it was written, whatever the items hold.

Owns:
- the children of timelines, grids, galleries and flow diagrams;
- `sequences_read_back`, with tables.

Does not own: which slides can be rendered.
-/

namespace SlideDeck.Markup

open SlideDeck.Deck
open SlideDeck.Result

/-! ### Boxes of items -/

section Boxes

variable {slide : Slide} {index : Nat} {deckTransition : Option String}

theorem readsAs_timelineEntry {entry : TimelineEntry} (clean : entry.Clean) :
    ReadsAs (timelineEntry entry) fun child =>
      child.className = "timeline-item" ∧ line child.written = timelineEntry entry := by
  obtain ⟨text, encloses, written⟩ := exists_timelineEntry clean
  rw [written]
  refine (encloses.readsAs (by decide)).line.imp fun child read => ?_
  exact ⟨read.1, congrArg line read.2⟩

theorem readsAs_gridItem {item : GridItem} {text : String} (clean : item.Clean)
    (written : gridItem item = .ok text) :
    ReadsAs (blockLine text) fun child =>
      child.className = item.kind.className ∧ gridItem item = .ok child.written := by
  have plain : IsPlainClass item.kind.className := by cases item.kind <;> decide
  refine ((encloses_gridItem clean text written).readsAs plain).blockLine.imp fun child read => ?_
  exact ⟨read.1, by rw [written, read.2]⟩

theorem readsAs_figure {shown : Picture} {image : GalleryImage} (slideClean : slide.Clean)
    (clean : shown.Clean) (imageClean : image.Clean) :
    ReadsAs (figure slide shown image) fun child =>
      child.name = "figure" ∧ line child.written = figure slide shown image := by
  have nested := nested_figure slideClean clean imageClean
  obtain ⟨_, ⟨body, inner, rfl⟩, written⟩ := exists_figure slideClean clean imageClean
  rw [written] at nested ⊢
  have figureNested : Nested (element "figure" [] body) := inner.bare (by decide) (by decide)
  refine ⟨nested, _, ?_, rfl, congrArg line (Child.written_ofElement _ _ _)⟩
  rw [children_line figureNested, children_element inner (by decide) untaggedValues_nil rfl]

theorem readsAs_flowItem {item : FlowItem} (clean : item.Clean) :
    ReadsAs (flowItem item) fun child =>
      child.className = flowItemClass item ∧ child.written = flowItem item := by
  have plain : IsPlainClass (flowItemClass item) := by
    cases item with
    | arrow => exact (by decide : IsPlainClass "flow-arrow")
    | box => exact (by decide : IsPlainClass "flow-item")
  exact (Nested.composed.flowItem clean).readsAs plain

/-- A grid slide that is rendered shows its items in a box, one on each line. -/
theorem slide_grid {shown : Grid} {items : List GridItem} {page : String}
    (isGrid : slide.layout = .grid shown) (listed : shown.items = some items)
    (rendered : Markup.slide slide index deckTransition = .ok page) :
    ∃ texts, List.Forall₂ (fun item text => gridItem item = .ok text) items texts ∧
      page = framed slide index deckTransition
        (box ("grid-" ++ toString (gridColumns shown)) (String.join (texts.map blockLine)) ++
          "") := by
  rw [Markup.slide, layout, isGrid] at rendered
  obtain ⟨_, written, same⟩ := bind_eq_ok_iff.mp rendered
  change grid slide shown = _ at written
  rw [grid, listed] at written
  obtain ⟨_, present, written⟩ := bind_eq_ok_iff.mp written
  obtain rfl := Except.ok.inj present
  obtain ⟨texts, each, body⟩ := bind_eq_ok_iff.mp written
  refine ⟨texts, mapM_eq_ok_iff.mp each, ?_⟩
  rw [← Except.ok.inj same, ← Except.ok.inj body, String.append_empty]
  rfl

theorem isPlainClass_grid (shown : Grid) :
    IsPlainClass ("grid-" ++ toString (gridColumns shown)) := by
  have digits : ∀ mark : Char, mark.isDigit = false →
      mark ∉ Nat.toDigits 10 (gridColumns shown) := by
    intro mark noDigit member
    have isDigit := Nat.isDigit_of_mem_toDigits (by decide) (by decide) member
    exact absurd (noDigit.symm.trans isDigit) (by decide)
  refine ⟨?_, by simp, ?_, ?_⟩
  all_goals simp [Untagged, digits]

theorem grid_read {shown : Grid} {items : List GridItem} {page : String} (slideClean : slide.Clean)
    (deckUntagged : ∀ name ∈ deckTransition, Untagged name)
    (isGrid : slide.layout = .grid shown) (listed : shown.items = some items)
    (rendered : Markup.slide slide index deckTransition = .ok page) :
    ∃ container others, descend areaPath page = container :: others ∧
      container.className = "grid-" ++ toString (gridColumns shown) ∧
      List.Forall₂ (fun item child =>
          child.className = item.kind.className ∧ gridItem item = .ok child.written)
        items (children container.body) := by
  have clean : shown.Clean := by
    cases slideClean.of_layout isGrid with
    | grid clean => exact clean
  obtain ⟨texts, each, rfl⟩ := slide_grid isGrid listed rendered
  have reads : List.Forall₂ (fun item text => ReadsAs text fun child =>
      child.className = item.kind.className ∧ gridItem item = .ok child.written)
        items (texts.map blockLine) := by
    rw [List.forall₂_map_right_iff]
    refine ((List.forall₂_and_left _ _).mpr ⟨clean.items items listed, each⟩).imp ?_
    exact fun item text written => readsAs_gridItem written.1 written.2
  obtain ⟨container, others, area, className, inner⟩ :=
    descend_box slideClean deckUntagged (nested_join_reads reads) .empty (isPlainClass_grid shown)
  refine ⟨container, others, area, className, ?_⟩
  rw [inner]
  exact forall₂_children reads

theorem slide_timeline {entries : List TimelineEntry}
    (isTimeline : slide.layout = .timeline ⟨some entries⟩) :
    Markup.slide slide index deckTransition =
      .ok (framed slide index deckTransition (String.join (entries.map timelineEntry))) := by
  rw [Markup.slide, layout, isTimeline]
  rfl

theorem timeline_read {entries : List TimelineEntry} (slideClean : slide.Clean)
    (deckUntagged : ∀ name ∈ deckTransition, Untagged name)
    (isTimeline : slide.layout = .timeline ⟨some entries⟩) :
    List.Forall₂ (fun entry child =>
        child.className = "timeline-item" ∧ line child.written = timelineEntry entry)
      entries (descend areaPath (framed slide index deckTransition
        (String.join (entries.map timelineEntry)))) := by
  have clean : ∀ entry ∈ entries, entry.Clean := by
    cases slideClean.of_layout isTimeline with
    | timeline clean => exact clean.items _ rfl
  have nested : Nested (String.join (entries.map timelineEntry)) :=
    .joinMap fun entry member => nested_timelineEntry (clean entry member)
  rw [descend_areaPath slideClean deckUntagged nested]
  exact forall₂_children_map fun entry member => readsAs_timelineEntry (clean entry member)

/-- A gallery shows its figures in a box above its caption. -/
theorem slide_gallery {shown : Picture} {images : List GalleryImage}
    (isPicture : slide.layout = .image shown) (isGallery : shown.preset = .grid)
    (listed : shown.images = some images) :
    Markup.slide slide index deckTransition =
      .ok (framed slide index deckTransition
        (box (galleryClass images.length) (String.join (images.map (figure slide shown))) ++
          caption shown.caption)) := by
  rw [Markup.slide, layout, isPicture]
  change picture slide shown >>= _ = _
  rw [picture, isGallery]
  change gallery slide shown >>= _ = _
  rw [gallery, listed]
  rfl

theorem galleryClass_eq (number : Nat) :
    galleryClass number =
      "image-gallery" ++
        if number = 3 then " gallery-3" else if number = 4 then " gallery-4" else "" := by
  unfold galleryClass
  split
  · rfl
  · rfl
  next notThree notFour =>
    rw [if_neg notThree, if_neg notFour]
    rfl

theorem isPlainClass_gallery (number : Nat) : IsPlainClass (galleryClass number) := by
  unfold galleryClass
  split <;> decide

theorem gallery_read {shown : Picture} {images : List GalleryImage} (slideClean : slide.Clean)
    (deckUntagged : ∀ name ∈ deckTransition, Untagged name)
    (isPicture : slide.layout = .image shown) (listed : shown.images = some images) :
    ∃ container others, descend areaPath (framed slide index deckTransition
        (box (galleryClass images.length) (String.join (images.map (figure slide shown))) ++
          caption shown.caption)) = container :: others ∧
      container.className = galleryClass images.length ∧
      List.Forall₂ (fun image child =>
          child.name = "figure" ∧ line child.written = figure slide shown image)
        images (children container.body) := by
  have clean : shown.Clean := by
    cases slideClean.of_layout isPicture with
    | image clean => exact clean
  have imagesClean := clean.images images listed
  have figures : Nested (String.join (images.map (figure slide shown))) :=
    .joinMap fun image member => nested_figure slideClean clean (imagesClean image member)
  obtain ⟨container, others, area, className, inner⟩ := descend_box slideClean deckUntagged figures
    (nested_caption clean.caption) (isPlainClass_gallery images.length)
  refine ⟨container, others, area, className, ?_⟩
  rw [inner]
  exact forall₂_children_map fun image member =>
    readsAs_figure slideClean clean (imagesClean image member)

end Boxes

/-! ### Flow diagrams -/

section Diagrams

variable {slide : Slide} {index : Nat} {deckTransition : Option String} {diagram : Flow}

/-- Whether a diagram has an item. -/
def hasItems (diagram : Flow) : Bool :=
  !(diagram.items.getD []).isEmpty

theorem flow_of_hasItems (shown : hasItems diagram = true) :
    flow diagram = element "div" (("class", "flow") :: styleAttribute diagram.style)
      ("\n" ++ String.join ((diagram.items.getD []).map fun item => line (flowItem item))) := by
  unfold hasItems at shown
  unfold flow
  cases items : diagram.items.getD [] with
  | nil => simp [items] at shown
  | cons first others => rfl

theorem flow_of_not_hasItems (hidden : hasItems diagram = false) : flow diagram = "" := by
  rw [hasItems, Bool.not_eq_false', List.isEmpty_iff] at hidden
  rw [flow, hidden]

theorem flow_read (clean : diagram.Clean) (shown : hasItems diagram = true) :
    List.Forall₂ (fun item child =>
        child.className = flowItemClass item ∧ child.written = flowItem item)
      (diagram.items.getD []) (descend [anyChild] (flow diagram)) := by
  have itemsClean := forall_mem_getD clean.items
  have items : Nested
      (String.join ((diagram.items.getD []).map fun item => line (flowItem item))) :=
    Nested.composed.flowItems itemsClean
  have values : UntaggedValues (("class", "flow") :: styleAttribute diagram.style) :=
    .cons (by decide) (by decide) (untaggedValues_styleAttribute clean.style)
  rw [flow_of_hasItems shown, descend_first
    (children_element (Nested.newline.append items) cleanName_div values rfl),
    Child.children_body values, children_newline]
  exact forall₂_children_map fun item member => (readsAs_flowItem (itemsClean item member)).line

theorem readsAs_flow (clean : diagram.Clean) (shown : hasItems diagram = true) :
    ReadsAs (blockLine (flow diagram)) fun child => child.written = flow diagram := by
  have nested := Nested.composed.flow clean
  have values : UntaggedValues (("class", "flow") :: styleAttribute diagram.style) :=
    .cons (by decide) (by decide) (untaggedValues_styleAttribute clean.style)
  have items : Nested
      (String.join ((diagram.items.getD []).map fun item => line (flowItem item))) :=
    Nested.composed.flowItems (forall_mem_getD clean.items)
  rw [flow_of_hasItems shown] at nested ⊢
  exact ReadsAs.blockLine ⟨nested, _,
    children_element (Nested.newline.append items) cleanName_div values rfl,
    Child.written_ofElement _ _ _⟩

theorem join_filter {α : Type} {items : List α} {keeps : α → Bool} {write : α → String}
    (others : ∀ item, keeps item = false → write item = "") :
    String.join (items.map write) = String.join ((items.filter keeps).map write) := by
  induction items with
  | nil => rfl
  | cons first items inductionHypothesis =>
      rw [List.map_cons, String.join_cons, inductionHypothesis]
      cases kept : keeps first with
      | true => rw [List.filter_cons_of_pos kept, List.map_cons, String.join_cons]
      | false =>
          rw [List.filter_cons_of_neg (by simp [kept]), others first kept, String.empty_append]

theorem slide_diagrams {shown : Diagrams} {page : String} (isFlow : slide.layout = .flow shown)
    (rendered : Markup.slide slide index deckTransition = .ok page) :
    ∃ body, optionalContent shown.content = .ok body ∧
      page = framed slide index deckTransition
        (description "margin-bottom: 1.5rem;" shown.description ++
          String.join ((shown.flows.getD []).map fun item => blockLine (flow item)) ++
            blockLine body) := by
  rw [Markup.slide, layout, isFlow] at rendered
  obtain ⟨_, written, same⟩ := bind_eq_ok_iff.mp rendered
  obtain ⟨body, bodyWritten, text⟩ := bind_eq_ok_iff.mp written
  refine ⟨body, bodyWritten, ?_⟩
  rw [← Except.ok.inj same, ← Except.ok.inj text]
  rfl

/-- The diagrams of a slide stand in its content area, in order and without the empty ones. -/
theorem diagrams_read {shown : Diagrams} {page : String} (slideClean : slide.Clean)
    (deckUntagged : ∀ name ∈ deckTransition, Untagged name)
    (isFlow : slide.layout = .flow shown)
    (rendered : Markup.slide slide index deckTransition = .ok page) :
    ∃ above flows below, descend areaPath page = above ++ (flows ++ below) ∧
      List.Forall₂ (fun diagram child => child.written = flow diagram)
        ((shown.flows.getD []).filter hasItems) flows := by
  have clean : shown.Clean := by
    cases slideClean.of_layout isFlow with
    | flow clean => exact clean
  obtain ⟨body, bodyWritten, rfl⟩ := slide_diagrams isFlow rendered
  have each := forall_mem_getD clean.flows
  have front : Nested (description "margin-bottom: 1.5rem;" shown.description) :=
    nested_description (by decide) clean.description
  have middle : Nested
      (String.join ((shown.flows.getD []).map fun item => blockLine (flow item))) :=
    .joinMap fun item member => (Nested.composed.flow (each item member)).blockLine
  have back : Nested (blockLine body) :=
    (Nested.composed.optionalContent shown.content clean.content body bodyWritten).blockLine
  have kept : String.join ((shown.flows.getD []).map fun item => blockLine (flow item)) =
      String.join (((shown.flows.getD []).filter hasItems).map fun item =>
        blockLine (flow item)) :=
    join_filter fun item hidden => by rw [flow_of_not_hasItems hidden]; rfl
  rw [descend_areaPath slideClean deckUntagged ((front.append middle).append back),
    String.append_assoc, children_append front, children_append middle, kept]
  refine ⟨_, _, _, rfl, forall₂_children_map fun item member => ?_⟩
  obtain ⟨inFlows, hasItems⟩ := List.mem_filter.mp member
  exact readsAs_flow (each item inFlows) hasItems

end Diagrams

/-- What a slide shows in sequence is read back from it: the labels and the cells of a table, the
entries of a timeline, the items of a grid, the figures of a gallery and the diagrams of a flow
slide with their boxes and arrows. -/
theorem sequences_read_back (slide : Slide) (index : Nat) (deckTransition : Option String)
    (clean : slide.Clean) (deckUntagged : ∀ name ∈ deckTransition, Untagged name) :
    let rendered := Markup.slide slide index deckTransition
    (∀ headers rows, slide.layout = .table ⟨some headers, some rows⟩ →
        ∃ page, rendered = .ok page ∧
          descend headPath page = headers.map (fun header => ⟨"th", "", header.display⟩) ∧
          (descend rowsPath page).map (fun row => (row.name, children row.body)) =
            rows.map (fun row => ("tr", row.map fun cell =>
              ⟨"td", "", formatText cell.display⟩)) ∧
          openings "tr" page = rows.length + 1 ∧ openings "th" page = headers.length ∧
          openings "td" page = (rows.map List.length).sum) ∧
      (∀ entries, slide.layout = .timeline ⟨some entries⟩ →
        ∃ page, rendered = .ok page ∧
          List.Forall₂ (fun entry child =>
              child.className = "timeline-item" ∧ line child.written = timelineEntry entry)
            entries (descend areaPath page)) ∧
      (∀ grid items page, slide.layout = .grid grid → grid.items = some items →
        rendered = .ok page →
          ∃ container others, descend areaPath page = container :: others ∧
            container.className = "grid-" ++ toString (gridColumns grid) ∧
            List.Forall₂ (fun item child =>
                child.className = item.kind.className ∧ gridItem item = .ok child.written)
              items (children container.body)) ∧
      (∀ picture images, slide.layout = .image picture → picture.preset = .grid →
        picture.images = some images →
          ∃ page container others, rendered = .ok page ∧
            descend areaPath page = container :: others ∧
            container.className = "image-gallery" ++
              (if images.length = 3 then " gallery-3"
                else if images.length = 4 then " gallery-4" else "") ∧
            List.Forall₂ (fun image child =>
                child.name = "figure" ∧ line child.written = figure slide picture image)
              images (children container.body)) ∧
      (∀ diagrams page, slide.layout = .flow diagrams → rendered = .ok page →
        ∃ above flows below, descend areaPath page = above ++ (flows ++ below) ∧
          List.Forall₂ (fun diagram child => child.written = flow diagram)
            ((diagrams.flows.getD []).filter hasItems) flows) ∧
      ∀ diagram : Flow, diagram.Clean → hasItems diagram = true →
        List.Forall₂ (fun item child =>
            child.className = flowItemClass item ∧ child.written = flowItem item)
          (diagram.items.getD []) (descend [anyChild] (flow diagram)) := by
  intro rendered
  refine ⟨?table, ?timeline, ?grid, ?gallery, ?diagrams, ?diagram⟩
  case table =>
    intro headers rows isTable
    exact ⟨_, slide_table isTable, table_read clean deckUntagged isTable⟩
  case timeline =>
    intro entries isTimeline
    exact ⟨_, slide_timeline isTimeline, timeline_read clean deckUntagged isTimeline⟩
  case grid =>
    intro grid items page isGrid listed written
    exact grid_read clean deckUntagged isGrid listed written
  case gallery =>
    intro picture images isPicture isGallery listed
    obtain ⟨container, others, area, className, figures⟩ :=
      gallery_read clean deckUntagged isPicture listed
    rw [galleryClass_eq] at className
    exact ⟨_, container, others, slide_gallery isPicture isGallery listed, area, className,
      figures⟩
  case diagrams =>
    intro diagrams page isFlow written
    exact diagrams_read clean deckUntagged isFlow written
  case diagram =>
    intro diagram diagramClean shown
    exact flow_read diagramClean shown

/-- A table with an empty row and with a `>` in a label. -/
def raggedTable : Slide :=
  ⟨some "Sizes", none, none,
    .table ⟨some [.text "A > B"], some [[], [.text "x", .integer 2]]⟩⟩

theorem raggedTable_clean : raggedTable.Clean where
  title := by
    rintro title ⟨rfl⟩
    decide
  subtitle := nofun
  transition := nofun
  layout := by
    refine .table ⟨?_, ?_⟩
    · rintro headers ⟨rfl⟩
      refine List.forall_mem_singleton.mpr ?_
      rintro text ⟨rfl⟩
      decide
    · rintro rows ⟨rfl⟩
      have cell : UntaggedProse "x" := untaggedProse_of_untagged (by decide)
      simp [cell, Leaf.Texts]

theorem raggedTable_read :
    raggedTable.Clean ∧ ∃ page, Markup.slide raggedTable 0 none = .ok page ∧
      descend headPath page = [⟨"th", "", "A > B"⟩] ∧
      (descend rowsPath page).map (fun row => (row.name, children row.body)) =
        [("tr", []), ("tr", [⟨"td", "", "x"⟩, ⟨"td", "", "2"⟩])] ∧
      openings "td" page = 2 := by
  obtain ⟨page, written, head, rows, -, -, cells⟩ :=
    (sequences_read_back raggedTable 0 none raggedTable_clean nofun).1 _ _ rfl
  have texts : formatText (Leaf.text "x").display = "x" ∧
      formatText (Leaf.integer 2).display = "2" := by decide +kernel
  refine ⟨raggedTable_clean, page, written, head, ?_, cells⟩
  simpa [texts] using rows

end SlideDeck.Markup
