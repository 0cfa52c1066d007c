import SlideDeck.Proofs.Rendering.Policy
import SlideDeck.Proofs.Rendering.Slides

/-!
Contract: pages of clean slides hold them in their order, next to each other.

The head of a page has only escaped texts and needs no condition; of the configuration, the labels
of the buttons are written as they are. The script between its tags has a `<` of its own, which
begins no name.

Owns:
- `Nameless` texts, and that the script is nested;
- `page_ok_iff`: which decks have a page, and which page that is;
- `stretch_page`, from the parts of a page to the whole;
- `clean_slides_nested`, what clean slides and the pages of them look like.

Does not own: which slides can be rendered.
-/

namespace SlideDeck.Markup

/-! ### Scripts -/

/-- Whether every `<` of a text has a blank behind it, and so begins no name. -/
def isNameless : List Char → Bool
  | [] => true
  | character :: rest => (character != '<' || rest.head? == some ' ') && isNameless rest

section Nameless

variable {front letters : List Char}

theorem isNameless_cons {character : Char} {rest : List Char} :
    isNameless (character :: rest) = true ↔
      (character = '<' → rest.head? = some ' ') ∧ isNameless rest = true := by
  simp [isNameless, imp_iff_not_or]

theorem isNameless_append (first : isNameless front = true) (second : isNameless letters = true) :
    isNameless (front ++ letters) = true := by
  induction front with
  | nil => exact second
  | cons character rest inductionHypothesis =>
      rw [isNameless_cons] at first
      rw [List.cons_append, isNameless_cons]
      refine ⟨fun isTag => ?_, inductionHypothesis first.2⟩
      rw [List.head?_append, first.1 isTag, Option.some_or]

theorem isNameless_flatMap {α : Type} {items : List α} {write : α → List Char}
    (each : ∀ item ∈ items, isNameless (write item) = true) :
    isNameless (items.flatMap write) = true := by
  induction items with
  | nil => rfl
  | cons first others inductionHypothesis =>
      rw [List.forall_mem_cons] at each
      rw [List.flatMap_cons]
      exact isNameless_append each.1 (inductionHypothesis each.2)

theorem whole_nameless_append (nameless : isNameless front = true) (whole : Whole letters)
    (ends : '>' ∈ letters) : Whole (front ++ letters) := by
  induction front with
  | nil => exact whole
  | cons character rest inductionHypothesis =>
      exact ⟨fun _ => List.mem_append_right _ ends,
        inductionHypothesis (isNameless_cons.mp nameless).2⟩

/-- The tags that begin before some text are without names. -/
theorem tags_nameless_append (nameless : isNameless front = true) :
    ∃ before, tags (front ++ letters) = before ++ tags letters ∧ ∀ tag ∈ before, tag.name = "" := by
  induction front with
  | nil => exact ⟨[], rfl, by simp⟩
  | cons character rest inductionHypothesis =>
      rw [isNameless_cons] at nameless
      obtain ⟨before, split, unnamed⟩ := inductionHypothesis nameless.2
      by_cases isTag : character = '<'
      · subst isTag
        obtain ⟨behind, rfl⟩ := List.head?_eq_some_iff.mp (nameless.1 rfl)
        refine ⟨.opened "" (String.ofList (untilEnd (' ' :: (behind ++ letters)))) :: before,
          ?_, ?_⟩
        · rw [List.cons_append, tags, split]
          rfl
        · exact List.forall_mem_cons.mpr ⟨rfl, unnamed⟩
      · refine ⟨before, ?_, unnamed⟩
        rw [List.cons_append, tags, tagAt?_of_ne isTag, split]
        rfl

theorem nested_nameless_append {text other : String} (nameless : isNameless text.toList = true)
    (nested : Nested other) (ends : '>' ∈ other.toList) : Nested (text ++ other) := by
  obtain ⟨before, split, unnamed⟩ := @tags_nameless_append text.toList other.toList nameless
  have noMark : ∀ tag ∈ before, tag.isMark = false := by
    intro tag member
    cases tag with
    | opened name attributes =>
        obtain rfl : name = "" := unnamed _ member
        rfl
    | closed name => rfl
  have noBlock : before.filter Tag.isBlock = [] := by
    rw [List.filter_eq_nil_iff]
    intro tag member
    rw [Tag.isBlock, unnamed tag member]
    decide
  constructor
  · constructor
    · rw [String.toList_append]
      exact whole_nameless_append nameless nested.whole ends
    · rw [String.toList_append, split, List.forall_mem_append]
      exact ⟨noMark, nested.unmarked⟩
  · rw [String.toList_append, blockTags, split, List.filter_append, noBlock]
    exact nested.balanced

end Nameless

end SlideDeck.Markup

namespace SlideDeck.Page

open SlideDeck.Markup

-- Literals are equal to the texts of their letters, which are compared one by one.
theorem nameless_scriptLines :
    ∀ line ∈ scriptLines, ∃ letters, line = String.ofList letters ∧ isNameless letters = true := by
  unfold scriptLines
  repeat refine List.forall_mem_cons.mpr ⟨⟨_, rfl, by decide⟩, ?_⟩
  simp

theorem nameless_script : isNameless (navigationScript ++ "    ").toList = true := by
  have letters : (navigationScript ++ "    ").toList =
      scriptLines.flatMap (fun line => line.toList ++ ['\n']) ++ [' ', ' ', ' ', ' '] := by
    rw [String.toList_append, navigationScript, String.toList_join, List.flatMap_map]
    simp
  rw [letters]
  refine isNameless_append (isNameless_flatMap fun line member => ?_) rfl
  obtain ⟨letters, rfl, nameless⟩ := nameless_scriptLines line member
  rw [String.toList_ofList]
  exact isNameless_append nameless rfl

theorem nested_script : Nested (element "script" [] (navigationScript ++ "    ")) := by
  have clean : CleanName "script" := by decide
  have opening : Nested (openTag "script" []) := .openTag clean untaggedValues_nil rfl rfl
  rw [element, String.append_assoc]
  exact opening.append
    (nested_nameless_append nameless_script (.closeTag clean rfl) (by simp [closeTag]))

/-! ### Parts of a page -/

theorem untagged_indent (depth : Nat) : Untagged (String.join (List.replicate depth "    ")) := by
  simp [Untagged]

theorem nested_indented {text : String} (depth : Nat) (nested : Nested text) :
    Nested (indented depth text) :=
  (Nested.of_untagged (untagged_indent depth)).append nested.line

theorem nested_stylesheetLink {address : String} (untagged : Untagged address) :
    Nested (stylesheetLink address) :=
  nested_indented 1 (.openTag (by decide)
    (.cons (by decide) (by decide) (.single (by decide) untagged)) rfl rfl)

theorem nested_highlighter (theme : String) : Nested (highlighter theme) := by
  have address : Untagged (highlighterBase ++ "/styles/" ++ Text.escape theme ++ ".min.css") := by
    simp only [untagged_append]
    exact ⟨⟨by decide, untagged_escape theme⟩, by decide⟩
  have script : Nested (element "script" [("src", highlighterBase ++ "/highlight.min.js")] "") :=
    Nested.empty.plainElement (by decide)
      (.single (by decide) (by decide)) (by decide)
  exact (nested_stylesheetLink address).append (nested_indented 1 script)

/-- The head of a page is nested, whatever the settings are. -/
theorem nested_head (deck : SlideDeck.Deck) (config : Config) : Nested (head deck config) := by
  have doctype : Nested "<!DOCTYPE html>" := by
    refine ⟨⟨?_, by decide⟩, by decide⟩
    show Whole ('<' :: "!DOCTYPE html>".toList)
    exact ⟨fun _ => by decide, whole_of_untagged (by decide)⟩
  have html : Nested (openTag "html"
      [("lang", Text.escape (deck.lang.getD config.defaultLang))]) :=
    .openTag (by decide) (.single (by decide) (untagged_escape _))
      rfl rfl
  have headOpening : Nested (openTag "head" []) :=
    .openTag (by decide) untaggedValues_nil rfl rfl
  have charset : Nested (openTag "meta" [("charset", "UTF-8")]) :=
    .openTag (by decide) (.single (by decide) (by decide)) rfl rfl
  have viewport : Nested (openTag "meta"
      [("name", "viewport"), ("content", "width=device-width, initial-scale=1.0")]) :=
    .openTag (by decide)
      (.cons (by decide) (by decide) (.single (by decide) (by decide))) rfl rfl
  have title : Nested (element "title" [] (Text.escape (deck.title.getD ""))) :=
    (Nested.of_untagged (untagged_escape _)).bare (by decide) (by decide)
  have stylesheet := nested_stylesheetLink (untagged_escape config.stylesheet)
  have theme : Nested ((present deck.theme).elim "" fun theme =>
      stylesheetLink (Text.escape theme ++ ".css")) := by
    cases present deck.theme with
    | none => exact .empty
    | some theme =>
        exact nested_stylesheetLink (untagged_append.mpr ⟨untagged_escape theme, by decide⟩)
  have code : Nested
      (if config.highlight then highlighter (deck.codeTheme.getD config.defaultCodeTheme)
        else "") := by
    split
    · exact nested_highlighter _
    · exact .empty
  have headClosing : Nested (closeTag "head") := .closeTag (by decide) rfl
  unfold head
  exact ((((((((doctype.line.append html.line).append headOpening.line).append
    (nested_indented 1 charset)).append (nested_indented 1 viewport)).append
    (nested_indented 1 title)).append stylesheet).append theme).append code).append
    headClosing.line

theorem nested_button {identifier step label : String}
    (identifierUntagged : Untagged identifier) (stepUntagged : Untagged step)
    (labelUntagged : Untagged label) : Nested (button identifier step label) := by
  have call : Untagged ("changeSlide(" ++ step ++ ")") := by
    rw [untagged_append, untagged_append]
    exact ⟨⟨by decide, stepUntagged⟩, by decide⟩
  exact nested_indented 2 ((Nested.of_untagged labelUntagged).plainElement
    (by decide)
    (.cons (by decide) identifierUntagged (.single (by decide) call)) (by decide))

section Parts

variable {mark text : String} {around before behind : Open} {parts : List String}
  {attributes : List (String × String)}

theorem stretch_indented (depth : Nat) (stretch : Stretch mark around before behind parts text) :
    Stretch mark around before behind parts (indented depth text) :=
  .nested_append (.of_untagged (untagged_indent depth)) (stretch.append_nested .newline)

/-- A part of a page is open around its contents and nowhere else. -/
theorem stretch_part (values : UntaggedValues attributes)
    (noMark : (Tag.opened "div" (attributesRead attributes)).isMark = false)
    (inner : Stretch mark around (("div", attributesRead attributes) :: before)
      (("div", attributesRead attributes) :: before) parts text) :
    Stretch mark around before before parts (part attributes text) := by
  have opening : Stretch mark around before (("div", attributesRead attributes) :: before) []
      (indented 1 (openTag "div" attributes)) :=
    stretch_indented 1 (.openTag inner.isMark cleanName_div values noMark rfl)
  have closing : Stretch mark around (("div", attributesRead attributes) :: before) before []
      (indented 1 (closeTag "div")) :=
    stretch_indented 1 (.closeTag inner.isMark cleanName_div rfl)
  have whole := ((opening.append inner).append closing).append_nested .newline
  rwa [List.nil_append, List.append_nil] at whole

end Parts

/-! ### Whole pages -/

/-- The element in which all slides stand. -/
def container : String × String := ("div", " class=\"slide-container\"")

/-- The element in which the numbers stand. -/
def numbers : String × String := ("div", " class=\"slide-number\"")

/-- The number of slides between its tags. -/
def total (count : Nat) : String :=
  element "span" [("id", "total")] (toString count)

section Pages

variable {mark : String} {around : Open} {config : Config}

/-- What stands above the slides: the head of the page and the bar of the progress. -/
theorem nested_above (deck : SlideDeck.Deck) (config : Config) :
    Nested (head deck config ++ (line (openTag "body" []) ++
      indented 1 (element "div" [("class", "progress-bar"), ("id", "progressBar")] "") ++
        "\n")) := by
  have opening : Nested (openTag "body" []) := .openTag (by decide) untaggedValues_nil rfl rfl
  have progress : Nested
      (element "div" [("class", "progress-bar"), ("id", "progressBar")] "") :=
    Nested.empty.container (by decide) (by decide) (.single (by decide) (by decide))
  exact (nested_head deck config).append
    ((opening.line.append (nested_indented 1 progress)).append .newline)

/-- What stands below all parts: the script, and the ends of the body and of the page. -/
theorem nested_below :
    Nested (indented 1 (element "script" [] (navigationScript ++ "    ")) ++
      line (closeTag "body") ++ line (closeTag "html")) := by
  have bodyClosing : Nested (closeTag "body") := .closeTag (by decide) rfl
  have htmlClosing : Nested (closeTag "html") := .closeTag (by decide) rfl
  exact ((nested_indented 1 nested_script).append bodyClosing.line).append htmlClosing.line

theorem stretch_numbers {parts : List String} {count : Nat}
    (number : Stretch mark around [numbers] [numbers] parts (total count)) :
    Stretch mark around [] [] parts (part [("class", "slide-number")] (indented 2
      (element "span" [("id", "current")] "1" ++ " / " ++ total count))) := by
  have current : Nested (element "span" [("id", "current")] "1" ++ " / ") :=
    Nested.append ((Nested.of_untagged (by decide)).element (by decide)
      (.single (by decide) (by decide)) rfl) (.of_untagged (by decide))
  exact stretch_part (.single (by decide) (by decide)) rfl
    (stretch_indented 2 (.nested_append current number))

theorem stretch_navigation (isMark : mark ∈ [slideMark, totalMark])
    (previousUntagged : Untagged config.previousLabel) (nextUntagged : Untagged config.nextLabel) :
    Stretch mark around [] [] [] (part [("class", "navigation")]
      (button "prev" "-1" config.previousLabel ++ button "next" "1" config.nextLabel)) := by
  have previous : Nested (button "prev" "-1" config.previousLabel) :=
    nested_button (by decide) (by decide) previousUntagged
  have next : Nested (button "next" "1" config.nextLabel) :=
    nested_button (by decide) (by decide) nextUntagged
  exact stretch_part (.single (by decide) (by decide)) rfl
    (.of_nested isMark (previous.append next))

/-- What stands in the container and the number of slides are all that matters for a mark. -/
theorem stretch_page {texts slideParts totalParts : List String} (deck : SlideDeck.Deck)
    (previousUntagged : Untagged config.previousLabel) (nextUntagged : Untagged config.nextLabel)
    (slides : Stretch mark around [container] [container] slideParts ("\n".intercalate texts))
    (number : Stretch mark around [numbers] [numbers] totalParts (total texts.length)) :
    Stretch mark around [] [] (slideParts ++ totalParts)
      (head deck config ++ body texts config) := by
  have slidesPart : Stretch mark around [] [] slideParts
      (part [("class", "slide-container")] ("\n".intercalate texts)) :=
    stretch_part (.single (by decide) (by decide)) rfl slides
  have parts := (slidesPart.append (stretch_numbers number)).append
    (stretch_navigation slides.isMark previousUntagged nextUntagged)
  have whole := Stretch.nested_append (nested_above deck config) (parts.append_nested nested_below)
  rw [List.append_nil] at whole
  simpa only [body, total, String.append_assoc] using whole

end Pages

/-! ### Decks -/

section Decks

variable {deck : SlideDeck.Deck} {config : Config} {text : String}

/-- Which decks have a page, and which page that is. -/
theorem page_ok_iff :
    page deck config = .ok text ↔
      deck.slides ≠ [] ∧
        (config.isolateFailures = true ∨ AllRender deck.transition 0 deck.slides) ∧
          text = head deck config ++ body (fragments deck.transition 0 deck.slides) config := by
  unfold page slides Markup.slides
  by_cases empty : deck.slides = []
  · simp [empty]
  · rw [if_neg (by simpa using empty)]
    cases config.isolateFailures with
    | true => simp [slidesFrom_isolated, empty, eq_comm]
    | false =>
        cases result : slidesFrom false deck.transition 0 deck.slides with
        | ok texts =>
            obtain ⟨all, rfl⟩ := (slidesFrom_ok_iff _ _).mp result
            simp [empty, all, eq_comm]
        | error failure =>
            have failing : ¬AllRender deck.transition 0 deck.slides := by
              intro all
              rw [(slidesFrom_ok_iff _ _).mpr ⟨all, rfl⟩] at result
              exact nomatch result
            simp [failing]

theorem isSlide_fragment {slide : Deck.Slide} {deckTransition : Option String} (index : Nat)
    (clean : slide.Clean) (untagged : ∀ name ∈ deckTransition, Untagged name) :
    IsSlide (fragment deckTransition index slide) := by
  unfold fragment
  cases rendered : Markup.slide slide index deckTransition with
  | ok text => exact isSlide_of_slide clean untagged text rendered
  | error missing => exact isSlide_failureSlide clean untagged _

theorem isSlide_fragments (clean : ∀ slide ∈ deck.slides, slide.Clean)
    (untagged : ∀ name ∈ deck.transition, Untagged name) :
    ∀ text ∈ fragments deck.transition 0 deck.slides, IsSlide text := by
  intro text member
  obtain ⟨index, inside, rfl⟩ := List.mem_mapIdx.mp member
  exact isSlide_fragment _ (clean _ (List.getElem_mem inside)) untagged

theorem marked_total (count : Nat) : Marked totalMark (total count) := by
  have number : Untagged (toString count) := by simp [Untagged, Deck.untagged_toDigits]
  exact .element (.of_untagged number) (by decide)
    (.single (by decide) (by decide)) (by simp) (by decide)

theorem balanced_total (count : Nat) : run [] (blockTags (total count).toList) = some [] := by
  have number : Untagged (toString count) := by simp [Untagged, Deck.untagged_toDigits]
  exact (Nested.of_untagged number).balanced_element (by decide)
    (.single (by decide) (by decide))

theorem total_eq (count : Nat) : total count = totalMark ++ toString count ++ "</span>" := by
  apply String.toList_injective
  simp [total, totalMark, element, openTag, closeTag, attributeText, String.join]

section Placement

variable {texts : List String} (deck) (previousUntagged : Untagged config.previousLabel)
  (nextUntagged : Untagged config.nextLabel) (slides : ∀ text ∈ texts, IsSlide text)

include previousUntagged nextUntagged slides

theorem placed_slides :
    Placed slideMark [container] [] texts (head deck config ++ body texts config) := by
  have isMark : slideMark ∈ [slideMark, totalMark] := by simp
  have inContainer : Stretch slideMark [container] [container] [container]
      (texts.flatMap fun text => [text]) ("\n".intercalate texts) :=
    .lines isMark fun text member =>
      .of_marked (slides text member).toMarked (slides text member).closes
  have number : Stretch slideMark [container] [numbers] [numbers] [] (total texts.length) :=
    .of_other isMark (marked_total _) (by decide) (balanced_total _)
  have whole := stretch_page deck previousUntagged nextUntagged inContainer number
  simpa using whole.placed

theorem placed_total :
    Placed totalMark [numbers] [] [total texts.length] (head deck config ++ body texts config) := by
  have isMark : totalMark ∈ [slideMark, totalMark] := by simp
  have inContainer : Stretch totalMark [numbers] [container] [container]
      (texts.flatMap fun _ => []) ("\n".intercalate texts) :=
    .lines isMark fun text member =>
      .of_other isMark (slides text member).toMarked (by decide) (slides text member).closes
  have number : Stretch totalMark [numbers] [numbers] [numbers] [total texts.length]
      (total texts.length) :=
    .of_marked (marked_total _) (balanced_total _)
  have whole := stretch_page deck previousUntagged nextUntagged inContainer number
  have noParts : texts.flatMap (fun _ => ([] : List String)) = [] :=
    List.flatMap_eq_nil_iff.mpr fun _ _ => rfl
  rw [noParts, List.nil_append] at whole
  exact whole.placed

end Placement

/-- Slides of clean decks are single elements, and pages hold them all, in their order, directly in
the container of the slides, together with their number. -/
theorem clean_slides_nested :
    (∀ (slide : Deck.Slide) (index : Nat) (deckTransition : Option String),
      slide.Clean → (∀ name ∈ deckTransition, Untagged name) →
        (∀ text, Markup.slide slide index deckTransition = .ok text → IsElement "div" text) ∧
          ∀ failure, IsElement "div" (failureSlide slide index deckTransition failure)) ∧
      ∀ (deck : SlideDeck.Deck) (config : Config),
        (∀ slide ∈ deck.slides, slide.Clean) → (∀ name ∈ deck.transition, Untagged name) →
        Untagged config.previousLabel → Untagged config.nextLabel →
          ((∃ text, page deck config = .ok text) ↔
            deck.slides ≠ [] ∧
              (config.isolateFailures = true ∨ AllRender deck.transition 0 deck.slides)) ∧
          ∀ text, page deck config = .ok text →
            (positions slideMark.toList text.toList).length = deck.slides.length ∧
            List.Forall₂
              (fun position (fragment : String) =>
                fragment.toList <+: text.toList.drop position ∧
                  run [] (blockTags (text.toList.take position)) = some [container])
              (positions slideMark.toList text.toList)
              (fragments deck.transition 0 deck.slides) ∧
            ∃ position, positions totalMark.toList text.toList = [position] ∧
              (totalMark ++ toString deck.slides.length ++ "</span>").toList <+:
                text.toList.drop position := by
  constructor
  · intro slide index deckTransition clean untagged
    constructor
    · intro text rendered
      exact (isSlide_of_slide clean untagged text rendered).toIsElement
    · intro failure
      exact (isSlide_failureSlide clean untagged failure).toIsElement
  · intro deck config clean untagged previousUntagged nextUntagged
    refine ⟨?_, ?_⟩
    · simp only [page_ok_iff, exists_and_left, exists_eq, and_true]
    · intro text given
      obtain ⟨-, -, rfl⟩ := page_ok_iff.mp given
      have areSlides := isSlide_fragments clean untagged
      have count : (fragments deck.transition 0 deck.slides).length = deck.slides.length := by
        simp [fragments]
      have slidesPlaced := placed_slides deck previousUntagged nextUntagged areSlides
      have totalPlaced := placed_total deck previousUntagged nextUntagged areSlides
      refine ⟨slidesPlaced.length_eq.trans count, slidesPlaced, ?_⟩
      obtain ⟨position, others, stands, none, only⟩ := List.forall₂_cons_right_iff.mp totalPlaced
      rw [List.forall₂_nil_right_iff.mp none] at only
      rw [total_eq, count] at stands
      exact ⟨position, only, stands.1⟩

/-- A slide with a title above a card and a paragraph. -/
def sampleSlide : Deck.Slide where
  title := some "Facts"
  subtitle := none
  transition := none
  layout := .plain (some (.blocks
    [.card ⟨some "First", none, some (.text "A **bold** fact.")⟩, .paragraph "And more."]))

theorem sampleSlide_clean : sampleSlide.Clean where
  title := by
    rintro title ⟨rfl⟩
    decide
  subtitle := nofun
  transition := nofun
  layout := by
    have fact : Deck.Content.Clean (.text "A **bold** fact.") :=
      .text (untaggedProse_of_untagged (by decide))
    have card : Deck.Card.Clean ⟨some "First", none, some (.text "A **bold** fact.")⟩ := by
      refine .card ?_ nofun ?_
      · rintro title ⟨rfl⟩
        decide
      · rintro body ⟨rfl⟩
        exact fact
    refine .plain ?_
    rintro body ⟨rfl⟩
    refine .blocks (List.forall_mem_cons.mpr ⟨.card card, List.forall_mem_singleton.mpr ?_⟩)
    exact .paragraph (untaggedProse_of_untagged (by decide))

theorem sampleSlide_nested :
    (∃ text, Markup.slide sampleSlide 0 none = .ok text ∧ IsElement "div" text) ∧
      ∃ text, page { SlideDeck.Deck.empty with slides := [sampleSlide, sampleSlide] }
          Config.default = .ok text ∧
        (positions slideMark.toList text.toList).length = 2 := by
  have alone := clean_slides_nested.1 sampleSlide 0 none sampleSlide_clean nofun
  have together := clean_slides_nested.2
    { SlideDeck.Deck.empty with slides := [sampleSlide, sampleSlide] } Config.default
    (by simp [sampleSlide_clean]) nofun (by decide) (by decide)
  have renders : ∃ text, Markup.slide sampleSlide 0 none = .ok text := ⟨_, rfl⟩
  have written : ∃ text, page { SlideDeck.Deck.empty with slides := [sampleSlide, sampleSlide] }
      Config.default = .ok text := ⟨_, rfl⟩
  obtain ⟨text, rendered⟩ := renders
  obtain ⟨pageText, given⟩ := written
  exact ⟨⟨text, rendered, alone.1 text rendered⟩, pageText, given, (together.2 pageText given).1⟩

end Decks

end SlideDeck.Page
