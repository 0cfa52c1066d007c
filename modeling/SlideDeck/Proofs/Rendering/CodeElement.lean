import SlideDeck.Markup.Slide
import SlideDeck.Proofs.Inline.PlainText
import SlideDeck.Proofs.Text.Escape

/-!
Contract: code on the page.

Code is written by elements whose content is escaped, so it stands on the page as it is and cannot
end its element.

Owns:
- `ShowsCode`, an element whose content stands for a code;
- `Surrounds`, a writing that puts texts of its own around a text;
- the ways on which code comes to the page: listings, slides around one listing, and fenced code in
  a text;
- `code_intact`.
-/

namespace SlideDeck.Markup

/-- An element for code: between its tags stands an escaped text that decodes to the code. -/
def ShowsCode (language code element : String) : Prop :=
  ∃ content, element =
      openTag "pre" [] ++ openTag "code" [("class", "language-" ++ language)] ++ content ++
        closeTag "code" ++ closeTag "pre" ∧
    Text.IsEscaped content ∧ Text.unescape content = code

theorem showsCode_codeBlock (language code : String) :
    ShowsCode language code (codeBlock language code) := by
  refine ⟨Text.escape code, ?_, Text.isEscaped_escape code, Text.unescape_escape code⟩
  simp only [codeBlock, classed, element, String.append_assoc]

/-! ### Slides around code -/

/-- A writing puts texts around what it is given, whatever that is. -/
def Surrounds (write : String → String) : Prop :=
  ∃ above below, ∀ inner, write inner = above ++ inner ++ below

namespace Surrounds

theorem comp {outer inner : String → String} (isOuter : Surrounds outer)
    (isInner : Surrounds inner) : Surrounds fun text => outer (inner text) := by
  obtain ⟨above, below, outerEq⟩ := isOuter
  obtain ⟨innerAbove, innerBelow, innerEq⟩ := isInner
  refine ⟨above ++ innerAbove, innerBelow ++ below, ?_⟩
  intro text
  dsimp only
  rw [outerEq, innerEq]
  simp only [String.append_assoc]

theorem between (above below : String) : Surrounds fun text => above ++ text ++ below :=
  ⟨above, below, fun _ => rfl⟩

theorem behind (above : String) : Surrounds fun text => above ++ text :=
  ⟨above, "", fun _ => String.append_empty.symm⟩

theorem line : Surrounds Markup.line :=
  ⟨"", "\n", fun text => by rw [Markup.line, String.empty_append]⟩

theorem element (name : String) (attributes : List (String × String)) :
    Surrounds (Markup.element name attributes) :=
  between _ _

theorem contentArea : Surrounds Markup.contentArea :=
  line.comp ((element _ _).comp (behind _))

theorem frame (slide : Deck.Slide) (index : Nat) (deckTransition : Option String)
    (mark : String) : Surrounds (Markup.frame slide index deckTransition mark) :=
  line.comp ((element _ _).comp (behind _))

end Surrounds

/-- What stands around the listing on a slide does not depend on the listing. -/
theorem slide_code (slide : Deck.Slide) (fields : Deck.Code) (index : Nat)
    (deckTransition : Option String) :
    ∃ above below, ∀ listing : Deck.Listing,
      Markup.slide { slide with layout := .code { fields with listing := listing } } index
          deckTransition =
        .ok (above ++ codeBlock ((present listing.language).getD defaultLanguage)
          (listing.code.getD "") ++ below) := by
  have surrounds : Surrounds fun block =>
      frame slide index deckTransition "" (heading slide ++ contentArea
        (description "margin-bottom: 1rem;" fields.description ++ line block ++
          whenPresent fields.notes fun notes =>
            line (element "div" [("class", "card"), ("style", "margin-top: 1rem;")]
              (styled "p" ("color: " ++ mutedColor ++ ";") (formatText notes))))) :=
    (Surrounds.frame _ _ _ _).comp ((Surrounds.behind _).comp
      (Surrounds.contentArea.comp ((Surrounds.between _ _).comp Surrounds.line)))
  obtain ⟨above, below, whole⟩ := surrounds
  refine ⟨above, below, ?_⟩
  intro listing
  rw [← whole]
  rfl

/-! ### Fenced code in a text -/

theorem closesFirst_toList_iff {body : String} :
    Inline.ClosesFirst body.toList ↔
      ∀ front back : String, body ++ "```" = front ++ "```" ++ back → front = body := by
  constructor
  · intro closes front back whole
    apply String.toList_injective
    refine closes front.toList back.toList ?_
    simpa [String.toList_append, Inline.fenceMarks, Inline.backtick] using
      congrArg String.toList whole
  · intro closes front back whole
    have equal := closes (String.ofList front) (String.ofList back) (by
      apply String.toList_injective
      simpa [String.toList_append, Inline.fenceMarks, Inline.backtick] using whole)
    rw [← equal, String.toList_ofList]

theorem formatText_fenced {language body before after : String}
    (word : ∀ letter ∈ language.toList, Inline.isWordCharacter letter = true)
    (closes : ∀ front back : String, body ++ "```" = front ++ "```" ++ back → front = body)
    (plainBefore : ∀ character ∈ before.toList, Inline.isPlain character = true)
    (plainAfter : ∀ character ∈ after.toList, Inline.isPlain character = true) :
    formatText (before ++ ("```" ++ language ++ "\n" ++ body ++ "```") ++ after) =
      withBreaks before ++ codeBlock (if language = "" then defaultLanguage else language)
        (String.ofList (Text.trim body.toList)) ++ withBreaks after := by
  have source : (before ++ ("```" ++ language ++ "\n" ++ body ++ "```") ++ after).toList =
      before.toList ++ (Inline.Fence.source ⟨language.toList, body.toList⟩ ++ after.toList) := by
    simp [String.toList_append, Inline.Fence.source, Inline.fenceMarks, Inline.backtick]
  rw [formatText, source,
    Inline.format_fenced plainBefore plainAfter ⟨word, closesFirst_toList_iff.mpr closes⟩,
    String.ofList_append, String.ofList_append, ofList_writeLineBreaks, ofList_writeLineBreaks,
    Inline.Fence.render]
  simp [String.append_assoc]

/-- Code reaches the page intact on every way. Escaped texts hold no markup, and escaping and
reading references are inverses of each other; it goes part by part. The elements of listings, of
slides around a listing, and of fenced code between plain prose hold an escaped text that decodes
to the code, and what stands around them does not depend on it. -/
theorem code_intact :
    (∀ text, Text.IsEscaped (Text.escape text) ∧ Text.unescape (Text.escape text) = text) ∧
    (∀ written, Text.IsEscaped written → Text.escape (Text.unescape written) = written) ∧
    (∀ first second, Text.escape (first ++ second) = Text.escape first ++ Text.escape second) ∧
    (∀ listing : Deck.Listing, ∃ element, block (.code listing) = .ok element ∧
      ShowsCode (listing.language.getD defaultLanguage) (listing.code.getD "") element) ∧
    (∀ (slide : Deck.Slide) (fields : Deck.Code) (index : Nat) (deckTransition : Option String),
      ∃ above below, ∀ code : Option String, ∃ element,
        Markup.slide { slide with
            layout := .code { fields with listing := { fields.listing with code := code } } }
          index deckTransition = .ok (above ++ element ++ below) ∧
        ShowsCode ((present fields.listing.language).getD defaultLanguage) (code.getD "")
          element) ∧
    (∀ language body before after : String,
      (∀ letter ∈ language.toList, Inline.isWordCharacter letter = true) →
      (∀ front back : String, body ++ "```" = front ++ "```" ++ back → front = body) →
      (∀ character ∈ before.toList, Inline.isPlain character = true) →
      (∀ character ∈ after.toList, Inline.isPlain character = true) →
      ∃ element,
        formatText (before ++ ("```" ++ language ++ "\n" ++ body ++ "```") ++ after) =
          withBreaks before ++ element ++ withBreaks after ∧
        ShowsCode (if language = "" then defaultLanguage else language)
          (String.ofList (Text.trim body.toList)) element) := by
  refine ⟨?_, fun _ => Text.escape_unescape, Text.escape_append, ?_, ?_, ?_⟩
  · intro text
    exact ⟨Text.isEscaped_escape text, Text.unescape_escape text⟩
  · intro listing
    exact ⟨_, rfl, showsCode_codeBlock _ _⟩
  · intro slide fields index deckTransition
    obtain ⟨above, below, written⟩ := slide_code slide fields index deckTransition
    refine ⟨above, below, ?_⟩
    intro code
    exact ⟨_, written ⟨code, fields.listing.language⟩, showsCode_codeBlock _ _⟩
  · intro language body before after word closes plainBefore plainAfter
    exact ⟨_, formatText_fenced word closes plainBefore plainAfter, showsCode_codeBlock _ _⟩

/-- A body with markup, asterisks, lone backticks and a reference of its own. -/
theorem code_intact_sample :
    ∃ element,
      formatText ("a\n" ++ ("```" ++ "c" ++ "\n" ++ " **`<b>`** &lt;\n" ++ "```") ++ "\nz") =
        withBreaks "a\n" ++ element ++ withBreaks "\nz" ∧
      ShowsCode "c" "**`<b>`** &lt;" element := by
  have closes : ∀ front back : String,
      " **`<b>`** &lt;\n" ++ "```" = front ++ "```" ++ back → front = " **`<b>`** &lt;\n" := by
    exact closesFirst_toList_iff.mp (by decide)
  obtain ⟨-, -, -, -, -, fenced⟩ := code_intact
  exact fenced "c" " **`<b>`** &lt;\n" "a\n" "\nz" (List.all_eq_true.mp rfl) closes
    (List.all_eq_true.mp rfl) (List.all_eq_true.mp rfl)

end SlideDeck.Markup
