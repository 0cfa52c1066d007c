import Mathlib.Data.List.Infix
import SlideDeck.Proofs.Rendering.CodeElement
import SlideDeck.Proofs.Rendering.Element

/-!
Contract: the ways on which code comes to the page write the same block.

A slide around a listing writes a block of its own; a listing in a body writes the same one unless
its language is the empty text, and so does fenced code in a text.

Owns:
- `slideBlock`, the block of a slide around a listing;
- white space behind fenced code, and the bodies that can be fenced;
- `code_routes`.

Does not own: what stands in a block.
-/

namespace SlideDeck.Text

/-! ### White space at the end -/

variable {text padding : List Char}

theorem dropBlankEnd_length_le (text : List Char) : (dropBlankEnd text).length ≤ text.length := by
  rw [dropBlankEnd, List.length_reverse, ← text.length_reverse]
  exact (List.dropWhile_suffix _).length_le

/-- A trimmed text has no white space at either end. -/
theorem ends_of_trimmed (trimmed : trim text = text) :
    text.dropWhile isBlank = text ∧ dropBlankEnd text = text := by
  have shorter := dropBlankEnd_length_le (text.dropWhile isBlank)
  have whole : (text.dropWhile isBlank).length = text.length := by
    refine Nat.le_antisymm (List.dropWhile_suffix _).length_le ?_
    rwa [← trim, trimmed] at shorter
  have start := (List.dropWhile_suffix isBlank).eq_of_length whole
  refine ⟨start, ?_⟩
  rwa [trim, start] at trimmed

theorem trim_append_blank (trimmed : trim text = text)
    (blank : ∀ character ∈ padding, isBlank character = true) : trim (text ++ padding) = text := by
  obtain ⟨start, stop⟩ := ends_of_trimmed trimmed
  have behind : dropBlankEnd (text ++ padding) = text := by
    have reversed : ∀ character ∈ padding.reverse, isBlank character = true :=
      fun character member => blank character (List.mem_reverse.mp member)
    rw [dropBlankEnd, List.reverse_append, List.dropWhile_append_of_pos reversed, ← dropBlankEnd,
      stop]
  cases text with
  | nil =>
      have none : padding.dropWhile isBlank = [] := List.dropWhile_eq_nil_iff.mpr blank
      rw [trim, List.nil_append, none]
      rfl
  | cons character text =>
      have visible : ¬isBlank character = true :=
        List.dropWhile_eq_self_iff.mp start (Nat.succ_pos _)
      rw [trim, List.cons_append, List.dropWhile_cons_of_neg visible,
        ← List.cons_append, behind]

end SlideDeck.Text

namespace SlideDeck.Markup

open SlideDeck.Deck (Listing)

/-! ### Bodies that can be fenced -/

/-- A body without three backticks in a row can be fenced with a newline behind it. -/
theorem closes_newline {body : String} (noMarks : ¬Inline.fenceMarks <:+: body.toList) :
    ∀ front back : String, body ++ "\n" ++ "```" = front ++ "```" ++ back →
      front = body ++ "\n" := by
  rw [← closesFirst_toList_iff]
  intro front back whole
  have split : body.toList ++ '\n' :: Inline.fenceMarks = front ++ (Inline.fenceMarks ++ back) := by
    simpa using whole
  rcases List.append_eq_append_iff.mp split with ⟨between, rfl, rest⟩ | ⟨inside, equal, rest⟩
  · -- Marks behind the body begin behind the newline.
    obtain _ | ⟨newline, _ | ⟨second, others⟩⟩ := between
    · simp [Inline.fenceMarks, Inline.backtick] at rest
    · obtain ⟨rfl, -⟩ := List.cons.inj rest
      simp
    · have lengths := congrArg List.length rest
      simp [Inline.fenceMarks] at lengths
      omega
  · -- Marks that begin in the body end in it, since the newline is no mark.
    obtain _ | ⟨first, _ | ⟨second, _ | ⟨third, inside⟩⟩⟩ := inside
    case cons.cons.cons =>
      simp only [Inline.fenceMarks, List.cons_append, List.cons.injEq] at rest
      obtain ⟨rfl, rfl, rfl, -⟩ := rest
      exact absurd ⟨front, inside, by simp [equal, Inline.fenceMarks]⟩ noMarks
    all_goals simp [Inline.fenceMarks, Inline.backtick] at rest

/-! ### Routes -/

/-- The block that a slide writes for its listing. -/
def slideBlock (listing : Listing) : String :=
  codeBlock ((present listing.language).getD defaultLanguage) (listing.code.getD "")

theorem codeBlock_ne_of_empty (code : String) :
    codeBlock "" code ≠ codeBlock defaultLanguage code := by
  intro same
  have lengths := congrArg String.length same
  simp [codeBlock, classed, element, openTag, closeTag, attributeText, defaultLanguage] at lengths
  exact absurd lengths (by decide)

/-- A listing in a body is written as on a slide, unless its language is the empty text. -/
theorem block_code_eq_iff {listing : Listing} :
    block (.code listing) = .ok (slideBlock listing) ↔ listing.language ≠ some "" := by
  rw [block, Except.ok.injEq, Markup.listing, slideBlock]
  constructor
  · intro same isEmpty
    rw [isEmpty] at same
    exact codeBlock_ne_of_empty _ same
  · intro notEmpty
    rw [present_of_ne_empty notEmpty]

theorem formatText_fence {language body padding : String}
    (word : ∀ letter ∈ language.toList, Inline.isWordCharacter letter = true)
    (trimmed : Text.trim body.toList = body.toList)
    (blank : ∀ character ∈ padding.toList, Text.isBlank character = true)
    (closes : ∀ front back : String, body ++ padding ++ "```" = front ++ "```" ++ back →
      front = body ++ padding) :
    formatText ("```" ++ language ++ "\n" ++ body ++ padding ++ "```") =
      slideBlock ⟨some body, some language⟩ := by
  have fenced : formatText ("" ++ ("```" ++ language ++ "\n" ++ (body ++ padding) ++ "```") ++ "") =
      _ := formatText_fenced word closes (by simp) (by simp)
  have code : String.ofList (Text.trim (body ++ padding).toList) = body := by
    rw [String.toList_append, Text.trim_append_blank trimmed blank, String.ofList_toList]
  have breaks : withBreaks "" = "" := rfl
  have named : (present (some language)).getD defaultLanguage =
      if language = "" then defaultLanguage else language := by
    split
    next isEmpty => rw [isEmpty]; rfl
    next notEmpty => rw [present_of_ne_empty (by simpa using notEmpty), Option.getD_some]
  rw [code, breaks, String.empty_append, String.empty_append, String.append_empty,
    String.append_empty, ← String.append_assoc] at fenced
  rw [slideBlock, named]
  exact fenced

/-- The ways on which code comes to the page agree. A slide writes its listing as one block, around
which nothing depends on the listing. A listing in a body is the same block exactly if its language
is not the empty text; under the empty one it has no language at all. Fenced code is the same block
too, under an empty language as well, for each body without white space at the ends; it can be
fenced, with a newline behind it, if there are no three backticks in it. -/
theorem code_routes (slide : Deck.Slide) (fields : Deck.Code) (index : Nat)
    (deckTransition : Option String) :
    (∃ above below, ∀ listing,
      Markup.slide { slide with layout := .code { fields with listing := listing } } index
        deckTransition = .ok (above ++ slideBlock listing ++ below)) ∧
    (∀ listing, block (.code listing) = .ok (slideBlock listing) ↔ listing.language ≠ some "") ∧
    (∀ code, block (.code ⟨code, some ""⟩) = .ok (codeBlock "" (code.getD ""))) ∧
    (∀ language body padding : String,
      (∀ letter ∈ language.toList, Inline.isWordCharacter letter = true) →
      Text.trim body.toList = body.toList →
      (∀ character ∈ padding.toList, Text.isBlank character = true) →
      (∀ front back : String, body ++ padding ++ "```" = front ++ "```" ++ back →
        front = body ++ padding) →
      formatText ("```" ++ language ++ "\n" ++ body ++ padding ++ "```") =
        slideBlock ⟨some body, some language⟩) ∧
    (∀ body : String, ¬Inline.fenceMarks <:+: body.toList →
      ∀ front back : String, body ++ "\n" ++ "```" = front ++ "```" ++ back →
        front = body ++ "\n") ∧
    ∀ listing, present listing.language = none →
      slideBlock listing = codeBlock "plaintext" (listing.code.getD "") := by
  refine ⟨slide_code slide fields index deckTransition, fun _ => block_code_eq_iff, fun _ => rfl,
    ?_, fun _ => closes_newline, ?_⟩
  · intro language body padding word trimmed blank closes
    exact formatText_fence word trimmed blank closes
  · intro listing absent
    rw [slideBlock, absent]
    rfl

/-- Under the empty language a listing in a body has none, and the other two ways take the default
one. -/
theorem empty_language_differs :
    block (.code ⟨some "x", some ""⟩) = .ok "<pre><code class=\"language-\">x</code></pre>" ∧
      slideBlock ⟨some "x", some ""⟩ = "<pre><code class=\"language-plaintext\">x</code></pre>" ∧
      formatText "```\nx\n```" = "<pre><code class=\"language-plaintext\">x</code></pre>" := by
  refine ⟨rfl, by decide +kernel, by decide +kernel⟩

/-- A body that ends in backticks: on a slide, in a body and fenced with a newline behind it. -/
theorem code_routes_sample :
    (∃ above below, Markup.slide ⟨none, none, none,
        .code ⟨⟨some "`a` < ``", some "rust"⟩, none, none⟩⟩ 0 none =
          .ok (above ++ slideBlock ⟨some "`a` < ``", some "rust"⟩ ++ below)) ∧
      block (.code ⟨some "`a` < ``", some "rust"⟩) =
        .ok (slideBlock ⟨some "`a` < ``", some "rust"⟩) ∧
      formatText ("```" ++ "rust" ++ "\n" ++ "`a` < ``" ++ "\n" ++ "```") =
        slideBlock ⟨some "`a` < ``", some "rust"⟩ := by
  obtain ⟨⟨above, below, slides⟩, bodies, -, fenced, fits, -⟩ :=
    code_routes ⟨none, none, none, .plain none⟩ ⟨⟨none, none⟩, none, none⟩ 0 none
  refine ⟨⟨above, below, slides ⟨some "`a` < ``", some "rust"⟩⟩, (bodies _).mpr (by decide), ?_⟩
  exact fenced "rust" "`a` < ``" "\n" (List.all_eq_true.mp rfl) (by decide)
    (List.all_eq_true.mp rfl) (fits "`a` < ``" (by decide))

end SlideDeck.Markup
