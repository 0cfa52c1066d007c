import SlideDeck.Markup.Slide
import SlideDeck.Proofs.Result

/-!
Contract: what two-column slides show, and in which order.

The first marker in the body of a slide takes the place of its own columns. The other blocks of
the body stand above the columns of the marker; without a marker the body stands below the own
columns.

Owns:
- `columnSlide` and `framed`, a two-column slide and the frame around what it shows;
- what a slide shows with a marker and without one;
- `first_marker_columns`: only the first marker and the blocks that are no markers matter.

Does not own: the markup of blocks and of columns.
-/

namespace SlideDeck.Markup

open SlideDeck.Deck
open SlideDeck.Result

/-- A slide with a text in its content area. -/
def framed (slide : Slide) (index : Nat) (deckTransition : Option String) (text : String) :
    String :=
  frame slide index deckTransition "" (heading slide ++ contentArea text)

/-- The slide with two columns as its layout. -/
def columnSlide (slide : Slide) (index : Nat) (deckTransition : Option String)
    (columns : TwoColumn) : Rendering String :=
  Markup.slide { slide with layout := .twoColumn columns } index deckTransition

section Body

variable {slide : Slide} {index : Nat} {deckTransition : Option String} {left right : Option Column}

/-- Without a marker the own columns of a slide stand above its body. -/
theorem columnSlide_unmarked {body : Option Content}
    (unmarked : body.bind Content.columns? = none) :
    columnSlide slide index deckTransition ⟨left, right, body⟩ = do
      let pair ← columnPair left right
      let below ← optionalContent body
      return framed slide index deckTransition (pair ++ blockLine below) := by
  unfold columnSlide Markup.slide layout twoColumn
  simp only [unmarked, bind_assoc, pure_bind]
  rfl

/-- With a marker the other blocks of the body stand above its columns, as one block. -/
theorem columnSlide_marked {own : Option Column × Option Column} {items : List Block}
    (marked : items.findSome? Block.columns? = some (left, right)) :
    columnSlide slide index deckTransition ⟨own.1, own.2, some (.blocks items)⟩ = do
      let texts ← blocks (items.filter (!·.isColumns))
      let pair ← columnPair left right
      return framed slide index deckTransition (blockLine ("\n".intercalate texts) ++ pair) := by
  have found : (some (Content.blocks items)).bind Content.columns? = some (left, right) := marked
  unfold columnSlide Markup.slide layout twoColumn blockLines
  simp only [found, bind_assoc, pure_bind]
  rfl

theorem blocks_eq_mapM (items : List Block) : blocks items = items.mapM block := by
  induction items with
  | nil => rw [blocks]; rfl
  | cons first others inductionHypothesis =>
      rw [blocks, inductionHypothesis, List.mapM_cons]

end Body

/-! ### The first marker -/

section Marker

variable {before after : List Block} {left right : Option Column}

theorem columns?_eq_none {item : Block} (other : item.isColumns = false) :
    item.columns? = none := by
  cases item with
  | columns => exact absurd other (by simp [Block.isColumns])
  | paragraph | list | card | quote | callout | code | flow | unknown => rfl

theorem findSome?_first (unmarked : ∀ item ∈ before, item.isColumns = false) :
    (before ++ .columns left right :: after).findSome? Block.columns? = some (left, right) := by
  have none : before.findSome? Block.columns? = none :=
    List.findSome?_eq_none_iff.mpr fun item member => columns?_eq_none (unmarked item member)
  rw [List.findSome?_append, none, Option.none_or, List.findSome?_cons]
  rfl

theorem filter_marker :
    (before ++ .columns left right :: after).filter (!·.isColumns) =
      (before ++ after).filter (!·.isColumns) := by
  simp [Block.isColumns]

end Marker

/-! ### What is shown -/

/-- Texts that show blocks: one for each block, in order. -/
def Shows (items : List Block) (texts : List String) : Prop :=
  List.Forall₂ (fun item text => block item = .ok text) items texts

section Shown

variable {slide : Slide} {index : Nat} {deckTransition : Option String}
  {left right : Option Column} {before after : List Block} {own : Option Column × Option Column}

/-- A slide with a marker shows the texts of all other blocks in order, then the columns of the
marker. -/
theorem columnSlide_ok_iff (unmarked : ∀ item ∈ before, item.isColumns = false) {page : String} :
    columnSlide slide index deckTransition
        ⟨own.1, own.2, some (.blocks (before ++ .columns left right :: after))⟩ = .ok page ↔
      ∃ texts pair, Shows ((before ++ after).filter (!·.isColumns)) texts ∧
        columnPair left right = .ok pair ∧
        page = framed slide index deckTransition (blockLine ("\n".intercalate texts) ++ pair) := by
  rw [columnSlide_marked (findSome?_first unmarked), filter_marker, blocks_eq_mapM]
  simp only [bind_eq_ok_iff, mapM_eq_ok_iff]
  constructor
  · rintro ⟨texts, shown, pair, columns, same⟩
    exact ⟨texts, pair, shown, columns, (Except.ok.inj same).symm⟩
  · rintro ⟨texts, pair, shown, columns, rfl⟩
    exact ⟨texts, shown, pair, columns, rfl⟩

/-- A slide with a marker fails with the first of the other blocks that fails, or else with the
columns of the marker. -/
theorem columnSlide_error_iff (unmarked : ∀ item ∈ before, item.isColumns = false)
    {missing : Missing} :
    columnSlide slide index deckTransition
        ⟨own.1, own.2, some (.blocks (before ++ .columns left right :: after))⟩ = .error missing ↔
      (∃ shown failing rest, (before ++ after).filter (!·.isColumns) = shown ++ failing :: rest ∧
          (∀ item ∈ shown, ∃ text, block item = .ok text) ∧ block failing = .error missing) ∨
        (∃ texts, Shows ((before ++ after).filter (!·.isColumns)) texts) ∧
          columnPair left right = .error missing := by
  rw [columnSlide_marked (findSome?_first unmarked), filter_marker, blocks_eq_mapM,
    bind_eq_error_iff, mapM_eq_error_iff]
  simp only [mapM_eq_ok_iff]
  refine or_congr_right ?_
  constructor
  · rintro ⟨texts, shown, failed⟩
    rcases bind_eq_error_iff.mp failed with failed | ⟨_, _, impossible⟩
    · exact ⟨⟨texts, shown⟩, failed⟩
    · cases impossible
  · rintro ⟨⟨texts, shown⟩, failed⟩
    exact ⟨texts, shown, bind_eq_error_iff.mpr (.inl failed)⟩

/-- Slides with the same first marker and the same other blocks are the same. -/
theorem columnSlide_eq_of_others {own' : Option Column × Option Column}
    {before' after' : List Block}
    (unmarked : ∀ item ∈ before, item.isColumns = false)
    (unmarked' : ∀ item ∈ before', item.isColumns = false)
    (others : (before' ++ after').filter (!·.isColumns) =
      (before ++ after).filter (!·.isColumns)) :
    columnSlide slide index deckTransition
        ⟨own'.1, own'.2, some (.blocks (before' ++ .columns left right :: after'))⟩ =
      columnSlide slide index deckTransition
        ⟨own.1, own.2, some (.blocks (before ++ .columns left right :: after))⟩ := by
  rw [columnSlide_marked (findSome?_first unmarked), columnSlide_marked (findSome?_first unmarked'),
    filter_marker, filter_marker, others]

end Shown

/-- A two-column slide shows the columns of its first marker as if they were its own, below all
blocks that are no markers; nothing else on it matters. Without a marker it shows its own columns
above its body. -/
theorem first_marker_columns (slide : Slide) (index : Nat) (deckTransition : Option String)
    (left right : Option Column) (before after : List Block)
    (unmarked : ∀ item ∈ before, item.isColumns = false) :
    let page := framed slide index deckTransition
    let others := (before ++ after).filter (!·.isColumns)
    let marked (own : Option Column × Option Column) (front back : List Block) :=
      columnSlide slide index deckTransition
        ⟨own.1, own.2, some (.blocks (front ++ .columns left right :: back))⟩
    (∀ own text, marked own before after = .ok text ↔
        ∃ texts pair, Shows others texts ∧ columnPair left right = .ok pair ∧
          text = page (blockLine ("\n".intercalate texts) ++ pair)) ∧
      (∀ own missing, marked own before after = .error missing ↔
        (∃ shown failing rest, others = shown ++ failing :: rest ∧
            (∀ item ∈ shown, ∃ text, block item = .ok text) ∧ block failing = .error missing) ∨
          (∃ texts, Shows others texts) ∧ columnPair left right = .error missing) ∧
      (∀ own own' before' after', (∀ item ∈ before', item.isColumns = false) →
        (before' ++ after').filter (!·.isColumns) = others →
          marked own' before' after' = marked own before after) ∧
      ∀ body : Option Content, body.bind Content.columns? = none →
        columnSlide slide index deckTransition ⟨left, right, body⟩ = do
          let pair ← columnPair left right
          let below ← optionalContent body
          return page (pair ++ blockLine below) := by
  intro page others marked
  refine ⟨?_, ?_, ?_, ?_⟩
  · intro own text
    exact columnSlide_ok_iff unmarked
  · intro own missing
    exact columnSlide_error_iff unmarked
  · intro own own' before' after' unmarked' same
    exact columnSlide_eq_of_others unmarked unmarked' same
  · intro body noMarker
    exact columnSlide_unmarked noMarker

/-- A column with a title and nothing else. -/
def titledColumn (title : String) : Option Column :=
  some ⟨title, none, none⟩

/-- Neither the own column, which cannot be rendered, nor the second marker matters. -/
theorem first_marker_columns_sample :
    (∀ item ∈ [Block.paragraph "a"], item.isColumns = false) ∧
      columnSlide ⟨none, none, none, .plain none⟩ 1 none
        ⟨some ⟨none, none, some (.blocks [.list ⟨none, none⟩])⟩, none,
          some (.blocks ([.paragraph "a"] ++ .columns (titledColumn "L") none ::
            [.columns none none, .paragraph "b"]))⟩ =
        .ok ("<div class=\"slide transition-fade\" data-transition=\"fade\">\n" ++
          "<div class=\"content\">\n<p>a</p>\n<p>b</p>\n" ++
          "<div class=\"two-column\">\n<div>\n<h3>L</h3>\n</div>\n<div></div>\n</div>\n" ++
          "</div>\n</div>\n") := by
  have unmarked : ∀ item ∈ [Block.paragraph "a"], item.isColumns = false := by decide
  have shown := (first_marker_columns ⟨none, none, none, .plain none⟩ 1 none (titledColumn "L")
    none [.paragraph "a"] [.columns none none, .paragraph "b"] unmarked).1
  refine ⟨unmarked, (shown (some _, none) _).mpr ⟨["<p>a</p>", "<p>b</p>"], _, ?_, rfl, ?_⟩⟩
  · have first : block (.paragraph "a") = .ok "<p>a</p>" := by rw [block]; decide +kernel
    have second : block (.paragraph "b") = .ok "<p>b</p>" := by rw [block]; decide +kernel
    exact .cons first (.cons second .nil)
  · decide +kernel

end SlideDeck.Markup
