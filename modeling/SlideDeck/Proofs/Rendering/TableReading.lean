import Mathlib.Algebra.BigOperators.Group.List.Basic
import Mathlib.Data.Nat.Cast.Basic
import SlideDeck.Proofs.Rendering.ContentArea

/-!
Contract: tables can be read back.

The labels of the head are read as they were written; of each row the cells are read in order,
however many it has. The numbers of rows and cells are those of the deck.

Owns:
- the children of the head and of the rows of a table;
- `openings_tableText`, the number of its elements;
- `table_read`.

Does not own: which tables can be rendered.
-/

namespace SlideDeck.Markup

open SlideDeck.Deck

/-! ### Tables -/

section Tables

variable {slide : Slide} {index : Nat} {deckTransition : Option String}

theorem slide_table {headers : List Leaf} {rows : List (List Leaf)}
    (isTable : slide.layout = .table ⟨some headers, some rows⟩) :
    Markup.slide slide index deckTransition =
      .ok (framed slide index deckTransition (tableText headers rows)) := by
  rw [Markup.slide, layout, isTable]
  rfl

section Cells

variable {α : Type} {items : List α} {name : String} {write : α → String}

theorem children_cells (nested : ∀ item ∈ items, Nested (write item)) (clean : CleanName name)
    (noMark : name ≠ "div" ∧ name ≠ "span") (isBlock : Tag.blockNames.contains name = true) :
    children (String.join (items.map fun item => element name [] (write item))) =
      items.map fun item => ⟨name, "", write item⟩ := by
  have elements : ∀ item ∈ items, Nested (element name [] (write item)) :=
    fun item member => (nested item member).bare clean noMark
  rw [children_join (List.forall_mem_map.mpr elements), List.flatMap_map, List.map_eq_flatMap]
  refine List.flatMap_congr fun item member => ?_
  rw [children_element (nested item member) clean untaggedValues_nil isBlock, Child.ofElement_nil]

/-- A row opens itself and its cells, and nothing else of a name that the cells do not hold. -/
theorem openings_tableRow {opened : String} (nested : ∀ item ∈ items, Nested (write item))
    (clean : CleanName name) (noMark : name ≠ "div" ∧ name ≠ "span")
    (none : ∀ item ∈ items, openings opened (write item) = 0) :
    openings opened (tableRow (items.map fun item => element name [] (write item))) =
      (if "tr" = opened then 1 else 0) + items.length * (if name = opened then 1 else 0) := by
  have elements : ∀ item ∈ items, Nested (element name [] (write item)) :=
    fun item member => (nested item member).bare clean noMark
  have each : ∀ item ∈ items, openings opened (element name [] (write item)) =
      if name = opened then 1 else 0 := by
    intro item member
    rw [openings_element (nested item member).whole clean untaggedValues_nil, none item member,
      Nat.add_zero]
  rw [tableRow, openings_element (Nested.joinMap elements).whole (by decide) untaggedValues_nil,
    openings_joinMap fun item member => (elements item member).whole, List.map_congr_left each,
    List.map_const', List.sum_const_nat]

end Cells

section Clean

variable {headers : List Leaf} {rows : List (List Leaf)}
  (headersClean : ∀ header ∈ headers, header.Texts Untagged)
  (rowsClean : ∀ row ∈ rows, ∀ cell ∈ row, cell.Texts UntaggedProse)

theorem nested_cell {cell : Leaf} (clean : cell.Texts UntaggedProse) :
    Nested (formatText cell.display) :=
  nested_formatText (Leaf.untaggedProse_display clean)

theorem nested_label {header : Leaf} (clean : header.Texts Untagged) : Nested header.display :=
  .of_untagged (Leaf.untagged_display clean)

theorem nested_thead (headersClean : ∀ header ∈ headers, header.Texts Untagged) :
    Nested ("\n" ++ line (headRow headers)) :=
  Nested.newline.append (nested_headRow headersClean).line

theorem nested_tbody (rowsClean : ∀ row ∈ rows, ∀ cell ∈ row, cell.Texts UntaggedProse) :
    Nested ("\n" ++ String.join (rows.map fun row => line (bodyRow row))) :=
  Nested.newline.append (nested_bodyRows rowsClean)

include headersClean rowsClean in
theorem nested_tableBody :
    Nested ("\n" ++ line (element "thead" [] ("\n" ++ line (headRow headers))) ++
      line (element "tbody" [] ("\n" ++ String.join (rows.map fun row => line (bodyRow row))))) :=
  (Nested.newline.append ((nested_thead headersClean).bare (by decide) (by decide)).line).append
    ((nested_tbody rowsClean).bare (by decide) (by decide)).line

include headersClean rowsClean in
/-- The cells of the head of a table are its labels. -/
theorem descend_head :
    descend [hasName "table", hasName "thead", hasName "tr"] (tableText headers rows) =
      headers.map fun header => ⟨"th", "", header.display⟩ := by
  have newline : ∀ child ∈ children "\n", child.name ≠ "thead" := by
    rw [children_of_untagged (by decide)]
    simp
  have labels : ∀ header ∈ headers, Nested header.display :=
    fun header member => nested_label (headersClean header member)
  have row : Nested (String.join (headers.map fun header => element "th" [] header.display)) :=
    .joinMap fun header member => (labels header member).bare (by decide) (by decide)
  calc descend [hasName "table", hasName "thead", hasName "tr"] (tableText headers rows)
      = descend [hasName "thead", hasName "tr"]
          ("\n" ++ line (element "thead" [] ("\n" ++ line (headRow headers))) ++ line _) :=
        descend_hasName .empty (by simp [children, childrenFrom])
          (nested_tableBody headersClean rowsClean) (by decide) rfl "\n"
    _ = descend [hasName "tr"] ("\n" ++ line (headRow headers)) := by
        rw [line, String.append_assoc, String.append_assoc]
        exact descend_hasName .newline newline (nested_thead headersClean) (by decide) rfl _
    _ = children (String.join (headers.map fun header => element "th" [] header.display)) :=
        descend_hasName .newline (by rw [children_of_untagged (by decide)]; simp) row
          (by decide) rfl "\n"
    _ = _ := children_cells labels (by decide) (by decide) rfl

include rowsClean in
theorem children_rows :
    children (String.join (rows.map fun row => line (bodyRow row))) =
      rows.map fun row => ⟨"tr", "",
        String.join (row.map fun cell => element "td" [] (formatText cell.display))⟩ := by
  have lines : ∀ row ∈ rows, Nested (line (bodyRow row)) :=
    fun row rowMember => (nested_bodyRow (rowsClean row rowMember)).line
  rw [children_join (List.forall_mem_map.mpr lines), List.flatMap_map, List.map_eq_flatMap]
  refine List.flatMap_congr fun row rowMember => ?_
  have cells : Nested (String.join (row.map fun cell =>
      element "td" [] (formatText cell.display))) :=
    .joinMap fun cell member =>
      (nested_cell (rowsClean row rowMember cell member)).bare (by decide) (by decide)
  rw [children_line (nested_bodyRow (rowsClean row rowMember)), bodyRow, tableRow,
    children_element cells (by decide) untaggedValues_nil rfl, Child.ofElement_nil]

include headersClean rowsClean in
/-- The rows below the head of a table hold its cells. -/
theorem descend_rows :
    (descend [hasName "table", hasName "tbody"] (tableText headers rows)).map
        (fun row => (row.name, children row.body)) =
      rows.map fun row => ("tr", row.map fun cell => ⟨"td", "", formatText cell.display⟩) := by
  have head := (nested_thead headersClean).bare (by decide : CleanName "thead") (by decide)
  have front : Nested ("\n" ++ line (element "thead" [] ("\n" ++ line (headRow headers)))) :=
    Nested.newline.append head.line
  have passes : ∀ child ∈ children
      ("\n" ++ line (element "thead" [] ("\n" ++ line (headRow headers)))),
        child.name ≠ "tbody" := by
    rw [children_newline, children_line head, children_element (nested_thead headersClean)
      (by decide) untaggedValues_nil rfl, List.forall_mem_singleton, Child.ofElement_nil]
    exact (by decide : "thead" ≠ "tbody")
  have found :=
    calc descend [hasName "table", hasName "tbody"] (tableText headers rows)
        = descend [hasName "tbody"] _ :=
          descend_hasName .empty (by simp [children, childrenFrom])
            (nested_tableBody headersClean rowsClean) (by decide) rfl "\n"
      _ = children ("\n" ++ String.join (rows.map fun row => line (bodyRow row))) :=
          descend_hasName front passes (nested_tbody rowsClean) (by decide) rfl "\n"
      _ = _ := (children_newline _).trans (children_rows rowsClean)
  rw [found, List.map_map]
  refine List.map_congr_left fun row rowMember => ?_
  have cells : ∀ cell ∈ row, Nested (formatText cell.display) :=
    fun cell member => nested_cell (rowsClean row rowMember cell member)
  exact congrArg (Prod.mk "tr") (children_cells cells (by decide) (by decide) rfl)

include headersClean rowsClean in
/-- The elements of a table, by a name that is not that of the table or of one of its parts. -/
theorem openings_tableText {name : String}
    (notPart : name ∉ "table" :: "thead" :: "tbody" :: inlineNames) :
    openings name (tableText headers rows) =
      ((if "tr" = name then 1 else 0) + headers.length * (if "th" = name then 1 else 0)) +
        (rows.map fun row =>
          (if "tr" = name then 1 else 0) + row.length * (if "td" = name then 1 else 0)).sum := by
  simp only [List.mem_cons (a := name), not_or] at notPart
  obtain ⟨notTable, notHead, notBody, notInline⟩ := notPart
  have head := nested_headRow headersClean
  have body := nested_bodyRows rowsClean
  have headPart : openings name (line (element "thead" [] ("\n" ++ line (headRow headers)))) =
      (if "tr" = name then 1 else 0) + headers.length * (if "th" = name then 1 else 0) := by
    rw [openings_around head.line.whole (by decide) untaggedValues_nil (Ne.symm notHead),
      openings_line head.whole]
    exact openings_tableRow (fun header member => nested_label (headersClean header member))
      (by decide) (by decide) fun header member =>
        openings_of_untagged (Leaf.untagged_display (headersClean header member))
  have bodyPart : openings name (line (element "tbody" []
      ("\n" ++ String.join (rows.map fun row => line (bodyRow row))))) =
      (rows.map fun row =>
        (if "tr" = name then 1 else 0) + row.length * (if "td" = name then 1 else 0)).sum := by
    rw [openings_around body.whole (by decide) untaggedValues_nil (Ne.symm notBody),
      openings_joinMap fun row member => (nested_bodyRow (rowsClean row member)).line.whole]
    refine congrArg List.sum (List.map_congr_left fun row rowMember => ?_)
    have rowClean := rowsClean row rowMember
    rw [openings_line (nested_bodyRow rowClean).whole]
    exact openings_tableRow (fun cell member => nested_cell (rowClean cell member))
      (by decide) (by decide) fun cell member =>
        ((Without.formattable notInline).formatText
          (Leaf.untaggedProse_display (rowClean cell member))).none
  have headNested := ((nested_thead headersClean).bare (by decide : CleanName "thead")
    (by decide)).line
  have bodyNested := ((nested_tbody rowsClean).bare (by decide : CleanName "tbody")
    (by decide)).line
  rw [tableText, String.append_assoc,
    openings_around (headNested.append bodyNested).whole (by decide) untaggedValues_nil
      (Ne.symm notTable),
    openings_append headNested.whole, headPart, bodyPart]

end Clean

theorem table_read {headers : List Leaf} {rows : List (List Leaf)} (clean : slide.Clean)
    (deckUntagged : ∀ name ∈ deckTransition, Untagged name)
    (isTable : slide.layout = .table ⟨some headers, some rows⟩) :
    let page := framed slide index deckTransition (tableText headers rows)
    descend headPath page = headers.map (fun header => ⟨"th", "", header.display⟩) ∧
      (descend rowsPath page).map (fun row => (row.name, children row.body)) =
        rows.map (fun row => ("tr", row.map fun cell => ⟨"td", "", formatText cell.display⟩)) ∧
      openings "tr" page = rows.length + 1 ∧ openings "th" page = headers.length ∧
      openings "td" page = (rows.map List.length).sum := by
  intro page
  obtain ⟨headersClean, rowsClean⟩ : (∀ header ∈ headers, header.Texts Untagged) ∧
      ∀ row ∈ rows, ∀ cell ∈ row, cell.Texts UntaggedProse := by
    cases clean.of_layout isTable with
    | table clean => exact ⟨clean.headers _ rfl, clean.rows _ rfl⟩
  have nested := nested_tableText headersClean rowsClean
  have counted : ∀ name ∈ ["tr", "th", "td"], openings name page =
      ((if "tr" = name then 1 else 0) + headers.length * (if "th" = name then 1 else 0)) +
        (rows.map fun row =>
          (if "tr" = name then 1 else 0) + row.length * (if "td" = name then 1 else 0)).sum := by
    intro name member
    have others : ∀ name ∈ ["tr", "th", "td"], name ∉ "h2" :: "div" :: inlineNames ∧
        name ∉ "table" :: "thead" :: "tbody" :: inlineNames := by decide
    rw [openings_framed clean deckUntagged nested (others name member).1]
    exact openings_tableText headersClean rowsClean (others name member).2
  refine ⟨?_, ?_, ?_, ?_, ?_⟩
  · exact (descend_framed clean deckUntagged nested).trans (descend_head headersClean rowsClean)
  · rw [rowsPath, descend_framed clean deckUntagged nested]
    exact descend_rows headersClean rowsClean
  · rw [counted _ (by simp)]
    simp [Nat.add_comm]
  · rw [counted _ (by simp)]
    simp
  · rw [counted _ (by simp)]
    simp

end Tables

end SlideDeck.Markup
