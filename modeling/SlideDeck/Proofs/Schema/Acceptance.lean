import SlideDeck.Proofs.Schema.Record
import SlideDeck.Schema.Slide

/-!
Contract: which values are slides.

Owns:
- gallery images, whose fields are read apart from those of records;
- the shape of each record that is read, of blocks and of bodies;
- `null_items_empty`: null in place of a list or a record among items;
- `slide_accepts_iff`: a slide is read exactly from the values that conform;
- two values on which the shapes alone go wrong.

Does not own: what is read of them, and the reading of whole sources.
-/

namespace SlideDeck.Schema

open SlideDeck.Deck
open SlideDeck.Yaml (Value)
open SlideDeck.Yaml.Value (Plain keyed)

variable {α : Type} {depth : Nat}

/-! ### Gallery images -/

namespace GalleryForm

variable {image : Partial} {entries : List (String × Value)}

/-- The fields of an image that are filled do not come again. -/
structure Unfilled (image : Partial) (entries : List (String × Value)) : Prop where
  source : image.source.isSome → "src" ∉ entries.map Prod.fst
  alt : image.alt.isSome → "alt" ∉ entries.map Prod.fst
  caption : image.caption.isSome → "caption" ∉ entries.map Prod.fst

theorem Unfilled.tail {entry : String × Value} (unfilled : Unfilled image (entry :: entries)) :
    Unfilled image entries where
  source known later := unfilled.source known (List.mem_cons_of_mem _ later)
  alt known later := unfilled.alt known (List.mem_cons_of_mem _ later)
  caption known later := unfilled.caption known (List.mem_cons_of_mem _ later)

theorem field?_other {key : String} (noSource : key ≠ "src") (noAlt : key ≠ "alt")
    (noCaption : key ≠ "caption") : field? (.string key) = some none := by
  unfold field?
  split <;> simp_all

/-- The path of an image is known in the end if it was known before or comes as a text. -/
theorem readEntries_source_iff (distinct : (entries.map Prod.fst).Nodup)
    (unfilled : Unfilled image entries) :
    ((readEntries image (keyed entries)).bind Partial.source).isSome ↔
      image.source.isSome ∨ ∃ path, ("src", .string path) ∈ entries := by
  induction entries generalizing image with
  | nil => simp [readEntries]
  | cons entry entries inductionHypothesis =>
      obtain ⟨key, value⟩ := entry
      rw [List.map_cons, List.nodup_cons] at distinct
      obtain ⟨fresh, distinct⟩ := distinct
      have others := unfilled.tail
      rw [Value.keyed_cons, readEntries]
      by_cases isSource : key = "src"
      · subst isSource
        have unread : image.source = none := by
          by_contra known
          exact unfilled.source (Option.isSome_iff_ne_none.mpr known) List.mem_cons_self
        have notLater : ∀ path, ("src", Value.string path) ∉ entries := fun path member =>
          fresh (List.mem_map.mpr ⟨_, member, rfl⟩)
        cases value with
        | string path =>
            have next : Unfilled { image with source := some path } entries :=
              ⟨fun _ => fresh, others.alt, others.caption⟩
            have whole := inductionHypothesis distinct next
            simp [field?, put, unread, whole]
        | _ => simp [field?, put, unread, notLater]
      by_cases isAlt : key = "alt"
      · subst isAlt
        have unread : image.alt = none := by
          by_contra known
          exact unfilled.alt (Option.isSome_iff_ne_none.mpr known) List.mem_cons_self
        have next : Unfilled { image with alt := some (leaf value).text? } entries :=
          ⟨others.source, fun _ => fresh, others.caption⟩
        have whole := inductionHypothesis distinct next
        simp [field?, put, unread, whole]
      by_cases isCaption : key = "caption"
      · subst isCaption
        have unread : image.caption = none := by
          by_contra known
          exact unfilled.caption (Option.isSome_iff_ne_none.mpr known) List.mem_cons_self
        have next : Unfilled { image with caption := some (leaf value).text? } entries :=
          ⟨others.source, others.alt, fun _ => fresh⟩
        have whole := inductionHypothesis distinct next
        simp [field?, put, unread, whole]
      · rw [field?_other isSource isAlt isCaption]
        dsimp only
        rw [inductionHypothesis distinct others]
        simp [Ne.symm isSource]

end GalleryForm

theorem detailedImage?_isSome_iff {entries : List (String × Value)}
    (distinct : (entries.map Prod.fst).Nodup) :
    (detailedImage? (keyed entries)).isSome ↔ ∃ path, ("src", Value.string path) ∈ entries := by
  have unfilled : GalleryForm.Unfilled ⟨none, none, none⟩ entries :=
    ⟨by simp, by simp, by simp⟩
  have known := GalleryForm.readEntries_source_iff distinct unfilled
  simp only [Option.isSome_none, Bool.false_eq_true, false_or] at known
  rw [← known, detailedImage?]
  cases GalleryForm.readEntries ⟨none, none, none⟩ (keyed entries) with
  | none => rfl
  | some image => cases sourceEq : image.source <;> simp [sourceEq]

theorem accepts_galleryImage : Accepts depth galleryImage .image := by
  intro value plain _
  unfold galleryImage
  rw [plain.hasTag_eq]
  simp only [Bool.false_eq_true, if_false]
  cases plain with
  | string path => exact iff_of_true (succeeds_ok _) (.path path)
  | mapping distinct _ =>
      dsimp only
      cases read : detailedImage? (keyed _) with
      | none =>
          refine iff_of_false (not_succeeds_error _) ?_
          intro conforms
          cases conforms with
          | detailed source =>
              have isSome := (detailedImage?_isSome_iff distinct).mpr
                ⟨_, Value.string_mem_keyed.mp source⟩
              rw [read] at isSome
              exact Bool.false_ne_true isSome
      | some image =>
          obtain ⟨path, source⟩ := (detailedImage?_isSome_iff distinct).mp (by rw [read]; rfl)
          exact iff_of_true (succeeds_ok _) (.detailed (Value.string_mem_keyed.mpr source))
  | null | bool | integer | float | sequence =>
      exact iff_of_false (not_succeeds_error _) nofun

/-! ### Flow diagrams -/

/-- A mapping conforms to any record of loose fields that have one name each. -/
theorem conforms_loose {rules : Rules} (names : List String) (entries : List (Value × Value)) :
    Conforms rules (.record (names.map fun name => Shape.loose [name])) (.mapping entries) := by
  refine .record ?_ ?_
  · intro field member _ _ value _
    obtain ⟨name, -, rfl⟩ := List.mem_map.mp member
    exact .anything value
  · intro _ field member first firstMember second secondMember _ _ _ _
    obtain ⟨name, -, rfl⟩ := List.mem_map.mp member
    rw [List.mem_singleton.mp firstMember, List.mem_singleton.mp secondMember]

theorem accepts_flowBox : Accepts depth flowBox
    (.record (["title", "subtitle", "content"].map fun name => Shape.loose [name])) :=
  accepts_record _ _ (.cons (matches_loose _ _) (.cons (matches_loose _ _)
    (.cons (matches_loose _ _) .nil))) (by decide)

theorem accepts_arrowGlyph : Accepts depth arrowGlyph
    (.record (["text"].map fun name => Shape.loose [name])) :=
  accepts_record _ _ (.cons (matches_loose _ _) .nil) (by decide)

theorem accepts_flowItem : Accepts depth flowItem .anything := by
  apply accepts_anything
  intro value plain
  unfold flowItem
  cases plain with
  | mapping distinct plain =>
      have isMapping := Plain.mapping distinct plain
      split
      next =>
        exact succeeds_map_iff.mpr
          ((accepts_arrowGlyph _ isMapping (Nat.le_refl _)).mpr (conforms_loose _ _))
      next =>
        have reads := accepts_flowBox _ isMapping (Nat.le_refl _)
        exact succeeds_map_iff.mpr (reads.mpr (conforms_loose _ _))
  | null | bool | integer | float | string | sequence => exact succeeds_ok _

theorem accepts_flow : Accepts depth flow .flow :=
  accepts_record _ _ (.cons (matches_strict _ _)
    (.cons (accepts_flowItem.whole.list.optional.field _ _) .nil)) (by decide)

/-! ### Blocks and bodies -/

section Bodies

variable {body : Reader Content}

theorem accepts_bullets : Accepts depth bullets .bullets :=
  accepts_record _ _ (.cons (accepts_looseTexts.optional.field _ _)
    (.cons (matches_strict _ _) .nil)) (by decide)

theorem accepts_quoteText : Accepts depth quoteText .quoteText :=
  accepts_record _ _ (.cons (matches_loose _ _) .nil) (by decide)

theorem accepts_listing : Accepts depth listing .listing :=
  accepts_record _ _ (.cons (matches_strict _ _) (.cons (matches_strict _ _) .nil)) (by decide)

theorem matches_body (accepts : Accepts depth body .content) (put : Option Content → α → α) :
    Matches depth (.of ["content"] (optional body) put) Shape.body :=
  accepts.optional.field _ _

theorem accepts_card (accepts : Accepts depth body .content) : Accepts depth (card body) .card :=
  accepts_record _ _ (.cons (matches_loose _ _) (.cons (matches_strict _ _)
    (.cons (matches_body accepts _) .nil))) (by decide)

theorem accepts_callout (accepts : Accepts depth body .content) :
    Accepts depth (callout body) .callout :=
  accepts_record _ _ (.cons (matches_body accepts _) (.cons (matches_strict _ _) .nil)) (by decide)

theorem accepts_column (accepts : Accepts depth body .content) :
    Accepts depth (column body) .column :=
  accepts_record _ _ (.cons (matches_loose _ _)
    (.cons ((accepts_card accepts).list.optional.field _ _)
      (.cons (matches_body accepts _) .nil))) (by decide)

theorem accepts_columnPair (accepts : Accepts depth body .content) :
    Accepts depth (columnPair body) .columnPair :=
  accepts_record _ _ (.cons ((accepts_column accepts).optional.field _ _)
    (.cons ((accepts_column accepts).optional.field _ _) .nil)) (by decide)

theorem accepts_typedBlock (accepts : Accepts depth body .content) (typeName : Option String) :
    Accepts depth (typedBlock body typeName) (.typedBlock typeName) := by
  unfold typedBlock
  split
  · exact accepts_bullets.map
  · exact (accepts_card accepts).map
  · exact accepts_quoteText.map
  · exact (accepts_callout accepts).map
  · exact accepts_listing.map
  · exact accepts_flow.map
  · exact (accepts_columnPair accepts).map
  · -- The default of the reader is that of the shape.
    have default : Shape.typedBlock typeName = .anything := by
      unfold Shape.typedBlock
      split <;> simp_all
    rw [default]
    exact accepts_anything fun _ _ => succeeds_ok _

theorem accepts_blockAround (accepts : Accepts depth body .content) :
    Accepts depth (blockAround body) .block := by
  intro value plain within
  unfold blockAround
  cases plain with
  | mapping distinct plain =>
      refine (accepts_typedBlock accepts _ _ (.mapping distinct plain) within).trans ?_
      constructor
      · exact .typed
      · intro conforms
        cases conforms with
        | typed conforms => exact conforms
        | untyped noMapping => exact absurd rfl (noMapping _)
  | null | bool | integer | float | string | sequence =>
      exact iff_of_true (succeeds_ok _) (.untyped nofun)

end Bodies

/-- Bodies with a bound on the nesting: the blocks of a sequence are less deep than it is. -/
theorem accepts_contentWithin (depth : Nat) : Accepts depth (contentWithin depth) .content := by
  induction depth with
  | zero =>
      intro value _ within
      exact absurd (Value.one_le_depth value) (by omega)
  | succ depth inductionHypothesis =>
      intro value plain within
      unfold contentWithin
      cases plain with
      | sequence plain =>
          dsimp only
          rw [succeeds_map_iff, succeeds_mapM_iff]
          have blocks := (accepts_blockAround inductionHypothesis.whole).whole
          have parts : ∀ item, (member : item ∈ _) → (Succeeds _ ↔ Conforms .reading .block item) :=
            fun item member => blocks item (plain item member)
              (Nat.lt_succ_iff.mp (Nat.lt_of_lt_of_le (Value.depth_lt_of_mem_items member) within))
          constructor
          · intro succeed
            exact .blocks fun item member => (parts item member).mp (succeed item member)
          · intro conforms item member
            cases conforms with
            | blocks items => exact (parts item member).mpr (items item member)
            | noBlocks noSequence => exact absurd rfl (noSequence _)
      | null | bool | integer | float | string | mapping =>
          exact iff_of_true (succeeds_ok _) (.noBlocks nofun)

theorem accepts_content : Accepts depth content .content :=
  fun value plain _ => accepts_contentWithin value.depth value plain (Nat.le_refl _)

theorem accepts_body : Accepts depth (whole content) .content :=
  accepts_content.whole

/-! ### Slides -/

theorem accepts_gridItem : Accepts depth gridItem .gridItem :=
  accepts_record _ _ (.cons (accepts_strictText.field _ _) (.cons (matches_loose _ _)
    (.cons (accepts_wholeLeaf.optional.field _ _) (.cons (matches_loose _ _)
      (.cons (matches_loose _ _) (.cons (matches_body accepts_body _) .nil)))))) (by decide)

theorem accepts_timelineEntry : Accepts depth timelineEntry .timelineEntry :=
  accepts_record _ _ (.cons (accepts_wholeLeaf.optional.field _ _) (.cons (matches_loose _ _)
    (.cons (matches_loose _ _) (.cons (accepts_looseTexts.optional.field _ _) .nil)))) (by decide)

theorem accepts_hero : Accepts depth hero .hero :=
  accepts_record _ _ (.cons (matches_loose _ _) (.cons (matches_loose _ _) .nil)) (by decide)

theorem accepts_picture : Accepts depth picture .picture :=
  accepts_record _ _ (.cons (accepts_strictText.field _ _) (.cons (matches_strict _ _)
    (.cons (matches_loose _ _) (.cons (matches_loose _ _) (.cons (accepts_strictText.field _ _)
      (.cons (accepts_galleryImage.list.optional.field _ _)
        (.cons (matches_body accepts_body _) .nil))))))) (by decide)

theorem accepts_twoColumn : Accepts depth twoColumn .twoColumn :=
  accepts_record _ _ (.cons ((accepts_column accepts_body).optional.field _ _)
    (.cons ((accepts_column accepts_body).optional.field _ _)
      (.cons (matches_body accepts_body _) .nil))) (by decide)

theorem accepts_grid : Accepts depth grid .grid :=
  accepts_record _ _ (.cons (accepts_natural.optional.field _ _)
    (.cons (accepts_gridItem.list.optional.field _ _) .nil)) (by decide)

theorem accepts_code : Accepts depth code .code :=
  accepts_record _ _ (.cons (matches_strict _ _) (.cons (matches_strict _ _)
    (.cons (matches_loose _ _) (.cons (matches_loose _ _) .nil)))) (by decide)

theorem accepts_timeline : Accepts depth timeline .timeline :=
  accepts_record _ _ (.cons (accepts_timelineEntry.list.optional.field _ _) .nil) (by decide)

theorem accepts_table : Accepts depth table .table :=
  accepts_record _ _ (.cons (accepts_leaves.optional.field _ _)
    (.cons (accepts_leaves.list.optional.field _ _) .nil)) (by decide)

theorem accepts_diagrams : Accepts depth diagrams .diagrams :=
  accepts_record _ _ (.cons (matches_loose _ _) (.cons (accepts_flow.list.optional.field _ _)
    (.cons (matches_body accepts_body _) .nil))) (by decide)

theorem accepts_plainBody : Accepts depth plainBody .plainBody :=
  accepts_record _ _ (.cons (matches_body accepts_body _) .nil) (by decide)

theorem accepts_layout (typeName : Option String) :
    Accepts depth (layout typeName) (.layout typeName) := by
  unfold layout
  split
  · exact accepts_hero.map
  · exact accepts_picture.map
  · exact accepts_twoColumn.map
  · exact accepts_grid.map
  · exact accepts_code.map
  · exact accepts_timeline.map
  · exact accepts_table.map
  · exact accepts_diagrams.map
  · have default : Shape.layout typeName = .plainBody := by
      unfold Shape.layout
      split <;> simp_all
    rw [default]
    exact accepts_plainBody.map

theorem accepts_header : Accepts depth header .header :=
  accepts_record _ _ (.cons (matches_loose _ _) (.cons (matches_loose _ _)
    (.cons (matches_strict _ _) .nil))) (by decide)

/-- Items that are lists or records themselves: null among them is read as the empty one. -/
theorem null_items_empty (items : List Value) :
    list leaves (.sequence (items.map (filled (.sequence [])))) = list leaves (.sequence items) ∧
      list gridItem (.sequence (items.map (filled (.mapping [])))) =
        list gridItem (.sequence items) ∧
      list timelineEntry (.sequence (items.map (filled (.mapping [])))) =
        list timelineEntry (.sequence items) ∧
      list flow (.sequence (items.map (filled (.mapping [])))) = list flow (.sequence items) ∧
      ∀ body : Reader Content,
        list (card body) (.sequence (items.map (filled (.mapping [])))) =
          list (card body) (.sequence items) :=
  ⟨list_filled (list_null _) items, list_filled (record_null _ _ _) items,
    list_filled (record_null _ _ _) items, list_filled (record_null _ _ _) items,
    fun _ => list_filled (record_null _ _ _) items⟩

/-- A slide is read exactly from the plain values that conform. -/
theorem slide_accepts_iff {value : Value} (plain : value.Plain) :
    (∃ read, slide value = .ok read) ↔ ConformsSlide .reading value := by
  show Succeeds (slide value) ↔ _
  unfold slide
  by_cases isMapping : value.isMapping = true
  · rw [if_pos isMapping]
    have readsHeader := accepts_header value plain (Nat.le_refl _)
    have readsLayout := accepts_layout value.typeName? value plain (Nat.le_refl _)
    refine (succeeds_bind_iff fun shared _ => succeeds_map_iff).trans ?_
    rw [readsHeader, readsLayout]
    constructor
    · intro given
      exact ⟨isMapping, given.1, given.2⟩
    · intro conforms
      exact ⟨conforms.header, conforms.layout⟩
  · rw [if_neg isMapping]
    exact iff_of_false (not_succeeds_error _) fun conforms => isMapping conforms.isMapping

/-- Without further rules a mapping of texts conforms to records of texts, under any names. -/
theorem conforms_bare_of_texts {fields : List (List String × Shape)}
    (texts : List (String × String))
    (shapes : ∀ field ∈ fields, field.2 = .anything ∨ field.2 = .optional .text) :
    Conforms .bare (.record fields)
      (.mapping (keyed (texts.map fun entry => (entry.1, .string entry.2)))) := by
  refine .record ?_ nofun
  intro field member name _ value present
  obtain ⟨entry, -, equal⟩ := List.mem_map.mp (Value.string_mem_keyed.mp present)
  obtain ⟨rfl, rfl⟩ := Prod.mk.inj equal
  rcases shapes field member with shape | shape
  · rw [shape]
    exact .anything _
  · rw [shape]
    exact .present (.text _)

/-- A table with null in place of a row. -/
def nullRow : Value :=
  .mapping (keyed [("type", .string "table"), ("headers", .sequence [.string "A"]),
    ("rows", .sequence [.null])])

/-- A listing with its language under both names. -/
def twoLanguages : Value :=
  .mapping (keyed ([("type", "code"), ("code", "x"), ("lang", "rust"), ("language", "rust")].map
    fun entry => (entry.1, .string entry.2)))

theorem plain_nullRow : nullRow.Plain := by
  refine .mapping (by decide) ?_
  simp only [List.forall_mem_cons]
  exact ⟨.string _, .sequence (by simpa using .string _), .sequence (by simpa using .null), nofun⟩

theorem plain_twoLanguages : twoLanguages.Plain := by
  refine .mapping (by decide) ?_
  simp only [List.forall_mem_map]
  exact fun entry _ => .string entry.2

/-- The row that is null conforms as an empty one. -/
theorem nullRow_conforms : nullRow.Plain ∧ ConformsSlide .reading nullRow :=
  ⟨plain_nullRow, (slide_accepts_iff plain_nullRow).mp ⟨_, rfl⟩⟩

/-- The shapes alone do not say which values are slides: null is read as a row, and a field is not
read under two names. -/
theorem bare_rules_fail :
    (nullRow.Plain ∧ (∃ read, slide nullRow = .ok read) ∧ ¬ConformsSlide .bare nullRow) ∧
      twoLanguages.Plain ∧ (¬∃ read, slide twoLanguages = .ok read) ∧
        ConformsSlide .bare twoLanguages := by
  refine ⟨⟨plain_nullRow, ⟨_, rfl⟩, ?_⟩, plain_twoLanguages, ?_, ?_⟩
  · intro conforms
    have rows : Conforms .bare (.optional (.list (.list .anything))) (.sequence [.null]) := by
      cases conforms.layout with
      | record values _ =>
          exact values (Shape.lists "rows" (.list .anything)) (by simp) "rows"
            (by simp [Shape.lists])
            _ (by simp [keyed])
    cases rows with
    | present rows =>
        cases rows with
        | list items =>
            cases items .null (by simp) with
            | emptyList rule => exact Bool.false_ne_true rule
  · rintro ⟨read, reads⟩
    have refused : slide twoLanguages = .error (.duplicateField "language") := rfl
    simp [refused] at reads
  · have shared : ∀ field ∈ [Shape.loose ["title"], Shape.loose ["subtitle"],
        Shape.strict ["transition"]], field.2 = .anything ∨ field.2 = .optional .text := by
      simp [Shape.loose, Shape.strict]
    have own : ∀ field ∈ [Shape.strict ["code"], Shape.language, Shape.loose ["description"],
        Shape.loose ["notes"]], field.2 = .anything ∨ field.2 = .optional .text := by
      simp [Shape.loose, Shape.strict, Shape.language]
    exact ⟨rfl, conforms_bare_of_texts _ shared, conforms_bare_of_texts _ own⟩

end SlideDeck.Schema
