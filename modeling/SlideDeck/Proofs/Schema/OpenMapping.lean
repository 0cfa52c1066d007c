import SlideDeck.Proofs.Schema.Acceptance
import SlideDeck.Proofs.Schema.OpenRecord

/-!
Contract: everything that is read from a mapping is an open record.

Owns:
- the spellings of the fields of slides, blocks and items of flow diagrams, by type;
- gallery images, whose entries are read apart from those of records;
- that each record is assembled from its fields;
- `mappings_open`: slides, blocks and what is inside of them are open records.
-/

namespace SlideDeck.Schema

open SlideDeck.Deck
open SlideDeck.Yaml (Value)
open SlideDeck.Yaml.Value (keyed)

variable {α : Type} {body : Reader Content}

/-! ### Spellings -/

/-- The spellings of each field of a shape. -/
def Shape.groups : Shape → List (List String)
  | .record fields => fields.map Prod.fst
  | _ => []

/-- The fields of a slide: its type, those that all slides share and those of its layout. -/
def slideGroups (typeName : Option String) : List (List String) :=
  ["type"] :: (Shape.header.groups ++ (Shape.layout typeName).groups)

/-- The fields of a block that is written as a mapping. -/
def blockGroups (typeName : Option String) : List (List String) :=
  ["type"] :: (Shape.typedBlock typeName).groups

/-- The fields of an item of a flow diagram, an arrow or a box. -/
def flowItemGroups (typeName : Option String) : List (List String) :=
  ["type"] :: if typeName = some "arrow" then [["text"]] else [["title"], ["subtitle"], ["content"]]

/-- The fields of a gallery image. -/
def imageGroups : List (List String) :=
  [["src"], ["alt"], ["caption"]]

/-! ### Records -/

theorem assembles_header : Assembles header Shape.header.groups :=
  assembles_record Shape.header.groups (by simp [Field.loose, Commute.of]) rfl (by decide) _ _

theorem assembles_hero : Assembles hero Shape.hero.groups :=
  assembles_record Shape.hero.groups (by simp [Field.loose, Commute.of]) rfl (by decide) _ _

theorem assembles_picture : Assembles picture Shape.picture.groups :=
  assembles_record Shape.picture.groups (by simp [Field.loose, Commute.of]) rfl (by decide) _ _

theorem assembles_twoColumn : Assembles twoColumn Shape.twoColumn.groups :=
  assembles_record Shape.twoColumn.groups (by simp [Commute.of]) rfl (by decide) _ _

theorem assembles_gridItem : Assembles gridItem Shape.gridItem.groups :=
  assembles_record Shape.gridItem.groups (by simp [Field.loose, Commute.of]) rfl (by decide) _ _

theorem assembles_grid : Assembles grid Shape.grid.groups :=
  assembles_record Shape.grid.groups (by simp [Commute.of]) rfl (by decide) _ _

theorem assembles_code : Assembles code Shape.code.groups :=
  assembles_record Shape.code.groups (by simp [Field.loose, Commute.of]) rfl (by decide) _ _

theorem assembles_timelineEntry : Assembles timelineEntry Shape.timelineEntry.groups :=
  assembles_record Shape.timelineEntry.groups (by simp [Field.loose, Commute.of]) rfl (by decide)
    _ _

theorem assembles_timeline : Assembles timeline Shape.timeline.groups :=
  assembles_record Shape.timeline.groups (by simp) rfl (by decide) _ _

theorem assembles_table : Assembles table Shape.table.groups :=
  assembles_record Shape.table.groups (by simp [Commute.of]) rfl (by decide) _ _

theorem assembles_diagrams : Assembles diagrams Shape.diagrams.groups :=
  assembles_record Shape.diagrams.groups (by simp [Field.loose, Commute.of]) rfl (by decide) _ _

theorem assembles_plainBody : Assembles plainBody Shape.plainBody.groups :=
  assembles_record Shape.plainBody.groups (by simp) rfl (by decide) _ _

theorem assembles_flow : Assembles flow Shape.flow.groups :=
  assembles_record Shape.flow.groups (by simp [Commute.of]) rfl (by decide) _ _

theorem assembles_flowBox : Assembles flowBox [["title"], ["subtitle"], ["content"]] :=
  assembles_record [["title"], ["subtitle"], ["content"]] (by simp [Field.loose, Commute.of]) rfl
    (by decide) _ _

theorem assembles_arrowGlyph : Assembles arrowGlyph [["text"]] :=
  assembles_record [["text"]] (by simp) rfl (by decide) _ _

theorem assembles_bullets : Assembles bullets Shape.bullets.groups :=
  assembles_record Shape.bullets.groups (by simp [Commute.of]) rfl (by decide) _ _

theorem assembles_quoteText : Assembles quoteText Shape.quoteText.groups :=
  assembles_record Shape.quoteText.groups (by simp) rfl (by decide) _ _

theorem assembles_listing : Assembles listing Shape.listing.groups :=
  assembles_record Shape.listing.groups (by simp [Commute.of]) rfl (by decide) _ _

theorem assembles_card : Assembles (card body) Shape.card.groups :=
  assembles_record Shape.card.groups (by simp [Field.loose, Commute.of]) rfl (by decide) _ _

theorem assembles_callout : Assembles (callout body) Shape.callout.groups :=
  assembles_record Shape.callout.groups (by simp [Commute.of]) rfl (by decide) _ _

theorem assembles_column : Assembles (column body) Shape.column.groups :=
  assembles_record Shape.column.groups (by simp [Field.loose, Commute.of]) rfl (by decide) _ _

theorem assembles_columnPair : Assembles (columnPair body) Shape.columnPair.groups :=
  assembles_record Shape.columnPair.groups (by simp [Commute.of]) rfl (by decide) _ _

/-! ### By type -/

theorem assembles_layout (typeName : Option String) :
    Assembles (layout typeName) (Shape.layout typeName).groups := by
  unfold layout
  split
  · exact assembles_hero.map _
  · exact assembles_picture.map _
  · exact assembles_twoColumn.map _
  · exact assembles_grid.map _
  · exact assembles_code.map _
  · exact assembles_timeline.map _
  · exact assembles_table.map _
  · exact assembles_diagrams.map _
  · -- The default of the reader is that of the shape.
    have default : Shape.layout typeName = .plainBody := by
      unfold Shape.layout
      split <;> simp_all
    rw [default]
    exact assembles_plainBody.map _

/-- What reads nothing of a value is a record without fields. -/
theorem assembles_nothing (result : Except Mismatch α) : Assembles (fun _ => result) [] where
  respects := by decide
  indifferent _ := ⟨fun _ _ => rfl, fun _ _ _ => rfl, fun _ _ _ _ _ _ => rfl⟩
  exclusive := ⟨fun _ _ _ _ _ _ _ noField => absurd noField List.not_mem_nil⟩

theorem assembles_typedBlock (typeName : Option String) :
    Assembles (typedBlock body typeName) (Shape.typedBlock typeName).groups := by
  unfold typedBlock
  split
  · exact assembles_bullets.map _
  · exact assembles_card.map _
  · exact assembles_quoteText.map _
  · exact assembles_callout.map _
  · exact assembles_listing.map _
  · exact assembles_flow.map _
  · exact assembles_columnPair.map _
  · -- The default of the reader is that of the shape.
    have default : Shape.typedBlock typeName = .anything := by
      unfold Shape.typedBlock
      split <;> simp_all
    rw [default]
    exact assembles_nothing _

/-- A slide of the type that is given. -/
def slideOfType (typeName : Option String) : Reader Slide := fun value =>
  if value.isMapping then
    both header (layout typeName)
      (fun shared layout => ⟨shared.title, shared.subtitle, shared.transition, layout⟩) value
  else .error .slideNotMapping

theorem openRecord_slide : OpenRecord slide slideGroups := by
  have indifferent : ∀ typeName,
      Indifferent (slideOfType typeName) fun _ => slideGroups typeName := by
    intro typeName
    have headerRespects : Respects (slideGroups typeName) Shape.header.groups := by
      unfold slideGroups Shape.layout
      split <;> decide
    have layoutRespects : Respects (slideGroups typeName) (Shape.layout typeName).groups := by
      unfold slideGroups Shape.layout
      split <;> decide
    have together := (assembles_header.indifferent headerRespects).both
      ((assembles_layout typeName).indifferent layoutRespects) fun shared layout =>
        (⟨shared.title, shared.subtitle, shared.transition, layout⟩ : Slide)
    exact together.of_mapping id fun _ => rfl
  refine OpenRecord.typed indifferent ?_ ?_
  · intro typeName
    have together := assembles_header.exclusive.both (assembles_layout typeName).exclusive
      fun shared layout => (⟨shared.title, shared.subtitle, shared.transition, layout⟩ : Slide)
    exact together.of_mapping id rfl fun _ => rfl
  · intro typeName
    unfold Shape.layout
    split <;> decide

theorem openRecord_blockAround (body : Reader Content) :
    OpenRecord (blockAround body) blockGroups := by
  have noType : ∀ typeName, ∀ group ∈ (Shape.typedBlock typeName).groups, "type" ∉ group := by
    intro typeName
    unfold Shape.typedBlock
    split <;> decide
  exact (Assembles.typed assembles_typedBlock noType).of_mapping fun _ => rfl

theorem openRecord_flowItem : OpenRecord flowItem flowItemGroups := by
  have assembles : ∀ typeName, Assembles
      (fun value => if typeName = some "arrow" then (arrowGlyph value).map FlowItem.arrow
        else (flowBox value).map .box)
      (if typeName = some "arrow" then [["text"]] else [["title"], ["subtitle"], ["content"]]) := by
    intro typeName
    split
    · exact assembles_arrowGlyph.map _
    · exact assembles_flowBox.map _
  refine (Assembles.typed assembles ?_).of_mapping fun _ => rfl
  intro typeName
  split <;> decide

/-! ### Gallery images -/

namespace GalleryForm

variable {image : Partial} {entries others : List (String × Value)} {key : String} {value : Value}

/-- The path of an image, if the value is one. -/
def path? : Value → Option String
  | .string path => some path
  | _ => none

theorem put_source (value : Value) :
    put image 0 value = if image.source.isSome then none
      else (path? value).map fun path => { image with source := some path } := by
  cases value <;> simp [put, path?]

theorem put_alt (value : Value) :
    put image 1 value = if image.alt.isSome then none
      else some { image with alt := some (leaf value).text? } := by
  simp [put]

theorem put_caption (place : Nat) (value : Value) :
    put image (place + 2) value = if image.caption.isSome then none
      else some { image with caption := some (leaf value).text? } := by
  simp [put]

theorem put_comm (first second : Nat) (firstValue secondValue : Value) :
    (put image first firstValue).bind (put · second secondValue) =
      (put image second secondValue).bind (put · first firstValue) := by
  obtain ⟨source, alt, caption⟩ := image
  match first, second with
  | 0, 0 | 0, 1 | 0, _ + 2 | 1, 0 | 1, 1 | 1, _ + 2 | _ + 2, 0 | _ + 2, 1 | _ + 2, _ + 2 =>
    simp only [put_source, put_alt, put_caption]
    cases source <;> cases alt <;> cases caption <;> cases path? firstValue <;>
      cases path? secondValue <;> rfl

/-- The place of the field to which a text belongs as a key. -/
def place? (key : String) : Option Nat :=
  if key = "src" then some 0
  else if key = "alt" then some 1
  else if key = "caption" then some 2
  else none

theorem field?_string (key : String) : field? (.string key) = some (place? key) := by
  unfold place?
  split
  next isSource => rw [isSource, field?]
  split
  next isAlt => rw [isAlt, field?]
  split
  next isCaption => rw [isCaption, field?]
  next noSource noAlt noCaption => exact field?_other noSource noAlt noCaption

theorem place?_eq_none (noField : ∀ group ∈ imageGroups, key ∉ group) : place? key = none := by
  have noSource : key ≠ "src" := by simpa using noField ["src"] (by decide)
  have noAlt : key ≠ "alt" := by simpa using noField ["alt"] (by decide)
  have noCaption : key ≠ "caption" := by simpa using noField ["caption"] (by decide)
  rw [place?, if_neg noSource, if_neg noAlt, if_neg noCaption]

theorem readEntries_cons (entry : String × Value) :
    readEntries image (keyed (entry :: entries)) =
      (place? entry.1).elim (readEntries image (keyed entries)) fun place =>
        (put image place entry.2).bind (readEntries · (keyed entries)) := by
  rw [Value.keyed_cons, readEntries, field?_string]
  cases place? entry.1 <;> rfl

theorem readEntries_cons_congr {entry : String × Value}
    (same : ∀ image, readEntries image (keyed entries) = readEntries image (keyed others))
    (image : Partial) :
    readEntries image (keyed (entry :: entries)) = readEntries image (keyed (entry :: others)) := by
  rw [readEntries_cons, readEntries_cons]
  simp only [same]

theorem readEntries_swap (first second : String × Value) (image : Partial) :
    readEntries image (keyed (first :: second :: entries)) =
      readEntries image (keyed (second :: first :: entries)) := by
  simp only [readEntries_cons]
  cases firstPlace : place? first.1 with
  | none => rfl
  | some place =>
      cases secondPlace : place? second.1 with
      | none => rfl
      | some other =>
          simp only [Option.elim_some]
          rw [← Option.bind_assoc, ← Option.bind_assoc, put_comm]

theorem readEntries_perm (perm : entries.Perm others) (image : Partial) :
    readEntries image (keyed entries) = readEntries image (keyed others) := by
  induction perm generalizing image with
  | nil => rfl
  | cons _ _ inductionHypothesis => exact readEntries_cons_congr inductionHypothesis image
  | swap first second _ => exact readEntries_swap second first image
  | trans _ _ firstSame secondSame => exact (firstSame image).trans (secondSame image)

theorem readEntries_insert (noField : ∀ group ∈ imageGroups, key ∉ group)
    (front back : List (String × Value)) (image : Partial) :
    readEntries image (keyed (front ++ (key, value) :: back)) =
      readEntries image (keyed (front ++ back)) := by
  induction front generalizing image with
  | nil =>
      rw [List.nil_append, readEntries_cons, place?_eq_none noField]
      rfl
  | cons entry front inductionHypothesis => exact readEntries_cons_congr inductionHypothesis image

end GalleryForm

/-- The fields of an image have one spelling each. -/
theorem imageGroups_spelling {group : List String} (field : group ∈ imageGroups)
    {first second : String} (firstMember : first ∈ group) (secondMember : second ∈ group) :
    first = second := by
  simp only [imageGroups, List.mem_cons, List.not_mem_nil, or_false] at field
  rcases field with rfl | rfl | rfl <;>
    exact (List.mem_singleton.mp firstMember).trans (List.mem_singleton.mp secondMember).symm

theorem toOption_galleryImage (fields : List (String × Value)) :
    (galleryImage (.mapping (keyed fields))).toOption =
      if fields.any (·.2.hasTag) then none else detailedImage? (keyed fields) := by
  have tags : (Value.mapping (keyed fields)).hasTag = fields.any (·.2.hasTag) := by
    rw [Value.hasTag, Value.entriesHaveTag_eq_any, keyed, List.any_map]
    rfl
  unfold galleryImage
  rw [tags]
  dsimp only
  split
  · rfl
  · cases detailedImage? (keyed fields) <;> rfl

theorem openRecord_galleryImage : OpenRecord galleryImage fun _ => imageGroups where
  unordered _ perm := by
    rw [toOption_galleryImage, toOption_galleryImage, perm.any_eq, detailedImage?, detailedImage?,
      GalleryForm.readEntries_perm perm]
  opened {front back key value} _ tagless noField := by
    have tags : (front ++ (key, value) :: back).any (·.2.hasTag) =
        (front ++ back).any (·.2.hasTag) := by
      simp [tagless.hasTag_eq]
    rw [toOption_galleryImage, toOption_galleryImage, tags, detailedImage?, detailedImage?,
      GalleryForm.readEntries_insert noField]
  respelled _ _ _ field firstMember secondMember := by
    rw [imageGroups_spelling field firstMember secondMember]
  once _ _ _ _ _ different _ field firstMember secondMember :=
    absurd (imageGroups_spelling field firstMember secondMember) different

/-! ### Everything that is read from a mapping -/

/-- **Mappings are unordered open records.** This holds of slides, of blocks, alone and in a body,
and of the cards, columns, grid items, timeline entries, flow diagrams, their items and gallery
images inside of them, whatever reads the bodies in them. The size of a title and the language of a
listing have two spellings. -/
theorem mappings_open (body : Reader Content) :
    OpenRecord slide slideGroups ∧
      OpenRecord (blockAround body) blockGroups ∧
      OpenRecord (whole (blockAround body)) blockGroups ∧
      OpenRecord (card body) (fun _ => Shape.card.groups) ∧
      OpenRecord (column body) (fun _ => Shape.column.groups) ∧
      OpenRecord gridItem (fun _ => Shape.gridItem.groups) ∧
      OpenRecord timelineEntry (fun _ => Shape.timelineEntry.groups) ∧
      OpenRecord flow (fun _ => Shape.flow.groups) ∧
      OpenRecord (whole flowItem) flowItemGroups ∧
      OpenRecord galleryImage (fun _ => imageGroups) ∧
      ["titleSize", "title_size"] ∈ slideGroups (some "hero") ∧
      ["language", "lang"] ∈ slideGroups (some "code") ∧
      ["language", "lang"] ∈ blockGroups (some "code") :=
  ⟨openRecord_slide, openRecord_blockAround body, (openRecord_blockAround body).whole,
    assembles_card.openRecord, assembles_column.openRecord, assembles_gridItem.openRecord,
    assembles_timelineEntry.openRecord, assembles_flow.openRecord, openRecord_flowItem.whole,
    openRecord_galleryImage, by decide, by decide, by decide⟩

end SlideDeck.Schema
