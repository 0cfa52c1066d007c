import SlideDeck.Proofs.Store.Directory

/-!
Contract: where files are written for the paths of pages.

A path that leads to no directory ends with the name of what it leads to. The path of a page ends
with the extension of pages, unless it ends with a part that is no name.

Owns:
- `IsPage`, the locations of pages;
- `isPage_of_locate`: the path of a page leads to the location of a page, if it leads to no
  directory.

Does not own: which presentations have which pages.
-/

namespace SlideDeck

namespace Store

variable {store : Store} {location : Location} {path : Path.Spelling}

/-- What is above a directory is a directory. -/
theorem entry?_parent {place : Place} (rooted : store.Rooted place)
    (directory : store.entry? place = some .directory) :
    store.entry? place.parent = some .directory := by
  cases place with
  | above => rfl
  | inside location =>
      cases location with
      | nil => rfl
      | cons name names =>
          refine rooted _ (List.dropLast_prefix _) ?_
          intro equal
          have lengths := congrArg List.length equal
          rw [List.length_dropLast, List.length_cons] at lengths
          omega

/-- A path that leads to no directory ends with the name of what it leads to. -/
theorem exists_name_of_locate (leads : store.locate path = some (.inside location))
    (free : store.get? location ≠ some .directory) :
    ∃ name : Name, location.getLast? = some name ∧ name.text.toList = Path.lastPart path := by
  have fromTop : (Path.parts path).foldlM store.follow (.inside []) = some (.inside location) := by
    unfold locate at leads
    split at leads
    next => simp at leads
    next => exact absurd (foldlM_above leads) (by simp)
    next => exact leads
  obtain ⟨others, partsEq⟩ := Path.parts_eq_append_lastPart path
  rw [partsEq, List.foldlM_append, Option.bind_eq_bind, Option.bind_eq_some_iff] at fromTop
  obtain ⟨place, reached, last⟩ := fromTop
  simp only [List.foldlM_cons, List.foldlM_nil, bind_pure] at last
  have top : store.Rooted (.inside []) := fun upper prefixOf different =>
    absurd (List.prefix_nil.mp prefixOf) different
  obtain ⟨directory, ⟨-, stays⟩ | ⟨-, up⟩ | ⟨upper, name, -, text, below⟩⟩ := follow_cases last
  · rw [← stays] at directory
    exact absurd directory free
  · have parent := entry?_parent (rooted_foldlM top reached) directory
    rw [← up] at parent
    exact absurd parent free
  · obtain rfl := Place.inside.inj below
    exact ⟨name, List.getLast?_concat, text⟩

end Store

/-- The location of a page, by its name. -/
def IsPage (location : Location) : Prop :=
  ∃ name, location.getLast? = some name ∧ Path.pageExtension <:+ name.text.toList

/-- A file for the path of a page is written at the location of a page. -/
theorem isPage_of_locate {store : Store} {path : Path.Spelling} {location : Location}
    (leads : store.locate (Path.pagePath path) = some (.inside location))
    (free : store.get? location ≠ some .directory) : IsPage location := by
  obtain ⟨name, last, text⟩ := Store.exists_name_of_locate leads free
  refine ⟨name, last, ?_⟩
  rw [text]
  obtain ⟨front, closed, parent | ⟨stem, noSlash, page⟩⟩ := Path.pagePath_cases path
  · -- The path leads to something that is no directory, so its last part is a name.
    rw [parent, Path.lastPart_of_closed closed (by decide)] at text
    exact absurd text name.isFileName.notParent
  · have isName := Path.isFileName_withPageExtension noSlash
    rw [page, Path.lastPart_of_closed closed isName.noSlash]
    exact List.suffix_append _ _

end SlideDeck
