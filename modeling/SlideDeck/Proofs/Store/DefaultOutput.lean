import SlideDeck.Proofs.Store.Component
import SlideDeck.Proofs.Store.PagePath

/-!
Contract: where the page of an input goes when nothing else is asked for.

The extension of a presentation is replaced, and to any other path the extension of pages is added.
The paths of presentations with a single dot for a stem are the only ones for which this fails: two
dots are left of the name when its extension is cut off, and these are no name that could get an
extension.

Owns:
- `HasDotStem`, the paths of presentations with a single dot for a stem;
- `IsPageOf`, the page of a presentation that has its stem and its directory;
- `defaultOutput_unlike_inputs`: no default output is an input, or the path it was made from, and
  which of them end with the extension of pages;
- `dotStem_loses_extension`, an input whose default output has no extension.

Does not own: what is there before a page is written.
-/

namespace SlideDeck.Path

variable {path front name stem extension behind : Spelling}

/-! ### A single dot for a stem -/

/-- The last part of a path is two dots and the extension of a presentation. The second dot begins
the extension, and the first is all of the stem. -/
def HasDotStem (path : Spelling) : Prop :=
  ['.', '.'] <+: lastPart path ∧ ((lastPart path).drop 2).map Char.toLower ∈ sourceExtensions

instance : DecidablePred HasDotStem := fun _ => inferInstanceAs (Decidable (_ ∧ _))

theorem not_mem_of_known {character : Char} (known : extension.map Char.toLower ∈ sourceExtensions)
    (foreign : ∀ other ∈ sourceExtensions, character.toLower ∉ other) : character ∉ extension :=
  fun member => foreign _ known (List.mem_map_of_mem member)

theorem isSourceName_of_dot (known : extension.map Char.toLower ∈ sourceExtensions) :
    IsSourceName (['.'] ++ '.' :: extension) ['.'] extension := by
  have nonempty : extension ≠ [] := by
    rintro rfl
    exact absurd known (by decide)
  exact {
    isName := isFileName_of_dot (by simp) (fun _ => nonempty) (by decide)
      (not_mem_of_known known (by decide))
    split := rfl
    stem_ne_nil := by simp
    noDot := not_mem_of_known known (by decide)
    known := known }

/-- Such a path is the path of a presentation with nothing idle behind its name. -/
theorem HasDotStem.spelled (dotted : HasDotStem path) : ∃ extension,
    Spelled path (upToLastPart path) (['.'] ++ '.' :: extension) [] ∧
      IsSourceName (['.'] ++ '.' :: extension) ['.'] extension := by
  obtain ⟨⟨extension, last⟩, known⟩ := dotted
  rw [← last] at known
  have source := isSourceName_of_dot known
  refine ⟨extension, ⟨?_, lastPart_upToLastPart path, source.isName, .nil⟩, source⟩
  have whole := upToLastPart_append_lastPart path
  rw [← last] at whole
  rw [List.append_nil]
  exact whole.symm

theorem Spelled.hasDotStem_iff (spelled : Spelled path front name behind)
    (source : IsSourceName name stem extension) :
    HasDotStem path ↔ behind = [] ∧ stem = ['.'] := by
  constructor
  · intro dotted
    obtain ⟨otherExtension, other, otherSource⟩ := dotted.spelled
    have sameName : name = ['.'] ++ '.' :: otherExtension :=
      Option.some.inj (spelled.fileName?_eq.symm.trans other.fileName?_eq)
    have sameSplit := congrArg splitExtension sameName
    rw [source.split, splitExtension_append source.stem_ne_nil source.noDot,
      splitExtension_append otherSource.stem_ne_nil otherSource.noDot] at sameSplit
    exact ⟨spelled.behind_eq_nil_iff.mpr (other.behind_eq_nil_iff.mp rfl),
      congrArg Prod.fst sameSplit⟩
  · rintro ⟨rfl, rfl⟩
    have last : lastPart path = ['.', '.'] ++ extension := by
      rw [spelled.whole, List.append_nil, spelled.lastPart_eq, source.split]
      rfl
    rw [HasDotStem, last]
    exact ⟨List.prefix_append _ _, source.known⟩

/-! ### The pages of presentations -/

theorem HasDotStem.pagePath_eq (dotted : HasDotStem path) :
    pagePath path = upToLastPart path ++ ['.', '.'] := by
  obtain ⟨extension, spelled, source⟩ := dotted.spelled
  rw [spelled.pagePath_eq source, if_pos rfl, pageName, if_pos rfl]

/-- The page of a presentation with another stem is spelled with this stem. -/
theorem Spelled.page (spelled : Spelled path front name behind)
    (source : IsSourceName name stem extension) (other : ¬ HasDotStem path) :
    Spelled (pagePath path) front (stem ++ pageExtension) [] where
  whole := by
    rw [spelled.hasDotStem_iff source] at other
    rw [spelled.pagePath_eq source, List.append_nil]
    split
    next last => rw [pageName, if_neg fun dot => other ⟨last, dot⟩]
    next => rfl
  closed := spelled.closed
  isName := isFileName_withPageExtension source.stem_noSlash
  idle := .nil

/-- The page of a presentation under its stem: the extension is another, what stands before it is
kept as it is spelled, and idle characters behind it are gone. -/
structure IsPageOf (page path : Spelling) : Prop where
  kept : ∃ before extension behind, path = before ++ '.' :: extension ++ behind ∧
    extension? path = some extension ∧ Idle behind ∧ page = before ++ pageExtension
  stem_eq : (fileName? page).map Path.stem = (fileName? path).map Path.stem
  extension_eq : extension? page = some "html".toList
  directory_eq : directory page = directory path

theorem Spelled.isPageOf (spelled : Spelled path front name behind)
    (source : IsSourceName name stem extension) (other : ¬ HasDotStem path) :
    IsPageOf (pagePath path) path := by
  have page := spelled.page source other
  have split := splitExtension_withPageExtension source.stem_ne_nil
  refine ⟨⟨front ++ stem, extension, behind, ?_, spelled.extension?_eq source, spelled.idle, ?_⟩,
    ?_, ?_, ?_⟩
  · rw [spelled.whole, source.split]
    simp
  · rw [page.whole]
    simp
  · rw [page.fileName?_eq, spelled.fileName?_eq, Option.map_some, Option.map_some, Path.stem,
      Path.stem, split, source.split, splitExtension_append source.stem_ne_nil source.noDot]
  · rw [extension?, page.fileName?_eq, Option.bind_some, split]
  · rw [page.directory_eq, spelled.directory_eq]

theorem isPageOf_iff (source : isSource path = true) :
    IsPageOf (pagePath path) path ↔ ¬ HasDotStem path := by
  constructor
  · intro isPage dotted
    have extensionEq := isPage.extension_eq
    rw [dotted.pagePath_eq, extension?_parent (lastPart_upToLastPart path)] at extensionEq
    simp at extensionEq
  · obtain ⟨front, name, behind, stem, extension, spelled, isSourceName⟩ := isSource_iff.mp source
    exact spelled.isPageOf isSourceName

/-- A page ends with the extension of pages, unless the stem is a single dot. -/
theorem pageExtension_isSuffix_iff (path : Spelling) :
    pageExtension <:+ pagePath path ↔ ¬ HasDotStem path := by
  constructor
  · intro ends dotted
    have backward := List.reverse_prefix.mpr ends
    have pageEnd : pageExtension.reverse = ['l', 'm', 't', 'h', '.'] := by decide
    rw [dotted.pagePath_eq, List.reverse_append, pageEnd] at backward
    have first := (List.cons_prefix_cons.mp backward).1
    simp at first
  · intro other
    by_cases source : isSource path = true
    · obtain ⟨front, name, behind, stem, extension, spelled, isSourceName⟩ := isSource_iff.mp source
      rw [(spelled.page isSourceName other).whole, List.append_nil, ← List.append_assoc]
      exact List.suffix_append _ _
    · rw [pagePath_of_not_source (by simpa using source)]
      exact List.suffix_append _ _

/-! ### The pages of other paths -/

/-- The page of any other path is the path with the extension of pages behind its last part. -/
theorem spelled_pagePath (noSource : isSource path = false) :
    Spelled (pagePath path) (upToLastPart path) (lastPart path ++ pageExtension) [] where
  whole := by
    rw [pagePath_of_not_source noSource, List.append_nil, ← List.append_assoc,
      upToLastPart_append_lastPart]
  closed := lastPart_upToLastPart path
  isName := isFileName_withPageExtension (lastPart_noSlash path)
  idle := .nil

/-! ### Where pages lie -/

theorem directory_pagePath (source : isSource path = true) :
    directory (pagePath path) = directory path := by
  obtain ⟨front, name, behind, stem, extension, spelled, isSourceName⟩ := isSource_iff.mp source
  by_cases dotted : HasDotStem path
  · have closed := lastPart_upToLastPart path
    obtain ⟨_, whole, -⟩ := dotted.spelled
    rw [dotted.pagePath_eq, directory, components_append closed (by decide) (by simp),
      whole.directory_eq]
    exact List.dropLast_concat
  · rw [(spelled.page isSourceName dotted).directory_eq, spelled.directory_eq]

/-- The page of a path with a file name lies beside it, unless the path is no presentation and does
not end with its file name. -/
theorem directory_pagePath_iff (named : fileName? path = some name) :
    directory (pagePath path) = directory path ↔ isSource path = true ∨ ¬ EndsIdle path := by
  by_cases source : isSource path = true
  · exact iff_of_true (directory_pagePath source) (.inl source)
  obtain ⟨front, behind, spelled⟩ := fileName?_eq_some_iff.mp named
  have page := spelled_pagePath (by simpa using source)
  rw [page.directory_eq, spelled.directory_eq]
  by_cases ends : EndsIdle path
  · refine iff_of_false ?_ (by simp [source, ends])
    rw [ends.components_upToLastPart, spelled.components_eq]
    simp
  · refine iff_of_true ?_ (.inr ends)
    obtain rfl := spelled.behind_eq_nil_iff.mpr ends
    rw [spelled.whole, List.append_nil,
      upToLastPart_of_closed spelled.closed spelled.isName.noSlash]

/-- No page is the path it was made from. -/
theorem components_pagePath_ne (path : Spelling) : components (pagePath path) ≠ components path := by
  intro same
  by_cases source : isSource path = true
  · have pageSource := isSource_congr same
    rw [not_isSource_pagePath, source] at pageSource
    exact Bool.false_ne_true pageSource
  · rw [(spelled_pagePath (by simpa using source)).components_eq] at same
    by_cases single : path = ['.']
    · rw [single] at same
      exact absurd same (by decide)
    · rw [components_upToLastPart single] at same
      have last := Option.toList_eq_singleton_iff.mp (List.append_cancel_left same).symm
      have longer := eq_of_component? last
      have lengths := congrArg List.length longer
      simp [pageExtension] at lengths

end SlideDeck.Path

namespace SlideDeck

open SlideDeck.Path

/-- No default output is an input, nor the path it was made from. It lies beside every input that
ends with its file name, and beside every presentation. It is the path of a presentation under the
same stem with another extension, and any other path with an extension more. It ends with the
extension of pages in every case but one, the presentations whose stem is a single dot: of these
only two dots are left. -/
theorem defaultOutput_unlike_inputs (path : Spelling) :
    (defaultOutput (String.ofList path)).toList = pagePath path ∧
      isSource (pagePath path) = false ∧
      components (pagePath path) ≠ components path ∧
      ((fileName? path).isSome →
        (directory (pagePath path) = directory path ↔ isSource path = true ∨ ¬ EndsIdle path)) ∧
      (isSource path = true → (IsPageOf (pagePath path) path ↔ ¬ HasDotStem path)) ∧
      (isSource path = false → pagePath path = path ++ pageExtension) ∧
      (pageExtension <:+ pagePath path ↔ ¬ HasDotStem path) ∧
      (HasDotStem path →
        isSource path = true ∧ pagePath path = upToLastPart path ++ ['.', '.']) := by
  refine ⟨?_, not_isSource_pagePath path, components_pagePath_ne path, ?_, isPageOf_iff,
    pagePath_of_not_source, pageExtension_isSuffix_iff path, ?_⟩
  · rw [defaultOutput, String.toList_ofList, String.toList_ofList]
  · intro named
    obtain ⟨name, named⟩ := Option.isSome_iff_exists.mp named
    exact directory_pagePath_iff named
  · intro dotted
    obtain ⟨extension, spelled, source⟩ := dotted.spelled
    exact ⟨spelled.isSource_iff.mpr ⟨_, extension, source⟩, dotted.pagePath_eq⟩

/-- Of a presentation everything but the last extension is kept, whatever its letter case and what
stands behind it. The page of a path that ends with a slash lies in the directory of that path. -/
theorem defaultOutput_unlike_inputs_sample :
    isSource "v1//talk.d.YmL/.".toList = true ∧
      IsPageOf (pagePath "v1//talk.d.YmL/.".toList) "v1//talk.d.YmL/.".toList ∧
      (fileName? "notes.d/".toList).isSome ∧
      directory (pagePath "notes.d/".toList) ≠ directory "notes.d/".toList := by
  have source : isSource "v1//talk.d.YmL/.".toList = true := by decide
  have named : (fileName? "notes.d/".toList).isSome := by decide
  obtain ⟨-, -, -, -, page, -⟩ := defaultOutput_unlike_inputs "v1//talk.d.YmL/.".toList
  obtain ⟨-, -, -, beside, -⟩ := defaultOutput_unlike_inputs "notes.d/".toList
  refine ⟨source, (page source).mpr (by decide), named, ?_⟩
  rw [ne_eq, beside named]
  decide

/-- A presentation with a single dot for a stem: its extension is cut off, what is left names the
directory above, and no extension is put in its place. -/
theorem dotStem_loses_extension :
    isSource "..yaml".toList = true ∧
      (fileName? "..yaml".toList).map stem = some ['.'] ∧
      defaultOutput "..yaml" = ".." ∧
      ¬ pageExtension <:+ (defaultOutput "..yaml").toList ∧
      fileName? (defaultOutput "..yaml").toList = none := by
  decide

end SlideDeck
