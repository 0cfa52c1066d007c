import SlideDeck.Proofs.Store.Spelling

/-!
Contract: the paths of the pages of presentations.

The rules are those of a path taken apart around its file name. The paths of the form
`directory ++ '/' :: name`, which is how the names in a directory are joined with its path, are an
instance.

Owns:
- `IsSourceName`, and the paths with such a file name, which are those of presentations;
- `Spelled.pagePath_eq`: the page of a presentation lies beside it, under the same stem;
- no path of a page is the path of a presentation;
- `extensionless`: presentations with the same page differ in their extensions only.

Does not own: where paths lead.
-/

namespace SlideDeck.Path

variable {path front name stem extension behind : List Char}

/-! ### Presentations -/

/-- The names of presentations: a stem, a dot and one of the extensions in any letter case. -/
structure IsSourceName (name stem extension : List Char) : Prop where
  isName : IsFileName name
  split : name = stem ++ '.' :: extension
  stem_ne_nil : stem ≠ []
  noDot : '.' ∉ extension
  known : extension.map Char.toLower ∈ sourceExtensions

theorem Spelled.isSource_iff (spelled : Spelled path front name behind) :
    isSource path = true ↔ ∃ stem extension, IsSourceName name stem extension := by
  rw [isSource, extension?, spelled.fileName?_eq, Option.bind_some]
  constructor
  · intro source
    cases splitEq : splitExtension name with
    | mk stem extension =>
        rw [splitEq] at source
        cases extension with
        | none => simp at source
        | some extension =>
            obtain ⟨split, nonempty, noDot⟩ := splitExtension_eq_some splitEq
            exact ⟨stem, extension, spelled.isName, split, nonempty, noDot, by simpa using source⟩
  · intro given
    obtain ⟨stem, extension, source⟩ := given
    rw [source.split, splitExtension_append source.stem_ne_nil source.noDot]
    simpa using source.known

theorem isSource_iff : isSource path = true ↔
    ∃ front name behind stem extension,
      Spelled path front name behind ∧ IsSourceName name stem extension := by
  constructor
  · intro source
    obtain ⟨name, named⟩ : ∃ name, fileName? path = some name := by
      cases named : fileName? path with
      | none => simp [isSource, extension?, named] at source
      | some name => exact ⟨name, rfl⟩
    obtain ⟨front, behind, spelled⟩ := fileName?_eq_some_iff.mp named
    obtain ⟨stem, extension, isSourceName⟩ := spelled.isSource_iff.mp source
    exact ⟨front, name, behind, stem, extension, spelled, isSourceName⟩
  · rintro ⟨front, name, behind, stem, extension, spelled, isSourceName⟩
    exact spelled.isSource_iff.mpr ⟨stem, extension, isSourceName⟩

/-- A name in a directory, joined with the path of the directory. -/
theorem spelled_join (front : Spelling) (isName : IsFileName name) :
    Spelled (front ++ '/' :: name) (front ++ ['/']) name [] where
  whole := by simp
  closed := lastPart_append (by simp)
  isName := isName
  idle := .nil

theorem isSource_append_iff (isName : IsFileName name) :
    isSource (front ++ '/' :: name) = true ↔
      ∃ stem extension, IsSourceName name stem extension :=
  (spelled_join front isName).isSource_iff

/-! ### Pages -/

/-- The last part of the path of a page. The stem of a single dot gives the directory above. -/
def pageName (stem : List Char) : List Char :=
  if stem = ['.'] then ['.', '.'] else stem ++ pageExtension

theorem isFileName_withPageExtension (noSlash : '/' ∉ name) :
    IsFileName (name ++ pageExtension) := by
  have long : 2 < (name ++ pageExtension).length := by
    rw [List.length_append, pageExtension]
    simp
  refine ⟨?_, ?_, ?_, ?_⟩
  · intro equal
    simp [equal] at long
  · intro equal
    simp [equal] at long
  · intro equal
    simp [equal] at long
  · rw [List.mem_append, not_or]
    exact ⟨noSlash, by decide⟩

theorem splitExtension_withPageExtension (nonempty : name ≠ []) :
    splitExtension (name ++ pageExtension) = (name, some "html".toList) :=
  splitExtension_append nonempty (by decide)

theorem isFileName_of_dot (nonempty : stem ≠ []) (named : stem = ['.'] → extension ≠ [])
    (stemNoSlash : '/' ∉ stem) (noSlash : '/' ∉ extension) :
    IsFileName (stem ++ '.' :: extension) := by
  have whole : '/' ∉ stem ++ '.' :: extension := by simp [stemNoSlash, noSlash]
  obtain ⟨first, rest, rfl⟩ := List.exists_cons_of_ne_nil nonempty
  refine ⟨by simp, by simp, ?_, whole⟩
  intro equal
  obtain ⟨rfl, others⟩ := List.cons.inj equal
  rcases List.append_eq_singleton_iff.mp others with ⟨rfl, last⟩ | ⟨-, nothing⟩
  · exact named rfl (List.cons.inj last).2
  · simp at nothing

theorem isFileName_pageName (notDot : stem ≠ ['.']) (noSlash : '/' ∉ stem) :
    IsFileName (pageName stem) := by
  rw [pageName, if_neg notDot]
  exact isFileName_withPageExtension noSlash

/-- A path that ends with the extension of pages is not the path of a presentation. -/
theorem not_isSource_page (closed : lastPart front = []) (noSlash : '/' ∉ name) :
    isSource (front ++ (name ++ pageExtension)) = false := by
  have spelled : Spelled (front ++ (name ++ pageExtension)) front (name ++ pageExtension) [] :=
    ⟨by simp, closed, isFileName_withPageExtension noSlash, .nil⟩
  rw [isSource, extension?, spelled.fileName?_eq, Option.bind_some]
  by_cases empty : name = []
  · rw [empty]
    decide
  · rw [splitExtension_withPageExtension empty]
    exact (by decide : (some "html".toList).any
      (fun extension => sourceExtensions.contains (extension.map Char.toLower)) = false)

/-- The name of a page is not the name of a presentation. -/
theorem not_isSource_pageName (isName : IsFileName (pageName stem)) :
    isSource (front ++ '/' :: pageName stem) = false := by
  by_cases dot : stem = ['.']
  · exact absurd (by rw [pageName, if_pos dot]) isName.notParent
  · rw [pageName, if_neg dot] at isName ⊢
    have noSlash : '/' ∉ stem := fun member => isName.noSlash (List.mem_append_left _ member)
    have closed : lastPart (front ++ ['/']) = [] := lastPart_append (by simp)
    simpa using not_isSource_page closed noSlash

theorem fileName?_parent (closed : lastPart front = []) : fileName? (front ++ ['.', '.']) = none := by
  have last : lastPart (front ++ ['.', '.']) = ['.', '.'] := lastPart_of_closed closed (by decide)
  have kept : spine (front ++ ['.', '.']) = front ++ ['.', '.'] := by
    apply spine_eq_self <;> simp [last]
  rw [fileName?, kept, last]
  rfl

theorem extension?_parent (closed : lastPart front = []) :
    extension? (front ++ ['.', '.']) = none := by
  rw [extension?, fileName?_parent closed, Option.bind_none]

namespace IsSourceName

variable (source : IsSourceName name stem extension)

include source

theorem stem_noSlash : '/' ∉ stem := by
  have noSlash := source.isName.noSlash
  rw [source.split] at noSlash
  intro member
  exact noSlash (List.mem_append_left _ member)

theorem extension_noSlash : '/' ∉ extension := by
  have noSlash := source.isName.noSlash
  rw [source.split] at noSlash
  intro member
  exact noSlash (List.mem_append_right _ (List.mem_cons_of_mem _ member))

theorem extension_ne_nil : extension ≠ [] := by
  rintro rfl
  exact absurd source.known (by decide)

theorem isSource (front : List Char) : isSource (front ++ '/' :: name) = true :=
  (isSource_append_iff source.isName).mpr ⟨stem, extension, source⟩

end IsSourceName

namespace Spelled

variable (spelled : Spelled path front name behind) (source : IsSourceName name stem extension)

include spelled source

theorem extension?_eq : extension? path = some extension := by
  rw [extension?, spelled.fileName?_eq, Option.bind_some, source.split,
    splitExtension_append source.stem_ne_nil source.noDot]

/-- Characters are cut from the end of a path as it is written: idle ones first, and of the
extension only as many as these leave. -/
theorem cut_eq : path.take (path.length - extension.length) =
    front ++ (stem ++ '.' :: extension.take behind.length) ++
      behind.take (behind.length - extension.length) := by
  have whole : path = (front ++ (stem ++ ['.'])) ++ (extension ++ behind) := by
    rw [spelled.whole, source.split]
    simp
  have shorter : path.length - extension.length =
      (front ++ (stem ++ ['.'])).length + behind.length := by
    rw [whole]
    simp only [List.length_append]
    omega
  rw [shorter, whole, List.take_length_add_append, List.take_append]
  simp

/-- The cut leaves a name with the same stem, unless two dots are all that it leaves of the name. -/
theorem spelled_cut (named : stem = ['.'] → behind ≠ []) :
    Spelled (path.take (path.length - extension.length)) front
      (stem ++ '.' :: extension.take behind.length)
      (behind.take (behind.length - extension.length)) where
  whole := spelled.cut_eq source
  closed := spelled.closed
  isName := by
    apply isFileName_of_dot source.stem_ne_nil
    · intro dot nothing
      rw [List.take_eq_nil_iff, List.length_eq_zero_iff] at nothing
      exact nothing.elim (named dot) source.extension_ne_nil
    · exact source.stem_noSlash
    · exact fun member => source.extension_noSlash (List.mem_of_mem_take member)
  idle := spelled.idle.of_isPrefix (List.take_prefix _ _)

theorem pagePath_eq : pagePath path =
    front ++ if behind = [] then pageName stem else stem ++ pageExtension := by
  rw [pagePath, if_pos (spelled.isSource_iff.mpr ⟨stem, extension, source⟩),
    spelled.extension?_eq source, Option.getD_some, withPageExtension]
  by_cases named : stem = ['.'] → behind ≠ []
  · have cut := spelled.spelled_cut source named
    have noDot : '.' ∉ extension.take behind.length := fun member =>
      source.noDot (List.mem_of_mem_take member)
    rw [cut.fileName?_eq]
    dsimp only
    rw [cut.upToLastPart_eq, Path.stem, splitExtension_append source.stem_ne_nil noDot,
      List.append_assoc]
    by_cases last : behind = []
    · rw [if_pos last, pageName, if_neg fun dot => named dot last]
    · rw [if_neg last]
  · -- The name is two dots and an extension, and the cut takes all of the extension.
    simp only [not_forall, not_not] at named
    obtain ⟨rfl, rfl⟩ := named
    have cut : path.take (path.length - extension.length) = front ++ ['.', '.'] := by
      rw [spelled.cut_eq source]
      simp
    rw [cut, fileName?_parent spelled.closed, if_pos rfl, pageName, if_pos rfl]

end Spelled

/-- The page of a presentation in a directory lies beside it. -/
theorem IsSourceName.pagePath_eq (source : IsSourceName name stem extension) (front : List Char) :
    pagePath (front ++ '/' :: name) = front ++ '/' :: pageName stem := by
  rw [(spelled_join front source.isName).pagePath_eq source, if_pos rfl]
  simp

theorem pagePath_of_not_source (noSource : isSource path = false) :
    pagePath path = path ++ pageExtension := by
  rw [pagePath, noSource]
  rfl

/-- The path of a page ends with the extension of pages, or with the part for the directory
above. -/
theorem pagePath_cases (path : Spelling) : ∃ front, lastPart front = [] ∧
    (pagePath path = front ++ ['.', '.'] ∨
      ∃ name, '/' ∉ name ∧ pagePath path = front ++ (name ++ pageExtension)) := by
  by_cases source : isSource path = true
  · obtain ⟨front, name, behind, stem, extension, spelled, isSourceName⟩ := isSource_iff.mp source
    refine ⟨front, spelled.closed, ?_⟩
    rw [spelled.pagePath_eq isSourceName]
    by_cases dotted : behind = [] ∧ stem = ['.']
    · left
      rw [if_pos dotted.1, pageName, if_pos dotted.2]
    · right
      refine ⟨stem, isSourceName.stem_noSlash, ?_⟩
      split
      next last => rw [pageName, if_neg fun dot => dotted ⟨last, dot⟩]
      next => rfl
  · refine ⟨upToLastPart path, lastPart_upToLastPart path, .inr ⟨lastPart path,
      lastPart_noSlash path, ?_⟩⟩
    rw [pagePath_of_not_source (by simpa using source), ← List.append_assoc,
      upToLastPart_append_lastPart]

/-- No page is a presentation. -/
theorem not_isSource_pagePath (path : Spelling) : isSource (pagePath path) = false := by
  obtain ⟨front, closed, parent | ⟨name, noSlash, page⟩⟩ := pagePath_cases path
  · rw [parent, isSource, extension?_parent closed, Option.any_none]
  · rw [page]
    exact not_isSource_page closed noSlash

/-! ### Pages of two presentations -/

/-- A path without the characters of its extension. -/
def extensionless (path : Spelling) : Spelling :=
  path.take (path.length - ((extension? path).getD []).length)

theorem IsSourceName.extensionless_eq (source : IsSourceName name stem extension)
    (front : List Char) :
    extensionless (front ++ '/' :: name) = front ++ '/' :: (stem ++ ['.']) := by
  have spelled := spelled_join front source.isName
  rw [extensionless, spelled.extension?_eq source, Option.getD_some, spelled.cut_eq source]
  simp

theorem pageName_injective {other : List Char} (same : pageName stem = pageName other) :
    stem = other := by
  unfold pageName at same
  have differ : ∀ text : List Char, text ++ pageExtension ≠ ['.', '.'] := by
    intro text equal
    have lengths := congrArg List.length equal
    simp [pageExtension] at lengths
  split at same <;> split at same
  next first second => rw [first, second]
  next => exact absurd same.symm (differ other)
  next => exact absurd same (differ stem)
  next => exact List.append_cancel_right same

/-- Two presentations in one directory have the same page exactly if their names are the same up
to the extension. -/
theorem pagePath_eq_iff {otherName otherStem otherExtension : List Char}
    (source : IsSourceName name stem extension)
    (otherSource : IsSourceName otherName otherStem otherExtension) (front : List Char) :
    pagePath (front ++ '/' :: name) = pagePath (front ++ '/' :: otherName) ↔
      extensionless (front ++ '/' :: name) = extensionless (front ++ '/' :: otherName) := by
  rw [source.pagePath_eq, otherSource.pagePath_eq, source.extensionless_eq,
    otherSource.extensionless_eq]
  simp only [List.append_cancel_left_eq, List.cons.injEq, true_and, List.append_cancel_right_eq]
  constructor
  · exact pageName_injective
  · intro same
    rw [same]

end SlideDeck.Path
