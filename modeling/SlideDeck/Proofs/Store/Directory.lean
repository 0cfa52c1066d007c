import SlideDeck.Proofs.Store.PagePath
import SlideDeck.Proofs.Store.Writing

/-!
Contract: where the names in a directory lead.

Owns:
- `Lies`: a path leads to a directory at a location;
- the path of a name in a directory leads to that name below the location;
- the names in a directory, each once, are those of its entries;
- what is above such a location is a directory too, so the page of a presentation is written below
  the location or nowhere.

Does not own: how the path of a page is made.
-/

namespace SlideDeck

theorem Name.isFileName (name : Name) : Path.IsFileName name.text.toList := by
  have valid := name.valid
  simp only [Name.isValid, bne_iff_ne, ne_eq, Bool.and_eq_true, decide_eq_true_eq,
    List.all_eq_true] at valid
  obtain ⟨⟨⟨⟨nonempty, notDot⟩, notParent⟩, -⟩, letters⟩ := valid
  constructor
  · intro equal
    exact nonempty (String.toList_injective equal)
  · intro equal
    exact notDot (String.toList_injective equal)
  · intro equal
    exact notParent (String.toList_injective equal)
  · intro slash
    exact (letters '/' slash).1 rfl

theorem Name.ofText?_text (name : Name) : Name.ofText? name.text = some name := by
  rw [Name.ofText?, dif_pos name.valid]

theorem Name.text_of_ofText? {text : String} {name : Name} (named : Name.ofText? text = some name) :
    name.text = text := by
  unfold Name.ofText? at named
  split at named
  next => rw [← Option.some.inj named]
  next => simp at named

namespace Store

variable {store : Store} {location : Location} {path : String}

/-! ### Following one part -/

/-- The ways to follow a part: it stays, goes up, or goes to a name below. -/
theorem follow_cases {place next : Place} {part : List Char}
    (followed : store.follow place part = some next) :
    store.entry? place = some .directory ∧
      ((part = [] ∨ part = ['.']) ∧ next = place ∨
        part = ['.', '.'] ∧ next = place.parent ∨
        ∃ location name, place = .inside location ∧ name.text.toList = part ∧
          next = .inside (location ++ [name])) := by
  unfold follow at followed
  split at followed
  next => simp at followed
  next directory =>
    refine ⟨Classical.not_not.mp directory, ?_⟩
    split at followed
    next idle => exact .inl ⟨idle, (Option.some.inj followed).symm⟩
    split at followed
    next parent => exact .inr (.inl ⟨parent, (Option.some.inj followed).symm⟩)
    split at followed
    next => simp at followed
    next location =>
      obtain ⟨name, named, rfl⟩ := Option.map_eq_some_iff.mp followed
      have text : name.text.toList = part := by
        rw [Name.text_of_ofText? named, String.toList_ofList]
      exact .inr (.inr ⟨location, name, rfl, text, rfl⟩)

theorem follow_empty {place next : Place} (followed : store.follow place [] = some next) :
    next = place := by
  obtain ⟨-, ⟨-, stays⟩ | ⟨parent, -⟩ | ⟨_, name, -, text, -⟩⟩ := follow_cases followed
  · exact stays
  · simp at parent
  · exact absurd text name.isFileName.nonempty

theorem follow_above {next : Place} {part : List Char}
    (followed : store.follow .above part = some next) : next = .above := by
  obtain ⟨-, ⟨-, stays⟩ | ⟨-, up⟩ | ⟨_, _, inside, -, -⟩⟩ := follow_cases followed
  · exact stays
  · exact up
  · simp at inside

theorem follow_isFileName {part : List Char} {next : Place} (isName : Path.IsFileName part)
    (followed : store.follow (.inside location) part = some next) :
    ∃ name : Name, name.text.toList = part ∧ next = .inside (location ++ [name]) := by
  obtain ⟨-, ⟨idle, -⟩ | ⟨parent, -⟩ | ⟨_, name, inside, text, below⟩⟩ := follow_cases followed
  · exact absurd idle (not_or.mpr ⟨isName.nonempty, isName.notDot⟩)
  · exact absurd parent isName.notParent
  · obtain rfl := Place.inside.inj inside
    exact ⟨name, text, below⟩

theorem follow_name (directory : store.get? location = some .directory) (name : Name) :
    store.follow (.inside location) name.text.toList = some (.inside (location ++ [name])) := by
  have isName := name.isFileName
  simp [follow, entry?, directory, isName.nonempty, isName.notDot, isName.notParent,
    Name.ofText?_text]

/-! ### Directories and what is above them -/

/-- Everything above a place is a directory. -/
def Rooted (store : Store) : Place → Prop
  | .inside location => ∀ upper, upper <+: location → upper ≠ location →
      store.get? upper = some .directory
  | .above => True

theorem rooted_parent {place : Place} (rooted : store.Rooted place) :
    store.Rooted place.parent := by
  cases place with
  | above => trivial
  | inside location =>
      cases location with
      | nil => trivial
      | cons name names =>
          intro upper prefixOf different
          have within : upper <+: name :: names := prefixOf.trans (List.dropLast_prefix _)
          refine rooted upper within ?_
          intro equal
          have lengths := prefixOf.length_le
          rw [equal, List.length_dropLast, List.length_cons] at lengths
          omega

theorem rooted_follow {place next : Place} {part : List Char} (rooted : store.Rooted place)
    (followed : store.follow place part = some next) : store.Rooted next := by
  obtain ⟨directory, ⟨-, rfl⟩ | ⟨-, rfl⟩ | ⟨location, name, rfl, -, rfl⟩⟩ := follow_cases followed
  · exact rooted
  · exact rooted_parent rooted
  · intro upper prefixOf different
    rcases List.prefix_concat_iff.mp prefixOf with whole | within
    · exact absurd whole different
    · by_cases here : upper = location
      · rw [here]
        exact directory
      · exact rooted upper within here

theorem rooted_foldlM {parts : List (List Char)} {place next : Place}
    (rooted : store.Rooted place) (followed : parts.foldlM store.follow place = some next) :
    store.Rooted next := by
  induction parts generalizing place with
  | nil =>
      obtain rfl : place = next := by simpa using followed
      exact rooted
  | cons part parts inductionHypothesis =>
      rw [List.foldlM_cons, Option.bind_eq_bind, Option.bind_eq_some_iff] at followed
      obtain ⟨middle, first, rest⟩ := followed
      exact inductionHypothesis (rooted_follow rooted first) rest

theorem rooted_locate {path : Path.Spelling} {place : Place}
    (leads : store.locate path = some place) : store.Rooted place := by
  unfold locate at leads
  split at leads
  next => simp at leads
  next =>
    have above : store.Rooted .above := trivial
    exact rooted_foldlM above leads
  next =>
    have top : store.Rooted (.inside []) := fun upper prefixOf different =>
      absurd (List.prefix_nil.mp prefixOf) different
    exact rooted_foldlM top leads

theorem foldlM_above {parts : List (List Char)} {next : Place}
    (followed : parts.foldlM store.follow .above = some next) : next = .above := by
  induction parts with
  | nil => exact (Option.some.inj followed).symm
  | cons part parts inductionHypothesis =>
      rw [List.foldlM_cons, Option.bind_eq_bind, Option.bind_eq_some_iff] at followed
      obtain ⟨middle, first, rest⟩ := followed
      rw [follow_above first] at rest
      exact inductionHypothesis rest

/-- A path leads to a directory at a location. -/
structure Lies (store : Store) (path : Path.Spelling) (location : Location) : Prop where
  leads : store.locate path = some (.inside location)
  directory : store.get? location = some .directory

theorem fileNames?_eq_some_iff {names : List String} :
    store.fileNames? path = some names ↔
      ∃ location, store.Lies path.toList location ∧
        names = (store.names location (· ≠ .directory)).map Name.text := by
  unfold fileNames?
  constructor
  · intro listed
    split at listed
    next location leads =>
      split at listed
      next directory => exact ⟨location, ⟨leads, directory⟩, (Option.some.inj listed).symm⟩
      next => simp at listed
    next => simp at listed
  · rintro ⟨location, lies, rfl⟩
    rw [lies.leads]
    simp only [lies.directory, if_true]

namespace Lies

variable {path : Path.Spelling} (lies : store.Lies path location)

include lies

theorem of_sameDirectories {after : Store} (same : store.SameDirectories after) :
    after.Lies path location where
  leads := by
    rw [same.locate_eq]
    exact lies.leads
  directory := (same location).mpr lies.directory

/-- Joining a name to the path of a directory puts a slash between the two; the result leads where
the name leads from the directory. -/
theorem exists_front : ∃ front : Path.Spelling,
    (∀ name, Path.join path name = front ++ '/' :: name) ∧
      ∀ last, '/' ∉ last →
        store.locate (front ++ '/' :: last) = store.follow (.inside location) last := by
  have leads := lies.leads
  cases path with
  | nil => simp [locate] at leads
  | cons character rest =>
      by_cases slash : character = '/'
      · subst slash
        exact absurd (foldlM_above leads) (by simp)
      have relative : ∀ behind, store.locate (character :: behind) =
          (Path.parts (character :: behind)).foldlM store.follow (.inside []) := by
        intro behind
        unfold locate
        split <;> simp_all
      have below : ∀ others, (Path.parts (character :: others)).foldlM store.follow (.inside []) =
          some (.inside location) → ∀ last, '/' ∉ last →
            store.locate (character :: others ++ '/' :: last) =
              store.follow (.inside location) last := by
        intro others reached last noSlash
        rw [List.cons_append, relative, ← List.cons_append, Path.parts_append noSlash,
          List.foldlM_append, reached]
        simp
      rw [relative] at leads
      by_cases closed : (character :: rest).getLast? = some '/'
      · obtain ⟨front, whole⟩ := List.getLast?_eq_some_iff.mp closed
        cases front with
        | nil =>
            rw [List.nil_append, List.cons.injEq] at whole
            exact absurd whole.1 slash
        | cons first others =>
            rw [List.cons_append, List.cons.injEq] at whole
            obtain ⟨rfl, rfl⟩ := whole
            rw [← List.cons_append, Path.parts_append (by simp), List.foldlM_append,
              Option.bind_eq_bind, Option.bind_eq_some_iff] at leads
            obtain ⟨place, reached, last⟩ := leads
            simp only [List.foldlM_cons, List.foldlM_nil, bind_pure] at last
            rw [← follow_empty last] at reached
            refine ⟨character :: others, ?_, below others reached⟩
            intro name
            rw [Path.join, if_pos closed]
            simp
      · refine ⟨character :: rest, ?_, below rest leads⟩
        intro name
        rw [Path.join, if_neg closed]

theorem locate_join (name : Name) :
    store.locate (Path.join path name.text.toList) = some (.inside (location ++ [name])) := by
  obtain ⟨front, joined, leads⟩ := lies.exists_front
  rw [joined, leads _ name.isFileName.noSlash, follow_name lies.directory]

/-- What the part for the directory above leads to is a directory. -/
theorem follow_parent {other : Location}
    (followed : store.follow (.inside location) ['.', '.'] = some (.inside other)) :
    store.get? other = some .directory := by
  have rooted := rooted_locate lies.leads
  obtain ⟨-, ⟨idle, -⟩ | ⟨-, up⟩ | ⟨_, name, -, text, -⟩⟩ := follow_cases followed
  · simp at idle
  · cases location with
    | nil => simp [Place.parent] at up
    | cons name names =>
        obtain rfl : other = (name :: names).dropLast := Place.inside.inj up
        refine rooted _ (List.dropLast_prefix _) ?_
        intro equal
        have lengths := congrArg List.length equal
        simp at lengths
  · exact absurd text name.isFileName.notParent

/-- The path of a page leads to a name in the directory of its presentation, or to a directory. -/
theorem locate_pagePath {name : Name} {stem extension : List Char} {target : Location}
    (source : Path.IsSourceName name.text.toList stem extension)
    (located : store.locate (Path.pagePath (Path.join path name.text.toList)) =
      some (.inside target))
    (free : store.get? target ≠ some .directory) :
    ∃ page : Name, page.text.toList = Path.pageName stem ∧ target = location ++ [page] := by
  obtain ⟨front, joined, leads⟩ := lies.exists_front
  rw [joined, source.pagePath_eq] at located
  by_cases dot : stem = ['.']
  · have parent : Path.pageName stem = ['.', '.'] := by rw [Path.pageName, if_pos dot]
    rw [parent, leads _ (by decide)] at located
    exact absurd (lies.follow_parent located) free
  · have isName := Path.isFileName_pageName dot source.stem_noSlash
    rw [leads _ isName.noSlash] at located
    obtain ⟨page, text, below⟩ := follow_isFileName isName located
    exact ⟨page, text, Place.inside.inj below⟩

end Lies

/-! ### The names in a directory -/

theorem mem_entries_iff {entry : Entry} (below : location ≠ []) :
    (location, entry) ∈ store.entries ↔ store.get? location = some entry := by
  have unique : ∀ entries : List (Location × Entry), (entries.map Prod.fst).Nodup →
      ((location, entry) ∈ entries ↔
        (entries.find? (·.1 = location)).map Prod.snd = some entry) := by
    intro entries distinct
    induction entries with
    | nil => simp
    | cons item items inductionHypothesis =>
        rw [List.map_cons, List.nodup_cons] at distinct
        rw [List.mem_cons, List.find?_cons]
        by_cases here : item.1 = location
        · have absent : (location, entry) ∉ items := fun member =>
            distinct.1 (List.mem_map.mpr ⟨_, member, here.symm⟩)
          simp only [here, decide_true, Option.map_some, Option.some.injEq, absent, or_false]
          constructor
          · intro equal
            rw [← equal]
          · intro equal
            rw [← here, ← equal]
        · have other : (location, entry) ≠ item := fun equal => here (by rw [← equal])
          simp only [other, false_or, here, decide_false, inductionHypothesis distinct.2]
  rw [get?, if_neg below]
  exact unique store.entries store.distinct

/-- An entry in a directory, by its name. -/
theorem getLast?_eq_iff {directory : Location} {name : Name} :
    location.getLast? = some name ∧ location.dropLast = directory ↔
      location = directory ++ [name] := by
  constructor
  · rintro ⟨last, rfl⟩
    obtain ⟨front, rfl⟩ := List.getLast?_eq_some_iff.mp last
    simp
  · rintro rfl
    simp

theorem mem_names_iff {test : Entry → Bool} {name : Name} :
    name ∈ store.names location test ↔
      ∃ entry, store.get? (location ++ [name]) = some entry ∧ test entry = true := by
  have below : location ++ [name] ≠ [] := by simp
  rw [names, List.mem_filterMap]
  constructor
  · rintro ⟨⟨other, entry⟩, member, named⟩
    dsimp only at named
    split at named
    next last lastEq =>
      split at named
      next inside =>
        obtain rfl := Option.some.inj named
        obtain rfl := getLast?_eq_iff.mp ⟨lastEq, inside.1⟩
        exact ⟨entry, (mem_entries_iff below).mp member, inside.2⟩
      next => simp at named
    next => simp at named
  · rintro ⟨entry, present, tested⟩
    refine ⟨(location ++ [name], entry), (mem_entries_iff below).mpr present, ?_⟩
    simp [tested]

theorem nodup_names (store : Store) (location : Location) (test : Entry → Bool) :
    (store.names location test).Nodup := by
  have distinct := store.distinct
  rw [List.Nodup, List.pairwise_map] at distinct
  rw [names, List.Nodup, List.pairwise_filterMap]
  refine distinct.imp ?_
  rintro ⟨first, firstEntry⟩ ⟨second, secondEntry⟩ different name firstNamed other secondNamed rfl
  dsimp only at firstNamed secondNamed different
  split at firstNamed <;> split at secondNamed <;> try contradiction
  next firstLast firstEq _ secondLast secondEq =>
    split at firstNamed <;> split at secondNamed <;> try contradiction
    next firstInside secondInside =>
      obtain rfl := Option.some.inj firstNamed
      obtain rfl := Option.some.inj secondNamed
      apply different
      rw [getLast?_eq_iff.mp ⟨firstEq, firstInside.1⟩, getLast?_eq_iff.mp ⟨secondEq, secondInside.1⟩]

end Store

end SlideDeck
