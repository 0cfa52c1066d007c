/-!
Contract: a store of files and directories.

Every entry stands at a location, the names on the way to it from the top of the store. No two
entries stand at one location. Names are those that a directory can hold.

Owns:
- `Name`, `Location`, `Entry` and `Store`;
- looking an entry up and putting one, with the law of the one against the other;
- the names in a directory and the listing of the whole store.

Does not own: paths.
-/

namespace SlideDeck

/-- Whether a text can be the name of an entry: it is neither empty nor one of the names for a
directory itself and the one above it, has at most 255 bytes, and neither slash nor null. -/
def Name.isValid (text : String) : Bool :=
  text != "" && text != "." && text != ".." && decide (text.utf8ByteSize ≤ 255) &&
    text.toList.all fun character => character != '/' && character != '\x00'

/-- The name of an entry in a directory. -/
structure Name where
  text : String
  valid : Name.isValid text = true
deriving DecidableEq

/-- The name that a text is, if it is one. -/
def Name.ofText? (text : String) : Option Name :=
  if valid : Name.isValid text = true then some ⟨text, valid⟩ else none

/-- The names on the way from the top of a store, which has none. -/
abbrev Location := List Name

/-- What stands at a location. -/
inductive Entry where
  | directory
  | file (bytes : ByteArray)

instance : DecidableEq Entry
  | .directory, .directory => isTrue rfl
  | .directory, .file _ => isFalse nofun
  | .file _, .directory => isFalse nofun
  | .file first, .file second =>
      match ByteArray.instDecidableEq first second with
      | isTrue same => isTrue (congrArg Entry.file same)
      | isFalse different => isFalse fun equal => different (Entry.file.inj equal)

/-- Files and directories at their locations, in the order in which they came. -/
structure Store where
  entries : List (Location × Entry)
  distinct : (entries.map Prod.fst).Nodup

namespace Store

def empty : Store :=
  ⟨[], List.nodup_nil⟩

/-- The entry at a location. The top is a directory. -/
def get? (store : Store) (location : Location) : Option Entry :=
  if location = [] then some .directory
  else (store.entries.find? (·.1 = location)).map Prod.snd

def replaceAt (location : Location) (entry : Entry) (entries : List (Location × Entry)) :
    List (Location × Entry) :=
  entries.map fun item => if item.1 = location then (item.1, entry) else item

theorem map_fst_replaceAt (location : Location) (entry : Entry)
    (entries : List (Location × Entry)) :
    (replaceAt location entry entries).map Prod.fst = entries.map Prod.fst := by
  simp only [replaceAt, List.map_map]
  apply List.map_congr_left
  intro item _
  simp only [Function.comp]
  split <;> rfl

/-- Puts an entry, in place of the one at the location or behind all others. -/
def put (store : Store) (location : Location) (entry : Entry) : Store :=
  if known : location ∈ store.entries.map Prod.fst then
    ⟨replaceAt location entry store.entries, by
      rw [map_fst_replaceAt]
      exact store.distinct⟩
  else
    ⟨store.entries ++ [(location, entry)], by
      rw [List.map_append, List.nodup_append]
      refine ⟨store.distinct, by simp, ?_⟩
      intro first firstMember second secondMember same
      simp only [List.map_cons, List.map_nil, List.mem_singleton] at secondMember
      exact known (secondMember ▸ same ▸ firstMember)⟩

private theorem find?_replaceAt (location other : Location) (entry : Entry)
    (entries : List (Location × Entry)) :
    (replaceAt location entry entries).find? (·.1 = other) =
      (entries.find? (·.1 = other)).map fun item =>
        if item.1 = location then (item.1, entry) else item := by
  induction entries with
  | nil => rfl
  | cons item items inductionHypothesis =>
      simp only [replaceAt] at inductionHypothesis
      by_cases here : item.1 = location <;> by_cases wanted : item.1 = other <;>
        simp_all [replaceAt]

/-- What was put is found, and nothing else has changed. -/
theorem get?_put (store : Store) (location other : Location) (entry : Entry)
    (below : location ≠ []) :
    (store.put location entry).get? other =
      if other = location then some entry else store.get? other := by
  by_cases top : other = []
  · subst top
    simp [get?, Ne.symm below]
  · by_cases known : location ∈ store.entries.map Prod.fst
    · simp only [get?, put, known, dif_pos, top, if_false, find?_replaceAt, Option.map_map]
      by_cases same : other = location
      · subst same
        obtain ⟨item, member, itemAt⟩ := List.mem_map.1 known
        cases found : store.entries.find? (·.1 = other) with
        | none => exact absurd (List.find?_eq_none.1 found item member) (by simp [itemAt])
        | some hit =>
            have hitAt := List.find?_some found
            simp only [decide_eq_true_eq] at hitAt
            simp [hitAt]
      · cases found : store.entries.find? (·.1 = other) with
        | none => simp [same]
        | some hit =>
            have hitAt := List.find?_some found
            simp only [decide_eq_true_eq] at hitAt
            simp [hitAt, same]
    · simp only [get?, put, known, dif_neg, not_false_eq_true, top, if_false,
        List.find?_append]
      by_cases same : other = location
      · subst same
        have absent : store.entries.find? (·.1 = other) = none := by
          rw [List.find?_eq_none]
          intro item member atOther
          exact known (List.mem_map.2 ⟨item, member, by simpa using atOther⟩)
        simp [absent]
      · simp [same, Ne.symm same]

/-- The names of the entries in a directory for which a test holds. -/
def names (store : Store) (directory : Location) (test : Entry → Bool) : List Name :=
  store.entries.filterMap fun (location, entry) =>
    match location.getLast? with
    | some name => if location.dropLast = directory ∧ test entry then some name else none
    | none => none

def pathOf (location : Location) : String :=
  "/".intercalate (location.map Name.text)

/-- The paths of all entries in the order of their characters, those of directories with a slash
behind. -/
def listing (store : Store) : List String :=
  let paths := store.entries.map fun (location, entry) =>
    match entry with
    | .directory => pathOf location ++ "/"
    | .file _ => pathOf location
  paths.mergeSort fun first second => decide (first ≤ second)

end Store

end SlideDeck
