import SlideDeck.Store.Place

/-!
Contract: what the writing of a file changes in a store, and what it leaves as it was.

Owns:
- `Writes`, the change of one location to a file;
- `write?_eq_some_iff`: a path can be written exactly if it leads to a location that is no
  directory, and then this location changes;
- after a writing every path leads where it led before, and reads what it read before unless it
  leads to the written location.

Does not own: which paths builds write.
-/

namespace SlideDeck.Store

variable {store after : Store} {location : Location} {bytes : ByteArray} {path : String}

/-- One store becomes another one by the writing of a file where no directory was. -/
structure Writes (store : Store) (location : Location) (bytes : ByteArray) (after : Store) :
    Prop where
  free : store.get? location ≠ some .directory
  written : after.get? location = some (.file bytes)
  others : ∀ other, other ≠ location → after.get? other = store.get? other

theorem get?_top (store : Store) : store.get? [] = some .directory := rfl

theorem writes_put (free : store.get? location ≠ some .directory) :
    store.Writes location bytes (store.put location (.file bytes)) := by
  have below : location ≠ [] := by
    intro top
    rw [top] at free
    exact free store.get?_top
  constructor
  · exact free
  · rw [get?_put store location location _ below, if_pos rfl]
  · intro other different
    rw [get?_put store location other _ below, if_neg different]

theorem write?_eq_some_iff :
    store.write? path bytes = some after ↔
      ∃ location, store.locate path.toList = some (.inside location) ∧
        store.get? location ≠ some .directory ∧ after = store.put location (.file bytes) := by
  unfold write?
  cases store.locate path.toList with
  | none => simp
  | some place =>
      cases place with
      | above => simp
      | inside location =>
          by_cases directory : store.get? location = some .directory
          · simp [directory]
          · dsimp only
            rw [if_neg directory, Option.some.injEq]
            constructor
            · intro equal
              exact ⟨location, rfl, directory, equal.symm⟩
            · intro given
              obtain ⟨other, leads, -, equal⟩ := given
              obtain rfl : location = other := Place.inside.inj (Option.some.inj leads)
              exact equal.symm

/-- Whether a file can be written at a path. -/
def Writable (store : Store) (path : String) : Prop :=
  ∃ location, store.locate path.toList = some (.inside location) ∧
    store.get? location ≠ some .directory

theorem write?_eq_none_iff : store.write? path bytes = none ↔ ¬store.Writable path := by
  rw [Option.eq_none_iff_forall_ne_some, ← not_exists]
  apply not_congr
  simp only [write?_eq_some_iff, Writable]
  constructor
  · intro given
    obtain ⟨after, location, leads, free, -⟩ := given
    exact ⟨location, leads, free⟩
  · intro given
    obtain ⟨location, leads, free⟩ := given
    exact ⟨_, location, leads, free, rfl⟩

/-- Where a file is written for a path, if it can be. -/
def target? (store : Store) (path : String) : Option Location :=
  match store.locate path.toList with
  | some (.inside location) =>
      if store.get? location = some .directory then none else some location
  | _ => none

theorem target?_eq_some_iff : store.target? path = some location ↔
    store.locate path.toList = some (.inside location) ∧
      store.get? location ≠ some .directory := by
  unfold target?
  cases store.locate path.toList with
  | none => simp
  | some place =>
      cases place with
      | above => simp
      | inside other =>
          by_cases directory : store.get? other = some .directory
          · simp only [directory, if_true, reduceCtorEq, Option.some.injEq, Place.inside.injEq,
              false_iff]
            rintro ⟨rfl, free⟩
            exact free directory
          · simp only [directory, if_false, Option.some.injEq, Place.inside.injEq]
            constructor
            · rintro rfl
              exact ⟨rfl, directory⟩
            · exact fun given => given.1

theorem write?_eq_map : store.write? path bytes =
    (store.target? path).map fun location => store.put location (.file bytes) := by
  unfold write? target?
  cases store.locate path.toList with
  | none => rfl
  | some place =>
      cases place with
      | above => rfl
      | inside location =>
          dsimp only
          split <;> rfl

/-! ### Paths after a writing -/

/-- Two stores with directories at the same locations. -/
def SameDirectories (store after : Store) : Prop :=
  ∀ location, after.get? location = some .directory ↔ store.get? location = some .directory

namespace SameDirectories

theorem refl (store : Store) : store.SameDirectories store := fun _ => Iff.rfl

theorem trans {middle : Store} (first : store.SameDirectories middle)
    (second : middle.SameDirectories after) : store.SameDirectories after :=
  fun location => (second location).trans (first location)

theorem entry?_iff (same : store.SameDirectories after) (place : Place) :
    after.entry? place = some .directory ↔ store.entry? place = some .directory := by
  cases place with
  | inside location => exact same location
  | above => exact Iff.rfl

theorem follow_eq (same : store.SameDirectories after) (place : Place) (part : List Char) :
    after.follow place part = store.follow place part := by
  unfold follow
  simp only [ne_eq, same.entry?_iff place]

theorem locate_eq (same : store.SameDirectories after) (path : Path.Spelling) :
    after.locate path = store.locate path := by
  have follows : after.follow = store.follow := by
    funext place part
    exact same.follow_eq place part
  unfold locate
  rw [follows]

theorem writable_iff (same : store.SameDirectories after) (path : String) :
    after.Writable path ↔ store.Writable path := by
  simp only [Writable, same.locate_eq, ne_eq, same _]

theorem target?_eq (same : store.SameDirectories after) (path : String) :
    after.target? path = store.target? path := by
  apply Option.ext
  intro location
  rw [target?_eq_some_iff, target?_eq_some_iff, same.locate_eq, ne_eq, same location]

end SameDirectories

namespace Writes

variable (writes : store.Writes location bytes after)

include writes

theorem sameDirectories : store.SameDirectories after := by
  intro other
  by_cases here : other = location
  · subst here
    simp [writes.written, writes.free]
  · rw [writes.others other here]

theorem find?_eq (path : String) :
    after.find? path =
      if store.locate path.toList = some (.inside location) then some (.file bytes)
      else store.find? path := by
  unfold find?
  rw [writes.sameDirectories.locate_eq]
  cases store.locate path.toList with
  | none => simp
  | some place =>
      cases place with
      | above => simp [ entry?]
      | inside other =>
          by_cases here : other = location
          · subst here
            simp [ entry?, writes.written]
          · simp [ entry?, here, writes.others other here]

theorem read?_eq (path : String) :
    after.read? path =
      if store.locate path.toList = some (.inside location) then some bytes
      else store.read? path := by
  unfold read?
  rw [writes.find?_eq path]
  by_cases here : store.locate path.toList = some (.inside location)
  · rw [if_pos here, if_pos here]
  · rw [if_neg here, if_neg here]

end Writes

theorem fromUTF8?_toUTF8 (text : String) : String.fromUTF8? text.toUTF8 = some text := by
  unfold String.fromUTF8?
  rw [String.toUTF8_eq_toByteArray, dif_pos text.isValidUTF8]
  rfl

theorem Writes.readText?_eq {text : String} (writes : store.Writes location text.toUTF8 after)
    (path : String) :
    after.readText? path =
      if store.locate path.toList = some (.inside location) then some text
      else store.readText? path := by
  unfold readText?
  rw [writes.read?_eq path]
  split
  next => exact fromUTF8?_toUTF8 text
  next => rfl

end SlideDeck.Store
