import SlideDeck.Store.Basic
import SlideDeck.Store.Path

/-!
Contract: paths in a store, whose top is the working directory.

A path is followed part by part, each from a directory that is there. Of what lies above the top
only the directories themselves are known.

Owns:
- `Place` and the place to which a path leads;
- reading, writing and listing by path.
-/

namespace SlideDeck

/-- Where a path leads: a location of the store, or a directory above its top. -/
inductive Place where
  | inside (location : Location)
  | above
deriving DecidableEq

namespace Place

def parent : Place → Place
  | inside [] | above => above
  | inside location => inside location.dropLast

end Place

namespace Store

def entry? (store : Store) : Place → Option Entry
  | .inside location => store.get? location
  | .above => some .directory

/-- Follows one part of a path from a directory. -/
def follow (store : Store) (place : Place) (part : List Char) : Option Place :=
  if store.entry? place ≠ some .directory then none
  else if part = [] ∨ part = ['.'] then some place
  else if part = ['.', '.'] then some place.parent
  else
    match place with
    | .above => none
    | .inside location =>
        (Name.ofText? (String.ofList part)).map fun name => .inside (location ++ [name])

/-- The place to which a path leads. All parts but the last must be there. -/
def locate (store : Store) (path : Path.Spelling) : Option Place :=
  match path with
  | [] => none
  | '/' :: rest => (Path.parts rest).foldlM store.follow .above
  | _ => (Path.parts path).foldlM store.follow (.inside [])

def find? (store : Store) (path : String) : Option Entry :=
  (store.locate path.toList).bind store.entry?

def read? (store : Store) (path : String) : Option ByteArray :=
  match store.find? path with
  | some (.file bytes) => some bytes
  | _ => none

def readText? (store : Store) (path : String) : Option String :=
  (store.read? path).bind String.fromUTF8?

/-- The store with a file at a path, if there can be one. -/
def write? (store : Store) (path : String) (bytes : ByteArray) : Option Store :=
  match store.locate path.toList with
  | some (.inside location) =>
      if store.get? location = some .directory then none
      else some (store.put location (.file bytes))
  | _ => none

/-- The store with a directory at a path, if nothing is there. Slashes at the end do not
count. -/
def makeDirectory? (store : Store) (path : String) : Option Store :=
  match store.locate (path.toList.reverse.dropWhile (· = '/')).reverse with
  | some (.inside location) =>
      if (store.get? location).isSome then none else some (store.put location .directory)
  | _ => none

/-- The names of the files in the directory at a path. -/
def fileNames? (store : Store) (path : String) : Option (List String) :=
  match store.locate path.toList with
  | some (.inside location) =>
      if store.get? location = some .directory then
        some ((store.names location (· ≠ .directory)).map Name.text)
      else none
  | _ => none

end Store

end SlideDeck
