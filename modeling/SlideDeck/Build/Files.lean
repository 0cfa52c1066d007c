import SlideDeck.Store.Place

/-!
Contract: the files that builds read and write.

Owns:
- `Files`, all that a build asks of the place where its files are;
- the files of a store.
-/

namespace SlideDeck

/-- Access to files by their paths. Reading and listing give nothing, and writing gives false,
when they are refused; a refused operation changes nothing. -/
structure Files (m : Type → Type) where
  isThere : String → m Bool
  readText : String → m (Option String)
  writeText : String → String → m Bool
  fileNames : String → m (Option (List String))

def Store.files : Files (StateM Store) where
  isThere path := fun store => ((store.find? path).isSome, store)
  readText path := fun store => (store.readText? path, store)
  writeText path text := fun store =>
    match store.write? path text.toUTF8 with
    | some next => (true, next)
    | none => (false, store)
  fileNames path := fun store => (store.fileNames? path, store)

end SlideDeck
