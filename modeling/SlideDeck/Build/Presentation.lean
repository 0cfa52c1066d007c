import SlideDeck.Build.Files
import SlideDeck.Build.Report
import SlideDeck.Starter

/-!
Contract: builds from presentation files to page files.

A build reads one file and writes one, and writes only when nothing has failed before. The builds
of a directory do not stop each other.

Owns:
- reading the deck of a file;
- the build of one file, and those of all presentations in a directory;
- the making of a new presentation.
-/

namespace SlideDeck.Build

variable {m : Type → Type} [Monad m]

def deck (files : Files m) (path : String) : m (Except BuildError Deck) := do
  if ← files.isThere path then
    match ← files.readText path with
    | some source => return (Schema.deck source).mapError .source
    | none => return .error .inaccessible
  else return .error (.inputNotFound path)

/-- The page of a deck with the log of its rendering; nothing is rendered of a deck without
slides. -/
def page (deck : Deck) (config : Page.Config) : Logged (Except BuildError String) where
  value := (Page.page deck config).mapError .page
  log := renderingLog config.isolateFailures deck.transition 0 deck.slides

def file (files : Files m) (input output : String) (config : Page.Config) :
    m (Logged (Except BuildError Report)) := do
  match ← deck files input with
  | .error cause => return ⟨.error cause, []⟩
  | .ok deck =>
      let rendered := page deck config
      match rendered.value with
      | .error cause => return ⟨.error cause, rendered.log⟩
      | .ok text =>
          if ← files.writeText output text then
            let report : Report := ⟨input, output, deck.slides.length⟩
            return ⟨.ok report, rendered.log ++ [.built report]⟩
          else return ⟨.error .inaccessible, rendered.log⟩

def each (files : Files m) (config : Page.Config) : List String → m (Logged Batch)
  | [] => return ⟨.empty, []⟩
  | input :: inputs => do
      let first ← file files input (defaultOutput input) config
      let others ← each files config inputs
      return ⟨Batch.cons input first.value others.value,
        first.log ++ failureLog input first.value ++ others.log⟩

/-- The paths of the presentations among the names of files in a directory, in the order of their
characters. -/
def inputs (directory : String) (names : List String) : List String :=
  let paths := names.map fun name => String.ofList (Path.join directory.toList name.toList)
  (paths.filter fun path => Path.isSource path.toList).mergeSort
    fun first second => decide (first ≤ second)

/-- Builds every presentation that lies directly in a directory. -/
def directory (files : Files m) (path : String) (config : Page.Config) :
    m (Logged (Except BuildError Batch)) := do
  match ← files.fileNames path with
  | none => return ⟨.error .inaccessible, []⟩
  | some names =>
      let found := inputs path names
      let batch ← each files config found
      return ⟨.ok batch.value, .inputs found.length path :: batch.log⟩

/-- Makes a new presentation where nothing is yet. -/
def create (files : Files m) (path : String) : m (Logged (Except BuildError Unit)) := do
  if ← files.isThere path then return ⟨.error (.alreadyExists path), []⟩
  else if ← files.writeText path starterDeck then return ⟨.ok (), [.created path]⟩
  else return ⟨.error .inaccessible, []⟩

end SlideDeck.Build
