import SlideDeck.Page.Html
import SlideDeck.Schema.Source

/-!
Contract: what builds tell: their reports, their errors and their log.

Owns:
- `BuildError` with its message;
- `Report` of one build and `Batch` of many;
- log entries with their levels, and which of them a verbosity shows.
-/

namespace SlideDeck

/-- Why a build, or the making of a new presentation, fails. -/
inductive BuildError where
  | inaccessible
  | source (cause : Schema.ReadError)
  | page (cause : Page.PageError)
  | inputNotFound (path : String)
  | alreadyExists (path : String)
deriving DecidableEq, Repr

def BuildError.message : BuildError → String
  | inaccessible => "I/O error"
  | source cause => "YAML error: " ++ cause.message
  | page cause => cause.message
  | inputNotFound path => "input file not found: " ++ path
  | alreadyExists path => "file already exists: " ++ path

/-- A build that succeeded. -/
structure Report where
  input : String
  output : String
  slideCount : Nat
deriving DecidableEq, Repr

/-- The builds of a directory: those that succeeded, and the inputs that failed with their
errors, both in the order of the inputs. -/
structure Batch where
  built : List Report
  failed : List (String × BuildError)
deriving DecidableEq, Repr

namespace Batch

def empty : Batch := ⟨[], []⟩

/-- Whether nothing failed. -/
def isSuccess (batch : Batch) : Bool :=
  batch.failed.isEmpty

/-- Puts the outcome of one more build in front of a batch. -/
def cons (input : String) (outcome : Except BuildError Report) (batch : Batch) : Batch :=
  match outcome with
  | .ok report => { batch with built := report :: batch.built }
  | .error cause => { batch with failed := (input, cause) :: batch.failed }

end Batch

/-- How much a log entry matters, the most important first. -/
inductive Level where
  | error
  | warning
  | information
  | detail
deriving DecidableEq, Repr

def Level.label : Level → String
  | error => "ERROR"
  | warning => "WARN "
  | information => "INFO "
  | detail => "DEBUG"

/-- An entry of the log. -/
structure LogEntry where
  level : Level
  text : String
deriving DecidableEq, Repr

/-- The line of a log entry. Further lines of its text are indented. -/
def LogEntry.line (entry : LogEntry) : String :=
  "[" ++ entry.level.label ++ "] " ++
    String.ofList (entry.text.toList.flatMap fun character =>
      if character = '\n' then "\n    ".toList else [character]) ++ "\n"

/-- How much of the log is shown. -/
inductive Verbosity where
  | quiet
  | normal
  | verbose
deriving DecidableEq, Repr

def Verbosity.shows : Verbosity → Level → Bool
  | _, .error => true
  | quiet, _ => false
  | normal, level => level == .warning
  | verbose, _ => true

def Verbosity.render (verbosity : Verbosity) (log : List LogEntry) : String :=
  String.join ((log.filter fun entry => verbosity.shows entry.level).map LogEntry.line)

/-- A value with what was logged on the way to it. -/
structure Logged (α : Type) where
  value : α
  log : List LogEntry
deriving Repr

/-- What is logged about a slide that gives way to an error slide. -/
def LogEntry.substitution (failure : Markup.SlideFailure) : LogEntry :=
  ⟨.warning, failure.message ++ "; substituting an error slide"⟩

def LogEntry.rendering (index : Nat) (slide : Deck.Slide) : LogEntry :=
  ⟨.detail, "Rendering slide " ++ toString (index + 1) ++ " (" ++ slide.layout.name ++ ")"⟩

def LogEntry.built (report : Report) : LogEntry :=
  ⟨.information, "Built " ++ report.input ++ " -> " ++ report.output ++ " (" ++
    toString report.slideCount ++ " slides)"⟩

def LogEntry.failed (input : String) (cause : BuildError) : LogEntry :=
  ⟨.error, "Failed to build " ++ input ++ ": " ++ cause.message⟩

/-- What is logged behind the log of a build in a batch. -/
def failureLog (input : String) : Except BuildError Report → List LogEntry
  | .ok _ => []
  | .error cause => [.failed input cause]

/-- What is logged when the inputs in a directory are known. -/
def LogEntry.inputs (count : Nat) (directory : String) : LogEntry :=
  ⟨.detail, "Found " ++ toString count ++ " presentation(s) in " ++ directory⟩

def LogEntry.created (path : String) : LogEntry :=
  ⟨.information, "Created " ++ path⟩

/-- The log of rendering slides from an index on. It ends with the first slide that fails, unless
failures are isolated. -/
def renderingLog (isolate : Bool) (deckTransition : Option String) :
    (index : Nat) → List Deck.Slide → List LogEntry
  | _, [] => []
  | index, slide :: slides =>
      LogEntry.rendering index slide ::
        match Markup.slideOrFailure slide index deckTransition with
        | .ok _ => renderingLog isolate deckTransition (index + 1) slides
        | .error failure =>
            if isolate then
              LogEntry.substitution failure ::
                renderingLog isolate deckTransition (index + 1) slides
            else []

end SlideDeck
