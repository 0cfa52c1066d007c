import SlideDeck.Build.Presentation
import SlideDeck.CommandLine.Arguments

/-!
Contract: what the program does and says.

Owns:
- `Outcome`, the exit code and the texts on both outputs;
- the commands and their outcomes;
- the answers to requests for help and for the version, and to refused arguments.
-/

namespace SlideDeck.CommandLine

/-- What a run of the program leaves besides files. -/
structure Outcome where
  code : Nat
  output : String
  errors : String
deriving DecidableEq, Repr

/-- The line that names the program and its version. -/
def versionLine : String := "slayd 0.2.0\n"

def usage : String :=
  String.join
    ["Usage: slayd [OPTIONS] [INPUT] [OUTPUT]\n",
      "       slayd init [FILE]\n",
      "       slayd build [INPUT] [OUTPUT]\n",
      "\n",
      "Options:\n",
      "  -q, --quiet             Only report errors\n",
      "  -v, --verbose           Log more detail\n",
      "      --isolate-failures  Replace slides that fail with an error slide\n",
      "  -h, --help              Show this text\n",
      "  -V, --version           Show the version\n"]

def Flags.verbosity (flags : Flags) : Verbosity :=
  if flags.quiet then .quiet else if flags.verbose then .verbose else .normal

def Flags.config (flags : Flags) : Page.Config :=
  { Page.Config.default with isolateFailures := flags.isolateFailures }

namespace Outcome

/-- A run that succeeded; nothing is said when it is to be quiet. -/
def success (flags : Flags) (log : List LogEntry) (output : String) : Outcome :=
  ⟨0, if flags.quiet then "" else output, flags.verbosity.render log⟩

def failure (flags : Flags) (log : List LogEntry) (cause : BuildError) : Outcome :=
  ⟨1, "", flags.verbosity.render log ++ "error: " ++ cause.message ++ "\n"⟩

def ofLogged {α : Type} (flags : Flags) (output : α → String)
    (result : Logged (Except BuildError α)) : Outcome :=
  match result.value with
  | .ok value => success flags result.log (output value)
  | .error cause => failure flags result.log cause

end Outcome

def createdText (path : String) : String :=
  "Created " ++ path ++ "\n\nNext steps:\n" ++
    "  1. Edit " ++ path ++ " with your content\n" ++
    "  2. Run: slayd " ++ path ++ "\n" ++
    "  3. Open the generated HTML in your browser\n"

def builtText (report : Report) : String :=
  "Presentation built: " ++ report.output ++ "\n  " ++
    toString report.slideCount ++ " slides generated\n"

def builtLine (report : Report) : String :=
  "Built " ++ report.output ++ " (" ++ toString report.slideCount ++ " slides)\n"

def ruleLine : String :=
  String.ofList (List.replicate 50 '─') ++ "\n"

/-- What is said about the builds of a directory. -/
def batchText (batch : Batch) : String :=
  if batch.built.isEmpty && batch.isSuccess then
    "No YAML files found in current directory\n"
  else
    String.join (batch.built.map builtLine) ++ ruleLine ++
      "Successfully built: " ++ toString batch.built.length ++ "\n"

/-- The outcome of the builds of a directory. Failures were logged; their number is added. -/
def batchOutcome (flags : Flags) (result : Logged (Except BuildError Batch)) : Outcome :=
  let outcome := Outcome.ofLogged flags batchText result
  match result.value with
  | .error _ => outcome
  | .ok batch =>
      if batch.isSuccess then outcome
      else
        { outcome with
          code := 1
          errors := outcome.errors ++ "Failed: " ++ toString batch.failed.length ++ "\n" }

variable {m : Type → Type} [Monad m]

def runCommand (files : Files m) (flags : Flags) : Command → m Outcome
  | .create path => do
      return Outcome.ofLogged flags (fun _ => createdText path) (← Build.create files path)
  | .build input output => do
      let target := output.getD (defaultOutput input)
      return Outcome.ofLogged flags builtText (← Build.file files input target flags.config)
  | .buildDirectory => do
      return batchOutcome flags (← Build.directory files "." flags.config)
  | .nothing => return ⟨1, usage, ""⟩

def run (files : Files m) (arguments : List String) : m Outcome :=
  match Request.ofArguments? arguments with
  | some (.run command flags) => runCommand files flags command
  | some .help => return ⟨0, usage, ""⟩
  | some .version => return ⟨0, versionLine, ""⟩
  | none => return ⟨2, "", "error: the arguments cannot be read\n\n" ++ usage⟩

end SlideDeck.CommandLine
