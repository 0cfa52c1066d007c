/-!
Contract: the arguments of the command line.

Arguments are read from left to right, and the first that cannot be read makes the command line
refused. A command name is recognised in front of or behind other values, and everything behind it
belongs to the command; behind two lone dashes every argument is a value.

Owns:
- `Flags`, which may stand at either level;
- `Command` and `Request`, what a command line asks for;
- `Request.ofArguments?`.
-/

namespace SlideDeck.CommandLine

/-- The settings that flags turn on. -/
structure Flags where
  quiet : Bool
  verbose : Bool
  isolateFailures : Bool
deriving DecidableEq, Repr

namespace Flags

def none : Flags := ⟨false, false, false⟩

def union (first second : Flags) : Flags where
  quiet := first.quiet || second.quiet
  verbose := first.verbose || second.verbose
  isolateFailures := first.isolateFailures || second.isolateFailures

end Flags

/-- One flag as it is written. -/
inductive Flag where
  | quiet
  | verbose
  | isolateFailures
  | help
  | version
deriving DecidableEq, Repr

namespace Flag

def ofName? : String → Option Flag
  | "quiet" => some quiet
  | "verbose" => some verbose
  | "isolate-failures" => some isolateFailures
  | "help" => some help
  | "version" => some version
  | _ => none

def ofLetter? : Char → Option Flag
  | 'q' => some quiet
  | 'v' => some verbose
  | 'h' => some help
  | 'V' => some version
  | _ => none

/-- The flags that an argument holds, from left to right: one by its name or several by their
letters. An unknown one is nothing. -/
def ofArgument (argument : List Char) : List (Option Flag) :=
  match argument with
  | '-' :: '-' :: name => [ofName? (String.ofList name)]
  | '-' :: letters => letters.map ofLetter?
  | _ => []

end Flag

/-- The commands that have a name. -/
inductive CommandName where
  | create
  | build
  | help
deriving DecidableEq, Repr

def CommandName.ofText? : String → Option CommandName
  | "init" | "new" => some create
  | "build" => some build
  | "help" => some help
  | _ => none

/-- What the program is asked to do with files. -/
inductive Command where
  | create (path : String)
  | build (input : String) (output : Option String)
  | buildDirectory
  | nothing
deriving DecidableEq, Repr

/-- What a command line asks for. -/
inductive Request where
  | run (command : Command) (flags : Flags)
  | help
  | version
deriving DecidableEq, Repr

/-- Where a level of arguments ends. -/
inductive Scan where
  | ended (flags : Flags) (values : List String)
  | command (name : CommandName) (flags : Flags) (values : List String) (rest : List String)
  | help
  | version
  | refused
deriving DecidableEq, Repr

/-- What is accepted at a level: whether commands and the version are known, and the number of
values. -/
structure Grammar where
  isTop : Bool
  capacity : Nat
deriving DecidableEq, Repr

/-- The arguments in front of a command name: an input and an output. -/
def Grammar.top : Grammar := ⟨true, 2⟩

/-- The arguments behind a command that makes a presentation: its path. -/
def Grammar.create : Grammar := ⟨false, 1⟩

/-- The arguments behind the command for builds: an input and an output. -/
def Grammar.build : Grammar := ⟨false, 2⟩

namespace Scan

/-- The end of a level. No value may be empty. -/
def ofValues (flags : Flags) (values : List String) : Scan :=
  if values.contains "" then refused else ended flags values

/-- Turns the flags of one argument on. Only the flag for more detail may come twice. -/
def flags (grammar : Grammar) : Flags → List (Option Flag) → Except Scan Flags
  | seen, [] => .ok seen
  | seen, some .quiet :: others =>
      if seen.quiet then .error refused else flags grammar { seen with quiet := true } others
  | seen, some .isolateFailures :: others =>
      if seen.isolateFailures then .error refused
      else flags grammar { seen with isolateFailures := true } others
  | seen, some .verbose :: others => flags grammar { seen with verbose := true } others
  | _, some .help :: _ => .error help
  | _, some .version :: _ => .error (if grammar.isTop then version else refused)
  | _, none :: _ => .error refused

/-- The command of an argument, at a level that knows commands. -/
def commandName? (grammar : Grammar) (argument : String) : Option CommandName :=
  if grammar.isTop then CommandName.ofText? argument else none

/-- Whether an argument holds flags. A lone dash is a value. -/
def holdsFlags (argument : String) : Bool :=
  match argument.toList with
  | '-' :: _ :: _ => true
  | _ => false

/-- Reads the arguments of a level, with the flags and values that came before. An empty value is
noticed when the argument behind it is no command. -/
def level (grammar : Grammar) : (seen : Flags) → (values : List String) → List String → Scan
  | seen, values, [] => ofValues seen values
  | seen, values, argument :: rest =>
      match commandName? grammar argument with
      | some name => .command name seen values rest
      | none =>
          if argument = "--" then
            let all := values ++ rest
            if all.length ≤ grammar.capacity then ofValues seen all else refused
          else if values.contains "" then refused
          else if holdsFlags argument then
            match flags grammar seen (Flag.ofArgument argument.toList) with
            | .ok next => level grammar next values rest
            | .error scan => scan
          else if values.length < grammar.capacity then
            level grammar seen (values ++ [argument]) rest
          else refused

end Scan

namespace Request

/-- The path of a new presentation that has no other. -/
def defaultPath : String := "presentation.yaml"

def buildOf : List String → Command
  | [] => .buildDirectory
  | input :: others => .build input others.head?

def ofScan? (command : List String → Command) (outer : Flags) : Scan → Option Request
  | .ended flags values => some (.run (command values) (outer.union flags))
  | .help => some .help
  | .version => some .version
  | .command _ _ _ _ | .refused => none

/-- Whether help is there for the names behind the command for help: there is one for a single
command, or for none. -/
def isHelpTopic : List String → Bool
  | [] => true
  | [name] => (CommandName.ofText? name).isSome
  | _ => false

/-- What a named command asks for. Empty values in front of its name are refused unless it asks
for help. -/
def ofCommand? (name : CommandName) (outer : Flags) (values rest : List String) :
    Option Request :=
  match name with
  | .help => if isHelpTopic rest then some help else none
  | .create => settled (ofScan? createOf outer (Scan.level .create .none [] rest))
  | .build => settled (ofScan? buildOf outer (Scan.level .build .none [] rest))
where
  createOf (values : List String) : Command := .create (values.headD defaultPath)
  settled (request : Option Request) : Option Request :=
    if values.contains "" && request != some help then none else request

/-- What arguments ask for; nothing when they are refused. -/
def ofArguments? (arguments : List String) : Option Request :=
  match Scan.level .top .none [] arguments with
  | .command name outer values rest => ofCommand? name outer values rest
  | scan => ofScan? topOf .none scan
where
  topOf : List String → Command
    | [] => .nothing
    | input :: others => .build input others.head?

end Request

end SlideDeck.CommandLine
