import SlideDeck.CommandLine.Session

/-!
Contract: the program, which runs on the files of the machine.
-/

namespace SlideDeck.Main

/-- The result of an action, or nothing when it fails. -/
def attempt {α : Type} (action : IO α) : IO (Option α) := do
  try return some (← action) catch _ => return none

/-- Whether something is at a path. What may not be looked at is there. -/
def isThere (path : String) : IO Bool := do
  try
    discard (IO.FS.realPath path)
    discard (IO.FS.Handle.mk path .read)
    return true
  catch
    | .permissionDenied _ _ _ => return true
    | _ => return false

def readText (path : String) : IO (Option String) := do
  return (← attempt (IO.FS.readBinFile path)).bind String.fromUTF8?

def fileNames (path : String) : IO (Option (List String)) :=
  attempt do
    let directory ← IO.FS.realPath path
    let entries ← directory.readDir
    let files ← entries.toList.filterM fun entry => return !(← entry.path.isDir)
    return files.map (·.fileName)

def files : Files IO where
  isThere := isThere
  readText := readText
  writeText path text := return (← attempt (IO.FS.writeFile path text)).isSome
  fileNames := fileNames

end SlideDeck.Main

def main (arguments : List String) : IO UInt32 := do
  let outcome ← SlideDeck.CommandLine.run SlideDeck.Main.files arguments
  (← IO.getStdout).putStr outcome.output
  (← IO.getStderr).putStr outcome.errors
  return outcome.code.toUInt32
