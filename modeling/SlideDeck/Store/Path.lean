/-!
Contract: paths as they are written, without looking at any store.

Parts of a path are separated by slashes. Slashes at the end, and parts at the end that are a
single dot, do not count when the last part is looked for.

Owns:
- the file name of a path and its extension;
- which paths name presentations;
- where the page of a presentation goes when nothing else is asked for;
- the path of a name in a directory.

Does not own: whether anything is there.
-/

namespace SlideDeck.Path

abbrev Spelling := List Char

/-- Drops slashes and lone dots, reading backward from the end of a path. -/
def dropIdle : List Char → List Char
  | '/' :: rest => dropIdle rest
  | '.' :: '/' :: rest => dropIdle rest
  | rest => rest

/-- A path without the slashes and lone dots at its end. -/
def spine (path : Spelling) : Spelling :=
  (dropIdle path.reverse).reverse

def lastPart (path : Spelling) : List Char :=
  (path.reverse.takeWhile (· != '/')).reverse

/-- The characters up to the last slash, which is included. -/
def upToLastPart (path : Spelling) : Spelling :=
  (path.reverse.dropWhile (· != '/')).reverse

/-- The last part of a path, unless it is no name. -/
def fileName? (path : Spelling) : Option (List Char) :=
  match lastPart (spine path) with
  | [] | ['.'] | ['.', '.'] => none
  | name => some name

/-- A file name, split at its last dot. A name has no extension when it has no dot, or only one
that opens it. -/
def splitExtension (name : List Char) : List Char × Option (List Char) :=
  match name.reverse.dropWhile (· != '.') with
  | '.' :: before :: others =>
      ((before :: others).reverse, some (name.reverse.takeWhile (· != '.')).reverse)
  | _ => (name, none)

def stem (name : List Char) : List Char :=
  (splitExtension name).1

/-- The extension of the file name of a path. -/
def extension? (path : Spelling) : Option (List Char) :=
  (fileName? path).bind fun name => (splitExtension name).2

def sourceExtensions : List (List Char) :=
  ["yaml".toList, "yml".toList]

def pageExtension : List Char :=
  ".html".toList

/-- Whether a path names a presentation. The case of ASCII letters does not matter. -/
def isSource (path : Spelling) : Bool :=
  (extension? path).any fun extension => sourceExtensions.contains (extension.map Char.toLower)

/-- A path with the extension of pages in place of its own, which has `length` characters. These
are first cut from the end of the path as it is written; then what is left of its file name gives
way, up to its stem. A path that has no file name after the cut stays as it is cut. -/
def withPageExtension (path : Spelling) (length : Nat) : Spelling :=
  let cut := path.take (path.length - length)
  match fileName? cut with
  | none => cut
  | some name => upToLastPart (spine cut) ++ stem name ++ pageExtension

/-- Where the page of a presentation goes: the extension of a presentation is replaced, to any
other path the extension of pages is added. -/
def pagePath (path : Spelling) : Spelling :=
  if isSource path then withPageExtension path ((extension? path).getD []).length
  else path ++ pageExtension

def join (directory name : Spelling) : Spelling :=
  if directory.getLast? = some '/' then directory ++ name else directory ++ '/' :: name

/-- The parts of a path, at least one. -/
def parts : Spelling → List (List Char)
  | [] => [[]]
  | character :: rest =>
      if character = '/' then [] :: parts rest
      else
        match parts rest with
        | [] => [[character]]
        | first :: others => (character :: first) :: others

end SlideDeck.Path

namespace SlideDeck

/-- Where the page of a presentation goes when no other path is asked for. -/
def defaultOutput (input : String) : String :=
  String.ofList (Path.pagePath input.toList)

end SlideDeck
