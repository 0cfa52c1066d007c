/-!
Contract: the names of custom tags.

A name may bring one exclamation mark of its own, which says no more than the mark that every
custom tag begins with. Two names that differ by that mark only are the names of one tag.

Owns:
- the name without that mark, and when two names are the same;
- what stands behind the mark when a tag is written.

Does not own: how characters of a tag are escaped.
-/

namespace SlideDeck.Yaml.TagName

/-- The name without one exclamation mark in front; the lone mark is a name by itself. -/
def bare (name : String) : String :=
  match name.toList with
  | '!' :: first :: rest => String.ofList (first :: rest)
  | _ => name

/-- Whether two names are the names of one tag. -/
def same (left right : String) : Bool :=
  bare left == bare right

/-- What a written tag has behind its exclamation mark, which the bare name may bring along.
Nothing stands behind a lone mark. -/
def suffix (name : String) : List Char :=
  match (bare name).toList with
  | '!' :: rest => rest
  | characters => characters

end SlideDeck.Yaml.TagName
