import Mathlib.Data.List.TakeWhile
import SlideDeck.Markup.Inline

/-!
Contract: markup as it is read again, tag by tag.

A tag begins at every `<`. Its name goes up to white space, a slash or an angle bracket, so that no
name is taken for a longer one. The tags of a text are those of its parts if every `<` in the parts
has its `>` there too.

Owns:
- `Tag` and `tags`, the tags of a text in their order;
- `Whole`, texts whose tags are not cut off at the end;
- `run`, which follows the block elements that are open, with `run_around`;
- `positions`, where a pattern stands in a text.

Does not own: how tags are written.
-/

namespace SlideDeck.Markup

/-- A tag by its name; of an opening one also what stands between the name and the next `>`. -/
inductive Tag where
  | opened (name attributes : String)
  | closed (name : String)
deriving DecidableEq, Repr

namespace Tag

def name : Tag → String
  | opened name _ | closed name => name

/-- The names of elements that stand as blocks. -/
def blockNames : List String :=
  ["div", "p", "ul", "li", "h1", "h2", "h3", "table", "thead", "tbody", "tr", "th", "td", "figure",
    "figcaption", "pre", "small"]

def isBlock (tag : Tag) : Bool :=
  blockNames.contains tag.name

end Tag

def isNameCharacter (character : Char) : Bool :=
  !Text.isBlank character && character != '/' && character != '<' && character != '>'

/-- The characters up to the next `>`. -/
def untilEnd (text : List Char) : List Char :=
  text.takeWhile (· != '>')

/-- The tag that begins with the first character of a text. -/
def tagAt? : List Char → Option Tag
  | '<' :: '/' :: rest =>
      if '>' ∈ rest then some (.closed (String.ofList (untilEnd rest))) else none
  | '<' :: rest =>
      some (.opened (String.ofList (rest.takeWhile isNameCharacter))
        (String.ofList (untilEnd (rest.dropWhile isNameCharacter))))
  | _ => none

def tags : List Char → List Tag
  | [] => []
  | character :: rest => (tagAt? (character :: rest)).toList ++ tags rest

def blockTags (text : List Char) : List Tag :=
  (tags text).filter Tag.isBlock

/-- Every `<` of a text has a `>` behind it. -/
def Whole : List Char → Prop
  | [] => True
  | character :: rest => (character = '<' → '>' ∈ rest) ∧ Whole rest

/-! ### Tags of parts -/

section Parts

variable {text front : List Char}

theorem tagAt?_closing (rest : List Char) :
    tagAt? ('<' :: '/' :: rest) =
      if '>' ∈ rest then some (.closed (String.ofList (untilEnd rest))) else none := rfl

theorem tagAt?_opening (noSlash : ∀ rest, text ≠ '/' :: rest) :
    tagAt? ('<' :: text) =
      some (.opened (String.ofList (text.takeWhile isNameCharacter))
        (String.ofList (untilEnd (text.dropWhile isNameCharacter)))) := by
  unfold tagAt?
  split <;> simp_all

theorem tagAt?_of_ne {character : Char} (other : character ≠ '<') (rest : List Char) :
    tagAt? (character :: rest) = none := by
  unfold tagAt?
  split <;> simp_all

theorem tags_eq_nil (untagged : '<' ∉ text) : tags text = [] := by
  induction text with
  | nil => rfl
  | cons character rest inductionHypothesis =>
      rw [List.mem_cons, not_or] at untagged
      rw [tags, tagAt?_of_ne (Ne.symm untagged.1), inductionHypothesis untagged.2]
      rfl

theorem whole_of_untagged (untagged : '<' ∉ text) : Whole text := by
  induction text with
  | nil => trivial
  | cons character rest inductionHypothesis =>
      rw [List.mem_cons, not_or] at untagged
      exact ⟨fun equal => absurd equal.symm untagged.1, inductionHypothesis untagged.2⟩

theorem Whole.append (first : Whole front) (second : Whole text) : Whole (front ++ text) := by
  induction front with
  | nil => exact second
  | cons character rest inductionHypothesis =>
      exact ⟨fun isTag => List.mem_append_left _ (first.1 isTag), inductionHypothesis first.2⟩

/-- A stretch of characters ends where it ended before more text came behind. -/
theorem takeWhile_append_of_mem {keep : Char → Bool} {stop : Char} (stops : keep stop = false)
    (member : stop ∈ front) : (front ++ text).takeWhile keep = front.takeWhile keep := by
  induction front with
  | nil => simp at member
  | cons character rest inductionHypothesis =>
      rw [List.cons_append, List.takeWhile_cons, List.takeWhile_cons]
      cases kept : keep character with
      | false => rfl
      | true =>
          rcases List.mem_cons.mp member with rfl | member
          · rw [stops] at kept
            exact absurd kept Bool.false_ne_true
          · simp only [if_true]
            rw [inductionHypothesis member]

theorem mem_dropWhile_of_mem {keep : Char → Bool} {stop : Char} (stops : keep stop = false)
    (member : stop ∈ text) : stop ∈ text.dropWhile keep := by
  rw [← List.takeWhile_append_dropWhile (p := keep) (l := text), List.mem_append] at member
  rcases member with taken | dropped
  · rw [List.mem_takeWhile_imp taken] at stops
    exact absurd stops.symm Bool.false_ne_true
  · exact dropped

theorem dropWhile_append_of_mem {keep : Char → Bool} {stop : Char} (stops : keep stop = false)
    (member : stop ∈ front) : (front ++ text).dropWhile keep = front.dropWhile keep ++ text := by
  have same : (front ++ text).takeWhile keep ++ (front ++ text).dropWhile keep =
      (front ++ text).takeWhile keep ++ (front.dropWhile keep ++ text) := by
    rw [List.takeWhile_append_dropWhile, takeWhile_append_of_mem stops member,
      ← List.append_assoc, List.takeWhile_append_dropWhile]
  exact List.append_cancel_left same

theorem untilEnd_append (ends : '>' ∈ front) : untilEnd (front ++ text) = untilEnd front := by
  have stops : ('>' != '>') = false := rfl
  exact takeWhile_append_of_mem stops ends

/-- A tag that has its end does not depend on what comes behind. -/
theorem tagAt?_append {rest : List Char} (ends : '>' ∈ rest) (behind : List Char) :
    tagAt? ('<' :: rest ++ behind) = tagAt? ('<' :: rest) := by
  cases rest with
  | nil => simp at ends
  | cons first rest =>
      by_cases slash : first = '/'
      · subst slash
        have endsBehind : '>' ∈ rest := by simpa using ends
        rw [List.cons_append, List.cons_append, tagAt?_closing, tagAt?_closing, if_pos endsBehind,
          if_pos (List.mem_append_left _ endsBehind), untilEnd_append endsBehind]
      · have noName : isNameCharacter '>' = false := rfl
        have noSlash : ∀ others, first :: rest ≠ '/' :: others :=
          fun _ equal => slash (List.cons.inj equal).1
        have noSlashBefore : ∀ others, first :: rest ++ behind ≠ '/' :: others :=
          fun _ equal => slash (List.cons.inj equal).1
        rw [List.cons_append, tagAt?_opening noSlash, tagAt?_opening noSlashBefore,
          takeWhile_append_of_mem noName ends, dropWhile_append_of_mem noName ends,
          untilEnd_append (mem_dropWhile_of_mem noName ends)]

theorem tags_append (whole : Whole front) : tags (front ++ text) = tags front ++ tags text := by
  induction front with
  | nil => rfl
  | cons character rest inductionHypothesis =>
      rw [List.cons_append, tags, tags, inductionHypothesis whole.2, List.append_assoc]
      by_cases isTag : character = '<'
      · subst isTag
        rw [← List.cons_append, tagAt?_append (whole.1 rfl)]
      · rw [tagAt?_of_ne isTag, tagAt?_of_ne isTag]

theorem blockTags_append (whole : Whole front) :
    blockTags (front ++ text) = blockTags front ++ blockTags text := by
  rw [blockTags, tags_append whole, List.filter_append, blockTags, blockTags]

end Parts

/-! ### Open elements -/

/-- The block elements that are open, the innermost first, each with its attributes. -/
abbrev Open := List (String × String)

/-- Follows tags: an element is closed only if it was opened last. -/
def run : Open → List Tag → Option Open
  | opened, [] => some opened
  | opened, .opened name attributes :: rest => run ((name, attributes) :: opened) rest
  | [], .closed _ :: _ => none
  | (last, _) :: opened, .closed name :: rest => if last = name then run opened rest else none

theorem run_append (opened : Open) (front rest : List Tag) :
    run opened (front ++ rest) = (run opened front).bind (run · rest) := by
  induction front generalizing opened with
  | nil => rfl
  | cons tag front inductionHypothesis =>
      cases tag with
      | opened name attributes => exact inductionHypothesis _
      | closed name =>
          cases opened with
          | nil => rfl
          | cons last opened =>
              rw [List.cons_append, run, run]
              split
              · exact inductionHypothesis _
              · rfl

/-- Elements that are open around the tags stay open. -/
theorem run_around {opened after : Open} {front : List Tag} (ran : run opened front = some after)
    (around : Open) : run (opened ++ around) front = some (after ++ around) := by
  induction front generalizing opened with
  | nil =>
      obtain rfl : opened = after := Option.some.inj ran
      rfl
  | cons tag front inductionHypothesis =>
      cases tag with
      | opened name attributes => exact @inductionHypothesis (_ :: opened) ran
      | closed name =>
          cases opened with
          | nil => simp [run] at ran
          | cons last opened =>
              rw [run] at ran
              rw [List.cons_append, run]
              split at ran
              next same =>
                rw [if_pos same]
                exact inductionHypothesis ran
              next => simp at ran

/-! ### Positions of a pattern -/

/-- The positions at which a pattern stands in a text, from left to right. -/
def positions (pattern : List Char) : List Char → List Nat
  | [] => []
  | character :: rest =>
      (if pattern <+: character :: rest then [0] else []) ++ (positions pattern rest).map (· + 1)

/-- A pattern begins with a tag and has at most its last character from behind the tag. -/
def IsTagPattern (pattern : List Char) : Prop :=
  ∃ inner, pattern = '<' :: inner ∧ '>' ∉ inner.dropLast

section Positions

variable {pattern front text : List Char}

/-- A pattern in a whole text does not reach beyond it. -/
theorem prefix_append_iff (isPattern : IsTagPattern pattern) {character : Char}
    (whole : Whole (character :: front)) :
    pattern <+: character :: front ++ text ↔ pattern <+: character :: front := by
  constructor
  · intro stands
    rcases Nat.lt_or_ge (character :: front).length pattern.length with long | short
    · obtain ⟨inner, rfl, noEnd⟩ := isPattern
      obtain ⟨rest, stands⟩ := stands
      rw [List.cons_append, List.cons_append, List.cons.injEq] at stands
      obtain ⟨rfl, stands⟩ := stands
      obtain ⟨more, rfl⟩ : front <+: inner := by
        have inWhole : front <+: inner ++ rest := by
          rw [stands]
          exact List.prefix_append _ _
        refine List.prefix_of_prefix_length_le inWhole (List.prefix_append _ _) ?_
        simp only [List.length_cons] at long
        omega
      rcases List.eq_nil_or_concat more with rfl | ⟨more, last, rfl⟩
      · simp at long
      · rw [List.concat_eq_append, ← List.append_assoc, List.dropLast_concat] at noEnd
        exact absurd (List.mem_append_left _ (whole.1 rfl)) noEnd
    · exact List.prefix_of_prefix_length_le stands (List.prefix_append _ _) short
  · intro stands
    exact stands.trans (List.prefix_append _ _)

theorem positions_append (isPattern : IsTagPattern pattern) (whole : Whole front) :
    positions pattern (front ++ text) =
      positions pattern front ++ (positions pattern text).map (· + front.length) := by
  induction front with
  | nil => simp [positions]
  | cons character rest inductionHypothesis =>
      have here : pattern <+: character :: (rest ++ text) ↔ pattern <+: character :: rest :=
        prefix_append_iff isPattern whole
      rw [List.cons_append, positions, positions, inductionHypothesis whole.2]
      simp only [here, List.map_append, List.map_map, List.append_assoc, List.length_cons]
      congr 2

end Positions

end SlideDeck.Markup
