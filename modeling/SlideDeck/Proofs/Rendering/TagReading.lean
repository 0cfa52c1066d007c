import SlideDeck.Proofs.Rendering.Element
import SlideDeck.Proofs.Text.Escape

/-!
Contract: markup as it is read with attributes and texts.

A text is cut behind every `>`. Each piece is a tag with a text in front of it, and the tag is cut
at its quotes. What was written without angle brackets and quotes of its own is read as it was
written, whatever else it says.

Owns:
- `Passage`, a tag behind a text, and `passages`, which reads the passages of a text;
- `passages_written`: clean passages are read as they were written;
- `marksOf`, the angle brackets and quotes of a text, of which passages have a fixed number;
- `upTo`, the text in front of a word, and closing tags as such words.

Does not own: which passages a page has.
-/

namespace SlideDeck.Markup

/-- The characters by which tags and values are told from other text. -/
def marks : List Char := ['<', '>', '"']

def Markless (text : String) : Prop :=
  ∀ character ∈ text.toList, character ∉ marks

instance (text : String) : Decidable (Markless text) :=
  List.decidableBAll _ text.toList

/-- The angle brackets and quotes of a text, in order. -/
def marksOf (text : String) : List Char :=
  text.toList.filter (marks.contains ·)

/-! ### Reading -/

/-- A tag by its name and attributes, and the text in front of it. The name of a closing tag begins
with a slash. -/
structure Passage where
  before : String
  name : String
  attributes : List (String × String)
deriving DecidableEq, Repr

/-- Reads attributes of a tag that is cut at its quotes: names with an equals sign stand in front of
their values. -/
def readAttributes : List (List Char) → List (String × String)
  | key :: value :: rest =>
      (String.ofList ((key.drop 1).takeWhile (· != '=')), String.ofList value) ::
        readAttributes rest
  | _ => []

/-- Reads a text up to the end of a tag. -/
def readPassage (piece : List Char) : Passage :=
  let tag := (piece.dropWhile (· != '<')).drop 1
  ⟨String.ofList (piece.takeWhile (· != '<')), String.ofList (tag.takeWhile (· != ' ')),
    readAttributes ((tag.dropWhile (· != ' ')).splitOnP (· == '"'))⟩

/-- The passages of a text. What stands behind the last tag is in none. -/
def passages (text : List Char) : List Passage :=
  (text.splitOnP (· == '>')).dropLast.map readPassage

/-- The values of an attribute on all tags of a name, decoded. -/
def attributeValues (name key text : String) : List String :=
  ((passages text.toList).filter (·.name == name)).flatMap fun passage =>
    (passage.attributes.filter (·.1 == key)).map fun pair => Text.unescape pair.2

/-- The texts in front of all closing tags of a name, decoded. -/
def elementTexts (name text : String) : List String :=
  ((passages text.toList).filter (·.name == "/" ++ name)).map fun passage =>
    Text.unescape passage.before

/-! ### Writing -/

/-- Attributes with names and values that can be told apart. -/
def CleanAttributes (attributes : List (String × String)) : Prop :=
  ∀ pair ∈ attributes, Markless pair.1 ∧ '=' ∉ pair.1.toList ∧ Markless pair.2

instance (attributes : List (String × String)) : Decidable (CleanAttributes attributes) :=
  List.decidableBAll _ attributes

namespace Passage

def written (passage : Passage) : String :=
  passage.before ++ openTag passage.name passage.attributes

def writtenAll (passages : List Passage) : String :=
  String.join (passages.map written)

/-- A passage whose parts are told apart by its marks. -/
structure Clean (passage : Passage) : Prop where
  before : Markless passage.before
  name : Markless passage.name
  noBlank : ' ' ∉ passage.name.toList
  attributes : CleanAttributes passage.attributes

instance (passage : Passage) : Decidable passage.Clean :=
  decidable_of_iff (Markless passage.before ∧ Markless passage.name ∧
      ' ' ∉ passage.name.toList ∧ CleanAttributes passage.attributes)
    ⟨fun given => ⟨given.1, given.2.1, given.2.2.1, given.2.2.2⟩, fun clean =>
      ⟨clean.before, clean.name, clean.noBlank, clean.attributes⟩⟩

theorem Clean.of_parts {before name : String} {attributes : List (String × String)}
    (markless : Markless before) (nameMarkless : Markless name) (noBlank : ' ' ∉ name.toList)
    (clean : CleanAttributes attributes) : Clean ⟨before, name, attributes⟩ :=
  ⟨markless, nameMarkless, noBlank, clean⟩

end Passage

theorem Markless.not_mem {text : String} (markless : Markless text) {mark : Char}
    (isMark : mark ∈ marks) : mark ∉ text.toList :=
  fun member => markless mark member isMark

theorem markless_escape (text : String) : Markless (Text.escape text) := by
  have escaped : Text.Escape.IsEscaped (Text.escape text).toList := Text.isEscaped_escape text
  have apart : ∀ mark ∈ marks, mark ∈ Text.Escape.metacharacters ∧ mark ≠ '&' := by
    simp [marks, Text.Escape.metacharacters]
  intro character member isMark
  exact (apart character isMark).2 (escaped.plain character (apart character isMark).1 member)

section Attributes

variable {attributes : List (String × String)}

theorem attributeText_toList (pair : String × String) :
    (attributeText pair).toList =
      ' ' :: (pair.1.toList ++ '=' :: '"' :: (pair.2.toList ++ ['"'])) := by
  simp [attributeText]

theorem attributesText_toList_cons (pair : String × String) :
    (attributesText (pair :: attributes)).toList =
      (' ' :: (pair.1.toList ++ ['='])) ++ '"' ::
        (pair.2.toList ++ '"' :: (attributesText attributes).toList) := by
  rw [attributesText_cons, String.toList_append, attributeText_toList]
  simp

theorem head_attributesText : ∀ character ∈ (attributesText attributes).toList.head?,
    character = ' ' := by
  intro character isFirst
  cases attributes with
  | nil => simp [attributesText, String.join] at isFirst
  | cons pair attributes =>
      rw [attributesText_toList_cons] at isFirst
      exact (Option.some.inj isFirst).symm

theorem CleanAttributes.nil : CleanAttributes [] := by
  simp [CleanAttributes]

theorem CleanAttributes.cons {key value : String} (keyMarkless : Markless key)
    (noEquals : '=' ∉ key.toList) (valueMarkless : Markless value)
    (others : CleanAttributes attributes) : CleanAttributes ((key, value) :: attributes) :=
  List.forall_mem_cons.mpr ⟨⟨keyMarkless, noEquals, valueMarkless⟩, others⟩

theorem readAttributes_attributesText (clean : CleanAttributes attributes) :
    readAttributes ((attributesText attributes).toList.splitOnP (· == '"')) = attributes := by
  induction attributes with
  | nil => rfl
  | cons pair attributes inductionHypothesis =>
      obtain ⟨⟨key, noEquals, value⟩, others⟩ := List.forall_mem_cons.mp clean
      have keyPiece : '"' ∉ ' ' :: (pair.1.toList ++ ['=']) := by
        simp [key.not_mem (by decide : '"' ∈ marks)]
      have valuePiece : '"' ∉ pair.2.toList := value.not_mem (by decide)
      rw [attributesText_toList_cons, Text.splitOnP_append_cons keyPiece,
        Text.splitOnP_append_cons valuePiece, readAttributes, inductionHypothesis others]
      simp only [List.drop_succ_cons, List.drop_zero, (Text.takeWhile_ne_append noEquals []).1,
        String.ofList_toList]

theorem not_mem_attributesText {mark : Char} (isMark : mark ∈ marks) (notQuote : mark ≠ '"')
    (clean : CleanAttributes attributes) : mark ∉ (attributesText attributes).toList := by
  induction attributes with
  | nil => simp [attributesText, String.join]
  | cons pair attributes inductionHypothesis =>
      obtain ⟨⟨key, -, value⟩, others⟩ := List.forall_mem_cons.mp clean
      have notBlank : mark ≠ ' ' ∧ mark ≠ '=' := by
        have apart : ∀ mark ∈ marks, mark ≠ ' ' ∧ mark ≠ '=' := by simp [marks]
        exact apart mark isMark
      rw [attributesText_toList_cons]
      simp [notQuote, notBlank, key.not_mem isMark, value.not_mem isMark,
        inductionHypothesis others]

end Attributes

/-! ### Passages as they are read -/

section Passages

variable {passage : Passage} {written : List Passage}

/-- What stands in front of the end of the tag. -/
def Passage.piece (passage : Passage) : List Char :=
  passage.before.toList ++ '<' ::
    (passage.name.toList ++ (attributesText passage.attributes).toList)

theorem written_toList (passage : Passage) : passage.written.toList = passage.piece ++ ['>'] := by
  simp [Passage.written, Passage.piece, openTag_toList]

theorem noEnd_piece (clean : passage.Clean) : '>' ∉ passage.piece := by
  have isMark : '>' ∈ marks := by decide
  simp [Passage.piece, clean.before.not_mem isMark, clean.name.not_mem isMark,
    not_mem_attributesText isMark (by decide) clean.attributes]

theorem readPassage_piece (clean : passage.Clean) : readPassage passage.piece = passage := by
  have before := Text.takeWhile_ne_append (clean.before.not_mem (by decide : '<' ∈ marks))
    (passage.name.toList ++ (attributesText passage.attributes).toList)
  have attributesStop : ∀ character ∈ (attributesText passage.attributes).toList.head?,
      (character != ' ') = false := by
    intro character isFirst
    rw [head_attributesText character isFirst]
    rfl
  have name := Text.takeWhile_eq_self_of_head (Text.bne_of_not_mem clean.noBlank) attributesStop
  unfold readPassage Passage.piece
  simp only [before.1, before.2, List.drop_succ_cons, List.drop_zero, name.1, name.2,
    String.ofList_toList, readAttributes_attributesText clean.attributes]

theorem passages_piece {piece : List Char} (noEnd : '>' ∉ piece) (rest : List Char) :
    passages (piece ++ '>' :: rest) = readPassage piece :: passages rest := by
  have nonempty := List.splitOnP_ne_nil (· == '>') rest
  rw [passages, Text.splitOnP_append_cons noEnd, List.dropLast_cons_of_ne_nil nonempty, List.map_cons,
    passages]

/-- Clean passages are read as they were written. -/
theorem passages_written (clean : passage.Clean) (rest : List Char) :
    passages (passage.written.toList ++ rest) = passage :: passages rest := by
  rw [written_toList, List.append_assoc, List.singleton_append,
    passages_piece (noEnd_piece clean), readPassage_piece clean]

theorem passages_writtenAll (clean : ∀ passage ∈ written, passage.Clean) (rest : List Char) :
    passages ((Passage.writtenAll written).toList ++ rest) = written ++ passages rest := by
  induction written with
  | nil => rfl
  | cons passage written inductionHypothesis =>
      rw [List.forall_mem_cons] at clean
      rw [Passage.writtenAll, List.map_cons, String.join_cons, String.toList_append,
        List.append_assoc, passages_written clean.1, ← Passage.writtenAll,
        inductionHypothesis clean.2, List.cons_append]

theorem passages_of_noEnd {text : List Char} (noEnd : '>' ∉ text) : passages text = [] := by
  rw [passages, Text.splitOnP_of_not_mem noEnd]
  rfl

/-! ### Marks -/

theorem marksOf_append (text other : String) :
    marksOf (text ++ other) = marksOf text ++ marksOf other := by
  rw [marksOf, String.toList_append, List.filter_append, marksOf, marksOf]

theorem marksOf_of_markless {text : String} (markless : Markless text) : marksOf text = [] := by
  rw [marksOf, List.filter_eq_nil_iff]
  intro character member isMark
  exact markless character member (List.contains_iff_mem.mp isMark)

theorem marksOf_attributesText {attributes : List (String × String)}
    (clean : CleanAttributes attributes) :
    marksOf (attributesText attributes) = List.replicate (2 * attributes.length) '"' := by
  induction attributes with
  | nil => rfl
  | cons pair attributes inductionHypothesis =>
      obtain ⟨⟨key, -, value⟩, others⟩ := List.forall_mem_cons.mp clean
      have quotes : marksOf " " = [] ∧ marksOf "=\"" = ['"'] ∧ marksOf "\"" = ['"'] := by decide
      rw [attributesText_cons, attributeText]
      simp only [marksOf_append, quotes, marksOf_of_markless key, marksOf_of_markless value,
        inductionHypothesis others, List.length_cons, Nat.mul_succ, List.replicate_succ]
      rfl

/-- The marks of a tag with a number of attributes. -/
def tagMarks (count : Nat) : List Char :=
  '<' :: (List.replicate (2 * count) '"' ++ ['>'])

theorem marksOf_written (clean : passage.Clean) :
    marksOf passage.written = tagMarks passage.attributes.length := by
  have brackets : marksOf "<" = ['<'] ∧ marksOf ">" = ['>'] := by decide
  rw [Passage.written, openTag, ← attributesText]
  simp only [marksOf_append, brackets, marksOf_of_markless clean.before,
    marksOf_of_markless clean.name, marksOf_attributesText clean.attributes]
  rfl

/-- The marks of passages depend on the numbers of their attributes only. -/
theorem marksOf_writtenAll (clean : ∀ passage ∈ written, passage.Clean) :
    marksOf (Passage.writtenAll written) =
      (written.map (·.attributes.length)).flatMap tagMarks := by
  induction written with
  | nil => rfl
  | cons passage written inductionHypothesis =>
      rw [List.forall_mem_cons] at clean
      rw [Passage.writtenAll, List.map_cons, String.join_cons, marksOf_append,
        marksOf_written clean.1, ← Passage.writtenAll, inductionHypothesis clean.2, List.map_cons,
        List.flatMap_cons]

end Passages

/-! ### Up to a closing tag -/

/-- What stands in front of the first place of a word, or the whole text if there is none. -/
def upTo (word : List Char) : List Char → List Char
  | [] => []
  | character :: rest => if word <+: character :: rest then [] else character :: upTo word rest

section UpTo

variable {front : List Char}

theorem upTo_append {first : Char} {others : List Char} (absent : first ∉ front)
    (rest : List Char) :
    upTo (first :: others) (front ++ rest) = front ++ upTo (first :: others) rest := by
  induction front with
  | nil => rfl
  | cons character front inductionHypothesis =>
      rw [List.mem_cons, not_or] at absent
      have here : ¬first :: others <+: character :: (front ++ rest) := by
        rw [List.cons_prefix_cons]
        exact fun stands => absent.1 stands.1
      rw [List.cons_append, upTo, if_neg here, inductionHypothesis absent.2, List.cons_append]

theorem upTo_closeTag (name : String) (rest : List Char) :
    upTo (closeTag name).toList ((closeTag name).toList ++ rest) = [] := by
  have stands : (closeTag name).toList <+: (closeTag name).toList ++ rest :=
    List.prefix_append _ _
  rw [closeTag_toList] at stands ⊢
  exact if_pos stands

/-- The name of a tag goes up to a blank or the end of the tag. -/
def inName (character : Char) : Bool :=
  character != ' ' && character != '>'

theorem takeWhile_inName {name : String} (markless : Markless name) (noBlank : ' ' ∉ name.toList)
    {behind : List Char} (stops : ∀ character ∈ behind.head?, inName character = false) :
    (name.toList ++ behind).takeWhile inName = name.toList := by
  have noEnd : '>' ∉ name.toList := markless.not_mem (by decide)
  refine (Text.takeWhile_eq_self_of_head ?_ stops).1
  intro character member
  rw [inName, Text.bne_of_not_mem noBlank character member,
    Text.bne_of_not_mem noEnd character member]
  rfl

theorem inName_attributesText {attributes : List (String × String)} {rest : List Char} :
    ∀ character ∈ ((attributesText attributes).toList ++ '>' :: rest).head?,
      inName character = false := by
  intro character isFirst
  cases written : (attributesText attributes).toList with
  | nil =>
      rw [written] at isFirst
      obtain rfl : '>' = character := Option.some.inj isFirst
      rfl
  | cons first others =>
      rw [written] at isFirst
      obtain rfl : first = character := Option.some.inj isFirst
      rw [head_attributesText first (by rw [written]; rfl)]
      rfl

/-- A tag that is read from the letters of a closing tag has the name of that tag. -/
theorem name_of_closing {passage : Passage} (clean : passage.Clean) {name : String}
    (markless : Markless name) (noBlank : ' ' ∉ name.toList) {rest behind : List Char}
    (same : '/' :: (name.toList ++ '>' :: behind) =
      passage.name.toList ++ ((attributesText passage.attributes).toList ++ '>' :: rest)) :
    passage.name = "/" ++ name := by
  have slashed : ("/" ++ name).toList = '/' :: name.toList := by
    rw [String.toList_append]
    rfl
  have slashedMarkless : Markless ("/" ++ name) := by
    rw [Markless, slashed, List.forall_mem_cons]
    exact ⟨by decide, markless⟩
  have slashedNoBlank : ' ' ∉ ("/" ++ name).toList := by
    rw [slashed, List.mem_cons, not_or]
    exact ⟨by decide, noBlank⟩
  have ended : ∀ character ∈ ('>' :: behind).head?, inName character = false := by
    intro character isFirst
    obtain rfl : '>' = character := Option.some.inj isFirst
    rfl
  have closing := takeWhile_inName slashedMarkless slashedNoBlank ended
  rw [slashed, List.cons_append, same,
    takeWhile_inName clean.name clean.noBlank inName_attributesText, ← slashed] at closing
  exact String.toList_inj.mp closing

/-- A passage does not end with the closing tag of a name if its tag has another name. -/
theorem upTo_written {passage : Passage} (clean : passage.Clean) {name : String}
    (markless : Markless name) (noBlank : ' ' ∉ name.toList)
    (different : passage.name ≠ "/" ++ name) (rest : List Char) :
    upTo (closeTag name).toList (passage.written.toList ++ rest) =
      passage.written.toList ++ upTo (closeTag name).toList rest := by
  have isMark : '<' ∈ marks := by decide
  have inTag : '<' ∉ passage.name.toList ++
      ((attributesText passage.attributes).toList ++ ['>']) := by
    simp [clean.name.not_mem isMark, not_mem_attributesText isMark (by decide) clean.attributes]
  have notHere : ¬(closeTag name).toList <+:
      '<' :: (passage.name.toList ++
        ((attributesText passage.attributes).toList ++ ['>']) ++ rest) := by
    rw [closeTag_toList, List.cons_prefix_cons]
    rintro ⟨-, behind, same⟩
    exact different (name_of_closing clean markless noBlank (by simpa using same))
  have split : passage.written.toList ++ rest = passage.before.toList ++ '<' ::
      (passage.name.toList ++ ((attributesText passage.attributes).toList ++ ['>']) ++ rest) := by
    simp [written_toList, Passage.piece]
  rw [split, closeTag_toList, upTo_append (clean.before.not_mem isMark), ← closeTag_toList, upTo,
    if_neg notHere, closeTag_toList, upTo_append inTag]
  simp [written_toList, Passage.piece]

theorem upTo_writtenAll {written : List Passage} (clean : ∀ passage ∈ written, passage.Clean)
    {name : String} (markless : Markless name) (noBlank : ' ' ∉ name.toList)
    (different : ∀ passage ∈ written, passage.name ≠ "/" ++ name) (rest : List Char) :
    upTo (closeTag name).toList ((Passage.writtenAll written).toList ++ rest) =
      (Passage.writtenAll written).toList ++ upTo (closeTag name).toList rest := by
  induction written with
  | nil => rfl
  | cons passage written inductionHypothesis =>
      rw [List.forall_mem_cons] at clean different
      rw [Passage.writtenAll, List.map_cons, String.join_cons, String.toList_append,
        List.append_assoc, upTo_written clean.1 markless noBlank different.1, ← Passage.writtenAll,
        inductionHypothesis clean.2 different.2, List.append_assoc]

end UpTo

end SlideDeck.Markup
