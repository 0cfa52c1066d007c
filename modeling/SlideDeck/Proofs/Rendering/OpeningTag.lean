import SlideDeck.Proofs.Rendering.TagReading

/-!
Contract: the tag that a text begins with, as its attributes are read.

The name of an attribute goes up to an equals sign and its value from a quote up to the next one,
so that a value may hold anything but a quote, the `>` at which passages are cut included. The
classes of a tag are the words of its class: a class that is written with white space in it is read
as several. Values are read as they stand, with their references to characters.

Owns:
- `isSpace`, the white space between attributes and between classes, and the `words` of a text;
- `attributesFrom`, which reads attributes letter by letter, with one lemma for each stretch;
- `attribute?` and `classes`, of the tag that a text begins with;
- `tagAttributes_openTag`: attributes without quotes are read as they were written.

Does not own: which tags are written.
-/

namespace SlideDeck.Markup

/-! ### Words -/

/-- The white space of markup, which is less than that of Unicode. -/
def isSpace (character : Char) : Bool :=
  [' ', '\t', '\n', '\r', '\x0c'].contains character

def words (text : String) : List String :=
  ((text.toList.splitOnP isSpace).filter fun word => !word.isEmpty).map String.ofList

def Spaceless (text : String) : Prop :=
  ∀ character ∈ text.toList, isSpace character = false

instance (text : String) : Decidable (Spaceless text) :=
  List.decidableBAll _ text.toList

theorem Spaceless.append {front behind : String} (first : Spaceless front)
    (second : Spaceless behind) : Spaceless (front ++ behind) := by
  rw [Spaceless, String.toList_append, List.forall_mem_append]
  exact ⟨first, second⟩

theorem words_append_space (front behind : String) :
    words (front ++ " " ++ behind) = words front ++ words behind := by
  have letters : (front ++ " " ++ behind).toList = front.toList ++ ' ' :: behind.toList := by simp
  rw [words, letters, List.splitOnP_append_cons _ _ (by decide), List.filter_append,
    List.map_append, words, words]

theorem words_of_spaceless {text : String} (nonempty : text ≠ "") (spaceless : Spaceless text) :
    words text = [text] := by
  have letters : text.toList ≠ [] := fun none => nonempty (String.toList_eq_nil_iff.mp none)
  rw [words, List.splitOnP_eq_singleton spaceless]
  simp [letters]

/-- Words that are written in front of a text, with a space behind each. -/
theorem words_join {front : List String} (isWord : ∀ word ∈ front, word ≠ "" ∧ Spaceless word)
    (text : String) :
    words (String.join (front.map (· ++ " ")) ++ text) = front ++ words text := by
  induction front with
  | nil => simp [String.join]
  | cons word front inductionHypothesis =>
      rw [List.forall_mem_cons] at isWord
      rw [List.map_cons, String.join_cons, String.append_assoc, words_append_space,
        words_of_spaceless isWord.1.1 isWord.1.2, inductionHypothesis isWord.2,
        List.singleton_append, List.cons_append]

/-! ### Values -/

def Quoteless (text : String) : Prop :=
  '"' ∉ text.toList

instance (text : String) : Decidable (Quoteless text) :=
  inferInstanceAs (Decidable ('"' ∉ text.toList))

/-- What of a value is read: all of it, or what stands in front of a quote of its own. -/
def upToQuote (value : String) : String :=
  String.ofList (value.toList.takeWhile (· != '"'))

section Values

variable {value : String}

theorem upToQuote_of_quoteless (quoteless : Quoteless value) : upToQuote value = value := by
  rw [upToQuote, List.takeWhile_eq_self_iff.mpr (Text.bne_of_not_mem quoteless),
    String.ofList_toList]

theorem quoteless_upToQuote (value : String) : Quoteless (upToQuote value) := by
  intro member
  rw [upToQuote, String.toList_ofList] at member
  exact absurd (List.mem_takeWhile_imp member) (by decide)

theorem Quoteless.append {front behind : String} (first : Quoteless front)
    (second : Quoteless behind) : Quoteless (front ++ behind) := by
  rw [Quoteless, String.toList_append, List.mem_append, not_or]
  exact ⟨first, second⟩

theorem Spaceless.upToQuote (spaceless : Spaceless value) : Spaceless (upToQuote value) := by
  intro character member
  rw [Markup.upToQuote, String.toList_ofList] at member
  exact spaceless character (List.takeWhile_subset _ member)

theorem upToQuote_append {front : String} (quoteless : Quoteless front) (behind : String) :
    upToQuote (front ++ behind) = front ++ upToQuote behind := by
  apply String.toList_injective
  simp only [upToQuote, String.toList_append, String.toList_ofList,
    List.takeWhile_append_of_pos (Text.bne_of_not_mem quoteless)]

/-- A value in front of its closing quote goes up to the first quote there is. -/
theorem upToQuote_split (value : String) (rest : List Char) :
    ∃ behind, value.toList ++ '"' :: rest = (upToQuote value).toList ++ '"' :: behind := by
  by_cases quoted : '"' ∈ value.toList
  · obtain ⟨front, behind, letters, absent⟩ := List.eq_append_cons_of_mem quoted
    refine ⟨behind ++ '"' :: rest, ?_⟩
    rw [upToQuote, String.toList_ofList, letters, (Text.takeWhile_ne_append absent behind).1]
    simp
  · rw [upToQuote_of_quoteless quoted]
    exact ⟨rest, rfl⟩

end Values

/-! ### Reading -/

/-- Where the reading of attributes stands, with what is read of the one it stands in. -/
inductive TagState where
  | between
  | name (name : List Char)
  | assigned (name : List Char)
  | value (name value : List Char)

/-- Reads attributes up to the end of the tag. An attribute without an equals sign has the empty
value; a value that does not begin with a quote ends the reading. -/
def attributesFrom : TagState → List Char → List (String × String)
  | _, [] => []
  | .between, character :: rest =>
      if character = '>' then []
      else if isSpace character then attributesFrom .between rest
      else attributesFrom (.name [character]) rest
  | .name name, character :: rest =>
      if character = '>' then [(String.ofList name, "")]
      else if isSpace character then (String.ofList name, "") :: attributesFrom .between rest
      else if character = '=' then attributesFrom (.assigned name) rest
      else attributesFrom (.name (name ++ [character])) rest
  | .assigned name, character :: rest =>
      if character = '"' then attributesFrom (.value name []) rest else []
  | .value name value, character :: rest =>
      if character = '"' then
        (String.ofList name, String.ofList value) :: attributesFrom .between rest
      else attributesFrom (.value name (value ++ [character])) rest

/-- The attributes of the tag that a text begins with. -/
def tagAttributes (text : String) : List (String × String) :=
  match text.toList with
  | '<' :: rest => attributesFrom .between (rest.dropWhile isNameCharacter)
  | _ => []

/-- An attribute of the tag that a text begins with. Of several with one name the first counts. -/
def attribute? (key text : String) : Option String :=
  (tagAttributes text).lookup key

def classes (text : String) : List String :=
  words ((attribute? "class" text).getD "")

/-! ### Attributes as they are written -/

/-- A name of attributes that is read back as it is written. -/
structure CleanKey (key : String) : Prop where
  nonempty : key.toList ≠ []
  noEnd : '>' ∉ key.toList
  noEquals : '=' ∉ key.toList
  spaceless : Spaceless key

section Written

variable {name key value : String} {attributes : List (String × String)} {read front : List Char}

theorem attributesFrom_name (noEnd : '>' ∉ front) (noEquals : '=' ∉ front)
    (spaceless : ∀ character ∈ front, isSpace character = false) (rest : List Char) :
    attributesFrom (.name read) (front ++ '=' :: rest) =
      attributesFrom (.assigned (read ++ front)) rest := by
  induction front generalizing read with
  | nil => simp [attributesFrom, isSpace]
  | cons character front inductionHypothesis =>
      rw [List.mem_cons, not_or] at noEnd noEquals
      rw [List.forall_mem_cons] at spaceless
      rw [List.cons_append, attributesFrom, if_neg (Ne.symm noEnd.1),
        if_neg (by rw [spaceless.1]; decide), if_neg (Ne.symm noEquals.1),
        inductionHypothesis noEnd.2 noEquals.2 spaceless.2]
      simp

theorem attributesFrom_value {written : List Char} (noQuote : '"' ∉ front) (rest : List Char) :
    attributesFrom (.value read written) (front ++ '"' :: rest) =
      (String.ofList read, String.ofList (written ++ front)) :: attributesFrom .between rest := by
  induction front generalizing written with
  | nil => simp [attributesFrom]
  | cons character front inductionHypothesis =>
      rw [List.mem_cons, not_or] at noQuote
      rw [List.cons_append, attributesFrom, if_neg (Ne.symm noQuote.1),
        inductionHypothesis noQuote.2]
      simp

/-- One attribute, by the letters up to the first quote behind the one that opens its value. -/
theorem attributesFrom_attribute (clean : CleanKey key) (noQuote : '"' ∉ front)
    (rest : List Char) :
    attributesFrom .between (' ' :: (key.toList ++ '=' :: '"' :: (front ++ '"' :: rest))) =
      (key, String.ofList front) :: attributesFrom .between rest := by
  obtain ⟨nonempty, noEnd, noEquals, spaceless⟩ := clean
  obtain ⟨first, others, letters⟩ := List.exists_cons_of_ne_nil nonempty
  have named : String.ofList ([first] ++ others) = key := by
    rw [List.singleton_append, ← letters, String.ofList_toList]
  have blank : isSpace ' ' = true := rfl
  rw [Spaceless, letters, List.forall_mem_cons] at spaceless
  rw [letters, List.mem_cons, not_or] at noEnd noEquals
  rw [letters, attributesFrom, if_neg (by decide), if_pos blank, List.cons_append, attributesFrom,
    if_neg (Ne.symm noEnd.1), if_neg (by rw [spaceless.1]; decide),
    attributesFrom_name noEnd.2 noEquals.2 spaceless.2, attributesFrom, if_pos rfl,
    attributesFrom_value noQuote, named, List.nil_append]

theorem attributesText_cons_append (pair : String × String) (rest : List Char) :
    (attributesText (pair :: attributes)).toList ++ rest =
      ' ' :: (pair.1.toList ++ '=' :: '"' ::
        (pair.2.toList ++ '"' :: ((attributesText attributes).toList ++ rest))) := by
  rw [attributesText_toList_cons]
  simp

theorem tagAttributes_eq (clean : CleanName name) (attributes : List (String × String))
    (rest : String) :
    tagAttributes (openTag name attributes ++ rest) =
      attributesFrom .between ((attributesText attributes).toList ++ '>' :: rest.toList) := by
  have letters : (openTag name attributes ++ rest).toList =
      '<' :: (name.toList ++ ((attributesText attributes).toList ++ '>' :: rest.toList)) := by
    simp [openTag_toList]
  have stops : ∀ character ∈ ((attributesText attributes).toList ++ '>' :: rest.toList).head?,
      isNameCharacter character = false := by
    intro character isFirst
    apply attributesText_first attributes
    cases written : (attributesText attributes).toList <;> simpa [written] using isFirst
  unfold tagAttributes
  rw [letters]
  exact congrArg _ (Text.takeWhile_eq_self_of_head clean.characters stops).2

/-- Attributes without quotes are read as they were written. -/
theorem tagAttributes_openTag (clean : CleanName name)
    (readable : ∀ pair ∈ attributes, CleanKey pair.1 ∧ Quoteless pair.2) (rest : String) :
    tagAttributes (openTag name attributes ++ rest) = attributes := by
  rw [tagAttributes_eq clean]
  induction attributes with
  | nil => simp [attributesText, String.join, attributesFrom]
  | cons pair attributes inductionHypothesis =>
      rw [List.forall_mem_cons] at readable
      rw [attributesText_cons_append, attributesFrom_attribute readable.1.1 readable.1.2,
        String.ofList_toList, inductionHypothesis readable.2]

/-- The first attribute is read up to a quote of its own, whatever stands behind it. -/
theorem attribute?_first (clean : CleanName name) (cleanKey : CleanKey key) (value rest : String)
    (attributes : List (String × String)) :
    attribute? key (openTag name ((key, value) :: attributes) ++ rest) =
      some (upToQuote value) := by
  obtain ⟨behind, letters⟩ :=
    upToQuote_split value ((attributesText attributes).toList ++ '>' :: rest.toList)
  rw [attribute?, tagAttributes_eq clean, attributesText_cons_append]
  dsimp only
  rw [letters, attributesFrom_attribute cleanKey (quoteless_upToQuote value), String.ofList_toList,
    List.lookup_cons_self]

end Written

end SlideDeck.Markup
