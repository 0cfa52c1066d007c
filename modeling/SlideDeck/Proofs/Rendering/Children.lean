import SlideDeck.Proofs.Rendering.Bodies

/-!
Contract: the block elements on the outermost level of a text.

A text is read from left to right. A block element that is opened while none is open is a child; it
goes on up to the tag that closes it, and its body can be read in the same way. Nothing that a
nested text holds is taken for an end.

Owns:
- `Child` and `children`, with one lemma for each way to write a nested text;
- `descend`, the children of a child of a child;
- the class of a child.

Does not own: which parts of a slide are children of which.
-/

namespace SlideDeck.Markup

/-! ### Reading children -/

/-- A block element as it is read: its name, its attributes up to the first `>`, and what stands
behind that up to the tag that closes the element. -/
structure Child where
  name : String
  attributes : String
  body : String
deriving DecidableEq, Repr

/-- The tag of a block that begins with the first character of a text. -/
def blockTagAt? (text : List Char) : Option Tag :=
  (tagAt? text).filter Tag.isBlock

/-- What stands behind the first `>` of a text. -/
def behindEnd (text : List Char) : List Char :=
  (text.dropWhile (· != '>')).drop 1

/-- What is kept of the outermost open element: everything behind its `<`. -/
def keep : Open → List Char → Char → List Char
  | [], _, _ => []
  | _ :: _, kept, character => kept ++ [character]

/-- The elements that are open behind a tag, and the child that ends with it. -/
def pass (kept : List Char) : Open → Option Tag → Open × Option Child
  | opened, none => (opened, none)
  | opened, some (.opened name attributes) => ((name, attributes) :: opened, none)
  | [(name, attributes)], some (.closed _) =>
      ([], some ⟨name, attributes, String.ofList (behindEnd kept)⟩)
  | opened, some (.closed _) => (opened.tail, none)

/-- Reads children where some elements are open already. -/
def childrenFrom : Open → List Char → List Char → List Child
  | _, _, [] => []
  | opened, kept, character :: rest =>
      let passed := pass kept opened (blockTagAt? (character :: rest))
      passed.2.toList ++ childrenFrom passed.1 (keep opened kept character) rest

/-- The block elements on the outermost level of a text. -/
def children (text : String) : List Child :=
  childrenFrom [] [] text.toList

namespace Child

/-- The text of which a child was read. -/
def written (child : Child) : String :=
  "<" ++ child.name ++ child.attributes ++ ">" ++ child.body ++ closeTag child.name

/-- How a class begins that is the first attribute. -/
def classMark : List Char :=
  " class=\"".toList

/-- The value of the class, if that is the first attribute, and else the empty text. -/
def className (child : Child) : String :=
  if classMark.isPrefixOf child.attributes.toList then
    String.ofList ((child.attributes.toList.drop classMark.length).takeWhile (· != '"'))
  else ""

end Child

/-- The children of a child of a child: each step of a path goes to the first child that it
chooses. -/
def descend : List (Child → Bool) → String → List Child
  | [], text => children text
  | choose :: path, text =>
      ((children text).find? choose).elim [] fun child => descend path child.body

variable {name className text other body : String} {attributes : List (String × String)}

/-! ### Nested parts of a text -/

section Parts

variable {opened after around : Open} {kept front rest : List Char} {character : Char}

theorem blockTags_cons (character : Char) (rest : List Char) :
    blockTags (character :: rest) = (blockTagAt? (character :: rest)).toList ++ blockTags rest := by
  rw [blockTags, tags, List.filter_append, blockTagAt?, ← Option.toList_filter]
  rfl

theorem blockTagAt?_append (whole : Whole (character :: front)) (rest : List Char) :
    blockTagAt? (character :: (front ++ rest)) = blockTagAt? (character :: front) := by
  by_cases isTag : character = '<'
  · subst isTag
    rw [blockTagAt?, blockTagAt?, ← List.cons_append, tagAt?_append (whole.1 rfl)]
  · rw [blockTagAt?, blockTagAt?, tagAt?_of_ne isTag, tagAt?_of_ne isTag]

theorem childrenFrom_nil_kept (kept text : List Char) :
    childrenFrom [] kept text = childrenFrom [] [] text := by
  cases text with
  | nil => rfl
  | cons character rest =>
      rw [childrenFrom, childrenFrom]
      obtain _ | tag := blockTagAt? (character :: rest)
      · rfl
      · cases tag <;> rfl

/-- What a tag, if there is one, does to the open elements. -/
theorem run_cases {tag : Option Tag} (ran : run opened tag.toList = some after) :
    tag = none ∧ after = opened ∨
      (∃ name attributes, tag = some (.opened name attributes) ∧
        after = (name, attributes) :: opened) ∨
      ∃ name attributes, tag = some (.closed name) ∧ opened = (name, attributes) :: after := by
  obtain _ | ⟨name, attributes⟩ | name := tag
  · exact .inl ⟨rfl, (Option.some.inj ran).symm⟩
  · exact .inr (.inl ⟨name, attributes, rfl, (Option.some.inj ran).symm⟩)
  · obtain _ | ⟨⟨last, attributes⟩, others⟩ := opened
    · simp [run] at ran
    · rw [Option.toList_some, run] at ran
      split at ran
      next same =>
        obtain rfl : others = after := Option.some.inj ran
        exact .inr (.inr ⟨name, attributes, rfl, by rw [same]⟩)
      next => simp at ran

theorem pass_fst {tag : Option Tag} (ran : run opened tag.toList = some after) :
    (pass kept opened tag).1 = after := by
  rcases run_cases ran with ⟨rfl, rfl⟩ | ⟨_, _, rfl, rfl⟩ | ⟨_, _, rfl, rfl⟩
  · rfl
  · rfl
  · cases after <;> rfl

/-- A tag inside of an element changes nothing around it and ends no child. -/
theorem pass_inside {tag : Option Tag} (ran : run opened tag.toList = some after)
    (inner : around ≠ []) : pass kept (opened ++ around) tag = (after ++ around, none) := by
  rcases run_cases ran with ⟨rfl, rfl⟩ | ⟨_, _, rfl, rfl⟩ | ⟨_, _, rfl, rfl⟩
  · rfl
  · rfl
  · obtain ⟨next, others, rfl⟩ := List.exists_cons_of_ne_nil inner
    cases after <;> rfl

theorem keep_of_ne_nil (inner : opened ≠ []) :
    keep opened kept character = kept ++ [character] := by
  obtain ⟨next, others, rfl⟩ := List.exists_cons_of_ne_nil inner
  rfl

/-- A balanced part inside of an element is kept as it is, and the element goes on. -/
theorem childrenFrom_inside (whole : Whole front) (ran : run opened (blockTags front) = some after)
    (inner : around ≠ []) :
    childrenFrom (opened ++ around) kept (front ++ rest) =
      childrenFrom (after ++ around) (kept ++ front) rest := by
  induction front generalizing opened kept with
  | nil =>
      obtain rfl : opened = after := Option.some.inj ran
      rw [List.nil_append, List.append_nil]
  | cons character front inductionHypothesis =>
      rw [blockTags_cons, run_append] at ran
      obtain ⟨middle, first, others⟩ := Option.bind_eq_some_iff.mp ran
      have nonempty : opened ++ around ≠ [] := by simp [inner]
      rw [List.cons_append, childrenFrom, blockTagAt?_append whole, pass_inside first inner,
        keep_of_ne_nil nonempty]
      simp only [Option.toList_none, List.nil_append]
      rw [inductionHypothesis whole.2 others, List.append_assoc]
      rfl

/-- Where a part closes all that is open, what comes behind is read by itself. -/
theorem childrenFrom_append (whole : Whole front) (ran : run opened (blockTags front) = some []) :
    childrenFrom opened kept (front ++ rest) =
      childrenFrom opened kept front ++ childrenFrom [] [] rest := by
  induction front generalizing opened kept with
  | nil =>
      obtain rfl : opened = [] := Option.some.inj ran
      exact childrenFrom_nil_kept kept rest
  | cons character front inductionHypothesis =>
      rw [blockTags_cons, run_append] at ran
      obtain ⟨middle, first, others⟩ := Option.bind_eq_some_iff.mp ran
      rw [List.cons_append, childrenFrom, childrenFrom, blockTagAt?_append whole,
        pass_fst first, inductionHypothesis whole.2 others, List.append_assoc]

end Parts

theorem children_append (nested : Nested text) (other : String) :
    children (text ++ other) = children text ++ children other := by
  rw [children, String.toList_append, childrenFrom_append nested.whole nested.balanced]
  rfl

theorem childrenFrom_eq_nil {opened : Open} {kept letters : List Char}
    (noBlocks : blockTags letters = []) : childrenFrom opened kept letters = [] := by
  induction letters generalizing opened kept with
  | nil => rfl
  | cons character rest inductionHypothesis =>
      rw [blockTags_cons, List.append_eq_nil_iff, Option.toList_eq_nil_iff] at noBlocks
      rw [childrenFrom, noBlocks.1]
      exact inductionHypothesis noBlocks.2

theorem blockTags_of_untagged {letters : List Char} (untagged : '<' ∉ letters) :
    blockTags letters = [] := by
  rw [blockTags, tags_eq_nil untagged, List.filter_nil]

theorem children_of_untagged (untagged : Untagged text) : children text = [] :=
  childrenFrom_eq_nil (blockTags_of_untagged untagged)

/-! ### Elements -/

namespace Child

/-- The child that is read of an element. -/
def ofElement (name : String) (attributes : List (String × String)) (body : String) : Child :=
  ⟨name, attributesRead attributes,
    String.ofList (behindEnd ((attributesText attributes).toList ++ '>' :: body.toList))⟩

end Child

theorem behindEnd_append {front : List Char} (noEnd : '>' ∉ front) (rest : List Char) :
    behindEnd (front ++ rest) = behindEnd rest := by
  rw [behindEnd, List.dropWhile_append_of_pos (Text.bne_of_not_mem noEnd), behindEnd]

theorem behindEnd_append_end (front rest : List Char) :
    behindEnd (front ++ '>' :: rest) =
      if '>' ∈ front then behindEnd front ++ '>' :: rest else rest := by
  split
  next ends =>
    have inside : '>' ∈ front.dropWhile (· != '>') := mem_dropWhile_of_mem rfl ends
    have dropped : (front ++ '>' :: rest).dropWhile (· != '>') =
        front.dropWhile (· != '>') ++ '>' :: rest := dropWhile_append_of_mem rfl ends
    rw [behindEnd, dropped, behindEnd,
      List.drop_append_of_le_length (List.length_pos_of_mem inside)]
  next noEnd => rw [behindEnd_append noEnd]; rfl

theorem behindEnd_subset (letters : List Char) : behindEnd letters ⊆ letters := by
  intro character member
  exact List.dropWhile_subset _ (List.mem_of_mem_drop member)

theorem untilEnd_append_behindEnd {letters : List Char} (ends : '>' ∈ letters) :
    untilEnd letters ++ '>' :: behindEnd letters = letters := by
  have inside : '>' ∈ letters.dropWhile (· != '>') := mem_dropWhile_of_mem rfl ends
  obtain ⟨first, rest, dropped⟩ := List.exists_cons_of_ne_nil (List.ne_nil_of_mem inside)
  have isEnd : first = '>' := by
    have stops := List.head?_dropWhile_not (· != '>') letters
    simpa [dropped] using stops
  calc untilEnd letters ++ '>' :: behindEnd letters
      = letters.takeWhile (· != '>') ++ letters.dropWhile (· != '>') := by
        rw [behindEnd, dropped, isEnd]
        rfl
    _ = letters := List.takeWhile_append_dropWhile

/-- An opening tag behind its `<`. -/
def tagRest (name : String) (attributes : List (String × String)) : List Char :=
  name.toList ++ ((attributesText attributes).toList ++ ['>'])

theorem openTag_eq_cons : (openTag name attributes).toList = '<' :: tagRest name attributes :=
  openTag_toList

theorem untagged_tagRest (clean : CleanName name) (values : UntaggedValues attributes) :
    '<' ∉ tagRest name attributes := by
  have inValues : '<' ∉ (attributesText attributes).toList := values
  simp [tagRest, clean.untagged, inValues]

theorem behindEnd_tagRest (clean : CleanName name) (rest : List Char) :
    behindEnd (tagRest name attributes ++ rest) =
      behindEnd ((attributesText attributes).toList ++ '>' :: rest) := by
  rw [tagRest, List.append_assoc, behindEnd_append clean.noEnd, List.append_assoc]
  rfl

theorem blockTagAt?_openTag (clean : CleanName name) (values : UntaggedValues attributes)
    (isBlock : Tag.blockNames.contains name = true) (rest : List Char) :
    blockTagAt? ('<' :: (tagRest name attributes ++ rest)) =
      some (.opened name (attributesRead attributes)) := by
  have whole := whole_openTag clean values
  have first := tags_openTag clean values
  rw [openTag_eq_cons] at whole first
  rw [tags, tags_eq_nil (untagged_tagRest clean values), List.append_nil] at first
  rw [blockTagAt?_append whole, blockTagAt?, Option.toList_eq_singleton_iff.mp first]
  simp only [Option.filter_some, Tag.isBlock, Tag.name, isBlock, if_true]

theorem blockTagAt?_closeTag (clean : CleanName name)
    (isBlock : Tag.blockNames.contains name = true) :
    blockTagAt? ('<' :: '/' :: (name.toList ++ ['>'])) = some (.closed name) := by
  have first := tags_closeTag clean
  have untagged : '<' ∉ '/' :: (name.toList ++ ['>']) := by simp [clean.untagged]
  rw [closeTag_toList, tags, tags_eq_nil untagged, List.append_nil] at first
  rw [blockTagAt?, Option.toList_eq_singleton_iff.mp first]
  simp only [Option.filter_some, Tag.isBlock, Tag.name, isBlock, if_true]

/-- An element is the only child of its text. -/
theorem children_element (nested : Nested body) (clean : CleanName name)
    (values : UntaggedValues attributes) (isBlock : Tag.blockNames.contains name = true) :
    children (element name attributes body) = [.ofElement name attributes body] := by
  have untagged := untagged_tagRest clean values
  have balanced : run [] (blockTags (tagRest name attributes ++ body.toList)) = some [] := by
    rw [blockTags_append (whole_of_untagged untagged), blockTags_of_untagged untagged]
    exact nested.balanced
  have letters : (element name attributes body).toList =
      '<' :: (tagRest name attributes ++ (body.toList ++ (closeTag name).toList)) := by
    simp [element, openTag_eq_cons]
  have inside : childrenFrom [(name, attributesRead attributes)] []
        (tagRest name attributes ++ (body.toList ++ (closeTag name).toList)) =
      childrenFrom [(name, attributesRead attributes)] (tagRest name attributes ++ body.toList)
        (closeTag name).toList := by
    rw [← List.append_assoc]
    exact childrenFrom_inside ((whole_of_untagged untagged).append nested.whole) balanced (by simp)
  have closeUntagged : '<' ∉ '/' :: (name.toList ++ ['>']) := by simp [clean.untagged]
  -- All up to the closing tag is kept; there the child ends, and no tag comes behind.
  rw [children, letters, childrenFrom, blockTagAt?_openTag clean values isBlock]
  refine inside.trans ?_
  rw [closeTag_toList, childrenFrom, blockTagAt?_closeTag clean isBlock,
    childrenFrom_eq_nil (blockTags_of_untagged closeUntagged), Child.ofElement,
    ← behindEnd_tagRest clean]
  rfl

theorem children_element_append (nested : Nested body) (clean : CleanName name)
    (values : UntaggedValues attributes) (isBlock : Tag.blockNames.contains name = true)
    (behind : String) :
    children (element name attributes body ++ behind) =
      .ofElement name attributes body :: children behind := by
  rw [children, String.toList_append, childrenFrom_append (whole_element nested.whole clean values)
    (nested.balanced_element clean values)]
  exact congrArg (· ++ children behind) (children_element nested clean values isBlock)

namespace Child

theorem written_ofElement (name : String) (attributes : List (String × String)) (body : String) :
    (ofElement name attributes body).written = element name attributes body := by
  have read : untilEnd (attributesText attributes).toList =
      untilEnd ((attributesText attributes).toList ++ '>' :: body.toList) := by
    have ends : '>' ∈ (attributesText attributes).toList ++ ['>'] := by simp
    rw [← untilEnd_append_end, ← @untilEnd_append body.toList _ ends, List.append_assoc]
    rfl
  have whole := untilEnd_append_behindEnd
    (by simp : '>' ∈ (attributesText attributes).toList ++ '>' :: body.toList)
  rw [← read] at whole
  apply String.toList_injective
  rw [written, ofElement, element]
  calc _ = '<' :: (name.toList ++ (untilEnd (attributesText attributes).toList ++
        '>' :: behindEnd ((attributesText attributes).toList ++ '>' :: body.toList))) ++
        (closeTag name).toList := by simp [attributesRead_toList]
    _ = _ := by simp [whole, openTag_toList]

theorem ofElement_nil (name body : String) : ofElement name [] body = ⟨name, "", body⟩ := by
  have noEnd : '>' ∉ (attributesText []).toList := by decide
  have read : attributesRead [] = "" := rfl
  rw [ofElement, read, behindEnd_append noEnd]
  exact congrArg (Child.mk name "") String.ofList_toList

/-- What is read of the body of an element has the same children. -/
theorem children_body (values : UntaggedValues attributes) :
    children (ofElement name attributes body).body = children body := by
  rw [ofElement, behindEnd_append_end]
  split
  next =>
    have untagged : Untagged
        (String.ofList (behindEnd (attributesText attributes).toList ++ ['>'])) := by
      intro tagged
      rw [String.toList_ofList, List.mem_append] at tagged
      rcases tagged with inside | impossible
      · exact values (behindEnd_subset _ inside)
      · exact absurd impossible (by decide)
    rw [List.append_cons, String.ofList_append, String.ofList_toList,
      children_append (.of_untagged untagged), children_of_untagged untagged, List.nil_append]
  next => rw [String.ofList_toList]

end Child

/-! ### Ways to write nested texts -/

theorem children_line (nested : Nested text) : children (line text) = children text := by
  rw [line, children_append nested, children_of_untagged (by decide : Untagged "\n"),
    List.append_nil]

theorem children_newline (text : String) : children ("\n" ++ text) = children text := by
  rw [children_append .newline, children_of_untagged (by decide : Untagged "\n"), List.nil_append]

theorem children_blockLine (nested : Nested text) : children (blockLine text) = children text := by
  unfold blockLine
  split
  next empty =>
    rw [String.isEmpty_iff.mp empty]
  next => exact children_line nested

theorem children_join {texts : List String} (nested : ∀ text ∈ texts, Nested text) :
    children (String.join texts) = texts.flatMap children := by
  induction texts with
  | nil => rfl
  | cons first others inductionHypothesis =>
      rw [List.forall_mem_cons] at nested
      rw [String.join_cons, children_append nested.1, inductionHypothesis nested.2,
        List.flatMap_cons]

/-! ### Descending -/

theorem descend_congr {path : List (Child → Bool)} (same : children text = children other) :
    descend path text = descend path other := by
  cases path with
  | nil => exact same
  | cons choose path => rw [descend, descend, same]

/-- A path goes on in the body of the first element that is chosen. -/
theorem descend_element {choose : Child → Bool} {path : List (Child → Bool)} {front : String}
    (nestedFront : Nested front) (passes : ∀ child ∈ children front, choose child = false)
    (nested : Nested body) (clean : CleanName name) (values : UntaggedValues attributes)
    (isBlock : Tag.blockNames.contains name = true)
    (chosen : choose (.ofElement name attributes body) = true) (behind : String) :
    descend (choose :: path) (front ++ (element name attributes body ++ behind)) =
      descend path body := by
  have none : (children front).find? choose = none :=
    List.find?_eq_none.mpr fun child member => by simp [passes child member]
  rw [descend, children_append nestedFront, List.find?_append, none, Option.none_or,
    children_element_append nested clean values isBlock, List.find?_cons_of_pos chosen]
  exact descend_congr (Child.children_body values)

/-! ### Classes -/

theorem untilEnd_append_of_not_mem {front : List Char} (noEnd : '>' ∉ front) (rest : List Char) :
    untilEnd (front ++ rest) = front ++ untilEnd rest := by
  rw [untilEnd, List.takeWhile_append_of_pos (Text.bne_of_not_mem noEnd), untilEnd]

theorem Child.className_ofElement (noEnd : '>' ∉ className.toList)
    (noQuote : '"' ∉ className.toList) :
    (ofElement name (("class", className) :: attributes) body).className = className := by
  have letters : (attributesText (("class", className) :: attributes)).toList =
      (classMark ++ (className.toList ++ ['"'])) ++ (attributesText attributes).toList := by
    have mark : " ".toList ++ ("class".toList ++ "=\"".toList) = classMark := by decide
    have quote : "\"".toList = ['"'] := by decide
    rw [attributesText_cons, attributeText, ← mark, ← quote]
    simp only [String.toList_append, List.append_assoc]
  have noEndBefore : '>' ∉ classMark ++ (className.toList ++ ['"']) := by
    rw [List.mem_append, List.mem_append, not_or, not_or]
    exact ⟨by decide, noEnd, by decide⟩
  have read : (ofElement name (("class", className) :: attributes) body).attributes.toList =
      classMark ++ (className.toList ++ '"' :: untilEnd (attributesText attributes).toList) := by
    rw [ofElement, attributesRead_toList, letters, untilEnd_append_of_not_mem noEndBefore,
      List.append_assoc, List.append_assoc]
    rfl
  have begins : classMark <+: classMark ++ (className.toList ++
      '"' :: untilEnd (attributesText attributes).toList) := List.prefix_append _ _
  rw [Child.className, read]
  generalize classMark = mark at begins
  rw [if_pos (List.isPrefixOf_iff_prefix.mpr begins), List.drop_left,
    (Text.takeWhile_ne_append noQuote _).1, String.ofList_toList]

end SlideDeck.Markup
