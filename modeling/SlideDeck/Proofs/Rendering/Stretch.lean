import Mathlib.Data.List.Forall2
import SlideDeck.Proofs.Rendering.Element

/-!
Contract: where the marked parts of a page stand.

A page is read from left to right in stretches. Each leaves behind what is open before it, or opens
and closes more; the parts with a certain mark stand in it one after the other, each directly
inside the same open elements.

Owns:
- the positions of marks, which are tags of the text and nothing else;
- `Marked` texts, with one mark where they begin;
- `Stretch`, with its composition, and the stretches of nested and of marked texts.

Does not own: the parts of which pages consist.
-/

namespace SlideDeck.Markup

variable {mark text other name body : String} {attributes : List (String × String)}

/-! ### Where marks stand -/

theorem isMark_of_prefix {mark : String} (isMark : mark ∈ [slideMark, totalMark])
    {letters : List Char} (stands : mark.toList <+: letters) :
    ∃ tag, tagAt? letters = some tag ∧ tag.isMark = true := by
  obtain ⟨behind, rfl⟩ := stands
  simp only [List.mem_cons, List.not_mem_nil, or_false] at isMark
  rcases isMark with rfl | rfl
  · refine ⟨.opened "div" (String.ofList (" class=\"slide ".toList ++ untilEnd behind)), ?_, ?_⟩
    · rfl
    · simp [Tag.isMark]
  · exact ⟨.opened "span" " id=\"total\"", rfl, rfl⟩

theorem isTagPattern_mark {mark : String} (isMark : mark ∈ [slideMark, totalMark]) :
    IsTagPattern mark.toList := by
  simp only [List.mem_cons, List.not_mem_nil, or_false] at isMark
  rcases isMark with rfl | rfl
  · exact ⟨"div class=\"slide ".toList, rfl, by decide⟩
  · exact ⟨"span id=\"total\">".toList, rfl, by decide⟩

theorem positions_mark_eq_nil {mark : String} (isMark : mark ∈ [slideMark, totalMark])
    {letters : List Char} (unmarked : ∀ tag ∈ tags letters, tag.isMark = false) :
    positions mark.toList letters = [] := by
  induction letters with
  | nil => rfl
  | cons character rest inductionHypothesis =>
      rw [tags, List.forall_mem_append] at unmarked
      have absent : ¬mark.toList <+: character :: rest := by
        intro stands
        obtain ⟨tag, begins, marks⟩ := isMark_of_prefix isMark stands
        have noMark := unmarked.1 tag (by simp [begins])
        rw [noMark] at marks
        exact Bool.false_ne_true marks
      rw [positions, if_neg absent, inductionHypothesis unmarked.2]
      rfl

/-- A text with one mark, by which it begins. -/
structure Marked (mark text : String) : Prop where
  isMark : mark ∈ [slideMark, totalMark]
  whole : Whole text.toList
  begins : mark.toList <+: text.toList
  unmarked : ∀ tag ∈ (tags text.toList).tail, tag.isMark = false

namespace Marked

theorem append (marked : Marked mark text) (unmarked : Unmarked other) :
    Marked mark (text ++ other) where
  isMark := marked.isMark
  whole := by
    rw [String.toList_append]
    exact marked.whole.append unmarked.whole
  begins := by
    rw [String.toList_append]
    exact marked.begins.trans (List.prefix_append _ _)
  unmarked := by
    rw [String.toList_append, tags_append marked.whole]
    intro tag member
    have inTails : tag ∈ (tags text.toList).tail ++ tags other.toList := by
      cases behind : tags text.toList with
      | nil =>
          rw [behind, List.nil_append] at member
          exact List.mem_of_mem_tail member
      | cons first others => simpa [behind] using member
    rcases List.mem_append.mp inTails with inside | behind
    · exact marked.unmarked tag inside
    · exact unmarked.unmarked tag behind

theorem element (nested : Nested body) (clean : CleanName name)
    (values : UntaggedValues attributes) (isMark : mark ∈ [slideMark, totalMark])
    (begins : mark.toList <+: (openTag name attributes).toList) :
    Marked mark (element name attributes body) := by
  have opening : Marked mark (openTag name attributes) :=
    ⟨isMark, whole_openTag clean values, begins, by simp [tags_openTag clean values]⟩
  exact (opening.append nested.toUnmarked).append (unmarked_closeTag clean)

/-- Behind its first character a marked text has no mark. -/
theorem positions_tail (marked : Marked mark text) (isMark : other ∈ [slideMark, totalMark]) :
    positions other.toList text.toList.tail = [] := by
  apply positions_mark_eq_nil isMark
  obtain ⟨tag, tagged, -⟩ := isMark_of_prefix marked.isMark marked.begins
  have unmarked := marked.unmarked
  cases letters : text.toList with
  | nil => simp [tags]
  | cons first rest =>
      rw [letters] at tagged unmarked
      rw [tags, tagged] at unmarked
      exact unmarked

theorem positions_eq (marked : Marked mark text) : positions mark.toList text.toList = [0] := by
  have behind := marked.positions_tail marked.isMark
  have begins := marked.begins
  obtain ⟨inner, isPattern, -⟩ := isTagPattern_mark marked.isMark
  cases letters : text.toList with
  | nil => simp [letters, isPattern] at begins
  | cons first rest =>
      rw [letters] at begins behind
      rw [List.tail_cons] at behind
      rw [positions, if_pos begins, behind]
      rfl

/-- The other mark stands nowhere in the text. -/
theorem positions_other (marked : Marked mark text) (isMark : other ∈ [slideMark, totalMark])
    (differs : other ≠ mark) : positions other.toList text.toList = [] := by
  have behind := marked.positions_tail isMark
  have begins := marked.begins
  have absent : ¬other.toList <+: text.toList := by
    intro stands
    -- Both marks would begin the text, so that one of them would begin the other.
    have apart : ∀ first ∈ [slideMark, totalMark], ∀ second ∈ [slideMark, totalMark],
        first ≠ second → ¬first.toList <+: second.toList := by decide
    rcases List.prefix_or_prefix_of_prefix stands begins with otherFirst | markFirst
    · exact apart other isMark mark marked.isMark differs otherFirst
    · exact apart mark marked.isMark other isMark differs.symm markFirst
  cases letters : text.toList with
  | nil => rfl
  | cons first rest =>
      rw [letters] at absent behind
      rw [List.tail_cons] at behind
      rw [positions, if_neg absent, behind]
      rfl

end Marked

/-! ### Stretches of a page -/

/-- Parts of a text stand one after the other where a mark is, each with certain elements open
around it. -/
def Placed (mark : String) (around before : Open) (parts : List String) (text : String) : Prop :=
  List.Forall₂
    (fun position part => part.toList <+: text.toList.drop position ∧
      run before (blockTags (text.toList.take position)) = some around)
    (positions mark.toList text.toList) parts

/-- A text from what is open before it to what is open behind it. -/
structure Stretch (mark : String) (around before behind : Open) (parts : List String)
    (text : String) : Prop where
  isMark : mark ∈ [slideMark, totalMark]
  whole : Whole text.toList
  runs : run before (blockTags text.toList) = some behind
  placed : Placed mark around before parts text

theorem lt_of_mem_positions {pattern letters : List Char} {position : Nat}
    (member : position ∈ positions pattern letters) : position < letters.length := by
  induction letters generalizing position with
  | nil => simp [positions] at member
  | cons character rest inductionHypothesis =>
      rw [positions, List.mem_append, List.mem_map] at member
      rcases member with here | ⟨previous, inRest, rfl⟩
      · split at here <;> simp_all
      · exact Nat.succ_lt_succ (inductionHypothesis inRest)

namespace Stretch

variable {around before middle behind : Open} {parts others : List String}

theorem append (first : Stretch mark around before middle parts text)
    (second : Stretch mark around middle behind others other) :
    Stretch mark around before behind (parts ++ others) (text ++ other) where
  isMark := first.isMark
  whole := by
    rw [String.toList_append]
    exact first.whole.append second.whole
  runs := by
    rw [String.toList_append, blockTags_append first.whole, run_append, first.runs,
      Option.bind_some, second.runs]
  placed := by
    unfold Placed
    rw [String.toList_append, positions_append (isTagPattern_mark first.isMark) first.whole]
    have inFirst :=
      (List.forall₂_and_left _ _).mpr ⟨fun _ => lt_of_mem_positions, first.placed⟩
    apply List.rel_append
    · refine inFirst.imp fun position part given => ?_
      obtain ⟨inside, stands, inner⟩ := given
      rw [List.drop_append_of_le_length inside.le, List.take_append_of_le_length inside.le]
      exact ⟨stands.trans (List.prefix_append _ _), inner⟩
    · -- Positions in the second text are shifted, and what is open there is what the first leaves.
      rw [List.forall₂_map_left_iff]
      refine second.placed.imp fun position part given => ?_
      obtain ⟨stands, inner⟩ := given
      rw [Nat.add_comm, List.drop_length_add_append, List.take_length_add_append,
        blockTags_append first.whole, run_append, first.runs]
      exact ⟨stands, inner⟩

theorem of_unmarked (isMark : mark ∈ [slideMark, totalMark]) (unmarked : Unmarked text)
    (runs : run before (blockTags text.toList) = some behind) :
    Stretch mark around before behind [] text where
  isMark := isMark
  whole := unmarked.whole
  runs := runs
  placed := by
    rw [Placed, positions_mark_eq_nil isMark unmarked.unmarked]
    exact .nil

theorem of_nested (isMark : mark ∈ [slideMark, totalMark]) (nested : Nested text) :
    Stretch mark around before before [] text :=
  .of_unmarked isMark nested.toUnmarked (run_around nested.balanced before)

/-- A balanced part that has the mark where it begins. -/
theorem of_marked (marked : Marked mark text)
    (balanced : run [] (blockTags text.toList) = some []) :
    Stretch mark around around around [text] text where
  isMark := marked.isMark
  whole := marked.whole
  runs := run_around balanced around
  placed := by
    rw [Placed, marked.positions_eq]
    exact .cons ⟨List.prefix_rfl, rfl⟩ .nil

/-- A balanced part with the other mark does not count. -/
theorem of_other (isMark : mark ∈ [slideMark, totalMark]) (marked : Marked other text)
    (differs : mark ≠ other) (balanced : run [] (blockTags text.toList) = some []) :
    Stretch mark around before before [] text where
  isMark := isMark
  whole := marked.whole
  runs := run_around balanced before
  placed := by
    rw [Placed, marked.positions_other isMark differs]
    exact .nil

theorem append_nested (stretch : Stretch mark around before behind parts text)
    (nested : Nested other) : Stretch mark around before behind parts (text ++ other) := by
  have whole := stretch.append (of_nested stretch.isMark nested)
  rwa [List.append_nil] at whole

theorem nested_append (nested : Nested text)
    (stretch : Stretch mark around before behind parts other) :
    Stretch mark around before behind parts (text ++ other) :=
  (of_nested stretch.isMark nested).append stretch

theorem openTag (isMark : mark ∈ [slideMark, totalMark]) (clean : CleanName name)
    (values : UntaggedValues attributes)
    (noMark : (Tag.opened name (attributesRead attributes)).isMark = false)
    (isBlock : Tag.blockNames.contains name = true) :
    Stretch mark around before ((name, attributesRead attributes) :: before) []
      (openTag name attributes) := by
  refine .of_unmarked isMark (unmarked_openTag clean values noMark) ?_
  rw [blockTags_of_tags (tags_openTag clean values), Tag.isBlock, Tag.name, isBlock]
  rfl

theorem closeTag (isMark : mark ∈ [slideMark, totalMark]) (clean : CleanName name)
    (isBlock : Tag.blockNames.contains name = true) {read : String} :
    Stretch mark around ((name, read) :: before) before [] (closeTag name) := by
  refine .of_unmarked isMark (unmarked_closeTag clean) ?_
  rw [blockTags_of_tags (tags_closeTag clean), Tag.isBlock, Tag.name, isBlock]
  simp [run]

/-- Parts that leave open what is open before them, a line break between any two. -/
theorem lines (isMark : mark ∈ [slideMark, totalMark]) {texts : List String}
    {partsOf : String → List String}
    (each : ∀ text ∈ texts, Stretch mark around before before (partsOf text) text) :
    Stretch mark around before before (texts.flatMap partsOf) ("\n".intercalate texts) := by
  induction texts with
  | nil => exact .of_nested isMark .empty
  | cons first others inductionHypothesis =>
      rw [List.forall_mem_cons] at each
      rw [List.flatMap_cons]
      cases others with
      | nil => simpa using each.1
      | cons second others =>
          rw [String.intercalate_cons_cons]
          exact (each.1.append_nested .newline).append (inductionHypothesis each.2)

end Stretch

end SlideDeck.Markup
