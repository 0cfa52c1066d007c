import Mathlib.Algebra.GroupWithZero.Nat
import SlideDeck.Proofs.Text.Span

/-!
Contract: how often a word stands in a text that is put together from parts.

A word may begin in one part and end in another one, so its occurrences in the parts need not be all.
They are where no part has an end that goes with other letters of the word.

Owns:
- `occurrences`, the number of positions at which a word stands in a text;
- `Detached` texts, which share no occurrence of a word with what stands around them, and `Foreign`
  ones, which have none of their own either;
- `occurrences_spell`: the occurrences in a text that is spelled from segments are those between the
  blanks in it and those inside of what is written;
- `occurrences_wrapSpans`: wrapping spans by foreign texts adds and takes away none;
- `occurrences_replaceMarks`, for single marks.

Does not own: any particular word.
-/

namespace SlideDeck.Text

variable {σ α : Type}

/-- The number of positions at which a word stands in a text. -/
def occurrences [DecidableEq σ] (word : List σ) : List σ → Nat
  | [] => 0
  | letter :: rest => (if word <+: letter :: rest then 1 else 0) + occurrences word rest

/-- A text of segments with every occurrence as one blank. -/
def blanked (segments : List (Segment σ α)) : List (Option σ) :=
  segments.map fun
    | .kept letter => some letter
    | .occurrence _ => none

/-- A text that shares no occurrence of a word with what stands around it: no occurrence that began
before it goes on in it, and none that begins in it goes on behind it. -/
structure Detached (word text : List σ) : Prop where
  nonempty : text ≠ []
  first : ∀ letter ∈ text.head?, letter ∉ word.tail
  last : ∀ letter ∈ text.getLast?, letter ∉ word.dropLast

/-- A detached text in which the word does not stand. -/
structure Foreign [DecidableEq σ] (word text : List σ) : Prop extends Detached word text where
  absent : occurrences word text = 0

instance [DecidableEq σ] (word text : List σ) : Decidable (Detached word text) :=
  decidable_of_iff (text ≠ [] ∧ (∀ letter ∈ text.head?, letter ∉ word.tail) ∧
      ∀ letter ∈ text.getLast?, letter ∉ word.dropLast)
    ⟨fun given => ⟨given.1, given.2.1, given.2.2⟩, fun detached =>
      ⟨detached.nonempty, detached.first, detached.last⟩⟩

instance [DecidableEq σ] (word text : List σ) : Decidable (Foreign word text) :=
  decidable_of_iff (Detached word text ∧ occurrences word text = 0)
    ⟨fun given => ⟨given.1, given.2⟩, fun foreign => ⟨foreign.toDetached, foreign.absent⟩⟩

@[simp] theorem blanked_nil : blanked ([] : List (Segment σ α)) = [] := rfl

@[simp] theorem blanked_kept (letter : σ) (segments : List (Segment σ α)) :
    blanked (.kept letter :: segments) = some letter :: blanked segments := rfl

@[simp] theorem blanked_occurrence (value : α) (segments : List (Segment σ α)) :
    blanked (.occurrence value :: segments) = none :: blanked segments := rfl

section Occurrences

variable [DecidableEq σ] {word front : List σ}

@[simp] theorem occurrences_nil (word : List σ) : occurrences word [] = 0 := rfl

theorem occurrences_singleton [BEq σ] [LawfulBEq σ] (letter : σ) (text : List σ) :
    occurrences [letter] text = text.count letter := by
  induction text with
  | nil => rfl
  | cons first rest inductionHypothesis =>
      have here : [letter] <+: first :: rest ↔ first = letter := by
        rw [List.cons_prefix_cons, eq_comm]
        simp
      rw [occurrences, inductionHypothesis, List.count_cons]
      simp only [here, beq_iff_eq]
      omega

omit [DecidableEq σ] in
/-- A word that begins in a text and goes on behind it has the last letter of the text before its
own last one. -/
theorem prefix_append_iff_of_last {letter : σ}
    (last : ∀ edge ∈ (letter :: front).getLast?, edge ∉ word.dropLast) (back : List σ) :
    word <+: letter :: front ++ back ↔ word <+: letter :: front := by
  constructor
  · intro stands
    rcases Nat.lt_or_ge (letter :: front).length word.length with long | short
    · have inWord : letter :: front <+: word :=
        List.prefix_of_prefix_length_le (List.prefix_append _ _) stands (Nat.le_of_lt long)
      obtain ⟨gap, rfl⟩ := inWord
      have goesOn : gap ≠ [] := by
        rintro rfl
        simp at long
      apply absurd _ (last _ (List.getLast?_eq_some_getLast (List.cons_ne_nil _ _)))
      rw [List.dropLast_append_of_ne_nil goesOn]
      exact List.mem_append_left _ (List.getLast_mem _)
    · exact List.prefix_of_prefix_length_le stands (List.prefix_append _ _) short
  · intro stands
    exact stands.trans (List.prefix_append _ _)

/-- A word does not stand in a text without its first letter. -/
theorem occurrences_append_of_not_mem {first : σ} {others : List σ} (absent : first ∉ front)
    (back : List σ) :
    occurrences (first :: others) (front ++ back) = occurrences (first :: others) back := by
  induction front with
  | nil => rfl
  | cons letter front inductionHypothesis =>
      rw [List.mem_cons, not_or] at absent
      have here : ¬first :: others <+: letter :: (front ++ back) := by
        rw [List.cons_prefix_cons]
        exact fun stands => absent.1 stands.1
      rw [List.cons_append, occurrences, if_neg here, inductionHypothesis absent.2, Nat.zero_add]

theorem occurrences_of_not_mem {first : σ} {others : List σ} (absent : first ∉ front) :
    occurrences (first :: others) front = 0 := by
  have alone : occurrences (first :: others) (front ++ []) = occurrences (first :: others) [] :=
    occurrences_append_of_not_mem absent []
  rwa [List.append_nil, occurrences_nil] at alone

/-- A text without any letter of the word is foreign to it. -/
theorem Foreign.of_disjoint (notEmpty : word ≠ []) (nonempty : front ≠ [])
    (disjoint : ∀ letter ∈ front, letter ∉ word) : Foreign word front where
  nonempty := nonempty
  first := fun letter isFirst inTail =>
    disjoint letter (List.mem_of_mem_head? isFirst) (List.mem_of_mem_tail inTail)
  last := fun letter isLast inFront =>
    disjoint letter (List.mem_of_mem_getLast? isLast) ((List.dropLast_sublist word).subset inFront)
  absent := by
    obtain ⟨first, others, rfl⟩ := List.exists_cons_of_ne_nil notEmpty
    apply occurrences_of_not_mem
    intro member
    exact disjoint first member List.mem_cons_self

theorem occurrences_append (last : ∀ edge ∈ front.getLast?, edge ∉ word.dropLast)
    (back : List σ) :
    occurrences word (front ++ back) = occurrences word front + occurrences word back := by
  induction front with
  | nil => simp
  | cons letter front inductionHypothesis =>
      have lastOfRest : ∀ edge ∈ front.getLast?, edge ∉ word.dropLast := by
        intro edge isLast
        apply last edge
        rw [List.getLast?_cons, Option.mem_def.mp isLast]
        rfl
      have here := prefix_append_iff_of_last last back
      rw [List.cons_append] at here ⊢
      rw [occurrences, occurrences, inductionHypothesis lastOfRest]
      simp only [here]
      omega

/-- Between foreign texts may stand everything that has not the first letter of the word. -/
theorem Foreign.around {first : σ} {others middle back : List σ}
    (opens : Foreign (first :: others) front) (absent : first ∉ middle)
    (closes : Foreign (first :: others) back) :
    Foreign (first :: others) (front ++ (middle ++ back)) where
  nonempty := by simp [opens.nonempty]
  first := by
    rw [List.head?_append_of_ne_nil _ opens.nonempty]
    exact opens.first
  last := by
    rw [← List.append_assoc, List.getLast?_append_of_ne_nil _ closes.nonempty]
    exact closes.last
  absent := by
    rw [occurrences_append opens.last, occurrences_append_of_not_mem absent, opens.absent,
      closes.absent]

/-! ### Spelled texts -/

section Spelled

variable {write : α → List σ} {segments : List (Segment σ α)}

omit [DecidableEq σ] in
/-- What can only stand within the kept letters of a text shows between its blanks. -/
theorem prefix_spell_iff {part : List σ}
    (detached : ∀ value ∈ values segments, Detached word (write value))
    (within : part ⊆ word.tail) :
    part <+: spell write segments ↔ part.map some <+: blanked segments := by
  induction segments generalizing part with
  | nil => cases part <;> simp
  | cons segment segments inductionHypothesis =>
      cases part with
      | nil => simp
      | cons letter part =>
          rw [List.cons_subset] at within
          cases segment with
          | kept other =>
              rw [spell_kept, blanked_kept, List.map_cons, List.cons_prefix_cons,
                List.cons_prefix_cons, inductionHypothesis detached within.2, Option.some_inj]
          | occurrence value =>
              rw [values_occurrence, List.forall_mem_cons] at detached
              obtain ⟨first, others, written⟩ :=
                List.exists_cons_of_ne_nil detached.1.nonempty
              have apart : letter ≠ first := by
                rintro rfl
                exact detached.1.first letter (by rw [written]; rfl) within.1
              rw [spell_occurrence, written, List.cons_append, List.cons_prefix_cons]
              simp [apart]

/-- The occurrences of a word in a spelled text are those that stand in the kept letters, not across
a blank, and those that stand in what is written for an occurrence. -/
theorem occurrences_spell (notEmpty : word ≠ [])
    (detached : ∀ value ∈ values segments, Detached word (write value)) :
    occurrences word (spell write segments) =
      occurrences (word.map some) (blanked segments) +
        ((values segments).map fun value => occurrences word (write value)).sum := by
  obtain ⟨first, others, rfl⟩ := List.exists_cons_of_ne_nil notEmpty
  induction segments with
  | nil => rfl
  | cons segment segments inductionHypothesis =>
      cases segment with
      | kept letter =>
          rw [values_kept] at detached
          have here : first :: others <+: letter :: spell write segments ↔
              (first :: others).map some <+: some letter :: blanked segments := by
            rw [List.map_cons, List.cons_prefix_cons, List.cons_prefix_cons, Option.some_inj,
              prefix_spell_iff detached (List.Subset.refl others)]
          rw [spell_kept, blanked_kept, occurrences, occurrences, inductionHypothesis detached,
            values_kept]
          simp only [here]
          omega
      | occurrence value =>
          rw [values_occurrence, List.forall_mem_cons] at detached
          have blank : ¬(first :: others).map some <+: none :: blanked segments := by simp
          rw [spell_occurrence, blanked_occurrence, occurrences_append detached.1.last,
            inductionHypothesis detached.2, occurrences, if_neg blank, values_occurrence]
          simp only [List.map_cons, List.sum_cons]
          omega

theorem occurrences_spell_foreign (notEmpty : word ≠ [])
    (foreign : ∀ value ∈ values segments, Foreign word (write value)) :
    occurrences word (spell write segments) =
      occurrences (word.map some) (blanked segments) := by
  have absent : (values segments).map (fun value => occurrences word (write value)) =
      (values segments).map fun _ => 0 :=
    List.map_congr_left fun value member => (foreign value member).absent
  rw [occurrences_spell notEmpty fun value member => (foreign value member).toDetached, absent,
    List.map_const', List.sum_replicate_nat, Nat.mul_zero, Nat.add_zero]

end Spelled

end Occurrences

/-! ### Spans and marks -/

section Marked

variable {isMark : σ → Bool} {width : Nat}

/-- Wrapping spans writes other texts in the place of their marks. -/
theorem exists_spelling_wrapSpans (isMark : σ → Bool) (positive : 0 < width)
    (opening closing text : List σ) :
    ∃ segments : List (Segment σ (List σ × List σ)), spell Prod.fst segments = text ∧
      spell Prod.snd segments = wrapSpans isMark width opening closing text ∧
      ∀ pair ∈ values segments,
        Marks isMark width pair.1 ∧ (pair.2 = opening ∨ pair.2 = closing) := by
  induction text using span_induction isMark positive with
  | nil => exact ⟨[], rfl, rfl, by simp⟩
  | kept letter rest absent inductionHypothesis =>
      obtain ⟨segments, before, after, marks⟩ := inductionHypothesis
      refine ⟨.kept letter :: segments, ?_, ?_, marks⟩
      · rw [spell_kept, before]
      · rw [spell_kept, after, wrapSpans_of_none absent]
  | span left inside right rest isSpan inductionHypothesis =>
      obtain ⟨segments, before, after, marks⟩ := inductionHypothesis
      refine ⟨.occurrence (left, opening) :: (inside.map .kept ++
        .occurrence (right, closing) :: segments), ?_, ?_, ?_⟩
      · rw [spell_occurrence, spell_append, spell_map_kept, spell_occurrence, before]
      · rw [spell_occurrence, spell_append, spell_map_kept, spell_occurrence, after,
          wrapSpans_of_span positive isSpan]
      · rw [values_occurrence, values_append, values_map_kept, List.nil_append, values_occurrence,
          List.forall_mem_cons, List.forall_mem_cons]
        exact ⟨⟨isSpan.left, .inl rfl⟩, ⟨isSpan.right, .inr rfl⟩, marks⟩

theorem exists_spelling_replaceMarks (isMark : σ → Bool) (replacement text : List σ) :
    ∃ segments : List (Segment σ σ), spell (fun mark => [mark]) segments = text ∧
      spell (fun _ => replacement) segments = replaceMarks isMark replacement text ∧
      values segments = text.filter isMark := by
  refine ⟨text.map fun letter => if isMark letter then .occurrence letter else .kept letter, ?_⟩
  induction text with
  | nil => exact ⟨rfl, rfl, rfl⟩
  | cons letter rest inductionHypothesis =>
      obtain ⟨before, after, marks⟩ := inductionHypothesis
      rw [replaceMarks] at after
      rw [List.map_cons, replaceMarks, List.flatMap_cons, List.filter_cons]
      split
      next => simp [before, after, marks]
      next => simp [before, after, marks]

variable [DecidableEq σ] {word : List σ}

/-- Marks are foreign to a word in which there is none. -/
theorem Marks.foreign {marks : List σ} (isMarks : Marks isMark width marks) (positive : 0 < width)
    (notEmpty : word ≠ []) (unmarked : ∀ letter ∈ word, isMark letter = false) :
    Foreign word marks := by
  apply Foreign.of_disjoint notEmpty
  · exact List.ne_nil_of_length_pos (isMarks.length ▸ positive)
  · intro letter inMarks inWord
    have notMark := unmarked letter inWord
    rw [isMarks.all letter inMarks] at notMark
    exact Bool.noConfusion notMark

/-- Where no mark is a letter of the word, wrapping spans by texts that are foreign to it neither
adds an occurrence nor takes one away. -/
theorem occurrences_wrapSpans (notEmpty : word ≠ []) (positive : 0 < width)
    (unmarked : ∀ letter ∈ word, isMark letter = false) {opening closing : List σ}
    (opens : Foreign word opening) (closes : Foreign word closing) (text : List σ) :
    occurrences word (wrapSpans isMark width opening closing text) = occurrences word text := by
  obtain ⟨segments, before, after, marks⟩ :=
    exists_spelling_wrapSpans isMark positive opening closing text
  have foreignMarks : ∀ pair ∈ values segments, Foreign word pair.1 := fun pair member =>
    (marks pair member).1.foreign positive notEmpty unmarked
  have foreignTags : ∀ pair ∈ values segments, Foreign word pair.2 := by
    intro pair member
    rcases (marks pair member).2 with written | written
    · exact written ▸ opens
    · exact written ▸ closes
  calc occurrences word (wrapSpans isMark width opening closing text)
      = occurrences word (spell Prod.snd segments) := by rw [after]
    _ = occurrences (word.map some) (blanked segments) :=
        occurrences_spell_foreign notEmpty foreignTags
    _ = occurrences word (spell Prod.fst segments) :=
        (occurrences_spell_foreign notEmpty foreignMarks).symm
    _ = occurrences word text := by rw [before]

/-- Replacing marks that are no letters of the word adds what stands in each replacement. -/
theorem occurrences_replaceMarks (notEmpty : word ≠ [])
    (unmarked : ∀ letter ∈ word, isMark letter = false) {replacement : List σ}
    (detached : Detached word replacement) (text : List σ) :
    occurrences word (replaceMarks isMark replacement text) =
      occurrences word text + text.countP isMark * occurrences word replacement := by
  obtain ⟨segments, before, after, marks⟩ :=
    exists_spelling_replaceMarks isMark replacement text
  have foreignMarks : ∀ mark ∈ values segments, Foreign word [mark] := by
    intro mark member
    rw [marks, List.mem_filter] at member
    have single : Marks isMark 1 [mark] := ⟨rfl, by simpa using member.2⟩
    exact single.foreign Nat.one_pos notEmpty unmarked
  calc occurrences word (replaceMarks isMark replacement text)
      = occurrences word (spell (fun _ => replacement) segments) := by rw [after]
    _ = occurrences (word.map some) (blanked segments) +
          text.countP isMark * occurrences word replacement := by
        rw [occurrences_spell notEmpty fun _ _ => detached, marks, List.map_const',
          List.sum_replicate_nat, List.countP_eq_length_filter]
    _ = occurrences word text + text.countP isMark * occurrences word replacement := by
        rw [← occurrences_spell_foreign notEmpty foreignMarks, before]

end Marked

end SlideDeck.Text
