import Mathlib.Data.List.Basic
import SlideDeck.Proofs.Text.Cut
import SlideDeck.Proofs.Text.Occurrence
import SlideDeck.Text.Span

/-!
Contract: the laws of spans between marks, for any kind of letters.

Owns:
- `IsSpan`, a span by its parts, and `span_eq_some_iff`;
- one equation of `wrapSpans` for each way the scan goes on, and the induction that follows them;
- `KeepsMarks`, the writing of letters by texts that neither makes nor hides a mark;
  `wrapSpans_flatMap`: wrapping before such a writing is wrapping after it;
- `wrapSpans_injective`: of two texts that are written alike, wrapping confuses none;
- the same two laws of `replaceMarks`.

Does not own: which marks there are.
-/

namespace SlideDeck.Text

variable {σ τ : Type} {isMark : σ → Bool} {width : Nat}

/-! ### Spans by their parts -/

structure Marks (isMark : σ → Bool) (width : Nat) (text : List σ) : Prop where
  length : text.length = width
  all : ∀ letter ∈ text, isMark letter = true

structure IsSpan (isMark : σ → Bool) (width : Nat) (left inside right : List σ) : Prop where
  left : Marks isMark width left
  nonempty : inside ≠ []
  unmarked : ∀ letter ∈ inside, isMark letter = false
  right : Marks isMark width right

theorem afterMarks_eq_some_iff {text behind : List σ} :
    afterMarks isMark width text = some behind ↔
      ∃ marks, Marks isMark width marks ∧ text = marks ++ behind := by
  induction width generalizing text with
  | zero =>
      simp only [afterMarks, Option.some.injEq]
      constructor
      · intro equal
        subst equal
        exact ⟨[], ⟨rfl, by simp⟩, rfl⟩
      · intro given
        obtain ⟨marks, isMarks, rfl⟩ := given
        rw [List.length_eq_zero_iff.mp isMarks.length, List.nil_append]
  | succ width inductionHypothesis =>
      cases text with
      | nil =>
          simp only [afterMarks, reduceCtorEq, false_iff]
          intro given
          obtain ⟨marks, isMarks, empty⟩ := given
          have : marks = [] := (List.append_eq_nil_iff.mp empty.symm).1
          simpa [this] using isMarks.length
      | cons letter rest =>
          simp only [afterMarks]
          split
          next marked =>
            rw [inductionHypothesis]
            constructor
            · intro given
              obtain ⟨marks, isMarks, rfl⟩ := given
              exact ⟨letter :: marks, ⟨by simp [isMarks.length],
                by simpa [marked] using isMarks.all⟩, rfl⟩
            · intro given
              obtain ⟨marks, isMarks, whole⟩ := given
              obtain ⟨mark, others, rfl⟩ :=
                List.exists_cons_of_length_eq_add_one isMarks.length
              obtain ⟨rfl, rfl⟩ := List.cons.inj whole
              exact ⟨others, ⟨by simpa using isMarks.length,
                fun other member => isMarks.all other (List.mem_cons_of_mem _ member)⟩, rfl⟩
          next unmarked =>
            simp only [reduceCtorEq, false_iff]
            intro given
            obtain ⟨marks, isMarks, whole⟩ := given
            obtain ⟨mark, others, rfl⟩ :=
              List.exists_cons_of_length_eq_add_one isMarks.length
            obtain ⟨rfl, -⟩ := List.cons.inj whole
            exact unmarked (isMarks.all letter (by simp))

theorem Marks.eq {first second : List σ} (isFirst : Marks isMark width first)
    (single : ∀ mark other, isMark mark = true → isMark other = true → mark = other)
    (isSecond : Marks isMark width second) : first = second := by
  apply List.ext_getElem (isFirst.length.trans isSecond.length.symm)
  intro index inFirst inSecond
  exact single _ _ (isFirst.all _ (List.getElem_mem inFirst))
    (isSecond.all _ (List.getElem_mem inSecond))

theorem Marks.exists_cons {marks : List σ} (isMarks : Marks isMark width marks)
    (positive : 0 < width) :
    ∃ mark others, marks = mark :: others ∧ isMark mark = true := by
  obtain ⟨mark, others, rfl⟩ :=
    List.exists_cons_of_ne_nil (List.ne_nil_of_length_pos (isMarks.length ▸ positive))
  exact ⟨mark, others, rfl, isMarks.all mark (by simp)⟩

theorem span_eq_some_iff (positive : 0 < width) {text : List σ} {found : Found (List σ)} :
    span isMark width text = some found ↔
      ∃ left inside right rest, IsSpan isMark width left inside right ∧
        text = left ++ (inside ++ (right ++ rest)) ∧
        found = ⟨inside, width + inside.length + width⟩ := by
  constructor
  · intro present
    simp only [span, Option.bind_eq_bind, Option.bind_eq_some_iff] at present
    obtain ⟨behind, opened, present⟩ := present
    obtain ⟨left, isLeft, rfl⟩ := afterMarks_eq_some_iff.mp opened
    split at present
    next first others rest insideEq closed =>
      obtain ⟨right, isRight, behindEq⟩ := afterMarks_eq_some_iff.mp closed
      refine ⟨left, behind.takeWhile (!isMark ·), right, rest,
        ⟨isLeft, by simp [insideEq], ?_, isRight⟩, ?_, by simpa using present.symm⟩
      · intro letter member
        simpa using List.mem_takeWhile_imp member
      · rw [← behindEq, List.takeWhile_append_dropWhile]
    next => simp at present
  · intro given
    obtain ⟨left, inside, right, rest, isSpan, rfl, rfl⟩ := given
    obtain ⟨mark, others, rfl, marked⟩ := isSpan.right.exists_cons positive
    have unmarked : ∀ letter ∈ inside, (!isMark letter) = true := by
      intro letter member
      simp [isSpan.unmarked letter member]
    have opened : afterMarks isMark width (left ++ (inside ++ (mark :: others ++ rest))) =
        some (inside ++ (mark :: others ++ rest)) :=
      afterMarks_eq_some_iff.mpr ⟨left, isSpan.left, rfl⟩
    have closed : afterMarks isMark width (mark :: others ++ rest) = some rest :=
      afterMarks_eq_some_iff.mpr ⟨mark :: others, isSpan.right, rfl⟩
    obtain ⟨insideEq, behindEq⟩ : (inside ++ (mark :: others ++ rest)).takeWhile (!isMark ·) =
        inside ∧ (inside ++ (mark :: others ++ rest)).dropWhile (!isMark ·) =
          mark :: others ++ rest :=
      takeWhile_append_cons unmarked (by rw [marked]; rfl) (others ++ rest)
    simp only [span, opened, Option.bind_eq_bind, Option.bind_some, insideEq, behindEq, closed]
    obtain ⟨first, others, rfl⟩ := List.exists_cons_of_ne_nil isSpan.nonempty
    rfl

theorem span_advances (isMark : σ → Bool) (positive : 0 < width) :
    (span isMark width).Advances := by
  intro text found present
  obtain ⟨left, inside, right, rest, isSpan, rfl, rfl⟩ := (span_eq_some_iff positive).mp present
  simp only [List.length_append, isSpan.left.length, isSpan.right.length]
  omega

theorem span_of_unmarked (positive : 0 < width) {letter : σ} (rest : List σ)
    (unmarked : isMark letter = false) : span isMark width (letter :: rest) = none := by
  obtain ⟨fewer, rfl⟩ := Nat.exists_eq_add_one_of_ne_zero (by omega : width ≠ 0)
  simp [span, afterMarks, unmarked]

/-! ### Wrapping along the scan -/

section Wrapping

variable {opening closing : List σ}

@[simp] theorem wrapSpans_nil : wrapSpans isMark width opening closing [] = [] := rfl

theorem wrapSpans_of_none {letter : σ} {rest : List σ}
    (absent : span isMark width (letter :: rest) = none) :
    wrapSpans isMark width opening closing (letter :: rest) =
      letter :: wrapSpans isMark width opening closing rest := by
  rw [wrapSpans, Pattern.replaceEach, Pattern.segments_of_none _ absent, spell_kept]
  rfl

theorem wrapSpans_of_span (positive : 0 < width) {left inside right : List σ}
    (isSpan : IsSpan isMark width left inside right) (rest : List σ) :
    wrapSpans isMark width opening closing (left ++ (inside ++ (right ++ rest))) =
      opening ++ (inside ++ (closing ++ wrapSpans isMark width opening closing rest)) := by
  have present : span isMark width (left ++ inside ++ right ++ rest) =
      some ⟨inside, width + inside.length + width⟩ :=
    (span_eq_some_iff positive).mpr ⟨left, inside, right, rest, isSpan, by simp, rfl⟩
  have nonempty : left ++ inside ++ right ≠ [] := by
    simp [isSpan.nonempty]
  have extent : width + inside.length + width = (left ++ inside ++ right).length := by
    simp only [List.length_append, isSpan.left.length, isSpan.right.length]
  have cut := Pattern.segments_of_front _ present nonempty extent
  simp only [List.append_assoc] at cut
  rw [wrapSpans, Pattern.replaceEach, cut, spell_occurrence]
  simp only [List.append_assoc]
  rfl

theorem wrapSpans_append_of_unmarked (positive : 0 < width) {front : List σ}
    (unmarked : ∀ letter ∈ front, isMark letter = false) (rest : List σ) :
    wrapSpans isMark width opening closing (front ++ rest) =
      front ++ wrapSpans isMark width opening closing rest := by
  induction front with
  | nil => rfl
  | cons letter others inductionHypothesis =>
      simp only [List.cons_append]
      rw [wrapSpans_of_none (span_of_unmarked positive _ (unmarked letter (by simp))),
        inductionHypothesis fun other member => unmarked other (List.mem_cons_of_mem _ member)]

end Wrapping

theorem span_induction (isMark : σ → Bool) (positive : 0 < width) {motive : List σ → Prop}
    (nil : motive [])
    (kept : ∀ letter rest, span isMark width (letter :: rest) = none → motive rest →
      motive (letter :: rest))
    (span : ∀ left inside right rest, IsSpan isMark width left inside right → motive rest →
      motive (left ++ (inside ++ (right ++ rest))))
    (text : List σ) : motive text := by
  induction text using Pattern.scan_induction _ (span_advances isMark positive) with
  | nil => exact nil
  | kept letter rest absent inductionHypothesis => exact kept letter rest absent inductionHypothesis
  | found front behind found present nonempty extent inductionHypothesis =>
      obtain ⟨left, inside, right, rest, isSpan, whole, rfl⟩ :=
        (span_eq_some_iff positive).mp present
      have parts : front ++ behind = left ++ inside ++ right ++ rest := by
        rw [whole]
        simp only [List.append_assoc]
      have sameLength : front.length = (left ++ inside ++ right).length := by
        rw [← extent]
        simp only [List.length_append, isSpan.left.length, isSpan.right.length]
      obtain ⟨rfl, rfl⟩ := List.append_inj parts sameLength
      simpa only [List.append_assoc] using
        span left inside right behind isSpan inductionHypothesis

/-! ### Writing letters by texts -/

/-- Letters are written by texts: a mark by one mark, any other letter by letters that are no
marks, at least one. -/
structure KeepsMarks (isMark : σ → Bool) (isMark' : τ → Bool) (write : σ → List τ) : Prop where
  mark : ∀ letter, isMark letter = true → ∃ mark, write letter = [mark] ∧ isMark' mark = true
  nonempty : ∀ letter, isMark letter = false → write letter ≠ []
  unmarked : ∀ letter, isMark letter = false → ∀ other ∈ write letter, isMark' other = false

namespace KeepsMarks

variable {isMark' : τ → Bool} {write : σ → List τ} (keeps : KeepsMarks isMark isMark' write)

include keeps

theorem write_ne_nil (letter : σ) : write letter ≠ [] := by
  cases marked : isMark letter with
  | false => exact keeps.nonempty letter marked
  | true =>
      obtain ⟨mark, written, -⟩ := keeps.mark letter marked
      simp [written]

theorem flatMap_eq_nil_iff {text : List σ} : text.flatMap write = [] ↔ text = [] := by
  cases text with
  | nil => simp
  | cons letter rest => simp [keeps.write_ne_nil letter]

theorem unmarked_flatMap {text : List σ} (unmarked : ∀ letter ∈ text, isMark letter = false) :
    ∀ other ∈ text.flatMap write, isMark' other = false := by
  intro other member
  obtain ⟨letter, letterMember, written⟩ := List.mem_flatMap.mp member
  exact keeps.unmarked letter (unmarked letter letterMember) other written

theorem marks_flatMap {text : List σ} (isMarks : Marks isMark width text) :
    Marks isMark' width (text.flatMap write) := by
  induction text generalizing width with
  | nil => exact ⟨isMarks.length, by simp⟩
  | cons letter rest inductionHypothesis =>
      obtain ⟨mark, written, marked⟩ := keeps.mark letter (isMarks.all letter (by simp))
      have rest := inductionHypothesis
        ⟨rfl, fun other member => isMarks.all other (List.mem_cons_of_mem _ member)⟩
      constructor
      · simpa [written, rest.length] using isMarks.length
      · simpa [written, marked] using rest.all

theorem isSpan_flatMap {left inside right : List σ}
    (isSpan : IsSpan isMark width left inside right) :
    IsSpan isMark' width (left.flatMap write) (inside.flatMap write) (right.flatMap write) where
  left := keeps.marks_flatMap isSpan.left
  nonempty := fun empty => isSpan.nonempty (keeps.flatMap_eq_nil_iff.mp empty)
  unmarked := keeps.unmarked_flatMap isSpan.unmarked
  right := keeps.marks_flatMap isSpan.right

theorem afterMarks_flatMap (width : Nat) (text : List σ) :
    afterMarks isMark' width (text.flatMap write) =
      (afterMarks isMark width text).map (·.flatMap write) := by
  induction width generalizing text with
  | zero => rfl
  | succ width inductionHypothesis =>
      cases text with
      | nil => rfl
      | cons letter rest =>
          cases marked : isMark letter with
          | true =>
              obtain ⟨mark, written, markMarked⟩ := keeps.mark letter marked
              simp [written, afterMarks, marked, markMarked, inductionHypothesis]
          | false =>
              obtain ⟨first, others, written⟩ :=
                List.exists_cons_of_ne_nil (keeps.nonempty letter marked)
              have unmarked : isMark' first = false :=
                keeps.unmarked letter marked first (by simp [written])
              simp [written, afterMarks, marked, unmarked]

theorem takeWhile_dropWhile_flatMap (text : List σ) :
    (text.flatMap write).takeWhile (!isMark' ·) = (text.takeWhile (!isMark ·)).flatMap write ∧
      (text.flatMap write).dropWhile (!isMark' ·) =
        (text.dropWhile (!isMark ·)).flatMap write := by
  induction text with
  | nil => simp
  | cons letter rest inductionHypothesis =>
      cases marked : isMark letter with
      | true =>
          obtain ⟨mark, written, markMarked⟩ := keeps.mark letter marked
          simp [written, marked, markMarked]
      | false =>
          have unmarked : ∀ other ∈ write letter, (!isMark' other) = true := by
            intro other member
            simp [keeps.unmarked letter marked other member]
          rw [List.flatMap_cons, List.takeWhile_append_of_pos unmarked,
            List.dropWhile_append_of_pos unmarked, inductionHypothesis.1, inductionHypothesis.2]
          simp [marked]

theorem span_flatMap (width : Nat) (text : List σ) :
    span isMark' width (text.flatMap write) =
      (span isMark width text).map fun found =>
        ⟨found.value.flatMap write, width + (found.value.flatMap write).length + width⟩ := by
  simp only [span, keeps.afterMarks_flatMap]
  cases afterMarks isMark width text with
  | none => rfl
  | some behind =>
      obtain ⟨takeEq, dropEq⟩ := keeps.takeWhile_dropWhile_flatMap behind
      simp only [Option.map_some, Option.bind_eq_bind, Option.bind_some, takeEq, dropEq,
        keeps.afterMarks_flatMap]
      cases insideEq : behind.takeWhile (!isMark ·) with
      | nil => rfl
      | cons first others =>
          obtain ⟨head, tail, written⟩ :=
            List.exists_cons_of_ne_nil (keeps.write_ne_nil first)
          cases afterMarks isMark width (behind.dropWhile (!isMark ·)) with
          | none => simp [written]
          | some rest =>
              simp [written]
              omega

/-- Wrapping spans commutes with writing letters by texts. -/
theorem wrapSpans_flatMap (positive : 0 < width) (opening closing text : List σ) :
    wrapSpans isMark' width (opening.flatMap write) (closing.flatMap write) (text.flatMap write) =
      (wrapSpans isMark width opening closing text).flatMap write := by
  induction text using span_induction isMark positive with
  | nil => rfl
  | kept letter rest absent inductionHypothesis =>
      have absent' := keeps.span_flatMap width (letter :: rest)
      rw [absent, Option.map_none] at absent'
      rw [wrapSpans_of_none absent]
      simp only [List.flatMap_cons] at absent' ⊢
      rw [← inductionHypothesis]
      cases marked : isMark letter with
      | true =>
          obtain ⟨mark, written, -⟩ := keeps.mark letter marked
          rw [written] at absent' ⊢
          exact wrapSpans_of_none absent'
      | false =>
          exact wrapSpans_append_of_unmarked positive (keeps.unmarked letter marked) _
  | span left inside right rest isSpan inductionHypothesis =>
      rw [wrapSpans_of_span positive isSpan]
      simp only [List.flatMap_append]
      rw [wrapSpans_of_span positive (keeps.isSpan_flatMap isSpan), inductionHypothesis]

theorem wrapSpans_alike (positive : 0 < width) (opening closing : List σ) {first second : List σ}
    (alike : first.flatMap write = second.flatMap write) :
    (wrapSpans isMark width opening closing first).flatMap write =
      (wrapSpans isMark width opening closing second).flatMap write := by
  rw [← keeps.wrapSpans_flatMap positive, alike, keeps.wrapSpans_flatMap positive]

theorem span_alike (width : Nat) {first second : List σ}
    (alike : first.flatMap write = second.flatMap write) :
    ((span isMark width first).map fun found => found.value.flatMap write) =
      (span isMark width second).map fun found => found.value.flatMap write := by
  have same := keeps.span_flatMap width first
  rw [alike, keeps.span_flatMap] at same
  simpa [Function.comp_def] using congrArg (Option.map Found.value) same.symm

theorem front_eq {front other rest otherRest : List σ}
    (alike : front.flatMap write = other.flatMap write)
    (whole : front ++ rest = other ++ otherRest) : front = other := by
  rcases List.append_eq_append_iff.mp whole with ⟨gap, rfl, -⟩ | ⟨gap, rfl, -⟩
  · rw [List.flatMap_append] at alike
    have empty := keeps.flatMap_eq_nil_iff.mp (List.self_eq_append_right.mp alike)
    rw [empty, List.append_nil]
  · rw [List.flatMap_append] at alike
    have empty := keeps.flatMap_eq_nil_iff.mp (List.append_right_eq_self.mp alike)
    rw [empty, List.append_nil]

/-- Where there is one mark only, wrapping confuses no two texts that are written alike. -/
theorem wrapSpans_injective (positive : 0 < width)
    (single : ∀ mark other, isMark mark = true → isMark other = true → mark = other)
    (opening closing : List σ) {first second : List σ}
    (alike : first.flatMap write = second.flatMap write)
    (equal : wrapSpans isMark width opening closing first =
      wrapSpans isMark width opening closing second) : first = second := by
  induction first using span_induction isMark positive generalizing second with
  | nil => exact (keeps.flatMap_eq_nil_iff.mp alike.symm).symm
  | kept letter rest absent inductionHypothesis =>
      have absent' := keeps.span_alike width alike
      rw [absent, Option.map_none, eq_comm, Option.map_eq_none_iff] at absent'
      cases second with
      | nil => exact absurd (keeps.flatMap_eq_nil_iff.mp alike) (by simp)
      | cons other others =>
          rw [wrapSpans_of_none absent, wrapSpans_of_none absent'] at equal
          obtain ⟨rfl, restEqual⟩ := List.cons.inj equal
          rw [List.flatMap_cons, List.flatMap_cons, List.append_cancel_left_eq] at alike
          rw [inductionHypothesis alike restEqual]
  | span left inside right rest isSpan inductionHypothesis =>
      have present := keeps.span_alike width alike
      rw [(span_eq_some_iff positive).mpr ⟨left, inside, right, rest, isSpan, rfl, rfl⟩,
        Option.map_some, eq_comm, Option.map_eq_some_iff] at present
      obtain ⟨found, present, insideAlike⟩ := present
      obtain ⟨left', inside', right', rest', isSpan', rfl, rfl⟩ :=
        (span_eq_some_iff positive).mp present
      rw [wrapSpans_of_span positive isSpan, wrapSpans_of_span positive isSpan',
        List.append_cancel_left_eq] at equal
      -- The insides are equal first; then the rest, and the marks since there is one mark only.
      obtain rfl := keeps.front_eq insideAlike.symm equal
      rw [List.append_cancel_left_eq, List.append_cancel_left_eq] at equal
      obtain rfl := isSpan.left.eq single isSpan'.left
      obtain rfl := isSpan.right.eq single isSpan'.right
      simp only [List.flatMap_append, List.append_cancel_left_eq] at alike
      rw [inductionHypothesis alike equal]

theorem isMark_alike {letter other : σ} {rest others : List σ}
    (alike : (letter :: rest).flatMap write = (other :: others).flatMap write) :
    isMark letter = isMark other := by
  simp only [List.flatMap_cons] at alike
  have headMark : ∀ (letter : σ) (first : τ) (tail behind : List τ),
      write letter ++ behind = first :: tail → isMark' first = isMark letter := by
    intro letter first tail behind written
    cases marked : isMark letter with
    | true =>
        obtain ⟨mark, single, markMarked⟩ := keeps.mark letter marked
        rw [single] at written
        rw [← (List.cons.inj written).1, markMarked]
    | false =>
        obtain ⟨head, tail, nonempty⟩ := List.exists_cons_of_ne_nil (keeps.nonempty letter marked)
        rw [nonempty] at written
        rw [← (List.cons.inj written).1]
        exact keeps.unmarked letter marked head (by simp [nonempty])
  obtain ⟨first, tail, nonempty⟩ := List.exists_cons_of_ne_nil (keeps.write_ne_nil letter)
  rw [← headMark letter first (tail ++ rest.flatMap write) _ (by rw [nonempty]; rfl)]
  exact headMark other first (tail ++ rest.flatMap write) _ (by rw [← alike, nonempty]; rfl)

theorem replaceMarks_flatMap (replacement text : List σ) :
    replaceMarks isMark' (replacement.flatMap write) (text.flatMap write) =
      (replaceMarks isMark replacement text).flatMap write := by
  simp only [replaceMarks, List.flatMap_assoc]
  congr 1
  funext letter
  cases marked : isMark letter with
  | true =>
      obtain ⟨mark, written, markMarked⟩ := keeps.mark letter marked
      simp [written, markMarked]
  | false =>
      have unmarked := keeps.unmarked letter marked
      have kept : (write letter).flatMap
          (fun other => if isMark' other then replacement.flatMap write else [other]) =
          (write letter).flatMap fun other => [other] :=
        List.flatMap_congr fun other member => by simp [unmarked other member]
      simpa [marked] using kept

theorem replaceMarks_injective
    (single : ∀ mark other, isMark mark = true → isMark other = true → mark = other)
    (replacement : List σ) {first second : List σ}
    (alike : first.flatMap write = second.flatMap write)
    (equal : replaceMarks isMark replacement first = replaceMarks isMark replacement second) :
    first = second := by
  induction first generalizing second with
  | nil => exact (keeps.flatMap_eq_nil_iff.mp alike.symm).symm
  | cons letter rest inductionHypothesis =>
      cases second with
      | nil => exact absurd (keeps.flatMap_eq_nil_iff.mp alike) (by simp)
      | cons other others =>
          have sameMark := keeps.isMark_alike alike
          have same : letter = other := by
            cases marked : isMark letter with
            | true => exact single letter other marked (sameMark ▸ marked)
            | false => simpa [replaceMarks, marked, ← sameMark] using (congrArg List.head? equal)
          subst same
          simp only [replaceMarks, List.flatMap_cons, List.append_cancel_left_eq] at alike equal
          rw [inductionHypothesis alike equal]

end KeepsMarks

end SlideDeck.Text
