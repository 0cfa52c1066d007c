import SlideDeck.Proofs.Rendering.Tags
import SlideDeck.Proofs.Text.Places

/-!
Contract: when spans written as elements leave a text nested.

Every letter of a text stands for some tags. Spans of one kind are written as elements of one name
first, then spans of another kind as elements of another name. The second writing keeps the text
nested exactly if no place of the one kind crosses one of the other kind.

Owns:
- `Closed`, tags that close what they open and nothing else;
- `run_wrapSpans_iff`: wrapping keeps tags closed exactly if what is wrapped is closed;
- `closed_piece_iff`: a piece of a wrapped text is closed exactly if no place is cut at one end.

Does not own: which letters stand for which tags.
-/

namespace SlideDeck.Markup

open SlideDeck.Text

/-! ### Closed tags -/

/-- Tags that close what they open, in the order of elements, and nothing else. -/
def Closed (tags : List Tag) : Prop :=
  run [] tags = some []

instance (tags : List Tag) : Decidable (Closed tags) :=
  inferInstanceAs (Decidable (_ = _))

theorem closed_nil : Closed [] := rfl

theorem Closed.run_eq {tags : List Tag} (closed : Closed tags) (opened : Open) :
    run opened tags = some opened := by
  simpa using run_around closed opened

theorem Closed.run_append {tags : List Tag} (closed : Closed tags) (opened : Open)
    (rest : List Tag) : run opened (tags ++ rest) = run opened rest := by
  rw [Markup.run_append, closed.run_eq, Option.bind_some]

/-- Closing a name closes an element with other tags in between only if those are closed. -/
theorem closed_of_run {name attributes : String} {tags rest : List Tag} {opened after : Open}
    (other : ∀ tag ∈ tags, tag.name ≠ name)
    (ran : run ((name, attributes) :: opened) (tags ++ .closed name :: rest) = some after) :
    Closed tags ∧ run opened rest = some after := by
  suffices general : ∀ inner : Open, (∀ element ∈ inner, element.1 ≠ name) →
      run (inner ++ (name, attributes) :: opened) (tags ++ .closed name :: rest) = some after →
      run inner tags = some [] ∧ run opened rest = some after from
    general [] (by simp) ran
  clear ran
  induction tags with
  | nil =>
      intro inner different ran
      cases inner with
      | nil =>
          simp only [List.nil_append, run, if_true] at ran
          exact ⟨rfl, ran⟩
      | cons last inner =>
          simp only [List.nil_append, List.cons_append, run] at ran
          rw [if_neg (different last List.mem_cons_self)] at ran
          simp at ran
  | cons tag tags inductionHypothesis =>
      rw [List.forall_mem_cons] at other
      intro inner different ran
      cases tag with
      | opened otherName otherAttributes =>
          refine inductionHypothesis other.2 ((otherName, otherAttributes) :: inner) ?_ ran
          exact List.forall_mem_cons.mpr ⟨other.1, different⟩
      | closed otherName =>
          cases inner with
          | nil =>
              simp only [List.nil_append, List.cons_append, run] at ran
              rw [if_neg fun equal => other.1 equal.symm] at ran
              simp at ran
          | cons last inner =>
              simp only [List.cons_append, run] at ran ⊢
              split at ran
              next same =>
                rw [if_pos same]
                exact inductionHypothesis other.2 inner (List.forall_mem_cons.mp different).2 ran
              next => simp at ran

/-! ### Letters that stand for tags -/

section Wrapped

variable {σ : Type} {tagsOf : σ → List Tag} {isMark : σ → Bool} {name attributes : String}
  {text : List σ}

theorem closed_flatMap (closed : ∀ letter ∈ text, Closed (tagsOf letter)) :
    Closed (text.flatMap tagsOf) := by
  induction text with
  | nil => exact closed_nil
  | cons letter text inductionHypothesis =>
      rw [List.forall_mem_cons] at closed
      rw [List.flatMap_cons, Closed, closed.1.run_append]
      exact inductionHypothesis closed.2

theorem flatMap_eq_nil_of_marks {width : Nat} {marks : List σ}
    (tagless : ∀ letter, isMark letter = true → tagsOf letter = [])
    (isMarks : Marks isMark width marks) : marks.flatMap tagsOf = [] := by
  rw [List.flatMap_eq_nil_iff]
  intro letter member
  exact tagless letter (isMarks.all letter member)

variable {opening closing : σ} (opens : tagsOf opening = [.opened name attributes])
  (closes : tagsOf closing = [.closed name])

include opens closes

/-- Spans of letters that are closed each are closed elements. -/
theorem closed_wrapSpans {width : Nat} (positive : 0 < width)
    (closed : ∀ letter ∈ text, Closed (tagsOf letter)) :
    Closed ((wrapSpans isMark width [opening] [closing] text).flatMap tagsOf) := by
  induction text using span_induction isMark positive with
  | nil => exact closed_nil
  | kept letter rest absent inductionHypothesis =>
      rw [List.forall_mem_cons] at closed
      rw [wrapSpans_of_none absent, List.flatMap_cons, Closed, closed.1.run_append]
      exact inductionHypothesis closed.2
  | span left inside right rest isSpan inductionHypothesis =>
      simp only [List.forall_mem_append] at closed
      obtain ⟨-, closedInside, -, closedRest⟩ := closed
      rw [wrapSpans_of_span positive isSpan]
      simp only [List.flatMap_append, List.flatMap_cons, List.flatMap_nil, List.append_nil, opens,
        closes]
      rw [Closed, List.singleton_append, run, (closed_flatMap closedInside).run_append,
        List.singleton_append, run, if_pos rfl]
      exact inductionHypothesis closedRest

/-- Where the tags of a text can be followed, they can be followed with spans as elements exactly
if the tags of every span are closed. -/
theorem run_wrapSpans_iff {width : Nat} (positive : 0 < width)
    (tagless : ∀ letter, isMark letter = true → tagsOf letter = [])
    (other : ∀ letter ∈ text, ∀ tag ∈ tagsOf letter, tag.name ≠ name) {opened after : Open}
    (ran : run opened (text.flatMap tagsOf) = some after) :
    run opened ((wrapSpans isMark width [opening] [closing] text).flatMap tagsOf) = some after ↔
      ∀ place ∈ (span isMark width).places text,
        Closed ((piece place.start place.stop text).flatMap tagsOf) := by
  induction text using span_induction isMark positive generalizing opened with
  | nil => simpa [Pattern.places_nil] using ran
  | kept letter rest absent inductionHypothesis =>
      rw [List.forall_mem_cons] at other
      rw [List.flatMap_cons, run_append, Option.bind_eq_some_iff] at ran
      obtain ⟨between, first, ranRest⟩ := ran
      rw [wrapSpans_of_none absent, List.flatMap_cons, run_append, first, Option.bind_some,
        inductionHypothesis other.2 ranRest]
      exact (forall_pieces_of_none (motive := fun part => Closed (part.flatMap tagsOf))
        absent).symm
  | span left inside right rest isSpan inductionHypothesis =>
      simp only [List.forall_mem_append] at other
      obtain ⟨-, otherInside, -, otherRest⟩ := other
      have otherTags : ∀ tag ∈ inside.flatMap tagsOf, tag.name ≠ name := by
        intro tag member
        obtain ⟨letter, letterMember, tagMember⟩ := List.mem_flatMap.mp member
        exact otherInside letter letterMember tag tagMember
      have noLeft := flatMap_eq_nil_of_marks tagless isSpan.left
      have noRight := flatMap_eq_nil_of_marks tagless isSpan.right
      simp only [List.flatMap_append, noLeft, noRight, List.nil_append] at ran
      refine Iff.trans ?_ (forall_pieces_of_span
        (motive := fun part => Closed (part.flatMap tagsOf)) positive isSpan rest).symm
      rw [wrapSpans_of_span positive isSpan]
      simp only [List.flatMap_append, List.flatMap_cons, List.flatMap_nil, List.append_nil, opens,
        closes, noLeft, noRight, List.nil_append]
      rw [List.singleton_append, List.singleton_append, run]
      constructor
      · intro wrapped
        obtain ⟨closed, wrappedRest⟩ := closed_of_run otherTags wrapped
        rw [closed.run_append] at ran
        exact ⟨closed, (inductionHypothesis otherRest ran).mp wrappedRest⟩
      · rintro ⟨closed, pieces⟩
        rw [closed.run_append] at ran ⊢
        rw [run, if_pos rfl]
        exact (inductionHypothesis otherRest ran).mpr pieces

end Wrapped

/-! ### Pieces of a wrapped text -/

section Pieces

variable {σ : Type} {isMark : σ → Bool} {text : List σ} {opening closing : σ}

/-- What stands in a text in which spans between single marks are wrapped by single letters, at a
place and within it. -/
structure StandsAt (text wrapped : List σ) (opening closing : σ) (place : Region) : Prop where
  long : place.start + 2 < place.stop
  first : wrapped[place.start]? = some opening
  last : wrapped[place.stop - 1]? = some closing
  within : ∀ position letter, place.start < position → position < place.stop - 1 →
    wrapped[position]? = some letter → letter ∈ text

theorem StandsAt.shift {wrapped : List σ} {place : Region}
    (stands : StandsAt text wrapped opening closing place) {more : List σ}
    (kept : ∀ letter ∈ text, letter ∈ more) (front : List σ) :
    StandsAt more (front ++ wrapped) opening closing (place.shift front.length) := by
  obtain ⟨long, first, last, within⟩ := stands
  refine ⟨?_, ?_, ?_, ?_⟩
  · simp only [Region.shift]
    omega
  · rw [Region.getElem?_start_shift, first]
  · rw [Region.getElem?_last_shift front wrapped (by omega), last]
  · simp only [Region.shift]
    intro position letter after before present
    rw [List.getElem?_append_right (by omega)] at present
    exact kept letter (within (position - front.length) letter (by omega) (by omega) present)

/-- The marks of a span of single marks are as long as the letters that take their place. -/
theorem length_of_isSpan {left inside right : List σ}
    (isSpan : IsSpan isMark 1 left inside right) (opening closing : σ) :
    (left ++ (inside ++ right)).length = ([opening] ++ (inside ++ [closing])).length := by
  simp only [List.length_append, isSpan.left.length, isSpan.right.length, List.length_singleton]

theorem standsAt_of_isSpan {left inside right : List σ}
    (isSpan : IsSpan isMark 1 left inside right) (kept : ∀ letter ∈ inside, letter ∈ text)
    (rest : List σ) :
    StandsAt text ([opening] ++ (inside ++ ([closing] ++ rest))) opening closing
      ⟨0, (left ++ (inside ++ right)).length⟩ := by
  have positive := List.length_pos_iff.mpr isSpan.nonempty
  have length : (left ++ (inside ++ right)).length = inside.length + 2 := by
    rw [length_of_isSpan isSpan opening closing]
    simp only [List.length_append, List.length_singleton]
    omega
  rw [length]
  refine ⟨by simpa using positive, rfl, ?_, ?_⟩
  · simp only [Nat.add_one_sub_one, List.singleton_append]
    rw [List.getElem?_cons_succ, List.getElem?_append_right (Nat.le_refl _), Nat.sub_self]
    rfl
  · intro position letter after before present
    dsimp only at after before
    obtain ⟨position, rfl⟩ := Nat.exists_eq_add_one_of_ne_zero (Nat.ne_of_gt after)
    rw [List.singleton_append, List.getElem?_cons_succ, List.getElem?_append_left (by omega)]
      at present
    exact kept letter (List.mem_of_getElem? present)

theorem standsAt_of_mem_places {place : Region} (member : place ∈ (span isMark 1).places text) :
    StandsAt text (wrapSpans isMark 1 [opening] [closing] text) opening closing place := by
  induction text using span_induction isMark Nat.one_pos generalizing place with
  | nil => simp [Pattern.places_nil] at member
  | kept letter rest absent inductionHypothesis =>
      rw [Pattern.places_of_none absent, List.mem_map] at member
      obtain ⟨place, inRest, rfl⟩ := member
      rw [wrapSpans_of_none absent]
      exact (inductionHypothesis inRest).shift (fun _ => List.mem_cons_of_mem _) [letter]
  | span left inside right rest isSpan inductionHypothesis =>
      rw [places_of_span Nat.one_pos isSpan, List.mem_cons, List.mem_map] at member
      rw [wrapSpans_of_span Nat.one_pos isSpan]
      rcases member with rfl | ⟨place, inRest, rfl⟩
      · exact standsAt_of_isSpan isSpan (by simp +contextual) _
      · have kept : ∀ letter ∈ rest, letter ∈ left ++ (inside ++ (right ++ rest)) := by
          simp +contextual
        have shifted := (inductionHypothesis inRest).shift kept ([opening] ++ (inside ++ [closing]))
        rw [length_of_isSpan isSpan opening closing]
        simpa only [List.append_assoc] using shifted

variable {tagsOf : σ → List Tag} {name attributes : String}
  (opens : tagsOf opening = [.opened name attributes]) (closes : tagsOf closing = [.closed name])
  (closed : ∀ letter ∈ text, Closed (tagsOf letter))

include opens closes closed

/-- In front of a position that lies within no place, a wrapped text is closed. -/
theorem closed_take {position : Nat}
    (uncut : ∀ place ∈ (span isMark 1).places text,
      ¬(place.start < position ∧ position < place.stop)) :
    Closed (((wrapSpans isMark 1 [opening] [closing] text).take position).flatMap tagsOf) := by
  induction text using span_induction isMark Nat.one_pos generalizing position with
  | nil =>
      rw [wrapSpans_nil, List.take_nil]
      exact closed_nil
  | kept letter rest absent inductionHypothesis =>
      rw [List.forall_mem_cons] at closed
      rw [Pattern.places_of_none absent, List.forall_mem_map] at uncut
      cases position with
      | zero => exact closed_nil
      | succ position =>
          rw [wrapSpans_of_none absent, List.take_succ_cons, List.flatMap_cons, Closed,
            closed.1.run_append]
          refine inductionHypothesis closed.2 ?_
          rintro place member ⟨before, behind⟩
          exact uncut place member ⟨Nat.succ_lt_succ before, Nat.succ_lt_succ behind⟩
  | span left inside right rest isSpan inductionHypothesis =>
      simp only [List.forall_mem_append] at closed
      obtain ⟨-, closedInside, -, closedRest⟩ := closed
      rw [places_of_span Nat.one_pos isSpan, List.forall_mem_cons, List.forall_mem_map,
        length_of_isSpan isSpan opening closing] at uncut
      rw [wrapSpans_of_span Nat.one_pos isSpan]
      rcases Nat.eq_zero_or_pos position with rfl | positive
      · exact closed_nil
      obtain ⟨beyond, rfl⟩ := Nat.exists_eq_add_of_le
        (Nat.le_of_not_lt fun behind => uncut.1 ⟨positive, behind⟩)
      have uncutRest : ∀ place ∈ (span isMark 1).places rest,
          ¬(place.start < beyond ∧ beyond < place.stop) := by
        rintro place member ⟨before, behind⟩
        refine uncut.2 place member ?_
        simp only [Region.shift]
        omega
      have whole : ([opening] ++ (inside ++ ([closing] ++
          wrapSpans isMark 1 [opening] [closing] rest))) =
          ([opening] ++ (inside ++ [closing])) ++ wrapSpans isMark 1 [opening] [closing] rest := by
        simp only [List.append_assoc]
      rw [whole, List.take_length_add_append]
      simp only [List.flatMap_append, List.flatMap_cons, List.flatMap_nil, List.append_nil, opens,
        closes, List.append_assoc]
      rw [Closed, List.singleton_append, run, (closed_flatMap closedInside).run_append,
        List.singleton_append, run, if_pos rfl]
      exact inductionHypothesis closedRest uncutRest

/-- A piece of a wrapped text is closed exactly if it holds both ends of a place or none. -/
theorem closed_piece_iff {start stop : Nat} (ordered : start ≤ stop) :
    Closed ((piece start stop (wrapSpans isMark 1 [opening] [closing] text)).flatMap tagsOf) ↔
      ∀ place ∈ (span isMark 1).places text,
        (start ≤ place.start ∧ place.start < stop ↔
          start ≤ place.stop - 1 ∧ place.stop - 1 < stop) := by
  generalize wrappedEq : wrapSpans isMark 1 [opening] [closing] text = wrapped
  have stands : ∀ place ∈ (span isMark 1).places text,
      StandsAt text wrapped opening closing place := by
    intro place member
    rw [← wrappedEq]
    exact standsAt_of_mem_places member
  -- Between the ends of a place there are letters of the text only, and those are closed.
  have closedWithin : ∀ place ∈ (span isMark 1).places text, ∀ first last : Nat,
      place.start < first → last ≤ place.stop - 1 →
        Closed ((piece first last wrapped).flatMap tagsOf) := by
    intro place member first last after before
    refine closed_flatMap fun letter letterMember => ?_
    obtain ⟨position, fromFirst, toLast, present⟩ := exists_position_of_mem_piece letterMember
    exact closed letter ((stands place member).within position letter (by omega) (by omega) present)
  constructor
  · intro whole place member
    obtain ⟨long, first, last, -⟩ := stands place member
    constructor
    · rintro ⟨fromStart, beforeStop⟩
      by_contra split
      have behind := closedWithin place member (place.start + 1) stop (by omega) (by omega)
      rw [piece_split fromStart beforeStop.le, piece_head first beforeStop, List.flatMap_append,
        List.flatMap_cons, opens, Closed, run_append, Option.bind_eq_some_iff] at whole
      obtain ⟨opened, -, ran⟩ := whole
      rw [List.singleton_append, run, behind.run_eq] at ran
      simp at ran
    · rintro ⟨fromStart, beforeStop⟩
      by_contra split
      have before := closedWithin place member start (place.stop - 1) (by omega) (Nat.le_refl _)
      rw [piece_split fromStart beforeStop.le, piece_head last beforeStop, List.flatMap_append,
        List.flatMap_cons, closes, Closed, before.run_append] at whole
      simp [run] at whole
  · intro both
    by_cases cut : ∃ place ∈ (span isMark 1).places text, place.start < start ∧ start < place.stop
    · obtain ⟨place, member, before, behind⟩ := cut
      have held := both place member
      exact closedWithin place member start stop before (by omega)
    · have uncutStart : ∀ place ∈ (span isMark 1).places text,
          ¬(place.start < start ∧ start < place.stop) := by
        intro place member cutHere
        exact cut ⟨place, member, cutHere⟩
      have uncutStop : ∀ place ∈ (span isMark 1).places text,
          ¬(place.start < stop ∧ stop < place.stop) := by
        intro place member cutHere
        have held := both place member
        have notCut := uncutStart place member
        omega
      have front := closed_take opens closes closed uncutStart
      have whole := closed_take opens closes closed uncutStop
      rw [wrappedEq] at front whole
      rw [← piece_zero, piece_split (Nat.zero_le start) ordered, List.flatMap_append, piece_zero,
        Closed, front.run_append] at whole
      exact whole

/-- Spans of two kinds, those of the first kind between single marks, give closed tags exactly if
no place of the one kind crosses one of the other kind. -/
theorem closed_wrapSpans_wrapSpans_iff {isMark' : σ → Bool} {width : Nat} {opening' closing' : σ}
    {name' attributes' : String} (positive : 0 < width)
    (opens' : tagsOf opening' = [.opened name' attributes'])
    (closes' : tagsOf closing' = [.closed name'])
    (tagless : ∀ letter, isMark' letter = true → tagsOf letter = []) {wrapped : List σ}
    (isWrapped : wrapSpans isMark 1 [opening] [closing] text = wrapped)
    (other : ∀ letter ∈ wrapped, ∀ tag ∈ tagsOf letter, tag.name ≠ name') :
    Closed ((wrapSpans isMark' width [opening'] [closing'] wrapped).flatMap tagsOf) ↔
      ∀ first ∈ (span isMark 1).places text, ∀ second ∈ (span isMark' width).places wrapped,
        ¬first.Cross second := by
  have ran : run [] (wrapped.flatMap tagsOf) = some [] := by
    rw [← isWrapped]
    exact closed_wrapSpans opens closes Nat.one_pos closed
  have apart : ∀ {letter mark : σ}, tagsOf letter ≠ [] → isMark' mark = true → letter ≠ mark := by
    rintro letter mark hasTags marked rfl
    exact hasTags (tagless letter marked)
  rw [Closed, run_wrapSpans_iff opens' closes' positive tagless other ran]
  have each : ∀ second ∈ (span isMark' width).places wrapped,
      (Closed ((piece second.start second.stop wrapped).flatMap tagsOf) ↔
        ∀ first ∈ (span isMark 1).places text, ¬first.Cross second) := by
    intro second member
    obtain ⟨secondLong, ⟨startMark, atStart, startMarked⟩, ⟨stopMark, atStop, stopMarked⟩⟩ :=
      isEnclosed_of_mem_places positive member
    have ordered : second.start ≤ second.stop := by omega
    rw [← isWrapped, closed_piece_iff opens closes closed ordered]
    refine forall₂_congr fun first firstMember => ?_
    have stands : StandsAt text wrapped opening closing first := by
      rw [← isWrapped]
      exact standsAt_of_mem_places firstMember
    have startsApart : first.start ≠ second.start := by
      intro equal
      have atFirst := stands.first
      rw [equal, atStart] at atFirst
      exact apart (by simp [opens]) startMarked (Option.some.inj atFirst).symm
    have stopsApart : first.stop ≠ second.stop := by
      intro equal
      have atLast := stands.last
      rw [equal, atStop] at atLast
      exact apart (by simp [closes]) stopMarked (Option.some.inj atLast).symm
    exact (Region.not_cross_iff stands.long secondLong startsApart stopsApart).symm
  constructor
  · intro pieces first firstMember second secondMember
    exact (each second secondMember).mp (pieces second secondMember) first firstMember
  · intro apart second secondMember
    refine (each second secondMember).mpr ?_
    intro first firstMember
    exact apart first firstMember second secondMember

end Pieces

end SlideDeck.Markup
