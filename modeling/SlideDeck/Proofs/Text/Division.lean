import SlideDeck.Proofs.Text.Delimited

/-!
Contract: texts divided along the leftmost runs of a form.

A form says which runs of letters are occurrences, and what each of them stands for. It is stated
without a scan: the letters of a run decide. A text is divided along a form if every part ends with
a run, and no run begins among the letters that are kept in front of it, nor among those behind the
last one, whatever may follow them.

Owns:
- `Form`, `Division` and the relation `Divides`;
- `Pattern.Finds`: a pattern finds the runs of a form, and nothing else;
- the one division of a text along a form that a pattern finds, and that it is what the scan finds;
- `Substitutes`, a text in which every run of the division is written anew.

Does not own: any particular form.
-/

namespace SlideDeck.Text

variable {σ α : Type}

/-- Which runs of letters are occurrences, and what each of them stands for. -/
abbrev Form (σ α : Type) := α → List σ → Prop

/-- A run with the letters that are kept in front of it. -/
structure Part (σ α : Type) where
  kept : List σ
  run : List σ
  value : α

/-- A text in parts, and the letters behind the last run. -/
structure Division (σ α : Type) where
  parts : List (Part σ α)
  last : List σ

/-- A run of a form begins at the front of a text. -/
def Begins (form : Form σ α) (text : List σ) : Prop :=
  ∃ value run, form value run ∧ run <+: text

/-- No run of a form begins among letters with a text behind them. -/
def Clear (form : Form σ α) (kept rest : List σ) : Prop :=
  ∀ start < kept.length, ¬Begins form ((kept ++ rest).drop start)

/-- A text is divided along the leftmost runs of a form, none of which overlaps the one before. -/
inductive Divides (form : Form σ α) : List σ → Division σ α → Prop where
  | last {kept : List σ} (clear : Clear form kept []) : Divides form kept ⟨[], kept⟩
  | part {kept run rest last : List σ} {value : α} {parts : List (Part σ α)}
      (clear : Clear form kept (run ++ rest)) (shaped : form value run)
      (behind : Divides form rest ⟨parts, last⟩) :
      Divides form (kept ++ (run ++ rest)) ⟨⟨kept, run, value⟩ :: parts, last⟩

/-- Parts from an index on with every run written anew, and letters behind them. -/
def writtenFrom (render : Nat → Part σ α → List σ) (last : List σ) :
    (index : Nat) → List (Part σ α) → List σ
  | _, [] => last
  | index, part :: parts =>
      part.kept ++ (render index part ++ writtenFrom render last (index + 1) parts)

namespace Division

/-- The text of a division with every run written anew. Runs are counted from zero. -/
def written (render : Nat → Part σ α → List σ) (division : Division σ α) : List σ :=
  writtenFrom render division.last 0 division.parts

/-- The letters and occurrences of a division. -/
def segments (division : Division σ α) : List (Segment σ α) :=
  (division.parts.flatMap fun part => part.kept.map .kept ++ [.occurrence part.value]) ++
    division.last.map .kept

theorem segments_cons (part : Part σ α) (parts : List (Part σ α)) (last : List σ) :
    segments ⟨part :: parts, last⟩ =
      part.kept.map .kept ++ .occurrence part.value :: segments ⟨parts, last⟩ := by
  simp [segments]

theorem spell_segments (write : α → List σ) (division : Division σ α) :
    spell write division.segments = division.written fun _ part => write part.value := by
  obtain ⟨parts, last⟩ := division
  unfold written
  generalize 0 = index
  induction parts generalizing index with
  | nil => exact spell_map_kept write last
  | cons part parts inductionHypothesis =>
      rw [segments_cons, spell_append, spell_map_kept, spell_occurrence,
        inductionHypothesis (index + 1)]
      rfl

theorem values_segments (division : Division σ α) :
    values division.segments = division.parts.map Part.value := by
  obtain ⟨parts, last⟩ := division
  induction parts with
  | nil => exact values_map_kept last
  | cons part parts inductionHypothesis =>
      rw [segments_cons, values_append, values_map_kept, values_occurrence, inductionHypothesis]
      rfl

end Division

/-- A text becomes another one by a substitution: the text has one division along the form, and in
the result every run of it is written anew, by its number and by what it stands for, and every
other letter is kept. -/
def Substitutes (form : Form σ α) (render : Nat → α → List σ) (text result : List σ) : Prop :=
  ∃ division : Division σ α, Divides form text division ∧
    (∀ other, Divides form text other → other = division) ∧
    division.written (fun _ part => part.run) = text ∧
    division.written (fun index part => render index part.value) = result

variable {form : Form σ α} {text kept rest last : List σ} {letter : σ} {division : Division σ α}

/-! ### Divisions -/

theorem Clear.cons (absent : ¬Begins form (letter :: (kept ++ rest)))
    (clear : Clear form kept rest) : Clear form (letter :: kept) rest := by
  intro start within
  cases start with
  | zero => exact absent
  | succ start =>
      apply clear start
      rw [List.length_cons] at within
      omega

theorem Clear.of_cons (clear : Clear form (letter :: kept) rest) :
    ¬Begins form (letter :: (kept ++ rest)) ∧ Clear form kept rest := by
  refine ⟨clear 0 (by simp), ?_⟩
  intro start within
  apply clear (start + 1)
  rw [List.length_cons]
  omega

/-- Where no run begins, none has begun before. -/
theorem Clear.length_le {run front behind : List σ} {value : α} (clear : Clear form kept rest)
    (shaped : form value run) (same : front ++ (run ++ behind) = kept ++ rest) :
    kept.length ≤ front.length := by
  by_contra shorter
  apply clear front.length (by omega)
  rw [← same, List.drop_left]
  exact ⟨value, run, shaped, List.prefix_append run behind⟩

namespace Divides

/-- A letter at which no run begins is kept. -/
theorem cons (absent : ¬Begins form (letter :: text)) (divides : Divides form text division) :
    ∃ longer, Divides form (letter :: text) longer := by
  cases divides with
  | last clear =>
      refine ⟨_, .last (Clear.cons ?_ clear)⟩
      rwa [List.append_nil]
  | part clear shaped behind => exact ⟨_, .part (Clear.cons absent clear) shaped behind⟩

theorem written_run (divides : Divides form text division) :
    division.written (fun _ part => part.run) = text := by
  unfold Division.written
  generalize 0 = index
  induction divides generalizing index with
  | last clear => rfl
  | part clear shaped behind inductionHypothesis =>
      rw [writtenFrom, inductionHypothesis (index + 1)]

end Divides

namespace Pattern

variable {pattern : Pattern σ α}

/-- A pattern finds a run of a form at the front of a text exactly if there is one, and no run is
empty. -/
structure Finds (pattern : Pattern σ α) (form : Form σ α) : Prop where
  some_iff : ∀ {text found}, pattern text = some found ↔
    ∃ run rest, (form found.value run ∧ found.extent = run.length) ∧ text = run ++ rest
  nonempty : ∀ {value run}, form value run → run ≠ []

/-- Delimited patterns find the runs of their shapes. -/
theorem Delimited.finds {isEdge : σ → Prop} {shape : Found α → List σ → Prop}
    (delimited : pattern.Delimited isEdge shape)
    (shape_iff : ∀ {found run},
      shape found run ↔ form found.value run ∧ found.extent = run.length) :
    pattern.Finds form where
  some_iff := by
    intro text found
    simp only [delimited.some_iff, shape_iff]
  nonempty := by
    rintro value run shaped rfl
    have isShape : shape ⟨value, 0⟩ [] := shape_iff.mpr ⟨shaped, rfl⟩
    obtain ⟨edge, isFirst, -⟩ := delimited.first isShape
    simp at isFirst

namespace Finds

variable (finds : pattern.Finds form)

include finds

theorem advances : pattern.Advances := by
  intro text found present
  obtain ⟨run, rest, ⟨shaped, extent⟩, rfl⟩ := finds.some_iff.mp present
  have positive := List.length_pos_iff.mpr (finds.nonempty shaped)
  rw [extent, List.length_append]
  omega

theorem eq_none_iff : pattern text = none ↔ ¬Begins form text := by
  rw [Option.eq_none_iff_forall_ne_some]
  constructor
  · rintro absent ⟨value, run, shaped, rest, rfl⟩
    exact absent ⟨value, run.length⟩ (finds.some_iff.mpr ⟨run, rest, ⟨shaped, rfl⟩, rfl⟩)
  · intro absent found present
    obtain ⟨run, rest, ⟨shaped, -⟩, rfl⟩ := finds.some_iff.mp present
    exact absent ⟨found.value, run, shaped, List.prefix_append run rest⟩

/-- At one place no two runs begin. -/
theorem run_unique {value other : α} {run otherRun otherRest : List σ} (shaped : form value run)
    (otherShaped : form other otherRun) (same : run ++ rest = otherRun ++ otherRest) :
    value = other ∧ run = otherRun ∧ rest = otherRest := by
  have first : pattern (run ++ rest) = some ⟨value, run.length⟩ :=
    finds.some_iff.mpr ⟨run, rest, ⟨shaped, rfl⟩, rfl⟩
  have second : pattern (run ++ rest) = some ⟨other, otherRun.length⟩ :=
    finds.some_iff.mpr ⟨otherRun, otherRest, ⟨otherShaped, rfl⟩, same⟩
  rw [first, Option.some.injEq, Found.mk.injEq] at second
  exact ⟨second.1, List.append_inj same second.2⟩

theorem exists_division (text : List σ) : ∃ division, Divides form text division := by
  induction text using pattern.scan_induction finds.advances with
  | nil => exact ⟨_, .last (by simp [Clear])⟩
  | kept letter rest absent inductionHypothesis =>
      obtain ⟨division, divides⟩ := inductionHypothesis
      exact divides.cons (finds.eq_none_iff.mp absent)
  | found front rest found present nonempty extent inductionHypothesis =>
      obtain ⟨division, divides⟩ := inductionHypothesis
      obtain ⟨run, behind, ⟨shaped, length⟩, whole⟩ := finds.some_iff.mp present
      obtain ⟨rfl, rfl⟩ := List.append_inj whole (by rw [← extent, length])
      have clear : Clear form [] (front ++ rest) := by simp [Clear]
      exact ⟨_, .part clear shaped divides⟩

theorem division_unique {other : Division σ α} (divides : Divides form text division)
    (others : Divides form text other) : division = other := by
  induction divides generalizing other with
  | @last text clear =>
      generalize whole : text = letters at others
      cases others with
      | last otherClear => rfl
      | @part kept run rest last value parts otherClear shaped behind =>
          have same : kept ++ (run ++ rest) = text ++ [] := by rw [← whole, List.append_nil]
          have long := clear.length_le shaped same
          have positive := List.length_pos_iff.mpr (finds.nonempty shaped)
          rw [whole, List.length_append, List.length_append] at long
          omega
  | @part kept run rest last value parts clear shaped behind inductionHypothesis =>
      generalize whole : kept ++ (run ++ rest) = letters at others
      cases others with
      | last otherClear =>
          have same : kept ++ (run ++ rest) = letters ++ [] := by rw [whole, List.append_nil]
          have long := otherClear.length_le shaped same
          have positive := List.length_pos_iff.mpr (finds.nonempty shaped)
          rw [← whole, List.length_append, List.length_append] at long
          omega
      | part otherClear otherShaped otherBehind =>
          have notLonger := otherClear.length_le shaped whole
          have notShorter := clear.length_le otherShaped whole.symm
          obtain ⟨rfl, sameRest⟩ := List.append_inj whole (by omega)
          obtain ⟨rfl, rfl, rfl⟩ := finds.run_unique shaped otherShaped sameRest
          obtain ⟨rfl, rfl⟩ := Division.mk.inj (inductionHypothesis otherBehind)
          rfl

theorem segments_clear (clear : Clear form kept rest) :
    pattern.segments (kept ++ rest) = kept.map .kept ++ pattern.segments rest := by
  induction kept with
  | nil => rfl
  | cons letter kept inductionHypothesis =>
      obtain ⟨absent, clear⟩ := clear.of_cons
      rw [List.cons_append, pattern.segments_of_none (finds.eq_none_iff.mpr absent),
        inductionHypothesis clear]
      rfl

/-- The scan of a text finds the division of the text. -/
theorem segments_eq (divides : Divides form text division) :
    pattern.segments text = division.segments := by
  induction divides with
  | @last kept clear =>
      have alone := finds.segments_clear clear
      rwa [List.append_nil, pattern.segments_nil, List.append_nil] at alone
  | @part kept run rest last value parts clear shaped behind inductionHypothesis =>
      have present : pattern (run ++ rest) = some ⟨value, run.length⟩ :=
        finds.some_iff.mpr ⟨run, rest, ⟨shaped, rfl⟩, rfl⟩
      rw [finds.segments_clear clear,
        pattern.segments_of_front present (finds.nonempty shaped) rfl, inductionHypothesis,
        Division.segments_cons]

/-- What is made of the segments of a text is a substitution if each division is written so. -/
theorem substitutes {render : Nat → α → List σ} {make : List (Segment σ α) → List σ}
    (makes : ∀ division : Division σ α,
      make division.segments = division.written fun index part => render index part.value)
    (text : List σ) : Substitutes form render text (make (pattern.segments text)) := by
  obtain ⟨division, divides⟩ := finds.exists_division text
  refine ⟨division, divides, fun other others => finds.division_unique others divides,
    divides.written_run, ?_⟩
  rw [finds.segments_eq divides, makes]

theorem substitutes_replaceEach (write : α → List σ) (text : List σ) :
    Substitutes form (fun _ => write) text (pattern.replaceEach write text) :=
  finds.substitutes (Division.spell_segments write) text

end Finds

end Pattern

end SlideDeck.Text
