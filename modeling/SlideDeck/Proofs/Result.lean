import Mathlib.Data.List.Forall2

/-!
Contract: computations that give a value or a cause of failure.

Owns:
- when a sequence of two computations gives a value and when it fails;
- sequences whose parts look the same in some respect, and so look the same;
- traversals: every item has its result at its own place, or the first failure counts;
- the value of a computation, whatever the cause when there is none.

Does not own: what is computed.
-/

namespace SlideDeck.Result

variable {α β ε : Type} {result : Except ε α}

/-! ### One after the other -/

theorem bind_eq_ok_iff {next : α → Except ε β} {final : β} :
    (result >>= next) = .ok final ↔ ∃ value, result = .ok value ∧ next value = .ok final := by
  cases result with
  | ok value => simp [bind, Except.bind]
  | error cause => simp [bind, Except.bind]

theorem bind_eq_error_iff {next : α → Except ε β} {cause : ε} :
    (result >>= next) = .error cause ↔
      result = .error cause ∨ ∃ value, result = .ok value ∧ next value = .error cause := by
  cases result with
  | ok value => simp [bind, Except.bind]
  | error cause => simp [bind, Except.bind]

theorem map_eq_ok_iff {next : α → β} {final : β} :
    result.map next = .ok final ↔ ∃ value, result = .ok value ∧ next value = final := by
  cases result <;> simp [Except.map]

/-- Two sequences give values that look the same, or fail with the same cause, if this holds of their
first computations and of the second ones behind values that look the same. -/
theorem map_bind_congr {γ δ : Type} {other : Except ε α} {view : α → γ} {view' : β → δ}
    {next next' : α → Except ε β} (same : result.map view = other.map view)
    (nexts : ∀ value value', view value = view value' →
      (next value).map view' = (next' value').map view') :
    (result >>= next).map view' = (other >>= next').map view' := by
  cases result with
  | ok value =>
      cases other with
      | ok value' => exact nexts value value' (Except.ok.inj same)
      | error cause => cases same
  | error cause =>
      cases other with
      | ok value' => cases same
      | error cause' => exact congrArg Except.error (Except.error.inj same)

theorem map_bind_congr_right {δ : Type} {view : β → δ} {next next' : α → Except ε β}
    (nexts : ∀ value, (next value).map view = (next' value).map view) :
    (result >>= next).map view = (result >>= next').map view := by
  cases result with
  | ok value => exact nexts value
  | error cause => rfl

/-! ### Whether there is a value -/

theorem toOption_bind (result : Except ε α) (next : α → Except ε β) :
    (result >>= next).toOption = result.toOption.bind fun value => (next value).toOption := by
  cases result <;> rfl

theorem toOption_map (result : Except ε α) (next : α → β) :
    (result.map next).toOption = result.toOption.map next := by
  cases result <;> rfl

/-! ### Traversals -/

variable {step : α → Except ε β} {items : List α}

/-- Traversals are the same if their steps are the same on all items. -/
theorem mapM_congr {other : α → Except ε β} (same : ∀ item ∈ items, step item = other item) :
    items.mapM step = items.mapM other := by
  induction items with
  | nil => rfl
  | cons first others inductionHypothesis =>
      rw [List.forall_mem_cons] at same
      rw [List.mapM_cons, List.mapM_cons, same.1, inductionHypothesis same.2]

/-- Traversals look the same if their steps do on items in the same places. -/
theorem map_mapM_congr {γ : Type} {view : β → γ} {others : List α}
    (same : List.Forall₂ (fun item other => (step item).map view = (step other).map view)
      items others) :
    (items.mapM step).map (List.map view) = (others.mapM step).map (List.map view) := by
  induction same with
  | nil => rfl
  | cons first _ inductionHypothesis =>
      rw [List.mapM_cons, List.mapM_cons]
      apply map_bind_congr first
      intro value value' sameValue
      apply map_bind_congr inductionHypothesis
      intro values values' sameValues
      exact congrArg Except.ok (List.cons_eq_cons.mpr ⟨sameValue, sameValues⟩)

/-- A traversal gives one result for each item, in order. -/
theorem mapM_eq_ok_iff {results : List β} :
    items.mapM step = .ok results ↔
      List.Forall₂ (fun item value => step item = .ok value) items results := by
  induction items generalizing results with
  | nil => cases results <;> simp [pure, Except.pure]
  | cons first others inductionHypothesis =>
      rw [List.mapM_cons, bind_eq_ok_iff]
      constructor
      · intro given
        obtain ⟨value, firstOk, given⟩ := given
        obtain ⟨values, othersOk, same⟩ := bind_eq_ok_iff.mp given
        obtain rfl : value :: values = results := Except.ok.inj same
        exact .cons firstOk (inductionHypothesis.mp othersOk)
      · intro given
        obtain _ | ⟨firstOk, othersOk⟩ := given
        exact ⟨_, firstOk, bind_eq_ok_iff.mpr ⟨_, inductionHypothesis.mpr othersOk, rfl⟩⟩

/-- A traversal fails with the first item that does. -/
theorem mapM_eq_error_iff {cause : ε} :
    items.mapM step = .error cause ↔
      ∃ before failing after, items = before ++ failing :: after ∧
        (∀ item ∈ before, ∃ value, step item = .ok value) ∧ step failing = .error cause := by
  induction items with
  | nil => simp [pure, Except.pure]
  | cons first others inductionHypothesis =>
      rw [List.mapM_cons, bind_eq_error_iff]
      constructor
      · rintro (failed | ⟨value, firstOk, failed⟩)
        · exact ⟨[], first, others, rfl, by simp, failed⟩
        · rcases bind_eq_error_iff.mp failed with failed | ⟨_, _, impossible⟩
          · obtain ⟨before, failing, after, rfl, fine, failed⟩ := inductionHypothesis.mp failed
            refine ⟨first :: before, failing, after, rfl, ?_, failed⟩
            exact List.forall_mem_cons.mpr ⟨⟨value, firstOk⟩, fine⟩
          · cases impossible
      · rintro ⟨before, failing, after, split, fine, failed⟩
        cases before with
        | nil =>
            obtain ⟨rfl, -⟩ := List.cons.inj split
            exact .inl failed
        | cons front before =>
            obtain ⟨rfl, rfl⟩ := List.cons.inj split
            obtain ⟨⟨value, firstOk⟩, fine⟩ := List.forall_mem_cons.mp fine
            refine .inr ⟨value, firstOk, bind_eq_error_iff.mpr (.inl ?_)⟩
            exact inductionHypothesis.mpr ⟨before, failing, after, rfl, fine, failed⟩

end SlideDeck.Result
