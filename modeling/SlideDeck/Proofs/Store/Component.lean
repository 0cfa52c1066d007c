import SlideDeck.Proofs.Store.Spelling

/-!
Contract: paths as ways, which is how two paths are compared.

Empty parts and lone dots make no difference between two ways, except for the slash or the dot that
opens a path. Two spellings are the same path if they have the same components, and a path lies in
the directory whose components are its own but the last.

Owns:
- `Component`, the components of a path and those of the directory in which it lies;
- the components of a path around its last part and around its file name;
- `getLast?_components_eq_name_iff`: a file name is a last component that is a name.

Does not own: where paths lead in a store.
-/

namespace SlideDeck.Path

variable {path front name behind : Spelling}

/-- What a part of a path stands for. -/
inductive Component where
  | root
  | here
  | parent
  | name (text : List Char)
deriving DecidableEq, Repr

/-- The component of a part. Empty parts and lone dots have none. -/
def component? : List Char → Option Component
  | [] | ['.'] => none
  | ['.', '.'] => some .parent
  | name => some (.name name)

/-- The component that opens a path before those of its parts: a slash, or a lone dot. -/
def opening (path : Spelling) : List Component :=
  if path.head? = some '/' then [.root]
  else if (parts path).head? = some ['.'] then [.here]
  else []

def components (path : Spelling) : List Component :=
  opening path ++ (parts path).filterMap component?

/-- The components of the directory in which a path lies. -/
def directory (path : Spelling) : List Component :=
  (components path).dropLast

/-! ### One part -/

theorem component?_of_isFileName (isName : IsFileName name) :
    component? name = some (.name name) := by
  unfold component?
  split
  next => exact absurd rfl isName.nonempty
  next => exact absurd rfl isName.notDot
  next => exact absurd rfl isName.notParent
  next => rfl

theorem eq_of_component? {part : List Char} (named : component? part = some (.name name)) :
    part = name := by
  unfold component? at named
  split at named <;> simp_all

theorem component?_eq_none_iff {part : List Char} :
    component? part = none ↔ part = [] ∨ part = ['.'] := by
  unfold component?
  split <;> simp_all

theorem filterMap_singleton (part : List Char) :
    [part].filterMap component? = (component? part).toList := by
  cases named : component? part <;> simp [named]

/-! ### Parts behind a path -/

theorem opening_append (nonempty : path ≠ []) (behind : Spelling) :
    opening (path ++ '/' :: behind) = opening path := by
  obtain ⟨first, rest, rfl⟩ := List.exists_cons_of_ne_nil nonempty
  obtain ⟨part, others, pathParts⟩ := List.exists_cons_of_ne_nil (parts_ne_nil (first :: rest))
  rw [opening, opening, parts_append_slash, pathParts]
  rfl

/-- What opens a path with a slash stands before the slash, or is the slash. -/
theorem opening_slash (before behind : Spelling) :
    opening (before ++ '/' :: behind) = opening (before ++ ['/']) := by
  by_cases first : before = []
  · rw [first]
    rfl
  · rw [opening_append first, opening_append first]

theorem opening_of_noSlash (noSlash : '/' ∉ name) (notDot : name ≠ ['.']) : opening name = [] := by
  have noRoot : name.head? ≠ some '/' := fun first => noSlash (List.mem_of_head? first)
  rw [opening, if_neg noRoot, parts_of_noSlash noSlash]
  simp [notDot]

theorem components_append_slash (nonempty : path ≠ []) (noSlash : '/' ∉ name) :
    components (path ++ '/' :: name) = components path ++ (component? name).toList := by
  rw [components, components, opening_append nonempty, parts_append noSlash, List.filterMap_append,
    List.append_assoc, filterMap_singleton]

/-- The last part of a path adds its component to those of the characters before it, unless it is a
lone dot that opens the path. -/
theorem components_append (closed : lastPart front = []) (noSlash : '/' ∉ name)
    (inside : front = [] → name ≠ ['.']) :
    components (front ++ name) = components front ++ (component? name).toList := by
  rcases lastPart_eq_nil_iff.mp closed with rfl | ⟨before, rfl⟩
  · rw [List.nil_append, components, opening_of_noSlash noSlash (inside rfl),
      parts_of_noSlash noSlash, filterMap_singleton]
    rfl
  · have empty : parts (before ++ ['/']) = parts before ++ [[]] := parts_append (by simp)
    rw [List.append_assoc, List.singleton_append, components, components, opening_slash,
      parts_append noSlash, empty]
    simp [component?, filterMap_singleton]

theorem components_upToLastPart (several : path ≠ ['.']) :
    components path = components (upToLastPart path) ++ (component? (lastPart path)).toList := by
  have whole := upToLastPart_append_lastPart path
  rw [← components_append (lastPart_upToLastPart path) (lastPart_noSlash path), whole]
  intro first dot
  rw [first, dot] at whole
  exact several whole.symm

/-- A part that does not count adds no component. -/
theorem EndsIdle.components_upToLastPart (ends : EndsIdle path) :
    components (upToLastPart path) = components path := by
  obtain ⟨before, last, rfl, idle⟩ := ends.exists_front
  have closed : lastPart (before ++ ['/']) = [] := lastPart_append (by simp)
  have noSlash : '/' ∉ last := by rcases idle with rfl | rfl <;> decide
  rw [upToLastPart_of_closed closed noSlash, components_append closed noSlash (by simp),
    component?_eq_none_iff.mpr idle]
  simp

theorem components_append_idle (nonempty : path ≠ []) (idle : Idle behind) :
    components (path ++ behind) = components path := by
  induction idle generalizing path with
  | nil => rw [List.append_nil]
  | slash _ inductionHypothesis =>
      rw [← List.singleton_append, ← List.append_assoc, inductionHypothesis (by simp),
        components_append_slash nonempty (by simp)]
      simp [component?]
  | @dot behind _ inductionHypothesis =>
      have apart : path ++ '/' :: '.' :: behind = path ++ '/' :: ['.'] ++ behind := by simp
      rw [apart, inductionHypothesis (by simp), components_append_slash nonempty (by decide)]
      simp [component?]

theorem components_of_idle (idle : Idle behind) : components behind ⊆ [.root] := by
  cases idle with
  | nil => simp [components, opening, parts, component?]
  | slash rest =>
      rw [← List.singleton_append, components_append_idle (by simp) rest]
      decide
  | @dot behind rest =>
      have apart : '/' :: '.' :: behind = ['/', '.'] ++ behind := rfl
      rw [apart, components_append_idle (by simp) rest]
      decide

/-! ### Paths with a file name -/

namespace Spelled

variable (spelled : Spelled path front name behind)

include spelled

theorem components_eq : components path = components front ++ [.name name] := by
  have nonempty : front ++ name ≠ [] := by simp [spelled.isName.nonempty]
  rw [spelled.whole, components_append_idle nonempty spelled.idle,
    components_append spelled.closed spelled.isName.noSlash fun _ => spelled.isName.notDot,
    component?_of_isFileName spelled.isName]
  rfl

theorem directory_eq : directory path = components front := by
  rw [directory, spelled.components_eq, List.dropLast_concat]

end Spelled

/-- A path without a file name is idle, or its spine is a lone dot, or ends with the part for the
directory above. -/
theorem spine_of_fileName?_eq_none (noName : fileName? path = none) :
    spine path = [] ∨ spine path = ['.'] ∨
      ∃ front, lastPart front = [] ∧ spine path = front ++ ['.', '.'] := by
  have whole := upToLastPart_append_lastPart (spine path)
  have noIdle := not_endsIdle_spine path
  unfold fileName? at noName
  split at noName
  next last =>
    rcases lastPart_eq_nil_iff.mp last with nothing | ⟨before, ends⟩
    · exact .inl nothing
    · exact absurd (.inl ⟨before, ends.symm⟩) noIdle
  next last =>
    rw [last] at whole
    rcases lastPart_eq_nil_iff.mp (lastPart_upToLastPart (spine path)) with nothing | ⟨before, ends⟩
    · rw [nothing] at whole
      exact .inr (.inl whole.symm)
    · rw [ends, List.append_assoc] at whole
      exact absurd (.inr ⟨before, whole⟩) noIdle
  next last =>
    rw [last] at whole
    exact .inr (.inr ⟨_, lastPart_upToLastPart _, whole.symm⟩)
  next => simp at noName

/-- The file name of a path is its last component, if that is a name. -/
theorem getLast?_components_eq_name_iff :
    (components path).getLast? = some (.name name) ↔ fileName? path = some name := by
  constructor
  · intro last
    cases named : fileName? path with
    | some other =>
        obtain ⟨front, behind, spelled⟩ := fileName?_eq_some_iff.mp named
        rw [spelled.components_eq, List.getLast?_concat] at last
        rw [Component.name.inj (Option.some.inj last)]
    | none =>
        -- Whatever is left of the path without idle characters, its last component is no name.
        obtain ⟨behind, idle, whole⟩ := exists_idle path
        have member := List.mem_of_getLast? last
        rcases spine_of_fileName?_eq_none named with nothing | here | ⟨front, closed, parent⟩
        · rw [whole, nothing, List.nil_append] at member
          simpa using components_of_idle idle member
        · have single : components ['.'] = [.here] := by decide
          rw [whole, here, components_append_idle (by simp) idle, single] at member
          simp at member
        · rw [whole, parent, components_append_idle (by simp) idle,
            components_append closed (by decide) (by simp)] at last
          simp [component?] at last
  · intro named
    obtain ⟨front, behind, spelled⟩ := fileName?_eq_some_iff.mp named
    rw [spelled.components_eq, List.getLast?_concat]

example : components "/a//./b/../c.yaml/.".toList =
      [.root, .name ['a'], .name ['b'], .parent, .name "c.yaml".toList] ∧
    fileName? "/a//./b/../c.yaml/.".toList = some "c.yaml".toList := by
  decide

theorem fileName?_congr {other : Spelling} (same : components path = components other) :
    fileName? path = fileName? other := by
  ext name
  rw [← getLast?_components_eq_name_iff, same, getLast?_components_eq_name_iff]

/-- Whether a path is the path of a presentation does not depend on its spelling. -/
theorem isSource_congr {other : Spelling} (same : components path = components other) :
    isSource path = isSource other := by
  rw [isSource, isSource, extension?, extension?, fileName?_congr same]

end SlideDeck.Path
