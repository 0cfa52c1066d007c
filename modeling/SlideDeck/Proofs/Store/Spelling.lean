import SlideDeck.Proofs.Text.Cut
import SlideDeck.Store.Path

/-!
Contract: how a path is spelled around its file name.

A path with a file name is the name, what leads to it, and what stands behind it without counting.
What leads to the name is empty or ends with a slash. Every rule for file names is a rule for these
three pieces.

Owns:
- a path as its last part and the characters before it;
- the split of a file name at its last dot;
- `Idle`, what stands behind a file name without counting;
- `Spelled`, a path taken apart around its file name, and `fileName?_eq_some_iff`.

Does not own: which names are names of presentations, and where pages go.
-/

namespace SlideDeck.Path

variable {path front name stem extension behind other : List Char}

/-! ### The last place of a mark -/

theorem reverse_append_cons (separator : Char) (before behind : List Char) :
    (before ++ separator :: behind).reverse = behind.reverse ++ separator :: before.reverse := by
  simp

/-- A text is parted at the last place of a mark that stands in it. -/
theorem absent_or_exists_last (mark : Char) (text : List Char) :
    mark ∉ text ∨ ∃ front last, text = front ++ mark :: last ∧ mark ∉ last := by
  induction text with
  | nil => exact .inl (by simp)
  | cons character rest inductionHypothesis =>
      rcases inductionHypothesis with absent | ⟨front, last, rfl, absent⟩
      · by_cases same : character = mark
        · exact .inr ⟨[], rest, by rw [same]; rfl, absent⟩
        · exact .inl (by simp [Ne.symm same, absent])
      · exact .inr ⟨character :: front, last, rfl, absent⟩

/-- A text is parted at the last place of a mark in one way. -/
theorem parted_unique {mark : Char} {before after otherBefore otherAfter : List Char}
    (absent : mark ∉ after) (otherAbsent : mark ∉ otherAfter)
    (same : before ++ mark :: after = otherBefore ++ mark :: otherAfter) :
    before = otherBefore ∧ after = otherAfter := by
  have backward := congrArg List.reverse same
  rw [reverse_append_cons, reverse_append_cons] at backward
  have absent' : mark ∉ after.reverse := by simpa using absent
  have otherAbsent' : mark ∉ otherAfter.reverse := by simpa using otherAbsent
  have cut := Text.takeWhile_ne_append absent' before.reverse
  have otherCut := Text.takeWhile_ne_append otherAbsent' otherBefore.reverse
  rw [backward] at cut
  have kept := cut.1.symm.trans otherCut.1
  have left := cut.2.symm.trans otherCut.2
  exact ⟨List.reverse_inj.mp (List.cons.inj left).2, List.reverse_inj.mp kept⟩

/-! ### The last part -/

theorem lastPart_append (noSlash : '/' ∉ name) : lastPart (front ++ '/' :: name) = name := by
  rw [lastPart, reverse_append_cons, (Text.takeWhile_ne_append (by simpa using noSlash) _).1,
    List.reverse_reverse]

theorem lastPart_append_of_noSlash (front : Spelling) (noSlash : '/' ∉ name) :
    lastPart (front ++ name) = lastPart front ++ name := by
  have kept : ∀ character ∈ name.reverse, (character != '/') = true :=
    Text.bne_of_not_mem (by simpa using noSlash)
  rw [lastPart, lastPart, List.reverse_append, List.takeWhile_append_of_pos kept,
    List.reverse_append, List.reverse_reverse]

theorem lastPart_of_noSlash (noSlash : '/' ∉ name) : lastPart name = name :=
  lastPart_append_of_noSlash [] noSlash

theorem lastPart_noSlash (path : Spelling) : '/' ∉ lastPart path := by
  intro member
  have kept := List.mem_takeWhile_imp (List.mem_reverse.mp member)
  simp at kept

theorem upToLastPart_append_lastPart (path : Spelling) :
    upToLastPart path ++ lastPart path = path := by
  rw [upToLastPart, lastPart, ← List.reverse_append, List.takeWhile_append_dropWhile,
    List.reverse_reverse]

/-- A path with an empty last part leads to whatever is written behind it. -/
theorem lastPart_eq_nil_iff :
    lastPart front = [] ↔ front = [] ∨ ∃ before, front = before ++ ['/'] := by
  constructor
  · intro closed
    rcases absent_or_exists_last '/' front with noSlash | ⟨before, last, rfl, noSlash⟩
    · rw [lastPart_of_noSlash noSlash] at closed
      exact .inl closed
    · rw [lastPart_append noSlash] at closed
      exact .inr ⟨before, by rw [closed]⟩
  · rintro (rfl | ⟨before, rfl⟩)
    · rfl
    · exact lastPart_append (by simp)

theorem lastPart_of_closed (closed : lastPart front = []) (noSlash : '/' ∉ name) :
    lastPart (front ++ name) = name := by
  rw [lastPart_append_of_noSlash front noSlash, closed, List.nil_append]

theorem upToLastPart_of_closed (closed : lastPart front = []) (noSlash : '/' ∉ name) :
    upToLastPart (front ++ name) = front := by
  have whole := upToLastPart_append_lastPart (front ++ name)
  rw [lastPart_of_closed closed noSlash] at whole
  exact List.append_cancel_right whole

theorem lastPart_upToLastPart (path : Spelling) : lastPart (upToLastPart path) = [] := by
  have whole := lastPart_append_of_noSlash (upToLastPart path) (lastPart_noSlash path)
  rw [upToLastPart_append_lastPart] at whole
  exact List.append_left_eq_self.mp whole.symm

/-! ### All parts -/

theorem parts_ne_nil (path : Spelling) : parts path ≠ [] := by
  cases path with
  | nil => simp [parts]
  | cons character rest =>
      unfold parts
      split
      · simp
      · split <;> simp

theorem parts_of_noSlash (noSlash : '/' ∉ name) : parts name = [name] := by
  induction name with
  | nil => rfl
  | cons character rest inductionHypothesis =>
      simp only [List.mem_cons, not_or] at noSlash
      rw [parts, if_neg (Ne.symm noSlash.1), inductionHypothesis noSlash.2]

theorem parts_append_slash (front behind : Spelling) :
    parts (front ++ '/' :: behind) = parts front ++ parts behind := by
  induction front with
  | nil => rfl
  | cons character front inductionHypothesis =>
      rw [List.cons_append, parts, parts, inductionHypothesis]
      split
      · rfl
      · obtain ⟨first, others, frontParts⟩ := List.exists_cons_of_ne_nil (parts_ne_nil front)
        rw [frontParts]
        rfl

theorem parts_append (noSlash : '/' ∉ name) :
    parts (front ++ '/' :: name) = parts front ++ [name] := by
  rw [parts_append_slash, parts_of_noSlash noSlash]

/-- What stands behind the last slash is the last part. -/
theorem parts_eq_append_lastPart (path : Spelling) :
    ∃ others, parts path = others ++ [lastPart path] := by
  rcases absent_or_exists_last '/' path with noSlash | ⟨front, last, rfl, noSlash⟩
  · exact ⟨[], by rw [parts_of_noSlash noSlash, lastPart_of_noSlash noSlash]; rfl⟩
  · exact ⟨parts front, by rw [parts_append noSlash, lastPart_append noSlash]⟩

/-! ### File names -/

/-- A part of a path that is the name of something in a directory. -/
structure IsFileName (name : List Char) : Prop where
  nonempty : name ≠ []
  notDot : name ≠ ['.']
  notParent : name ≠ ['.', '.']
  noSlash : '/' ∉ name

theorem splitExtension_append (nonempty : stem ≠ []) (noDot : '.' ∉ extension) :
    splitExtension (stem ++ '.' :: extension) = (stem, some extension) := by
  obtain ⟨before, last, rfl⟩ : ∃ before last, stem = before ++ [last] :=
    ⟨stem.dropLast, stem.getLast nonempty, (List.dropLast_concat_getLast nonempty).symm⟩
  have noDot' : '.' ∉ extension.reverse := by simpa using noDot
  rw [splitExtension, reverse_append_cons, (Text.takeWhile_ne_append noDot' _).1,
    (Text.takeWhile_ne_append noDot' _).2]
  simp

theorem splitExtension_eq_some {name stem extension : List Char}
    (split : splitExtension name = (stem, some extension)) :
    name = stem ++ '.' :: extension ∧ stem ≠ [] ∧ '.' ∉ extension := by
  unfold splitExtension at split
  split at split
  next before others behind =>
    simp only [Prod.mk.injEq, Option.some.injEq] at split
    obtain ⟨rfl, rfl⟩ := split
    refine ⟨?_, by simp, ?_⟩
    · have whole := List.takeWhile_append_dropWhile (p := (· != '.')) (l := name.reverse)
      rw [behind] at whole
      have turned := congrArg List.reverse whole
      simpa using turned.symm
    · intro member
      have notDot := List.mem_takeWhile_imp (List.mem_reverse.mp member)
      simp at notDot
  next => simp at split

/-! ### What does not count behind a file name -/

/-- Slashes, and slashes with a lone dot behind them. -/
inductive Idle : Spelling → Prop
  | nil : Idle []
  | slash {behind : Spelling} (rest : Idle behind) : Idle ('/' :: behind)
  | dot {behind : Spelling} (rest : Idle behind) : Idle ('/' :: '.' :: behind)

namespace Idle

theorem append (idle : Idle behind) (otherIdle : Idle other) : Idle (behind ++ other) := by
  induction idle with
  | nil => exact otherIdle
  | slash _ inductionHypothesis => exact .slash inductionHypothesis
  | dot _ inductionHypothesis => exact .dot inductionHypothesis

theorem of_isPrefix (idle : Idle behind) (within : other <+: behind) : Idle other := by
  induction idle generalizing other with
  | nil =>
      rw [List.prefix_nil.mp within]
      exact .nil
  | slash _ inductionHypothesis =>
      rcases List.prefix_cons_iff.mp within with rfl | ⟨rest, rfl, restWithin⟩
      · exact .nil
      · exact .slash (inductionHypothesis restWithin)
  | dot _ inductionHypothesis =>
      rcases List.prefix_cons_iff.mp within with rfl | ⟨rest, rfl, restWithin⟩
      · exact .nil
      rcases List.prefix_cons_iff.mp restWithin with rfl | ⟨behindDot, rfl, behindWithin⟩
      · exact .slash .nil
      · exact .dot (inductionHypothesis behindWithin)

theorem dropIdle_reverse (idle : Idle behind) (before : List Char) :
    dropIdle (behind.reverse ++ before) = dropIdle before := by
  induction idle generalizing before with
  | nil => rfl
  | slash _ inductionHypothesis =>
      rw [List.reverse_cons, List.append_assoc, inductionHypothesis]
      rfl
  | dot _ inductionHypothesis =>
      rw [List.reverse_cons, List.reverse_cons, List.append_assoc, List.append_assoc,
        inductionHypothesis]
      rfl

end Idle

/-- What is dropped, reading backward, is idle. -/
theorem exists_idle_of_dropIdle (backward : List Char) :
    ∃ behind, Idle behind ∧ backward = behind.reverse ++ dropIdle backward := by
  induction backward using dropIdle.induct with
  | case1 rest inductionHypothesis =>
      obtain ⟨behind, idle, whole⟩ := inductionHypothesis
      refine ⟨behind ++ ['/'], idle.append (.slash .nil), ?_⟩
      rw [List.reverse_append, dropIdle]
      exact congrArg ('/' :: ·) whole
  | case2 rest inductionHypothesis =>
      obtain ⟨behind, idle, whole⟩ := inductionHypothesis
      refine ⟨behind ++ ['/', '.'], idle.append (.dot .nil), ?_⟩
      rw [List.reverse_append, dropIdle]
      exact congrArg ('.' :: '/' :: ·) whole
  | case3 rest noSlash noDot =>
      refine ⟨[], .nil, ?_⟩
      rw [dropIdle]
      · rfl
      · exact noSlash
      · exact noDot

/-- What is left, reading backward, begins with nothing idle. -/
theorem not_isPrefix_dropIdle (backward : List Char) :
    ¬ ['/'] <+: dropIdle backward ∧ ¬ ['.', '/'] <+: dropIdle backward := by
  induction backward using dropIdle.induct with
  | case1 rest inductionHypothesis => exact inductionHypothesis
  | case2 rest inductionHypothesis => exact inductionHypothesis
  | case3 rest noSlash noDot =>
      rw [dropIdle]
      · constructor
        · rintro ⟨before, rfl⟩
          exact noSlash before rfl
        · rintro ⟨before, rfl⟩
          exact noDot before rfl
      · exact noSlash
      · exact noDot

theorem exists_idle (path : Spelling) : ∃ behind, Idle behind ∧ path = spine path ++ behind := by
  obtain ⟨behind, idle, whole⟩ := exists_idle_of_dropIdle path.reverse
  refine ⟨behind, idle, ?_⟩
  have turned := congrArg List.reverse whole
  rwa [List.reverse_reverse, List.reverse_append, List.reverse_reverse] at turned

theorem spine_append_idle (idle : Idle behind) (path : Spelling) :
    spine (path ++ behind) = spine path := by
  rw [spine, spine, List.reverse_append, idle.dropIdle_reverse]

theorem fileName?_append_idle (idle : Idle behind) (path : Spelling) :
    fileName? (path ++ behind) = fileName? path := by
  rw [fileName?, fileName?, spine_append_idle idle]

/-- Behind a last part that counts nothing is idle. -/
theorem spine_eq_self (nonempty : lastPart path ≠ []) (notDot : lastPart path ≠ ['.']) :
    spine path = path := by
  have kept : dropIdle path.reverse = path.reverse := by
    unfold dropIdle
    split
    next rest backward => exact absurd (by simp [lastPart, backward]) nonempty
    next rest backward => exact absurd (by simp [lastPart, backward]) notDot
    next => rfl
  rw [spine, kept, List.reverse_reverse]

/-- Whether a path ends with a slash, or with a lone dot behind a slash. -/
def EndsIdle (path : Spelling) : Prop :=
  ['/'] <:+ path ∨ ['/', '.'] <:+ path

instance : DecidablePred EndsIdle := fun _ => inferInstanceAs (Decidable (_ ∨ _))

theorem not_endsIdle_spine (path : Spelling) : ¬ EndsIdle (spine path) := by
  have ends : ∀ {last : Spelling}, last <:+ spine path → last.reverse <+: dropIdle path.reverse := by
    intro last within
    have turned := List.reverse_prefix.mpr within
    rwa [spine, List.reverse_reverse] at turned
  rintro (slash | dot)
  · exact (not_isPrefix_dropIdle _).1 (ends slash)
  · exact (not_isPrefix_dropIdle _).2 (ends dot)

theorem Idle.endsIdle (idle : Idle behind) (nonempty : behind ≠ []) (front : Spelling) :
    EndsIdle (front ++ behind) := by
  induction idle generalizing front with
  | nil => exact absurd rfl nonempty
  | @slash behind _ inductionHypothesis =>
      by_cases last : behind = []
      · exact .inl ⟨front, by rw [last]⟩
      · rw [← List.singleton_append, ← List.append_assoc]
        exact inductionHypothesis last _
  | @dot behind _ inductionHypothesis =>
      by_cases last : behind = []
      · exact .inr ⟨front, by rw [last]⟩
      · rw [← List.singleton_append, ← List.singleton_append (l := behind), ← List.append_assoc,
          ← List.append_assoc]
        exact inductionHypothesis last _

theorem EndsIdle.exists_front (ends : EndsIdle path) :
    ∃ before last, path = before ++ ['/'] ++ last ∧ (last = [] ∨ last = ['.']) := by
  rcases ends with ⟨before, whole⟩ | ⟨before, whole⟩
  · exact ⟨before, [], by simp [whole], .inl rfl⟩
  · exact ⟨before, ['.'], by simp [← whole], .inr rfl⟩

/-! ### Paths around their file names -/

/-- A path taken apart: what leads to its file name, the name, and what does not count. -/
structure Spelled (path front name behind : Spelling) : Prop where
  whole : path = front ++ name ++ behind
  closed : lastPart front = []
  isName : IsFileName name
  idle : Idle behind

namespace Spelled

variable (spelled : Spelled path front name behind)

include spelled

theorem lastPart_eq : lastPart (front ++ name) = name :=
  lastPart_of_closed spelled.closed spelled.isName.noSlash

theorem spine_eq : spine path = front ++ name := by
  rw [spelled.whole, spine_append_idle spelled.idle]
  apply spine_eq_self
  · rw [spelled.lastPart_eq]
    exact spelled.isName.nonempty
  · rw [spelled.lastPart_eq]
    exact spelled.isName.notDot

theorem fileName?_eq : fileName? path = some name := by
  rw [fileName?, spelled.spine_eq, spelled.lastPart_eq]
  split
  next => exact absurd rfl spelled.isName.nonempty
  next => exact absurd rfl spelled.isName.notDot
  next => exact absurd rfl spelled.isName.notParent
  next => rfl

/-- Nothing idle stands behind the file name exactly if the path does not end with it. -/
theorem behind_eq_nil_iff : behind = [] ↔ ¬ EndsIdle path := by
  constructor
  · rintro rfl ends
    obtain ⟨before, last, whole, idle⟩ := ends.exists_front
    have closed : lastPart (before ++ ['/']) = [] := lastPart_append (by simp)
    have same : name = last := by
      rw [← spelled.lastPart_eq, ← List.append_nil (front ++ name), ← spelled.whole, whole]
      exact lastPart_of_closed closed (by rcases idle with rfl | rfl <;> decide)
    rcases idle with nothing | dot
    · exact spelled.isName.nonempty (same.trans nothing)
    · exact spelled.isName.notDot (same.trans dot)
  · intro noIdle
    by_contra nonempty
    refine noIdle ?_
    rw [spelled.whole]
    exact spelled.idle.endsIdle nonempty _

theorem upToLastPart_eq : upToLastPart (spine path) = front := by
  rw [spelled.spine_eq, upToLastPart_of_closed spelled.closed spelled.isName.noSlash]

end Spelled

theorem fileName?_eq_some_iff :
    fileName? path = some name ↔ ∃ front behind, Spelled path front name behind := by
  constructor
  · intro named
    obtain ⟨behind, idle, whole⟩ := exists_idle path
    refine ⟨upToLastPart (spine path), behind, ?_⟩
    unfold fileName? at named
    split at named
    next => simp at named
    next => simp at named
    next => simp at named
    next nonempty notDot notParent =>
      obtain rfl := Option.some.inj named
      refine ⟨?_, lastPart_upToLastPart _, ⟨nonempty, notDot, notParent, lastPart_noSlash _⟩, idle⟩
      rw [upToLastPart_append_lastPart]
      exact whole
  · rintro ⟨front, behind, spelled⟩
    exact spelled.fileName?_eq

end SlideDeck.Path
