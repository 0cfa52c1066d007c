import SlideDeck.CommandLine.Session

/-!
Contract: how much a command line is to say does not change what it does.

The flags for less and for more detail are read and handed on with the other settings. No request
and no refusal depends on them but for one: the flag for less detail may not come twice.

Owns:
- `flagsIn`, the flags among arguments, and `IsVerbosity`, arguments that hold no others;
- `Scan.marked` and `Request.marked`: what is read behind such arguments;
- `code_run_append`: such arguments in front change neither the exit code nor what is done with
  the files.
-/

namespace SlideDeck.CommandLine

/-- The flags that arguments hold. -/
def flagsOf (arguments : List String) : List (Option Flag) :=
  arguments.flatMap fun argument => Flag.ofArgument argument.toList

/-- The flags among arguments. Behind two lone dashes there are none. -/
def flagsIn (arguments : List String) : List (Option Flag) :=
  flagsOf (arguments.takeWhile (· ≠ "--"))

/-- Arguments that say how much is told and nothing else: flags for less or more detail, of which
that for less comes once at most. -/
structure IsVerbosity (front : List String) : Prop where
  holdsFlags : ∀ argument ∈ front, Flag.ofArgument argument.toList ≠ []
  verbosity : ∀ flag ∈ flagsOf front, flag = some .quiet ∨ flag = some .verbose
  once : (flagsOf front).count (some .quiet) ≤ 1

/-! ### Flags -/

@[simp] theorem Flags.none_union (flags : Flags) : Flags.none.union flags = flags := by
  simp [Flags.union, Flags.none]

theorem Flags.union_assoc (first second third : Flags) :
    (first.union second).union third = first.union (second.union third) := by
  simp [Flags.union, Bool.or_assoc]

theorem flagsOf_cons (argument : String) (rest : List String) :
    flagsOf (argument :: rest) = Flag.ofArgument argument.toList ++ flagsOf rest :=
  List.flatMap_cons

theorem flagsIn_cons {argument : String} (more : argument ≠ "--") (rest : List String) :
    flagsIn (argument :: rest) = Flag.ofArgument argument.toList ++ flagsIn rest := by
  simp [flagsIn, flagsOf, more]

namespace Scan

/-- What is read at a level with further flags turned on before it. -/
def marked (mark : Flags) : Scan → Scan
  | ended flags values => ended (mark.union flags) values
  | command name flags values rest => command name (mark.union flags) values rest
  | help => help
  | version => version
  | refused => refused

variable {grammar : Grammar} {mark seen : Flags} {given : List (Option Flag)}

theorem ofValues_marked (mark seen : Flags) (values : List String) :
    ofValues (mark.union seen) values = (ofValues seen values).marked mark := by
  unfold ofValues
  split <;> rfl

/-! ### Flags turned on before -/

/-- Flags are turned on whatever others are, apart from one that may not come twice. -/
theorem flags_marked (shared : mark.isolateFailures = false) (absent : some .quiet ∉ given) :
    flags grammar (mark.union seen) given =
      match flags grammar seen given with
      | .ok next => .ok (mark.union next)
      | .error scan => .error (scan.marked mark) := by
  induction given generalizing seen with
  | nil => rfl
  | cons flag given inductionHypothesis =>
      rw [List.mem_cons, not_or] at absent
      have others (next : Flags) := @inductionHypothesis next absent.2
      match flag with
      | none => rfl
      | some .quiet => exact absurd rfl absent.1
      | some .help => rfl
      | some .version =>
          simp only [flags]
          split <;> rfl
      | some .verbose =>
          have marks : { mark.union seen with verbose := true } =
              mark.union { seen with verbose := true } := by simp [Flags.union]
          rw [flags, flags, marks, others]
      | some .isolateFailures =>
          have marks : { mark.union seen with isolateFailures := true } =
              mark.union { seen with isolateFailures := true } := by simp [Flags.union]
          have same : (mark.union seen).isolateFailures = seen.isolateFailures := by
            simp [Flags.union, shared]
          rw [flags, flags, same]
          split
          · rfl
          · rw [marks, others]

theorem level_marked (shared : mark.isolateFailures = false) {arguments : List String}
    (absent : some .quiet ∉ flagsIn arguments) (seen : Flags) (values : List String) :
    level grammar (mark.union seen) values arguments =
      (level grammar seen values arguments).marked mark := by
  induction arguments generalizing seen values with
  | nil => exact ofValues_marked mark seen values
  | cons argument rest inductionHypothesis =>
      unfold level
      cases commandName? grammar argument with
      | some name => rfl
      | none =>
          dsimp only
          by_cases last : argument = "--"
          · rw [if_pos last, if_pos last]
            split
            · exact ofValues_marked mark seen (values ++ rest)
            · rfl
          rw [flagsIn_cons last, List.mem_append, not_or] at absent
          rw [if_neg last, if_neg last]
          split
          · rfl
          split
          · rw [flags_marked shared absent.1]
            cases flags grammar seen (Flag.ofArgument argument.toList) with
            | ok next => exact inductionHypothesis absent.2 next values
            | error scan => rfl
          split
          · exact inductionHypothesis absent.2 seen _
          · rfl

/-! ### Arguments for verbosity -/

/-- Flags for verbosity are turned on, and no more of them are refused than there are. -/
theorem exists_flags (grammar : Grammar)
    (verbosity : ∀ flag ∈ given, flag = some .quiet ∨ flag = some .verbose)
    {more : Nat} (once : seen.quiet.toNat + (given.count (some .quiet) + more) ≤ 1) :
    ∃ mark : Flags, mark.isolateFailures = false ∧
      flags grammar seen given = .ok (mark.union seen) ∧
      (mark.union seen).quiet.toNat + more ≤ 1 := by
  induction given generalizing seen with
  | nil =>
      refine ⟨Flags.none, rfl, ?_, ?_⟩
      · rw [Flags.none_union, flags]
      · simpa using once
  | cons flag given inductionHypothesis =>
      rw [List.forall_mem_cons] at verbosity
      rcases verbosity.1 with rfl | rfl
      · rw [List.count_cons_self] at once
        have notSeen : seen.quiet = false := by
          cases quiet : seen.quiet with
          | false => rfl
          | true =>
              rw [quiet, Bool.toNat_true] at once
              omega
        have onceMore : ({ seen with quiet := true } : Flags).quiet.toNat +
            (given.count (some .quiet) + more) ≤ 1 := by
          rw [Bool.toNat_true]
          omega
        obtain ⟨mark, shared, read, still⟩ := inductionHypothesis verbosity.2 onceMore
        have marks : mark.union { seen with quiet := true } =
            { mark with quiet := true }.union seen := by simp [Flags.union]
        refine ⟨{ mark with quiet := true }, shared, ?_, marks ▸ still⟩
        rw [flags, if_neg (by simp [notSeen]), read, marks]
      · rw [List.count_cons_of_ne (by decide)] at once
        obtain ⟨mark, shared, read, still⟩ :=
          @inductionHypothesis { seen with verbose := true } verbosity.2 once
        have marks : mark.union { seen with verbose := true } =
            { mark with verbose := true }.union seen := by simp [Flags.union]
        refine ⟨{ mark with verbose := true }, shared, ?_, marks ▸ still⟩
        rw [flags, read, marks]

theorem exists_letters {argument : String} (nonempty : Flag.ofArgument argument.toList ≠ []) :
    ∃ letter letters, argument.toList = '-' :: letter :: letters := by
  unfold Flag.ofArgument at nonempty
  split at nonempty
  next name whole => exact ⟨'-', name, whole⟩
  next letters _ whole =>
    cases letters with
    | nil => simp at nonempty
    | cons letter letters => exact ⟨letter, letters, whole⟩
  next => exact absurd rfl nonempty

/-- No command has a name that begins like a flag. -/
theorem ofText?_of_dash {argument : String} (dash : argument.toList.head? = some '-') :
    CommandName.ofText? argument = none := by
  unfold CommandName.ofText?
  split
  case h_5 => rfl
  all_goals exact absurd dash (by decide)

/-- An argument that holds known flags is no command, no end of flags and no value. -/
theorem holdsFlags_of_known (grammar : Grammar) {argument : String}
    (nonempty : Flag.ofArgument argument.toList ≠ [])
    (known : none ∉ Flag.ofArgument argument.toList) :
    commandName? grammar argument = none ∧ argument ≠ "--" ∧ holdsFlags argument = true := by
  obtain ⟨letter, letters, whole⟩ := exists_letters nonempty
  refine ⟨?_, ?_, ?_⟩
  · rw [commandName?, ofText?_of_dash (by rw [whole]; rfl), ite_self]
  · rintro rfl
    exact known (by decide)
  · simp only [holdsFlags, whole]

/-- Arguments for verbosity in front of others turn flags on. -/
theorem exists_level_append (grammar : Grammar) {front : List String}
    (holds : ∀ argument ∈ front, Flag.ofArgument argument.toList ≠ [])
    (verbosity : ∀ flag ∈ flagsOf front, flag = some .quiet ∨ flag = some .verbose)
    (once : seen.quiet.toNat + (flagsOf front).count (some .quiet) ≤ 1) (arguments : List String) :
    ∃ mark : Flags, mark.isolateFailures = false ∧
      level grammar seen [] (front ++ arguments) = level grammar (mark.union seen) [] arguments := by
  induction front generalizing seen with
  | nil => exact ⟨Flags.none, rfl, by rw [Flags.none_union, List.nil_append]⟩
  | cons argument front inductionHypothesis =>
      rw [List.forall_mem_cons] at holds
      rw [flagsOf_cons, List.forall_mem_append] at verbosity
      rw [flagsOf_cons, List.count_append] at once
      have known : none ∉ Flag.ofArgument argument.toList := by
        intro member
        simpa using verbosity.1 none member
      obtain ⟨noCommand, notLast, isFlag⟩ := holdsFlags_of_known grammar holds.1 known
      obtain ⟨first, sharedFirst, read, still⟩ := exists_flags grammar verbosity.1 once
      obtain ⟨second, sharedSecond, others⟩ := inductionHypothesis holds.2 verbosity.2 still
      refine ⟨second.union first, ?_, ?_⟩
      · rw [Flags.union, sharedFirst, sharedSecond, Bool.or_false]
      · rw [List.cons_append, level, noCommand]
        dsimp only
        rw [if_neg notLast, if_neg (by simp), if_pos isFlag, read, Flags.union_assoc]
        exact others

end Scan

/-! ### Requests -/

namespace Request

/-- What is asked for with further flags turned on. -/
def marked (mark : Flags) : Request → Request
  | run command flags => run command (mark.union flags)
  | help => help
  | version => version

variable {mark : Flags}

theorem marked_eq_help_iff {request : Request} : request.marked mark = help ↔ request = help := by
  cases request <;> simp [marked]

theorem ofScan?_marked (command : List String → Command) (outer : Flags) (scan : Scan) :
    ofScan? command (mark.union outer) scan =
      (ofScan? command outer scan).map (marked mark) := by
  cases scan with
  | ended flags values =>
      show some (run (command values) ((mark.union outer).union flags)) = _
      rw [Flags.union_assoc]
      rfl
  | command name flags values rest => rfl
  | help => rfl
  | version => rfl
  | refused => rfl

theorem settled_marked (values : List String) (request : Option Request) :
    ofCommand?.settled values (request.map (marked mark)) =
      (ofCommand?.settled values request).map (marked mark) := by
  cases request with
  | none => simp only [ofCommand?.settled, Option.map_none, ite_self]
  | some request =>
      have sameHelp : (some (request.marked mark) != some help) = (some request != some help) := by
        rw [Bool.eq_iff_iff, bne_iff_ne, bne_iff_ne, ne_eq, ne_eq, Option.some.injEq,
          Option.some.injEq, marked_eq_help_iff]
      unfold ofCommand?.settled
      rw [Option.map_some, sameHelp]
      split <;> rfl

theorem ofCommand?_marked (name : CommandName) (outer : Flags) (values rest : List String) :
    ofCommand? name (mark.union outer) values rest =
      (ofCommand? name outer values rest).map (marked mark) := by
  cases name with
  | help =>
      rw [ofCommand?, ofCommand?]
      cases isHelpTopic rest <;> rfl
  | create => rw [ofCommand?, ofCommand?, ofScan?_marked, settled_marked]
  | build => rw [ofCommand?, ofCommand?, ofScan?_marked, settled_marked]

/-- Arguments for verbosity in front of others change nothing of what is asked for but flags for
verbosity. -/
theorem exists_ofArguments?_append {front arguments : List String} (isVerbosity : IsVerbosity front)
    (absent : some .quiet ∉ flagsIn arguments) :
    ∃ mark : Flags, mark.isolateFailures = false ∧
      ofArguments? (front ++ arguments) = (ofArguments? arguments).map (marked mark) := by
  have once : Flags.none.quiet.toNat + (flagsOf front).count (some .quiet) ≤ 1 := by
    show 0 + _ ≤ 1
    rw [Nat.zero_add]
    exact isVerbosity.once
  obtain ⟨mark, shared, read⟩ := Scan.exists_level_append .top isVerbosity.holdsFlags
    isVerbosity.verbosity once arguments
  refine ⟨mark, shared, ?_⟩
  unfold ofArguments?
  rw [read, Scan.level_marked shared absent]
  cases Scan.level .top .none [] arguments with
  | ended flags values => rfl
  | command name flags values rest => exact ofCommand?_marked name flags values rest
  | help => rfl
  | version => rfl
  | refused => rfl

end Request

/-! ### Runs -/

section Runs

variable {m : Type → Type} [Monad m]

theorem code_ofLogged {α : Type} (flags : Flags) (output : α → String)
    (result : Logged (Except BuildError α)) :
    (Outcome.ofLogged flags output result).code = if result.value.toBool then 0 else 1 := by
  unfold Outcome.ofLogged
  cases result.value <;> rfl

theorem code_batchOutcome (flags : Flags) (result : Logged (Except BuildError Batch)) :
    (batchOutcome flags result).code =
      match result.value with
      | .ok batch => if batch.isSuccess then 0 else 1
      | .error _ => 1 := by
  unfold batchOutcome
  cases value : result.value with
  | error cause => simp [Outcome.ofLogged, Outcome.failure, value]
  | ok batch =>
      dsimp only
      split <;> simp [Outcome.ofLogged, Outcome.success, value]

variable [LawfulMonad m]

theorem code_runCommand (files : Files m) {first second : Flags}
    (same : first.isolateFailures = second.isolateFailures) (command : Command) :
    Outcome.code <$> runCommand files first command =
      Outcome.code <$> runCommand files second command := by
  have sameConfig : first.config = second.config := by rw [Flags.config, Flags.config, same]
  cases command with
  | create path => simp only [runCommand, bind_pure_comp, Functor.map_map, code_ofLogged]
  | build input output =>
      simp only [runCommand, bind_pure_comp, Functor.map_map, code_ofLogged, sameConfig]
  | buildDirectory =>
      simp only [runCommand, bind_pure_comp, Functor.map_map, code_batchOutcome, sameConfig]
  | nothing => rfl

/-- Arguments for verbosity in front of others change neither the exit code nor what is done with
the files, wherever these are. -/
theorem code_run_append (files : Files m) {front arguments : List String}
    (isVerbosity : IsVerbosity front) (absent : some .quiet ∉ flagsIn arguments) :
    Outcome.code <$> run files (front ++ arguments) = Outcome.code <$> run files arguments := by
  obtain ⟨mark, shared, asked⟩ := Request.exists_ofArguments?_append isVerbosity absent
  unfold run
  rw [asked]
  cases Request.ofArguments? arguments with
  | none => rfl
  | some request =>
      cases request with
      | run command flags =>
          have same : (mark.union flags).isolateFailures = flags.isolateFailures := by
            rw [Flags.union, shared, Bool.false_or]
          exact code_runCommand files same command
      | help => rfl
      | version => rfl

end Runs

end SlideDeck.CommandLine
