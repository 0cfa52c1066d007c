import SlideDeck.Proofs.CommandLine.Operations

/-!
Contract: when an input alone is built as the command for builds builds it.

A command name is recognised behind an input too. It takes the place of an output there, and what
it asks for is done without regard to the input.

Owns:
- `IsValue`, an argument that does not begin like a flag;
- the requests of such arguments alone, behind the command for builds, and before a command name;
- `IsOther`, outcomes that no build of one file has, and how the texts of outcomes begin;
- `shorthand_alike_iff`.

Does not own: inputs and outputs among flags.
-/

namespace SlideDeck.CommandLine

/-- An argument that does not begin like a flag. -/
def IsValue (argument : String) : Prop :=
  argument.toList.head? ≠ some '-'
deriving Decidable

namespace IsValue

variable {argument : String}

theorem ne_dashes (isValue : IsValue argument) : argument ≠ "--" := by
  rintro rfl
  exact isValue rfl

theorem holdsFlags (isValue : IsValue argument) : Scan.holdsFlags argument = false := by
  unfold Scan.holdsFlags
  split
  next whole => exact absurd (by rw [whole]; rfl) isValue
  next => rfl

end IsValue

/-! ### Values -/

/-- Values that are no commands are all that is read at a level, if there is room for them. -/
theorem Scan.level_values {grammar : Grammar} {seen : Flags} {arguments : List String}
    (areValues : ∀ argument ∈ arguments, IsValue argument)
    (noCommands : ∀ argument ∈ arguments, commandName? grammar argument = none)
    (before : List String) (room : (before ++ arguments).length ≤ grammar.capacity) :
    level grammar seen before arguments = ofValues seen (before ++ arguments) := by
  induction arguments generalizing before with
  | nil => rw [level, List.append_nil]
  | cons argument rest inductionHypothesis =>
      rw [List.forall_mem_cons] at areValues noCommands
      rw [level, noCommands.1]
      dsimp only
      rw [if_neg areValues.1.ne_dashes]
      -- An empty value is noticed at the argument behind it, or at the end.
      by_cases empty : before.contains "" = true
      · have emptyToo : (before ++ argument :: rest).contains "" = true := by
          rw [List.contains_eq_mem, decide_eq_true_eq] at empty ⊢
          exact List.mem_append_left _ empty
        rw [if_pos empty, ofValues, if_pos emptyToo]
      · have more : before.length < grammar.capacity := by
          rw [List.length_append, List.length_cons] at room
          omega
        have same : before ++ argument :: rest = before ++ [argument] ++ rest := by simp
        rw [if_neg empty, areValues.1.holdsFlags, if_neg Bool.false_ne_true, if_pos more, same]
        rw [same] at room
        exact inductionHypothesis areValues.2 noCommands.2 _ room

namespace Request

variable {input path : String} {output : Option String} {name : CommandName}

theorem ofArguments?_build (rest : List String) :
    ofArguments? ("build" :: rest) =
      ofScan? buildOf .none (Scan.level .build .none [] rest) := rfl

section Values

variable (isValue : IsValue input) (outputIsValue : ∀ path ∈ output, IsValue path)

include isValue outputIsValue

theorem level_input_output {grammar : Grammar} (room : grammar.capacity = 2)
    (noCommand : Scan.commandName? grammar input = none)
    (noOtherCommand : ∀ path ∈ output, Scan.commandName? grammar path = none) :
    Scan.level grammar .none [] (input :: output.toList) =
      Scan.ofValues .none (input :: output.toList) := by
  apply Scan.level_values
  · simpa using ⟨isValue, outputIsValue⟩
  · simpa using ⟨noCommand, noOtherCommand⟩
  · cases output <;> simp [room]

/-- Behind the command for builds, values are an input and an output whatever they are. -/
theorem ofArguments?_build_values :
    ofArguments? ("build" :: input :: output.toList) =
      if "" ∈ input :: output.toList then none else some (.run (.build input output) .none) := by
  rw [ofArguments?_build, level_input_output isValue outputIsValue rfl rfl fun _ _ => rfl,
    Scan.ofValues, List.contains_eq_mem]
  by_cases empty : "" ∈ input :: output.toList
  · rw [if_pos (decide_eq_true empty), if_pos empty]
    rfl
  · rw [if_neg (by simpa using empty), if_neg empty]
    cases output <;> rfl

/-- Without a command, values are read as behind the command for builds if none is a command
name. -/
theorem ofArguments?_values (noCommand : CommandName.ofText? input = none)
    (noOtherCommand : ∀ path ∈ output, CommandName.ofText? path = none) :
    ofArguments? (input :: output.toList) =
      ofArguments? ("build" :: input :: output.toList) := by
  have scanned : Scan.level .top .none [] (input :: output.toList) =
      Scan.ofValues .none (input :: output.toList) :=
    level_input_output isValue outputIsValue rfl noCommand noOtherCommand
  rw [ofArguments?_build, level_input_output isValue outputIsValue rfl rfl fun _ _ => rfl,
    ofArguments?, scanned]
  unfold Scan.ofValues
  by_cases empty : (input :: output.toList).contains "" = true
  · rw [if_pos empty]
    rfl
  · rw [if_neg empty]
    rfl

end Values

/-- A command name behind a value ends the arguments of its level. -/
theorem ofArguments?_command_last (isValue : IsValue input)
    (noCommand : CommandName.ofText? input = none) (named : CommandName.ofText? path = some name) :
    ofArguments? [input, path] = ofCommand? name .none [input] [] := by
  have first : Scan.commandName? .top input = none := noCommand
  have second : Scan.commandName? .top path = some name := named
  have scanned : Scan.level .top .none [] [input, path] = .command name .none [input] [] := by
    rw [Scan.level, first]
    dsimp only
    rw [if_neg isValue.ne_dashes, if_neg (by decide), isValue.holdsFlags,
      if_neg Bool.false_ne_true, if_pos (by decide), List.nil_append, Scan.level, second]
  rw [ofArguments?, scanned]

theorem ofArguments?_command (named : CommandName.ofText? path = some name) :
    ofArguments? [path] = ofCommand? name .none [] [] := by
  have first : Scan.commandName? .top path = some name := named
  rw [ofArguments?, Scan.level, first]

/-- A value in front of a command name does not matter, unless it is empty. -/
theorem ofArguments?_named (isValue : IsValue input)
    (noCommand : CommandName.ofText? input = none)
    (named : CommandName.ofText? path = some name) (nonempty : input ≠ "") :
    ofArguments? [input, path] = ofArguments? [path] := by
  rw [ofArguments?_command_last isValue noCommand named, ofArguments?_command named]
  have noEmpty : [input].contains "" = false := by
    simpa using nonempty.symm
  cases name with
  | help => rfl
  | create =>
      simp only [ofCommand?, ofCommand?.settled, noEmpty]
      rfl
  | build =>
      simp only [ofCommand?, ofCommand?.settled, noEmpty]
      rfl

end Request

/-! ### How texts begin -/

theorem head?_append {front : String} {character : Char}
    (begins : front.toList.head? = some character) (back : String) :
    (front ++ back).toList.head? = some character := by
  rw [String.toList_append, List.head?_append, begins]
  rfl

variable {store : Store} {input output : String} {config : Page.Config}

theorem head?_usage : usage.toList.head? = some 'U' := by
  unfold usage
  rw [String.join_cons]
  exact head?_append rfl _

theorem head?_builtText (report : Report) : (builtText report).toList.head? = some 'P' := by
  unfold builtText
  simp only [String.append_assoc]
  exact head?_append rfl _

theorem head?_createdText (path : String) : (createdText path).toList.head? = some 'C' := by
  unfold createdText
  simp only [String.append_assoc]
  exact head?_append rfl _

theorem head?_ruleLine : ruleLine.toList.head? = some '─' := by
  unfold ruleLine
  rw [String.toList_append, String.toList_ofList, List.head?_append, List.head?_replicate]
  rfl

theorem head?_batchText (batch : Batch) :
    ∃ character, (batchText batch).toList.head? = some character ∧ character ≠ 'P' := by
  unfold batchText
  split
  · exact ⟨'N', rfl, by decide⟩
  simp only [String.append_assoc]
  cases batch.built with
  | nil =>
      rw [List.map_nil, String.join_nil, String.empty_append]
      exact ⟨'─', head?_append head?_ruleLine _, by decide⟩
  | cons report reports =>
      refine ⟨'B', ?_, by decide⟩
      rw [List.map_cons, String.join_cons, builtLine]
      simp only [String.append_assoc]
      exact head?_append rfl _

/-- The shown part of a log begins with a bracket, if there is one. -/
theorem head?_render (verbosity : Verbosity) (log : List LogEntry) :
    verbosity.render log = "" ∨ (verbosity.render log).toList.head? = some '[' := by
  unfold Verbosity.render
  cases log.filter fun entry => verbosity.shows entry.level with
  | nil => exact .inl rfl
  | cons entry entries =>
      right
      rw [List.map_cons, String.join_cons, LogEntry.line]
      simp only [String.append_assoc]
      exact head?_append rfl _

/-- No build fails because something is there already, and none says so. -/
theorem head?_message {cause : BuildError}
    (fails : Build.Fails store input output config cause) :
    ∃ character, cause.message.toList.head? = some character ∧ character ≠ 'f' := by
  cases fails with
  | missing absent => exact ⟨'i', head?_append rfl input, by decide⟩
  | unreadable present noText => exact ⟨'I', rfl, by decide⟩
  | @source _ cause text refused =>
      refine ⟨'Y', ?_, by decide⟩
      show ("YAML error: " ++ cause.message).toList.head? = _
      exact head?_append rfl _
  | @page _ _ cause text read refused =>
      cases cause with
      | empty => exact ⟨'p', rfl, by decide⟩
      | slide failure =>
          refine ⟨'s', ?_, by decide⟩
          show ("slide " ++ toString failure.number ++ ": " ++ failure.cause.message).toList.head? =
            _
          rw [String.append_assoc, String.append_assoc]
          exact head?_append rfl _
  | unwritable presents refused => exact ⟨'I', rfl, by decide⟩

/-- A build that fails does not say that something is there already. -/
theorem failure_ne_alreadyExists {cause : BuildError}
    (fails : Build.Fails store input output config cause) (log : List LogEntry) (path : String) :
    Outcome.failure .none log cause ≠ .failure .none [] (.alreadyExists path) := by
  intro equal
  have errors : Flags.none.verbosity.render log ++ ("error: " ++ (cause.message ++ "\n")) =
      "error: " ++ ("file already exists: " ++ (path ++ "\n")) := by
    simp only [← String.append_assoc]
    exact congrArg Outcome.errors equal
  -- What is logged stands in front of the cause, so the texts differ there or at the cause.
  rcases head?_render Flags.none.verbosity log with nothing | bracket
  · obtain ⟨character, begins, different⟩ := head?_message fails
    rw [nothing, String.empty_append, String.append_right_inj] at errors
    have begins := head?_append begins "\n"
    rw [errors, head?_append rfl] at begins
    exact different (Option.some.inj begins).symm
  · have begins := head?_append bracket ("error: " ++ (cause.message ++ "\n"))
    rw [errors, head?_append rfl] at begins
    exact absurd begins (by decide)

/-! ### Outcomes that no build has -/

/-- An outcome that is not that of a build of one file: other words are printed, or something is
said to be there already. -/
inductive IsOther : Outcome → Prop where
  | prints {outcome : Outcome} {character : Char}
      (begins : outcome.output.toList.head? = some character) (different : character ≠ 'P') :
      IsOther outcome
  | alreadyExists (path : String) : IsOther (.failure .none [] (.alreadyExists path))

/-- A build of one file ends with its report or with a cause of its failure. -/
theorem build_cases (store : Store) (flags : Flags) (input : String) (output : Option String) :
    let target := output.getD (defaultOutput input)
    let ended := (runCommand Store.files flags (.build input output)).run store
    (∃ log count, ended.1 = .success flags log (builtText ⟨input, target, count⟩)) ∨
      ∃ log cause, Build.Fails store input target flags.config cause ∧
        ended.1 = .failure flags log cause := by
  intro target
  rw [runCommand, Build.run_bind]
  have effect := Build.effect_file store input target flags.config
  generalize (Build.file Store.files input target flags.config).run store = ended at effect ⊢
  cases effect with
  | failed fails => exact .inr ⟨_, _, fails, rfl⟩
  | built presents leads writes => exact .inl ⟨_, _, rfl⟩

theorem IsOther.ne_build {outcome : Outcome} (isOther : IsOther outcome) (store : Store)
    (input : String) (output : Option String) :
    outcome ≠ ((runCommand Store.files .none (.build input output)).run store).1 := by
  rcases build_cases store .none input output with ⟨log, count, built⟩ | ⟨log, cause, fails, failed⟩
  · rw [built]
    cases isOther with
    | prints begins different =>
        rintro rfl
        exact different (Option.some.inj (begins.symm.trans (head?_builtText _)))
    | alreadyExists path =>
        intro equal
        exact absurd (congrArg Outcome.code equal) (show ¬1 = 0 by decide)
  · rw [failed]
    cases isOther with
    | prints begins different =>
        rintro rfl
        exact absurd begins (by simp [Outcome.failure])
    | alreadyExists path => exact (failure_ne_alreadyExists fails log path).symm

theorem isOther_usage (code : Nat) : IsOther ⟨code, usage, ""⟩ :=
  .prints head?_usage (by decide)

theorem isOther_create (store : Store) :
    IsOther ((runCommand Store.files .none (.create Request.defaultPath)).run store).1 := by
  rw [runCommand, Build.run_bind]
  cases present : store.find? Request.defaultPath with
  | some entry =>
      rw [run_create_of_isSome (by rw [present]; rfl)]
      exact .alreadyExists _
  | none =>
      rw [run_create_of_none present]
      have leads : store.locate Request.defaultPath.toList =
          some (.inside [⟨"presentation.yaml", by decide⟩]) := rfl
      have writable : store.Writable Request.defaultPath := by
        refine ⟨_, leads, ?_⟩
        intro directory
        simp [Store.find?, leads, Store.entry?, directory] at present
      cases written : store.write? Request.defaultPath starterDeck.toUTF8 with
      | none => exact absurd writable (Store.write?_eq_none_iff.mp written)
      | some next => exact .prints (head?_createdText _) (by decide)

theorem output_batchOutcome (batch : Batch) (log : List LogEntry) :
    (batchOutcome .none ⟨.ok batch, log⟩).output = batchText batch := by
  unfold batchOutcome
  dsimp only
  split <;> rfl

theorem isOther_buildDirectory (store : Store) :
    IsOther ((runCommand Store.files .none .buildDirectory).run store).1 := by
  have leads : store.locate ".".toList = some (.inside []) := rfl
  obtain ⟨names, listed⟩ : ∃ names, store.fileNames? "." = some names := by
    rw [Store.fileNames?, leads]
    exact ⟨_, if_pos store.get?_top⟩
  rw [runCommand, Build.run_bind, Build.run_directory, listed]
  dsimp only
  generalize (Build.each Store.files Flags.none.config (Build.inputs "." names)).run store = ended
  obtain ⟨character, begins, different⟩ := head?_batchText ended.1.value
  rw [← output_batchOutcome ended.1.value] at begins
  exact .prints begins different

/-- No command line of a command name alone ends like a build of one file. -/
theorem isOther_named {path : String} {name : CommandName}
    (named : CommandName.ofText? path = some name) (store : Store) :
    IsOther ((run Store.files [path]).run store).1 := by
  rw [run, Request.ofArguments?_command named]
  cases name with
  | help => exact isOther_usage 0
  | create => exact isOther_create store
  | build => exact isOther_buildDirectory store

/-- A command name behind an input does what a build to it does only if both are refused. -/
theorem alike_named_iff (store : Store) {input path : String} {name : CommandName}
    (isValue : IsValue input) (noCommand : CommandName.ofText? input = none)
    (pathIsValue : IsValue path) (named : CommandName.ofText? path = some name) :
    (run Store.files [input, path]).run store =
        (run Store.files ["build", input, path]).run store ↔
      input = "" ∧ name ≠ .help := by
  have outputIsValue : ∀ other ∈ some path, IsValue other := by simpa using pathIsValue
  have asked := Request.ofArguments?_build_values isValue outputIsValue
  rw [Option.toList_some] at asked
  by_cases empty : input = ""
  · subst empty
    rw [if_pos (by simp)] at asked
    rw [run, run, asked, Request.ofArguments?_command_last isValue noCommand named]
    cases name with
    | help =>
        refine iff_of_false ?_ (by simp)
        intro equal
        exact absurd (congrArg (fun ended => ended.1.code) equal) (show ¬0 = 2 by decide)
    | create => exact iff_of_true rfl ⟨rfl, by decide⟩
    | build => exact iff_of_true rfl ⟨rfl, by decide⟩
  · have pathNonempty : path ≠ "" := by
      rintro rfl
      simp [CommandName.ofText?] at named
    rw [if_neg (by simp [Ne.symm empty, pathNonempty.symm])] at asked
    refine iff_of_false ?_ fun given => empty given.1
    have same : run Store.files [input, path] = run Store.files [path] := by
      rw [run, run, Request.ofArguments?_named isValue noCommand named empty]
    rw [same, run_of_asked Store.files asked]
    intro equal
    exact (isOther_named named store).ne_build store input (some path)
      (congrArg Prod.fst equal)

/-- In every store, an input alone or with an output is built as the command for builds builds it
exactly if the output is no command name, or the input is empty and no help is asked for: then both
are refused. Where a command name stands behind an input, its command is carried out as if there
were no input. Behind the command for builds every input is what is built, unless a path is empty. -/
theorem shorthand_alike_iff (store : Store) {input : String} {output : Option String}
    (isValue : IsValue input) (noCommand : CommandName.ofText? input = none)
    (outputIsValue : ∀ path ∈ output, IsValue path) :
    ((run Store.files (input :: output.toList)).run store =
        (run Store.files ("build" :: input :: output.toList)).run store ↔
      ∀ path ∈ output, CommandName.ofText? path = none ∨
        (input = "" ∧ CommandName.ofText? path ≠ some .help)) ∧
      (∀ path ∈ output, input ≠ "" → CommandName.ofText? path ≠ none →
        run Store.files (input :: output.toList) = run Store.files [path]) ∧
      ("" ∉ input :: output.toList →
        run Store.files ("build" :: input :: output.toList) =
          runCommand Store.files .none (.build input output)) := by
  have built := Request.ofArguments?_build_values isValue outputIsValue
  refine ⟨?_, ?_, ?_⟩
  · by_cases noOtherCommand : ∀ path ∈ output, CommandName.ofText? path = none
    · refine iff_of_true ?_ fun path member => .inl (noOtherCommand path member)
      rw [run, run, Request.ofArguments?_values isValue outputIsValue noCommand noOtherCommand]
    · simp only [not_forall, ← ne_eq] at noOtherCommand
      obtain ⟨path, member, isCommand⟩ := noOtherCommand
      obtain rfl : output = some path := member
      obtain ⟨name, named⟩ := Option.ne_none_iff_exists'.mp isCommand
      have pathIsValue : IsValue path := outputIsValue path rfl
      simpa [named] using alike_named_iff store isValue noCommand pathIsValue named
  · intro path member nonempty isCommand
    obtain rfl : output = some path := member
    obtain ⟨name, named⟩ := Option.ne_none_iff_exists'.mp isCommand
    show run Store.files [input, path] = _
    rw [run, run, Request.ofArguments?_named isValue noCommand named nonempty]
  · intro nonempty
    rw [if_neg nonempty] at built
    exact run_of_asked Store.files built

/-- A directory with one presentation. -/
def alone : Store :=
  Store.empty.put [⟨"deck.yaml", by decide⟩] (.file "slides: [{}]".toUTF8)

/-- An output is told from a command by its name. -/
theorem shorthand_alike_alone :
    (run Store.files ["deck.yaml", "deck.html"]).run alone =
        (run Store.files ["build", "deck.yaml", "deck.html"]).run alone ∧
      (run Store.files ["deck.yaml", "build"]).run alone ≠
        (run Store.files ["build", "deck.yaml", "build"]).run alone := by
  have isValue : IsValue "deck.yaml" := by decide
  have noCommand : CommandName.ofText? "deck.yaml" = none := by decide
  have pageIsValue : ∀ path ∈ some "deck.html", IsValue path := by decide
  have commandIsValue : ∀ path ∈ some "build", IsValue path := by decide
  obtain ⟨page, -, -⟩ := shorthand_alike_iff alone isValue noCommand pageIsValue
  obtain ⟨command, -, -⟩ := shorthand_alike_iff alone isValue noCommand commandIsValue
  exact ⟨page.mpr (by decide), fun alike => absurd (command.mp alike) (by decide)⟩

/-- An input with an output that is called like the command for builds: the presentations of the
directory are built, and nothing is written to the output. -/
theorem shorthand_builds_directory :
    let shorthand := (run Store.files ["deck.yaml", "build"]).run alone
    let build := (run Store.files ["build", "deck.yaml", "build"]).run alone
    IsValue "deck.yaml" ∧ CommandName.ofText? "deck.yaml" = none ∧ IsValue "build" ∧
      shorthand.1 =
        ⟨0, "Built ./deck.html (1 slides)\n" ++ ruleLine ++ "Successfully built: 1\n", ""⟩ ∧
      shorthand.2.find? "build" = none ∧
      build.1 = ⟨0, "Presentation built: build\n  1 slides generated\n", ""⟩ ∧
      (build.2.find? "build").isSome := by
  have asked : Request.ofArguments? ["deck.yaml", "build"] = some (.run .buildDirectory .none) := by
    decide +kernel
  have listed : alone.fileNames? "." = some ["deck.yaml"] := by decide +kernel
  have found : Build.inputs "." ["deck.yaml"] = ["./deck.yaml"] :=
    List.mergeSort_singleton "./deck.yaml"
  rw [run_of_asked Store.files asked, runCommand, Build.run_bind, Build.run_directory, listed]
  dsimp only
  rw [found]
  refine ⟨by decide, by decide, by decide, ?_, ?_, ?_, ?_⟩
  all_goals decide +kernel

end SlideDeck.CommandLine
