import SlideDeck.Proofs.Build.Independence
import SlideDeck.Proofs.CommandLine.Operations
import SlideDeck.Proofs.CommandLine.Verbosity

/-!
Contract: the exit code says whether a command has done what it was asked for.

What was done is read from the store: the files before the run, those after it, and no report.

Owns:
- `Accomplished`, for each command, and `code_runCommand_iff`;
- `exit_code_truthful`, for command lines, with the flags for verbosity that change nothing.

Does not own: the texts on both outputs.
-/

namespace SlideDeck.CommandLine

variable {store after : Store} {config : Page.Config}

/-- A command has done what it was asked for, between one store and another: a new presentation
stands where nothing was, the page of the input is in the file of the output, or every presentation
of the working directory, which could be listed, has a page, and a file where that can be. -/
def Accomplished (config : Page.Config) (store after : Store) : Command → Prop
  | .create path => store.find? path = none ∧ after.readText? path = some starterDeck
  | .build input output =>
      ∃ count page, Build.Presents config store input count page ∧
        after.readText? (output.getD (defaultOutput input)) = some page
  | .buildDirectory =>
      ∃ names, store.fileNames? "." = some names ∧
        ∀ input ∈ Build.inputs "." names,
          (∃ count page, Build.Presents config store input count page) ∧
            store.Writable (defaultOutput input)
  | .nothing => False

/-! ### New presentations -/

/-- A new presentation is made exactly if nothing stood at its path and it stands there then. -/
theorem create_ok_iff (store : Store) (path : String) :
    ((Build.create Store.files path).run store).1.value.toBool = true ↔
      Accomplished config store ((Build.create Store.files path).run store).2 (.create path) := by
  cases present : store.find? path with
  | some entry =>
      rw [run_create_of_isSome (by rw [present]; rfl)]
      refine iff_of_false Bool.false_ne_true ?_
      rintro ⟨absent, -⟩
      simp [present] at absent
  | none =>
      rw [run_create_of_none present]
      cases written : store.write? path starterDeck.toUTF8 with
      | none =>
          refine iff_of_false Bool.false_ne_true ?_
          rintro ⟨-, read⟩
          have nothing : store.readText? path = none := by
            rw [Store.readText?, Store.read?, present]
            rfl
          exact absurd (nothing.symm.trans read) (by simp)
      | some next =>
          obtain ⟨location, leads, free, rfl⟩ := Store.write?_eq_some_iff.mp written
          have writes : store.Writes location starterDeck.toUTF8 _ := Store.writes_put free
          have read : (store.put location (.file starterDeck.toUTF8)).readText? path =
              some starterDeck := by
            rw [writes.readText?_eq, if_pos leads]
          exact iff_of_true rfl ⟨present, read⟩

/-! ### Builds -/

/-- A file that can be read can be written. -/
theorem writable_of_readText? {path text : String} (read : store.readText? path = some text) :
    store.Writable path := by
  unfold Store.readText? Store.read? Store.find? at read
  cases leads : store.locate path.toList with
  | none => simp [leads] at read
  | some place =>
      cases place with
      | above => simp [leads, Store.entry?] at read
      | inside location =>
          refine ⟨location, leads, ?_⟩
          intro directory
          simp [leads, Store.entry?, directory] at read

theorem file_ok_iff_writable (store : Store) (input output : String) (config : Page.Config) :
    ((Build.file Store.files input output config).run store).1.value.toBool = true ↔
      (∃ count page, Build.Presents config store input count page) ∧ store.Writable output := by
  have effect := Build.effect_file store input output config
  generalize (Build.file Store.files input output config).run store = ended at effect ⊢
  cases effect with
  | failed fails =>
      refine iff_of_false Bool.false_ne_true ?_
      rintro ⟨⟨count, page, presents⟩, writable⟩
      exact fails.not_writable presents writable
  | built presents leads writes =>
      exact iff_of_true rfl ⟨⟨_, _, presents⟩, _, leads, writes.free⟩

/-- A build succeeds exactly if its input has a page and this is in the file of the output then. -/
theorem file_ok_iff (store : Store) (input output : String) (config : Page.Config) :
    ((Build.file Store.files input output config).run store).1.value.toBool = true ↔
      ∃ count page, Build.Presents config store input count page ∧
        ((Build.file Store.files input output config).run store).2.readText? output =
          some page := by
  have effect := Build.effect_file store input output config
  generalize (Build.file Store.files input output config).run store = ended at effect ⊢
  cases effect with
  | failed fails =>
      refine iff_of_false Bool.false_ne_true ?_
      rintro ⟨count, page, presents, read⟩
      exact fails.not_writable presents (writable_of_readText? read)
  | built presents leads writes =>
      refine iff_of_true rfl ⟨_, _, presents, ?_⟩
      rw [writes.readText?_eq, if_pos leads]

theorem isSuccess_separate_iff (config : Page.Config) (store : Store) (inputs : List String) :
    (Build.separate config store inputs).isSuccess = true ↔
      ∀ input ∈ inputs, (Build.outcome config store input).value.toBool = true := by
  rw [Batch.isSuccess, List.isEmpty_iff, Build.separate, List.filterMap_eq_nil_iff]
  refine forall₂_congr fun input _ => ?_
  cases (Build.outcome config store input).value <;> simp [Except.toBool]

/-- The builds of a directory all succeed exactly if each of its presentations has a page that can
be written. -/
theorem code_directory_iff (flags : Flags) (store : Store) (config : Page.Config) :
    (batchOutcome flags ((Build.directory Store.files "." config).run store).1).code = 0 ↔
      Accomplished config store after .buildDirectory := by
  rw [code_batchOutcome, Build.run_directory]
  cases listed : store.fileNames? "." with
  | none =>
      refine iff_of_false Nat.one_ne_zero ?_
      rintro ⟨names, present, -⟩
      simp [listed] at present
  | some names =>
      obtain ⟨location, lies, all⟩ := Build.exists_lies_of_listed listed
      dsimp only
      rw [Build.run_each_fst lies all (.refl store)]
      dsimp only
      have success : (Build.separate config store (Build.inputs "." names)).isSuccess = true ↔
          Accomplished config store after .buildDirectory := by
        rw [isSuccess_separate_iff]
        simp only [Build.outcome, file_ok_iff_writable, Accomplished, listed, Option.some.injEq,
          exists_eq_left']
      split
      next succeeds => exact iff_of_true rfl (success.mp succeeds)
      next fails => exact iff_of_false Nat.one_ne_zero fun done => fails (success.mpr done)

/-! ### Commands -/

theorem code_ofLogged_iff {α : Type} (flags : Flags) (output : α → String)
    (result : Logged (Except BuildError α)) :
    (Outcome.ofLogged flags output result).code = 0 ↔ result.value.toBool = true := by
  rw [code_ofLogged]
  cases result.value.toBool <;> decide

/-- The exit code of a command is zero exactly if it has done what it was asked for. -/
theorem code_runCommand_iff (store : Store) (flags : Flags) (command : Command) :
    let ended := (runCommand Store.files flags command).run store
    ended.1.code = 0 ↔ Accomplished flags.config store ended.2 command := by
  cases command with
  | create path => exact (code_ofLogged_iff flags _ _).trans (create_ok_iff store path)
  | build input output =>
      exact (code_ofLogged_iff flags builtText _).trans
        (file_ok_iff store input (output.getD (defaultOutput input)) flags.config)
  | buildDirectory => exact code_directory_iff flags store flags.config
  | nothing => exact iff_of_false Nat.one_ne_zero id

theorem code_runCommand_le_one (store : Store) (flags : Flags) (command : Command) :
    ((runCommand Store.files flags command).run store).1.code ≤ 1 := by
  have logged {α : Type} (output : α → String) (result : Logged (Except BuildError α)) :
      (Outcome.ofLogged flags output result).code ≤ 1 := by
    rw [code_ofLogged]
    split <;> decide
  cases command with
  | create path => exact logged _ _
  | build input output => exact logged _ _
  | buildDirectory =>
      show (batchOutcome flags _).code ≤ 1
      rw [code_batchOutcome]
      split
      · split <;> decide
      · exact Nat.le_refl 1
  | nothing => exact Nat.le_refl 1

/-! ### Command lines -/

/-- The exit code of an accepted command line is zero exactly if its command has done what it was
asked for, and one otherwise. Flags for verbosity in front of a command line that does not ask for
less detail itself change neither the exit code nor any file. -/
theorem exit_code_truthful (store : Store) (arguments : List String) :
    let ended := (CommandLine.run Store.files arguments).run store
    (∀ command flags, Request.ofArguments? arguments = some (.run command flags) →
      (Accomplished flags.config store ended.2 command → ended.1.code = 0) ∧
        (¬Accomplished flags.config store ended.2 command → ended.1.code = 1)) ∧
      ∀ front, IsVerbosity front → some .quiet ∉ flagsIn arguments →
        let told := (CommandLine.run Store.files (front ++ arguments)).run store
        told.1.code = ended.1.code ∧ told.2 = ended.2 := by
  dsimp only
  constructor
  · intro command flags asked
    have truthful := code_runCommand_iff store flags command
    have bounded := code_runCommand_le_one store flags command
    dsimp only at truthful
    rw [run_of_asked Store.files asked, ← truthful]
    refine ⟨id, fun failed => ?_⟩
    omega
  · intro front isVerbosity absent
    have same := congrArg (·.run store) (code_run_append Store.files isVerbosity absent)
    exact Prod.mk.inj same

/-- A missing input makes the exit code one, and an empty directory leaves it zero, also where less
is told. -/
theorem exit_code_truthful_quiet :
    ((CommandLine.run Store.files ["-q", "build", "talk.yaml"]).run Store.empty).1.code = 1 ∧
      ((CommandLine.run Store.files ["-q", "build"]).run Store.empty).1.code = 0 := by
  have quiet : IsVerbosity ["-q"] := ⟨by decide, by decide, by decide⟩
  obtain ⟨missing, missingQuiet⟩ := exit_code_truthful Store.empty ["build", "talk.yaml"]
  obtain ⟨empty, emptyQuiet⟩ := exit_code_truthful Store.empty ["build"]
  constructor
  · refine (missingQuiet ["-q"] quiet (by decide)).1.trans ?_
    refine (missing (.build "talk.yaml" none) .none (by decide +kernel)).2 ?_
    rintro ⟨_, _, ⟨_, _, text, -⟩, -⟩
    have noText : Store.empty.readText? "talk.yaml" = none := by decide +kernel
    simp [noText] at text
  · refine (emptyQuiet ["-q"] quiet (by decide)).1.trans ?_
    refine (empty .buildDirectory .none (by decide +kernel)).1 ?_
    refine ⟨[], by decide +kernel, ?_⟩
    simp [Build.inputs]

end SlideDeck.CommandLine
