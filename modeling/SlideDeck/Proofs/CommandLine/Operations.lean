import SlideDeck.CommandLine.Session
import SlideDeck.Proofs.Build.Truth
import SlideDeck.Proofs.Store.PageFile

/-!
Contract: no run of operations changes a source.

Operations write at two kinds of locations only: where nothing stands yet, and those of pages. So
whatever stood at a location at first still stands there, and as it was if it is no page.

Owns:
- `Operation`, what is done with a store at one time, and `performAll`, one after the other;
- `Keeps`, what operations leave as it was, for one operation and for a run of them;
- `sources_kept`.

Does not own: builds to an output that a command line names, which write what they are told to.
-/

namespace SlideDeck.CommandLine

variable {store middle after : Store}

/-- Whether a command line leaves the output of a build to the path of its input. -/
def NamesNoOutput (arguments : List String) : Prop :=
  ∀ input output flags,
    Request.ofArguments? arguments ≠ some (.run (.build input (some output)) flags)

/-- What is done with a store at one time. Every build goes to the path that its input gives. -/
inductive Operation where
  | create (path : String)
  | build (input : String) (config : Page.Config)
  | buildDirectory (path : String) (config : Page.Config)
  | commandLine (arguments : List String) (namesNoOutput : NamesNoOutput arguments)

def Operation.perform (store : Store) : Operation → Store
  | create path => ((Build.create Store.files path).run store).2
  | build input config => ((Build.file Store.files input (defaultOutput input) config).run store).2
  | buildDirectory path config => ((Build.directory Store.files path config).run store).2
  | commandLine arguments _ => ((CommandLine.run Store.files arguments).run store).2

def performAll (store : Store) (operations : List Operation) : Store :=
  operations.foldl Operation.perform store

/-- What operations leave as it was: directories are where they were, files are still there, and
those that are no pages hold the same bytes. -/
structure Keeps (store after : Store) : Prop where
  directories : store.SameDirectories after
  files : ∀ location bytes, store.get? location = some (.file bytes) →
    ∃ kept, after.get? location = some (.file kept) ∧ (¬IsPage location → kept = bytes)

namespace Keeps

theorem refl (store : Store) : Keeps store store where
  directories := .refl store
  files := fun _ bytes held => ⟨bytes, held, fun _ => rfl⟩

theorem trans (first : Keeps store middle) (second : Keeps middle after) : Keeps store after where
  directories := first.directories.trans second.directories
  files := by
    intro location bytes held
    obtain ⟨between, heldBetween, sameFirst⟩ := first.files location bytes held
    obtain ⟨kept, heldAfter, sameSecond⟩ := second.files location between heldBetween
    refine ⟨kept, heldAfter, ?_⟩
    intro noPage
    rw [sameSecond noPage, sameFirst noPage]

/-- A writing keeps everything if it is at the location of a page or where nothing stands. -/
theorem of_writes {location : Location} {bytes : ByteArray}
    (writes : store.Writes location bytes after)
    (harmless : IsPage location ∨ store.get? location = none) : Keeps store after where
  directories := writes.sameDirectories
  files := by
    intro other held heldBefore
    by_cases here : other = location
    · refine ⟨bytes, by rw [here, writes.written], ?_⟩
      intro noPage
      rcases harmless with page | free
      · exact absurd (here ▸ page) noPage
      · rw [here, free] at heldBefore
        simp at heldBefore
    · exact ⟨held, by rw [writes.others other here, heldBefore], fun _ => rfl⟩

end Keeps

/-! ### One operation -/

theorem run_of_asked {m : Type → Type} [Monad m] (files : Files m) {arguments : List String}
    {command : Command} {flags : Flags}
    (asked : Request.ofArguments? arguments = some (.run command flags)) :
    CommandLine.run files arguments = runCommand files flags command := by
  rw [CommandLine.run, asked]

/-- A new presentation is refused where something stands, and nothing changes. -/
theorem run_create_of_isSome {path : String} (present : (store.find? path).isSome) :
    (Build.create Store.files path).run store = (⟨.error (.alreadyExists path), []⟩, store) := by
  rw [Build.create, Build.run_bind, Build.run_isThere]
  dsimp only
  rw [if_pos present]
  rfl

/-- Where nothing stands, a new presentation is written, if it can be. -/
theorem run_create_of_none {path : String} (absent : store.find? path = none) :
    (Build.create Store.files path).run store =
      match store.write? path starterDeck.toUTF8 with
      | none => (⟨.error .inaccessible, []⟩, store)
      | some next => (⟨.ok (), [.created path]⟩, next) := by
  rw [Build.create, Build.run_bind, Build.run_isThere, absent]
  dsimp only
  rw [if_neg (by decide), Build.run_bind, Build.run_writeText]
  cases store.write? path starterDeck.toUTF8 <;> rfl

theorem keeps_create (store : Store) (path : String) :
    Keeps store ((Build.create Store.files path).run store).2 := by
  cases present : store.find? path with
  | some entry =>
      rw [run_create_of_isSome (by rw [present]; rfl)]
      exact .refl store
  | none =>
      rw [run_create_of_none present]
      cases written : store.write? path starterDeck.toUTF8 with
      | none => exact .refl store
      | some next =>
          obtain ⟨location, leads, free, rfl⟩ := Store.write?_eq_some_iff.mp written
          refine .of_writes (Store.writes_put free) (.inr ?_)
          simpa [Store.find?, leads, Store.entry?] using present

theorem keeps_file (store : Store) (input : String) (config : Page.Config) :
    Keeps store ((Build.file Store.files input (defaultOutput input) config).run store).2 := by
  have effect := Build.effect_file store input (defaultOutput input) config
  generalize (Build.file Store.files input (defaultOutput input) config).run store = ended
    at effect ⊢
  cases effect with
  | failed fails => exact .refl store
  | built presents leads writes =>
      rw [Build.defaultOutput_toList] at leads
      exact .of_writes writes (.inl (isPage_of_locate leads writes.free))

theorem keeps_each (config : Page.Config) (inputs : List String) (store : Store) :
    Keeps store ((Build.each Store.files config inputs).run store).2 := by
  induction inputs generalizing store with
  | nil => exact .refl store
  | cons input inputs inductionHypothesis =>
      rw [Build.run_each_cons]
      exact (keeps_file store input config).trans (inductionHypothesis _)

theorem keeps_directory (store : Store) (path : String) (config : Page.Config) :
    Keeps store ((Build.directory Store.files path config).run store).2 := by
  rw [Build.run_directory]
  split
  next => exact .refl store
  next names _ => exact keeps_each config _ store

/-- What is made of the result of an action does not matter for the store. -/
theorem run_bind_pure_snd {α β : Type} (action : StateM Store α) (value : α → β)
    (store : Store) :
    ((action >>= fun result => pure (value result)).run store).2 = (action.run store).2 := rfl

theorem keeps_commandLine (store : Store) {arguments : List String}
    (namesNoOutput : NamesNoOutput arguments) :
    Keeps store ((CommandLine.run Store.files arguments).run store).2 := by
  unfold CommandLine.run
  split
  next command flags asked =>
    cases command with
    | create path =>
        rw [runCommand, run_bind_pure_snd]
        exact keeps_create store path
    | build input output =>
        cases output with
        | none =>
            rw [runCommand, run_bind_pure_snd]
            exact keeps_file store input flags.config
        | some output => exact absurd asked (namesNoOutput input output flags)
    | buildDirectory =>
        rw [runCommand, run_bind_pure_snd]
        exact keeps_directory store "." flags.config
    | nothing => exact .refl store
  all_goals exact .refl store

theorem keeps_perform (store : Store) (operation : Operation) :
    Keeps store (operation.perform store) := by
  cases operation with
  | create path => exact keeps_create store path
  | build input config => exact keeps_file store input config
  | buildDirectory path config => exact keeps_directory store path config
  | commandLine arguments namesNoOutput => exact keeps_commandLine store namesNoOutput

/-! ### Runs of operations -/

theorem keeps_performAll (store : Store) (operations : List Operation) :
    Keeps store (performAll store operations) := by
  induction operations generalizing store with
  | nil => exact .refl store
  | cons operation operations inductionHypothesis =>
      exact (keeps_perform store operation).trans (inductionHypothesis _)

/-- A run of operations removes nothing and changes no file but pages. Where something stands
after it, a new presentation is refused, by a command line too, and nothing changes. -/
theorem sources_kept (store : Store) (operations : List Operation) :
    let after := performAll store operations
    store.SameDirectories after ∧
      (∀ location bytes, store.get? location = some (.file bytes) →
        ∃ kept, after.get? location = some (.file kept) ∧ (¬IsPage location → kept = bytes)) ∧
      ∀ path, (after.find? path).isSome →
        (Build.create Store.files path).run after = (⟨.error (.alreadyExists path), []⟩, after) ∧
        ∀ arguments flags, Request.ofArguments? arguments = some (.run (.create path) flags) →
          (CommandLine.run Store.files arguments).run after =
            (Outcome.failure flags [] (.alreadyExists path), after) := by
  have keeps := keeps_performAll store operations
  refine ⟨keeps.directories, keeps.files, ?_⟩
  intro path present
  have refused := run_create_of_isSome present
  refine ⟨refused, ?_⟩
  intro arguments flags asked
  rw [CommandLine.run, asked]
  dsimp only
  rw [runCommand, Build.run_bind, refused]
  rfl

theorem namesNoOutput_of_asked {arguments : List String} (command : Command) (flags : Flags)
    (asked : Request.ofArguments? arguments = some (.run command flags))
    (noOutput : ∀ input output, command ≠ .build input (some output)) :
    NamesNoOutput arguments := by
  intro input output others equal
  rw [asked] at equal
  simp only [Option.some.injEq, Request.run.injEq] at equal
  exact noOutput input output equal.1

/-- A presentation outlives every way to build it, and every try to begin it anew. -/
theorem sources_kept_talk :
    let talk : Store := Store.empty.put [⟨"talk.yaml", by decide⟩] (.file "slides: [{}]".toUTF8)
    let operations : List Operation :=
      [.create "talk.yaml", .build "talk.yaml" .default, .buildDirectory "." .default,
        .commandLine ["--isolate-failures", "talk.yaml"] (namesNoOutput_of_asked
          (.build "talk.yaml" none) ⟨false, false, true⟩ (by decide +kernel) (by simp)),
        .commandLine ["build"] (namesNoOutput_of_asked
          .buildDirectory .none (by decide +kernel) (by simp)),
        .commandLine ["new", "talk.yaml"] (namesNoOutput_of_asked
          (.create "talk.yaml") .none (by decide +kernel) (by simp))]
    (performAll talk operations).get? [⟨"talk.yaml", by decide⟩] =
      some (.file "slides: [{}]".toUTF8) := by
  intro talk operations
  have held : talk.get? [⟨"talk.yaml", by decide⟩] = some (.file "slides: [{}]".toUTF8) := by
    decide +kernel
  obtain ⟨-, files, -⟩ := sources_kept talk operations
  obtain ⟨kept, heldAfter, same⟩ := files _ _ held
  rw [heldAfter, same]
  rintro ⟨name, last, suffixOf⟩
  obtain rfl : ⟨"talk.yaml", by decide⟩ = name := Option.some.inj last
  revert suffixOf
  decide +kernel

end SlideDeck.CommandLine
