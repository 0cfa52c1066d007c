import SlideDeck.Proofs.Build.Inputs

/-!
Contract: the builds of a directory do not influence each other.

Pages are never presentations, so whatever has been written before, a build finds its input as it
was at first, and the same target.

Owns:
- `outcome`, the build of one presentation alone, and `pageAt`, what it writes at a location;
- `Alike`, stores with the same directories and presentations, which every build keeps;
- `separate` and `lastPage`: the batch, and the files afterwards, from builds each done alone;
- `builds_independent`.

Does not own: whether reports are true.
-/

namespace SlideDeck.Build

variable {store current : Store} {location : Location} {directory input : String}
  {config : Page.Config}

/-! ### One build alone -/

/-- The result of the build of a presentation to its own output. -/
def outcome (config : Page.Config) (store : Store) (input : String) :
    Logged (Except BuildError Report) :=
  ((file Store.files input (defaultOutput input) config).run store).1

/-- The page that the build of a presentation writes at a location. -/
def pageAt (config : Page.Config) (store : Store) (location : Location) (input : String) :
    Option String :=
  match (drafted config store input).value with
  | .error _ => none
  | .ok (_, page) =>
      if store.target? (defaultOutput input) = some location then some page else none

theorem get?_run_file (store : Store) (input : String) (config : Page.Config)
    (location : Location) :
    ((file Store.files input (defaultOutput input) config).run store).2.get? location =
      (pageAt config store location input).elim (store.get? location)
        fun page => some (.file page.toUTF8) := by
  rw [run_file, pageAt]
  dsimp only
  cases (drafted config store input).value with
  | error cause => rfl
  | ok draft =>
      obtain ⟨count, page⟩ := draft
      dsimp only
      cases targeted : store.target? (defaultOutput input) with
      | none => rfl
      | some target =>
          have free := (Store.target?_eq_some_iff.mp targeted).2
          have writes : store.Writes target page.toUTF8 _ := Store.writes_put free
          dsimp only
          split
          next here => rw [← Option.some.inj here, writes.written, Option.elim_some]
          next elsewhere =>
            have different : location ≠ target := fun equal => elsewhere (by rw [equal])
            rw [writes.others location different, Option.elim_none]

/-- What the build of a presentation writes is the output of its report. -/
theorem exists_report_of_pageAt {page : String}
    (writes : pageAt config store location input = some page) :
    ∃ report, (outcome config store input).value = .ok report ∧
      store.locate report.output.toList = some (.inside location) := by
  rw [outcome, run_file]
  unfold pageAt at writes
  split at writes
  next => simp at writes
  next count shown drafts =>
    split at writes
    next targeted =>
      simp only [drafts, targeted]
      exact ⟨_, rfl, (Store.target?_eq_some_iff.mp targeted).1⟩
    next => simp at writes

theorem input_of_outcome {report : Report}
    (built : (outcome config store input).value = .ok report) : report.input = input := by
  have effect := effect_file store input (defaultOutput input) config
  rw [outcome] at built
  generalize (file Store.files input (defaultOutput input) config).run store = ended at effect built
  cases effect with
  | failed fails => simp at built
  | built => rw [← Except.ok.inj built]

/-! ### Stores with the same presentations -/

/-- One store is like another one for the builds of a directory: it has the same directories and
the same presentations. -/
structure Alike (directory : String) (store current : Store) : Prop where
  directories : store.SameDirectories current
  found : ∀ input, IsInput directory input → current.find? input = store.find? input

namespace Alike

theorem refl (store : Store) : Alike directory store store where
  directories := .refl store
  found := fun _ _ => rfl

variable (alike : Alike directory store current) (isInput : IsInput directory input)

include alike isInput

theorem drafted_eq : drafted config current input = drafted config store input := by
  have loadedEq : loaded current input = loaded store input := by
    simp only [loaded, Store.readText?, Store.read?, alike.found input isInput]
  rw [drafted, drafted, loadedEq]

theorem outcome_eq (config : Page.Config) :
    outcome config current input = outcome config store input := by
  rw [outcome, outcome, Build.run_file, Build.run_file, alike.drafted_eq isInput,
    alike.directories.target?_eq]
  dsimp only
  cases (drafted config store input).value with
  | error cause => rfl
  | ok draft => cases store.target? (defaultOutput input) <;> rfl

theorem pageAt_eq : pageAt config current location input = pageAt config store location input := by
  rw [pageAt, pageAt, alike.drafted_eq isInput, alike.directories.target?_eq]

/-- A build changes no presentation. -/
theorem after_file (lies : store.Lies directory.toList location) (config : Page.Config) :
    Alike directory store
      ((file Store.files input (defaultOutput input) config).run current).2 := by
  have effect := effect_file current input (defaultOutput input) config
  generalize (file Store.files input (defaultOutput input) config).run current = ended at effect ⊢
  cases effect with
  | failed fails => exact alike
  | built presents leads writes =>
      have liesNow := lies.of_sameDirectories alike.directories
      refine ⟨alike.directories.trans writes.sameDirectories, ?_⟩
      intro other isOther
      rw [writes.find?_eq, if_neg (locate_input_ne liesNow isInput isOther writes.free leads),
        alike.found other isOther]

end Alike

/-! ### Builds one after the other -/

/-- The batch of builds each of which is done alone. -/
def separate (config : Page.Config) (store : Store) (inputs : List String) : Batch where
  built := inputs.filterMap fun input => (outcome config store input).value.toOption
  failed := inputs.filterMap fun input =>
    match (outcome config store input).value with
    | .ok _ => none
    | .error cause => some (input, cause)

def separateLog (config : Page.Config) (store : Store) (inputs : List String) : List LogEntry :=
  inputs.flatMap fun input =>
    (outcome config store input).log ++ failureLog input (outcome config store input).value

theorem separate_cons (config : Page.Config) (store : Store) (input : String)
    (inputs : List String) :
    separate config store (input :: inputs) =
      Batch.cons input (outcome config store input).value (separate config store inputs) := by
  simp only [separate, List.filterMap_cons]
  cases (outcome config store input).value <;> rfl

/-- The last page that builds write at a location. -/
def lastPage (config : Page.Config) (store : Store) (inputs : List String) (location : Location) :
    Option String :=
  inputs.reverse.findSome? (pageAt config store location)

theorem lastPage_cons (config : Page.Config) (store : Store) (input : String)
    (inputs : List String) (location : Location) :
    lastPage config store (input :: inputs) location =
      (lastPage config store inputs location).or (pageAt config store location input) := by
  simp [lastPage, List.findSome?_append]

section Each

variable {inputs : List String} (lies : store.Lies directory.toList location)
  (all : ∀ input ∈ inputs, IsInput directory input)

include lies all

/-- The reports and the log of builds are those of each build alone. -/
theorem run_each_fst (alike : Alike directory store current) (config : Page.Config) :
    ((each Store.files config inputs).run current).1 =
      ⟨separate config store inputs, separateLog config store inputs⟩ := by
  induction inputs generalizing current with
  | nil => rfl
  | cons input inputs inductionHypothesis =>
      rw [List.forall_mem_cons] at all
      have first := alike.outcome_eq all.1 config
      rw [run_each_cons]
      dsimp only
      rw [inductionHypothesis all.2 (alike.after_file all.1 lies config), separate_cons, ← first]
      simp only [separateLog, List.flatMap_cons, ← first]
      rfl

/-- Every location holds the last page that is written there, or what it held before. -/
theorem get?_run_each (alike : Alike directory store current) (config : Page.Config)
    (other : Location) :
    ((each Store.files config inputs).run current).2.get? other =
      (lastPage config store inputs other).elim (current.get? other)
        fun page => some (.file page.toUTF8) := by
  induction inputs generalizing current with
  | nil => rfl
  | cons input inputs inductionHypothesis =>
      rw [List.forall_mem_cons] at all
      rw [run_each_cons]
      dsimp only
      rw [inductionHypothesis all.2 (alike.after_file all.1 lies config), get?_run_file,
        alike.pageAt_eq all.1, lastPage_cons]
      cases lastPage config store inputs other <;> rfl

theorem alike_run_each (alike : Alike directory store current) (config : Page.Config) :
    Alike directory store ((each Store.files config inputs).run current).2 := by
  induction inputs generalizing current with
  | nil => exact alike
  | cons input inputs inductionHypothesis =>
      rw [List.forall_mem_cons] at all
      exact inductionHypothesis all.2 (alike.after_file all.1 lies config)

end Each

/-! ### Builds of a directory -/

theorem isInput_of_listed (lies : store.Lies directory.toList location) :
    ∀ input ∈ listed store location directory, IsInput directory input :=
  fun _ member => isInput_of_mem lies member

theorem run_listed (lies : store.Lies directory.toList location) (config : Page.Config) :
    (Build.directory Store.files directory config).run store =
      let found := listed store location directory
      let batch := (each Store.files config found).run store
      (⟨.ok batch.1.value, .inputs found.length directory :: batch.1.log⟩, batch.2) := by
  rw [run_directory, Store.fileNames?_eq_some_iff.mpr ⟨location, lies, rfl⟩]
  rfl

namespace Alike

theorem of_get?_eq (same : ∀ other, current.get? other = store.get? other) :
    Alike directory store current := by
  have directories : store.SameDirectories current := fun other => by rw [same]
  refine ⟨directories, ?_⟩
  intro input _
  rw [Store.find?, Store.find?, directories.locate_eq]
  congr 1
  funext place
  cases place with
  | inside other => exact same other
  | above => rfl

theorem listed_eq (alike : Alike directory store current)
    (lies : store.Lies directory.toList location) :
    listed current location directory = listed store location directory := by
  have liesNow := lies.of_sameDirectories alike.directories
  refine Build.listed_eq lies liesNow ?_
  intro name
  refine and_congr_left ?_
  rintro ⟨stem, extension, source⟩
  have found := alike.found _ ⟨name, stem, extension, rfl, source⟩
  rw [← find?_inputPath lies, ← find?_inputPath liesNow, inputPath, found]

/-- Builds of a directory give the same results on like stores, and write the same pages. -/
theorem run_directory (alike : Alike directory store current)
    (lies : store.Lies directory.toList location) (config : Page.Config) :
    ((Build.directory Store.files directory config).run current).1 =
        ((Build.directory Store.files directory config).run store).1 ∧
      ∀ other, ((Build.directory Store.files directory config).run current).2.get? other =
        (lastPage config store (listed store location directory) other).elim (current.get? other)
          fun page => some (.file page.toUTF8) := by
  have all := isInput_of_listed lies
  have liesNow := lies.of_sameDirectories alike.directories
  rw [run_listed lies, run_listed liesNow, alike.listed_eq lies]
  dsimp only
  constructor
  · rw [run_each_fst lies all alike, run_each_fst lies all (.refl store)]
  · exact get?_run_each lies all alike config

end Alike

/-- The inputs of a batch are these, each once, and both lists are in their order. -/
structure Covers (batch : Batch) (inputs : List String) : Prop where
  once : (batch.built.map Report.input ++ batch.failed.map Prod.fst).Perm inputs
  builtInOrder : (batch.built.map Report.input).Sublist inputs
  failedInOrder : (batch.failed.map Prod.fst).Sublist inputs

theorem covers_separate (config : Page.Config) (store : Store) (inputs : List String) :
    Covers (separate config store inputs) inputs := by
  induction inputs with
  | nil => exact ⟨.nil, .slnil, .slnil⟩
  | cons input inputs inductionHypothesis =>
      obtain ⟨once, builtInOrder, failedInOrder⟩ := inductionHypothesis
      rw [separate_cons]
      cases result : (outcome config store input).value with
      | ok report =>
          simp only [Batch.cons]
          refine ⟨?_, ?_, failedInOrder.cons input⟩ <;>
            rw [List.map_cons, input_of_outcome result]
          · exact once.cons input
          · exact builtInOrder.cons_cons input
      | error cause =>
          simp only [Batch.cons]
          refine ⟨?_, builtInOrder.cons input, ?_⟩ <;> rw [List.map_cons]
          · exact List.perm_middle.trans (once.cons input)
          · exact failedInOrder.cons_cons input

theorem exists_report_of_lastPage {inputs : List String} {page : String}
    (writes : lastPage config store inputs location = some page) :
    ∃ report ∈ (separate config store inputs).built,
      store.locate report.output.toList = some (.inside location) := by
  obtain ⟨input, member, written⟩ := List.exists_of_findSome?_eq_some writes
  obtain ⟨report, built, leads⟩ := exists_report_of_pageAt written
  refine ⟨report, List.mem_filterMap.mpr ⟨input, List.mem_reverse.mp member, ?_⟩, leads⟩
  rw [built]
  rfl

/-- The builds of a directory are independent of each other. Their inputs are the files of the
directory that are presentations, each once and in the order of the bytes of their names; the
batch is that of builds each of which is done alone on the store as it was at first; and only
outputs of successful builds change. The order in which the directory is listed makes no
difference, and a second run gives the same batch and changes nothing. -/
theorem builds_independent (store : Store) (path : String) (config : Page.Config) :
    match (Build.directory Store.files path config).run store with
    | (⟨.error _, _⟩, after) => store.fileNames? path = none ∧ after = store
    | (⟨.ok batch, log⟩, after) =>
        ∃ (location : Location) (names : List Name), store.Lies path.toList location ∧
          (∀ name, name ∈ names ↔ Holds store location name) ∧
          names.Pairwise (fun first second => Text.bytes first.text < Text.bytes second.text) ∧
          batch = separate config store (names.map (inputPath path)) ∧
          Covers batch (names.map (inputPath path)) ∧
          (∀ other, after.get? other ≠ store.get? other →
            ∃ report ∈ batch.built, store.locate report.output.toList = some (.inside other)) ∧
          (∀ relisted : Store, (∀ other, relisted.get? other = store.get? other) →
            ∃ same, (Build.directory Store.files path config).run relisted =
                (⟨.ok batch, log⟩, same) ∧
              ∀ other, same.get? other = after.get? other) ∧
          ∃ same, (Build.directory Store.files path config).run after = (⟨.ok batch, log⟩, same) ∧
            ∀ other, same.get? other = after.get? other := by
  cases readable : store.fileNames? path with
  | none =>
      rw [Build.run_directory, readable]
      exact ⟨rfl, rfl⟩
  | some found =>
      obtain ⟨location, lies, -⟩ := Store.fileNames?_eq_some_iff.mp readable
      have all := isInput_of_listed lies
      obtain ⟨names, listedEq, ascending, held⟩ := exists_names lies
      have again {current : Store} (alike : Alike path store current) :=
        alike.run_directory lies config
      have results := run_each_fst lies all (.refl store) config
      have entries := get?_run_each lies all (.refl store) config
      have alikeAfter := alike_run_each lies all (.refl store) config
      rw [run_listed lies config] at again ⊢
      dsimp only at again ⊢
      generalize (each Store.files config (listed store location path)).run store = ended
        at again results entries alikeAfter ⊢
      obtain ⟨batch, after⟩ := ended
      obtain rfl : batch = ⟨_, _⟩ := results
      dsimp only at again entries alikeAfter ⊢
      refine ⟨location, names, lies, held, ascending, ?_, ?_, ?_, ?_, ?_⟩
      · rw [listedEq]
      · rw [← listedEq]
        exact covers_separate config store _
      · intro other changed
        cases last : lastPage config store (listed store location path) other with
        | none =>
            rw [entries, last] at changed
            exact absurd rfl changed
        | some page => exact exists_report_of_lastPage last
      · intro relisted sameEntries
        obtain ⟨sameResult, written⟩ := again (.of_get?_eq sameEntries)
        refine ⟨_, Prod.ext sameResult rfl, ?_⟩
        intro other
        rw [written, entries, sameEntries]
      · obtain ⟨sameResult, written⟩ := again alikeAfter
        refine ⟨_, Prod.ext sameResult rfl, ?_⟩
        intro other
        rw [written, entries]
        cases lastPage config store (listed store location path) other <;> rfl

end SlideDeck.Build
