import SlideDeck.Proofs.Build.Effect
import SlideDeck.Proofs.Store.Directory

/-!
Contract: what the builds of a directory leave in the files that their reports name.

Inputs whose names differ in their extensions only have one output between them, and each build
writes over the one before. So the output of a report holds the page of the last report that names
it, and a report is true exactly if that is its own page.

Owns:
- `IsInput`, the presentations of a directory, whose outputs are no inputs;
- `Ran`, what builds of several inputs do, by one step for each build;
- `Truthful`, a report that the store bears out;
- `built_truthful_iff`, which reports the builds of a directory give and when all of them are true;
- `twins`, two presentations with one output.

Does not own: the single build.
-/

namespace SlideDeck.Build

variable {store after : Store} {location : Location} {directory : String} {config : Page.Config}

/-! ### Inputs and their outputs -/

/-- A presentation that lies in a directory, by its path. -/
def IsInput (directory input : String) : Prop :=
  ∃ (name : Name) (stem extension : List Char),
    input = String.ofList (Path.join directory.toList name.text.toList) ∧
      Path.IsSourceName name.text.toList stem extension

theorem defaultOutput_toList (input : String) :
    (defaultOutput input).toList = Path.pagePath input.toList :=
  String.toList_ofList

theorem mem_inputs_iff {names : List String} {input : String} :
    input ∈ inputs directory names ↔
      (∃ name ∈ names, String.ofList (Path.join directory.toList name.toList) = input) ∧
        Path.isSource input.toList = true := by
  simp only [inputs, List.mem_mergeSort, List.mem_filter, List.mem_map]

section Inputs

variable (lies : store.Lies directory.toList location)

include lies

theorem isInput_of_mem {names : List Name} {input : String}
    (member : input ∈ inputs directory (names.map Name.text)) : IsInput directory input := by
  obtain ⟨⟨_, nameMember, rfl⟩, source⟩ := mem_inputs_iff.mp member
  obtain ⟨name, -, rfl⟩ := List.mem_map.mp nameMember
  obtain ⟨front, joined, -⟩ := lies.exists_front
  rw [String.toList_ofList, joined, Path.isSource_append_iff name.isFileName] at source
  obtain ⟨stem, extension, source⟩ := source
  exact ⟨name, stem, extension, rfl, source⟩

/-- Different outputs are different files. -/
theorem output_eq_of_locate_eq {first second : String} {target : Location}
    (isFirst : IsInput directory first) (isSecond : IsInput directory second)
    (free : store.get? target ≠ some .directory)
    (firstLeads : store.locate (defaultOutput first).toList = some (.inside target))
    (secondLeads : store.locate (defaultOutput second).toList = some (.inside target)) :
    defaultOutput first = defaultOutput second := by
  obtain ⟨firstName, firstStem, _, rfl, firstSource⟩ := isFirst
  obtain ⟨secondName, secondStem, _, rfl, secondSource⟩ := isSecond
  rw [defaultOutput_toList, String.toList_ofList] at firstLeads secondLeads
  obtain ⟨firstPage, firstText, firstTarget⟩ := lies.locate_pagePath firstSource firstLeads free
  obtain ⟨secondPage, secondText, secondTarget⟩ :=
    lies.locate_pagePath secondSource secondLeads free
  have samePage : firstPage = secondPage := by
    simpa using firstTarget.symm.trans secondTarget
  obtain ⟨front, joined, -⟩ := lies.exists_front
  apply String.toList_injective
  rw [defaultOutput_toList, defaultOutput_toList, String.toList_ofList, String.toList_ofList,
    joined, joined, firstSource.pagePath_eq, secondSource.pagePath_eq, ← firstText, ← secondText,
    samePage]

/-- No output is the file of an input. -/
theorem locate_input_ne {first second : String} {target : Location}
    (isFirst : IsInput directory first) (isSecond : IsInput directory second)
    (free : store.get? target ≠ some .directory)
    (leads : store.locate (defaultOutput first).toList = some (.inside target)) :
    store.locate second.toList ≠ some (.inside target) := by
  intro secondLeads
  obtain ⟨firstName, stem, extension, rfl, source⟩ := isFirst
  obtain ⟨secondName, secondStem, secondExtension, rfl, secondSource⟩ := isSecond
  rw [defaultOutput_toList, String.toList_ofList] at leads
  rw [String.toList_ofList, lies.locate_join] at secondLeads
  obtain ⟨page, text, rfl⟩ := lies.locate_pagePath source leads free
  have samePage : secondName = page := by
    simpa using secondLeads
  subst samePage
  have isSource := secondSource.isSource []
  have isName := secondSource.isName
  rw [text] at isSource isName
  rw [Path.not_isSource_pageName isName] at isSource
  exact Bool.false_ne_true isSource

/-- Two inputs share their output exactly if their names are the same up to the extension. -/
theorem output_eq_iff {first second : String} (isFirst : IsInput directory first)
    (isSecond : IsInput directory second) :
    defaultOutput first = defaultOutput second ↔
      Path.extensionless first.toList = Path.extensionless second.toList := by
  obtain ⟨firstName, _, _, rfl, firstSource⟩ := isFirst
  obtain ⟨secondName, _, _, rfl, secondSource⟩ := isSecond
  obtain ⟨front, joined, -⟩ := lies.exists_front
  rw [String.toList_ofList, String.toList_ofList, joined, joined,
    ← Path.pagePath_eq_iff firstSource secondSource front, ← String.toList_inj,
    defaultOutput_toList, defaultOutput_toList, String.toList_ofList, String.toList_ofList]

end Inputs

/-! ### Builds one after the other -/

/-- What builds of inputs of a directory do: inputs keep their texts; the reports are those of the
inputs that have a page and whose output can be written; the output of a report holds the page of
the last report with this output, and all other outputs stay as they are. -/
structure Ran (directory : String) (config : Page.Config) (store : Store) (inputs : List String)
    (built : List Report) (after : Store) : Prop where
  directories : store.SameDirectories after
  sources : ∀ input, IsInput directory input → after.readText? input = store.readText? input
  reports : ∀ report, report ∈ built ↔
    report.input ∈ inputs ∧ report.output = defaultOutput report.input ∧
      (∃ page, Presents config store report.input report.slideCount page) ∧
      store.Writable report.output
  last : ∀ front report back, built = front ++ report :: back →
    (∀ later ∈ back, later.output ≠ report.output) →
      ∃ page, Presents config store report.input report.slideCount page ∧
        after.readText? report.output = some page
  others : ∀ input, IsInput directory input →
    (∀ report ∈ built, report.output ≠ defaultOutput input) →
      after.readText? (defaultOutput input) = store.readText? (defaultOutput input)

namespace Ran

variable {middle : Store} {input : String} {inputs : List String} {built : List Report}

theorem nil (store : Store) : Ran directory config store [] [] store where
  directories := .refl store
  sources := fun _ _ => rfl
  reports := by simp
  last := by simp
  others := fun _ _ _ => rfl

/-- A build that fails before the others. -/
theorem skip {cause : BuildError} (fails : Fails store input (defaultOutput input) config cause)
    (ran : Ran directory config store inputs built after) :
    Ran directory config store (input :: inputs) built after where
  directories := ran.directories
  sources := ran.sources
  reports := by
    intro report
    rw [ran.reports report, List.mem_cons]
    constructor
    · rintro ⟨member, output, presents, writable⟩
      exact ⟨.inr member, output, presents, writable⟩
    · rintro ⟨rfl | member, output, ⟨page, presents⟩, writable⟩
      · rw [output] at writable
        exact absurd writable (fails.not_writable presents)
      · exact ⟨member, output, ⟨page, presents⟩, writable⟩
  last := ran.last
  others := ran.others

/-- A build that writes a page before the others. -/
theorem write {count : Nat} {page : String} {target : Location}
    (lies : store.Lies directory.toList location) (isInput : IsInput directory input)
    (all : ∀ other ∈ inputs, IsInput directory other)
    (presents : Presents config store input count page)
    (leads : store.locate (defaultOutput input).toList = some (.inside target))
    (writes : store.Writes target page.toUTF8 middle)
    (ran : Ran directory config middle inputs built after) :
    Ran directory config store (input :: inputs) (⟨input, defaultOutput input, count⟩ :: built)
      after := by
  have sources : ∀ other, IsInput directory other →
      middle.readText? other = store.readText? other := by
    intro other isOther
    rw [writes.readText?_eq, if_neg (locate_input_ne lies isInput isOther writes.free leads)]
  have written : middle.readText? (defaultOutput input) = some page := by
    rw [writes.readText?_eq, if_pos leads]
  have stillPresents : ∀ other ∈ inputs, ∀ count page,
      Presents config middle other count page ↔ Presents config store other count page :=
    fun other member _ _ => Presents.of_readText?_eq (sources other (all other member))
  constructor
  · exact writes.sameDirectories.trans ran.directories
  · intro other isOther
    rw [ran.sources other isOther, sources other isOther]
  · intro report
    rw [List.mem_cons, List.mem_cons, ran.reports report, writes.sameDirectories.writable_iff]
    constructor
    · rintro (rfl | ⟨member, output, ⟨shown, shows⟩, writable⟩)
      · exact ⟨.inl rfl, rfl, ⟨page, presents⟩, target, leads, writes.free⟩
      · exact ⟨.inr member, output, ⟨shown, (stillPresents _ member _ _).mp shows⟩, writable⟩
    · rintro ⟨rfl | member, output, ⟨shown, shows⟩, writable⟩
      · obtain ⟨rfl, -⟩ := presents.unique shows
        rw [← output]
        exact .inl rfl
      · exact .inr ⟨member, output, ⟨shown, (stillPresents _ member _ _).mpr shows⟩, writable⟩
  · intro front report back whole final
    cases front with
    | nil =>
        obtain ⟨rfl, rfl⟩ := List.cons.inj whole
        refine ⟨page, presents, ?_⟩
        rw [ran.others input isInput final, written]
    | cons first front =>
        obtain ⟨-, whole⟩ := List.cons.inj whole
        obtain ⟨shown, shows, holds⟩ := ran.last front report back whole final
        have member : report ∈ built := by simp [whole]
        obtain ⟨known, -⟩ := (ran.reports report).mp member
        exact ⟨shown, (stillPresents _ known _ _).mp shows, holds⟩
  · intro other isOther untouched
    simp only [List.forall_mem_cons] at untouched
    rw [ran.others other isOther untouched.2, writes.readText?_eq, if_neg]
    intro otherLeads
    exact untouched.1 (output_eq_of_locate_eq lies isInput isOther writes.free leads otherLeads)

end Ran

theorem run_each_cons (config : Page.Config) (input : String) (inputs : List String)
    (store : Store) :
    (each Store.files config (input :: inputs)).run store =
      let first := (file Store.files input (defaultOutput input) config).run store
      let others := (each Store.files config inputs).run first.2
      (⟨Batch.cons input first.1.value others.1.value,
        first.1.log ++ failureLog input first.1.value ++ others.1.log⟩, others.2) := rfl

theorem ran_each (lies : store.Lies directory.toList location) (config : Page.Config)
    (inputs : List String) (all : ∀ input ∈ inputs, IsInput directory input) :
    Ran directory config store inputs ((each Store.files config inputs).run store).1.value.built
      ((each Store.files config inputs).run store).2 := by
  induction inputs generalizing store with
  | nil => exact .nil store
  | cons input inputs inductionHypothesis =>
      rw [List.forall_mem_cons] at all
      obtain ⟨isInput, all⟩ := all
      have effect := effect_file store input (defaultOutput input) config
      rw [run_each_cons]
      generalize (file Store.files input (defaultOutput input) config).run store = first at effect ⊢
      cases effect with
      | failed fails => exact (inductionHypothesis lies all).skip fails
      | built presents leads writes =>
          have liesAfter := lies.of_sameDirectories writes.sameDirectories
          exact .write lies isInput all presents leads writes (inductionHypothesis liesAfter all)

/-! ### Reports of a directory -/

/-- A report is true: its output holds the page of its input. -/
def Truthful (config : Page.Config) (store : Store) (report : Report) : Prop :=
  ∃ page, Presents config store report.input report.slideCount page ∧
    store.readText? report.output = some page

/-- The last of the reports with an output. -/
theorem exists_last_output {built : List Report} {report : Report} (member : report ∈ built) :
    ∃ front last back, built = front ++ last :: back ∧ last.output = report.output ∧
      ∀ later ∈ back, later.output ≠ last.output := by
  have found : (built.reverse.find? (·.output = report.output)).isSome := by
    rw [List.find?_isSome]
    exact ⟨report, List.mem_reverse.mpr member, decide_eq_true rfl⟩
  obtain ⟨last, equal⟩ := Option.isSome_iff_exists.mp found
  obtain ⟨same, back, front, turned, behind⟩ := List.find?_eq_some_iff_append.mp equal
  have same : last.output = report.output := of_decide_eq_true same
  refine ⟨front.reverse, last, back.reverse, ?_, same, ?_⟩
  · rw [← List.reverse_inj, turned]
    simp
  · intro later laterMember
    rw [same]
    simpa using behind later (List.mem_reverse.mp laterMember)

theorem exists_lies_of_listed {names : List String}
    (listed : store.fileNames? directory = some names) :
    ∃ location, store.Lies directory.toList location ∧
      ∀ input ∈ inputs directory names, IsInput directory input := by
  obtain ⟨location, lies, rfl⟩ := Store.fileNames?_eq_some_iff.mp listed
  exact ⟨location, lies, fun input member => isInput_of_mem lies member⟩

theorem run_directory (store : Store) (path : String) (config : Page.Config) :
    (Build.directory Store.files path config).run store =
      match store.fileNames? path with
      | none => (⟨.error .inaccessible, []⟩, store)
      | some names =>
          let batch := (each Store.files config (inputs path names)).run store
          (⟨.ok batch.1.value, .inputs (inputs path names).length path :: batch.1.log⟩,
            batch.2) := by
  unfold Build.directory
  rw [run_bind, run_fileNames]
  cases store.fileNames? path <;> rfl

/-- The reports of a directory are all true exactly if no two of them, for inputs whose names are
the same up to the extension, belong to different pages. -/
theorem Ran.truthful_iff {inputs : List String} {built : List Report}
    (lies : store.Lies directory.toList location)
    (all : ∀ input ∈ inputs, IsInput directory input)
    (ran : Ran directory config store inputs built after) :
    (∀ report ∈ built, Truthful config after report) ↔
      ∀ first ∈ built, ∀ second ∈ built,
        Path.extensionless first.input.toList = Path.extensionless second.input.toList →
          ∃ page, Presents config store first.input first.slideCount page ∧
            Presents config store second.input second.slideCount page := by
  have isInput : ∀ report ∈ built, IsInput directory report.input := fun report member =>
    all _ ((ran.reports report).mp member).1
  have output : ∀ report ∈ built, report.output = defaultOutput report.input :=
    fun report member => ((ran.reports report).mp member).2.1
  have still : ∀ report ∈ built, ∀ page,
      Presents config after report.input report.slideCount page ↔
        Presents config store report.input report.slideCount page :=
    fun report member _ => Presents.of_readText?_eq (ran.sources _ (isInput report member))
  constructor
  · intro truthful first firstMember second secondMember similar
    obtain ⟨page, presents, holds⟩ := truthful first firstMember
    obtain ⟨other, otherPresents, otherHolds⟩ := truthful second secondMember
    have sameOutput : first.output = second.output := by
      rw [output first firstMember, output second secondMember]
      exact (output_eq_iff lies (isInput first firstMember) (isInput second secondMember)).mpr
        similar
    obtain rfl : page = other := by
      rw [sameOutput, otherHolds] at holds
      exact (Option.some.inj holds).symm
    exact ⟨page, (still first firstMember page).mp presents,
      (still second secondMember page).mp otherPresents⟩
  · intro agree report member
    obtain ⟨front, last, back, whole, sameOutput, final⟩ := exists_last_output member
    have lastMember : last ∈ built := by simp [whole]
    obtain ⟨shown, lastPresents, holds⟩ := ran.last front last back whole final
    have similar : Path.extensionless report.input.toList =
        Path.extensionless last.input.toList := by
      rw [← output_eq_iff lies (isInput report member) (isInput last lastMember),
        ← output report member, ← output last lastMember, sameOutput]
    obtain ⟨page, presents, otherPresents⟩ := agree report member last lastMember similar
    obtain ⟨-, rfl⟩ := otherPresents.unique lastPresents
    rw [sameOutput] at holds
    exact ⟨page, (still report member page).mpr presents, holds⟩

/-- What the builds of a directory report: the presentations that have a page and an output that
can be written. These reports are all true exactly if no two of them, for inputs whose names are
the same up to the extension, belong to different pages. A directory that cannot be listed gives
no reports, and nothing changes. -/
theorem built_truthful_iff (store : Store) (path : String) (config : Page.Config) :
    match (Build.directory Store.files path config).run store with
    | (⟨.error _, _⟩, after) => store.fileNames? path = none ∧ after = store
    | (⟨.ok batch, _⟩, after) =>
        ∃ names, store.fileNames? path = some names ∧
          (∀ report, report ∈ batch.built ↔
            report.input ∈ inputs path names ∧ report.output = defaultOutput report.input ∧
              (∃ page, Presents config store report.input report.slideCount page) ∧
              store.Writable report.output) ∧
          ((∀ report ∈ batch.built, Truthful config after report) ↔
            ∀ first ∈ batch.built, ∀ second ∈ batch.built,
              Path.extensionless first.input.toList = Path.extensionless second.input.toList →
                ∃ page, Presents config store first.input first.slideCount page ∧
                  Presents config store second.input second.slideCount page) := by
  rw [run_directory]
  cases listed : store.fileNames? path with
  | none => exact ⟨rfl, rfl⟩
  | some names =>
      obtain ⟨location, lies, all⟩ := exists_lies_of_listed listed
      have ran := ran_each lies config (inputs path names) all
      exact ⟨names, rfl, ran.reports, ran.truthful_iff lies all⟩

/-! ### Two presentations with one page -/

/-- The number of slides and the page of a source. -/
def rendered (config : Page.Config) (source : String) : Option (Nat × String) :=
  (Schema.deck source).toOption.bind fun deck =>
    (Page.page deck config).toOption.map (deck.slides.length, ·)

theorem presents_of_rendered {input source : String} {count : Nat}
    (text : store.readText? input = some source)
    (counted : (rendered config source).map Prod.fst = some count) :
    ∃ page, Presents config store input count page ∧
      rendered config source = some (count, page) := by
  unfold rendered at counted ⊢
  cases read : Schema.deck source with
  | error cause => simp [read, Except.toOption] at counted
  | ok deck =>
      cases shown : Page.page deck config with
      | error cause => simp [read, shown, Except.toOption] at counted
      | ok page =>
          simp only [read, shown, Except.toOption, Option.bind_some, Option.map_some,
            Option.some.injEq] at counted ⊢
          exact ⟨page, ⟨source, deck, text, read, shown, counted⟩, by rw [counted]⟩

/-- A directory with two presentations of one name in both spellings of the extension. -/
def twins : Store :=
  (Store.empty.put [⟨"a.yaml", by decide⟩] (.file "slides: [{}]".toUTF8)).put
    [⟨"a.yml", by decide⟩] (.file "slides: [{}, {}]".toUTF8)

/-- Both presentations are reported as built, and one of the reports is false. -/
theorem twins_reported_falsely :
    ∃ batch log after,
      (Build.directory Store.files "." .default).run twins = (⟨.ok batch, log⟩, after) ∧
        ⟨"./a.yaml", "./a.html", 1⟩ ∈ batch.built ∧ ⟨"./a.yml", "./a.html", 2⟩ ∈ batch.built ∧
        ¬∀ report ∈ batch.built, Truthful .default after report := by
  have listed : twins.fileNames? "." = some ["a.yaml", "a.yml"] := by decide +kernel
  have firstInput : "./a.yaml" ∈ inputs "." ["a.yaml", "a.yml"] :=
    mem_inputs_iff.mpr ⟨⟨"a.yaml", by simp, by decide +kernel⟩, by decide +kernel⟩
  have secondInput : "./a.yml" ∈ inputs "." ["a.yaml", "a.yml"] :=
    mem_inputs_iff.mpr ⟨⟨"a.yml", by simp, by decide +kernel⟩, by decide +kernel⟩
  have firstText : twins.readText? "./a.yaml" = some "slides: [{}]" := by decide +kernel
  have secondText : twins.readText? "./a.yml" = some "slides: [{}, {}]" := by decide +kernel
  have firstOutput : "./a.html" = defaultOutput "./a.yaml" := by decide +kernel
  have secondOutput : "./a.html" = defaultOutput "./a.yml" := by decide +kernel
  have writable : twins.Writable "./a.html" :=
    ⟨[⟨"a.html", by decide⟩], by decide +kernel, by decide +kernel⟩
  have firstCounted : (rendered .default "slides: [{}]").map Prod.fst = some 1 := by
    decide +kernel
  have secondCounted : (rendered .default "slides: [{}, {}]").map Prod.fst = some 2 := by
    decide +kernel
  obtain ⟨firstPage, firstPresents, firstRendered⟩ :=
    presents_of_rendered firstText firstCounted
  obtain ⟨secondPage, secondPresents, secondRendered⟩ :=
    presents_of_rendered secondText secondCounted
  have differ : (rendered .default "slides: [{}]").map Prod.snd ≠
      (rendered .default "slides: [{}, {}]").map Prod.snd := by decide +kernel
  obtain ⟨location, lies, all⟩ := exists_lies_of_listed listed
  have ran := ran_each lies .default _ all
  have firstBuilt := (ran.reports ⟨"./a.yaml", "./a.html", 1⟩).mpr
    ⟨firstInput, firstOutput, ⟨firstPage, firstPresents⟩, writable⟩
  have secondBuilt := (ran.reports ⟨"./a.yml", "./a.html", 2⟩).mpr
    ⟨secondInput, secondOutput, ⟨secondPage, secondPresents⟩, writable⟩
  rw [run_directory, listed]
  refine ⟨_, _, _, rfl, firstBuilt, secondBuilt, ?_⟩
  intro truthful
  have similar : Path.extensionless "./a.yaml".toList = Path.extensionless "./a.yml".toList := by
    decide +kernel
  obtain ⟨page, ofFirst, ofSecond⟩ :=
    (ran.truthful_iff lies all).mp truthful _ firstBuilt _ secondBuilt similar
  obtain ⟨-, rfl⟩ := ofFirst.unique firstPresents
  obtain ⟨-, rfl⟩ := ofSecond.unique secondPresents
  rw [firstRendered, secondRendered] at differ
  exact differ rfl

end SlideDeck.Build
