import SlideDeck.Build.Presentation
import SlideDeck.Proofs.Store.Writing

/-!
Contract: what the build of one file does to a store.

Everything that can fail comes before the one writing, and a refused writing changes nothing.

Owns:
- `Presents`: the page of a file and the number of its slides;
- `Fails`, the causes for which a build fails;
- `Effect`, the two ways in which a build ends, and `effect_file`: there is no third one;
- `file_changes`, what a build changes, location by location;
- `drafted` and `run_file`, the build as a function of its input and its target.

Does not own: where pages go, and builds of many files.
-/

namespace SlideDeck.Build

variable {store after : Store} {input output page : String} {config : Page.Config}
  {count : Nat} {log : List LogEntry}

/-- A file holds the source of a deck with a number of slides, and the page of that deck. -/
def Presents (config : Page.Config) (store : Store) (input : String) (count : Nat)
    (page : String) : Prop :=
  ∃ source deck, store.readText? input = some source ∧ Schema.deck source = .ok deck ∧
    Page.page deck config = .ok page ∧ deck.slides.length = count

theorem Presents.unique {otherCount : Nat} {other : String}
    (first : Presents config store input count page)
    (second : Presents config store input otherCount other) :
    count = otherCount ∧ page = other := by
  obtain ⟨source, deck, text, read, rendered, rfl⟩ := first
  obtain ⟨otherSource, otherDeck, otherText, otherRead, otherRendered, rfl⟩ := second
  obtain rfl : source = otherSource := Option.some.inj (text.symm.trans otherText)
  obtain rfl : deck = otherDeck := Except.ok.inj (read.symm.trans otherRead)
  exact ⟨rfl, Except.ok.inj (rendered.symm.trans otherRendered)⟩

theorem Presents.of_readText?_eq (same : after.readText? input = store.readText? input) :
    Presents config after input count page ↔ Presents config store input count page := by
  simp only [Presents, same]

/-- Why the build of a file fails: there is no input, it holds no text, its text is no deck, its
deck has no page, or the page cannot be written. -/
inductive Fails (store : Store) (input output : String) (config : Page.Config) :
    BuildError → Prop where
  | missing (absent : store.find? input = none) :
      Fails store input output config (.inputNotFound input)
  | unreadable {entry : Entry} (present : store.find? input = some entry)
      (noText : store.readText? input = none) : Fails store input output config .inaccessible
  | source {source : String} {cause : Schema.ReadError}
      (text : store.readText? input = some source) (refused : Schema.deck source = .error cause) :
      Fails store input output config (.source cause)
  | page {source : String} {deck : Deck} {cause : Page.PageError}
      (text : store.readText? input = some source) (read : Schema.deck source = .ok deck)
      (refused : Page.page deck config = .error cause) :
      Fails store input output config (.page cause)
  | unwritable {count : Nat} {page : String} (presents : Presents config store input count page)
      (refused : ¬store.Writable output) : Fails store input output config .inaccessible

/-- A build does not fail when there is a page and it can be written. -/
theorem Fails.not_writable {cause : BuildError} (fails : Fails store input output config cause)
    (presents : Presents config store input count page) : ¬store.Writable output := by
  obtain ⟨source, deck, text, read, rendered, -⟩ := presents
  cases fails with
  | missing absent => simp [Store.readText?, Store.read?, absent] at text
  | unreadable present noText => simp [noText] at text
  | source otherText refused =>
      obtain rfl := Option.some.inj (text.symm.trans otherText)
      simp [refused] at read
  | page otherText otherRead refused =>
      obtain rfl := Option.some.inj (text.symm.trans otherText)
      obtain rfl := Except.ok.inj (read.symm.trans otherRead)
      simp [refused] at rendered
  | unwritable otherPresents refused => exact refused

/-- How the build of a file ends: it fails and the store is as it was, or one location changes to
a file with the page of the input. -/
inductive Effect (store : Store) (input output : String) (config : Page.Config) :
    Logged (Except BuildError Report) × Store → Prop where
  | failed {cause : BuildError} {log : List LogEntry}
      (fails : Fails store input output config cause) :
      Effect store input output config (⟨.error cause, log⟩, store)
  | built {count : Nat} {page : String} {location : Location} {log : List LogEntry}
      {after : Store} (presents : Presents config store input count page)
      (leads : store.locate output.toList = some (.inside location))
      (writes : store.Writes location page.toUTF8 after) :
      Effect store input output config (⟨.ok ⟨input, output, count⟩, log⟩, after)

/-! ### Running on a store -/

section Running

variable {α β : Type}

theorem run_bind (action : StateM Store α) (next : α → StateM Store β) (store : Store) :
    (action >>= next).run store = (next (action.run store).1).run (action.run store).2 := rfl

theorem run_isThere (path : String) (store : Store) :
    (Store.files.isThere path).run store = ((store.find? path).isSome, store) := rfl

theorem run_readText (path : String) (store : Store) :
    (Store.files.readText path).run store = (store.readText? path, store) := rfl

theorem run_fileNames (path : String) (store : Store) :
    (Store.files.fileNames path).run store = (store.fileNames? path, store) := rfl

theorem run_writeText (path text : String) (store : Store) :
    (Store.files.writeText path text).run store =
      (store.write? path text.toUTF8).elim (false, store) fun after => (true, after) := by
  change Store.files.writeText path text store = _
  unfold Store.files
  dsimp only
  cases store.write? path text.toUTF8 <;> rfl

theorem mapError_error {ε δ : Type} (cause : ε) (turn : ε → δ) :
    (.error cause : Except ε α).mapError turn = .error (turn cause) := rfl

theorem mapError_ok {ε δ : Type} (value : α) (turn : ε → δ) :
    (.ok value : Except ε α).mapError turn = .ok value := rfl

end Running

/-- The deck of a file, as far as there is one. -/
def loaded (store : Store) (path : String) : Except BuildError Deck :=
  match store.find? path, store.readText? path with
  | none, _ => .error (.inputNotFound path)
  | some _, none => .error .inaccessible
  | some _, some source => (Schema.deck source).mapError .source

theorem run_deck (store : Store) (path : String) :
    (deck Store.files path).run store = (loaded store path, store) := by
  unfold deck loaded
  rw [run_bind, run_isThere]
  cases store.find? path with
  | none => rfl
  | some entry =>
      simp only [Option.isSome_some, if_true]
      rw [run_bind, run_readText]
      cases store.readText? path <;> rfl

theorem effect_file (store : Store) (input output : String) (config : Page.Config) :
    Effect store input output config ((file Store.files input output config).run store) := by
  unfold file
  rw [run_bind, run_deck, loaded]
  cases present : store.find? input with
  | none => exact .failed (.missing present)
  | some entry =>
      cases text : store.readText? input with
      | none => exact .failed (.unreadable present text)
      | some source =>
          cases read : Schema.deck source with
          | error cause =>
              simp only [read, mapError_error]
              exact .failed (.source text read)
          | ok deck =>
              cases rendered : Page.page deck config with
              | error cause =>
                  simp only [read, page, rendered, mapError_ok, mapError_error]
                  exact .failed (.page text read rendered)
              | ok shown =>
                  have presents : Presents config store input deck.slides.length shown :=
                    ⟨source, deck, text, read, rendered, rfl⟩
                  simp only [read, page, rendered, mapError_ok]
                  rw [run_bind, run_writeText]
                  cases written : store.write? output shown.toUTF8 with
                  | none =>
                      exact .failed (.unwritable presents (Store.write?_eq_none_iff.mp written))
                  | some after =>
                      obtain ⟨location, leads, free, equal⟩ := Store.write?_eq_some_iff.mp written
                      subst equal
                      exact .built presents leads (Store.writes_put free)

/-- A failing build changes nothing; one that succeeds changes one location, that of its output,
to a file with the page of its input. -/
theorem file_changes (store : Store) (input output : String) (config : Page.Config) :
    match (file Store.files input output config).run store with
    | (⟨.error cause, _⟩, after) => after = store ∧ Fails store input output config cause
    | (⟨.ok report, _⟩, after) =>
        ∃ source deck page location, store.readText? input = some source ∧
          Schema.deck source = .ok deck ∧ Page.page deck config = .ok page ∧
          report = ⟨input, output, deck.slides.length⟩ ∧
          store.locate output.toList = some (.inside location) ∧
          store.get? location ≠ some .directory ∧
          ∀ other, after.get? other =
            if other = location then some (.file page.toUTF8) else store.get? other := by
  have effect := effect_file store input output config
  generalize (file Store.files input output config).run store = ended at effect ⊢
  cases effect with
  | failed fails => exact ⟨rfl, fails⟩
  | built presents leads writes =>
      obtain ⟨source, deck, text, read, rendered, rfl⟩ := presents
      refine ⟨source, deck, _, _, text, read, rendered, rfl, leads, writes.free, ?_⟩
      intro other
      split
      next here => rw [here, writes.written]
      next elsewhere => exact writes.others other elsewhere

/-! ### A build as a function of its input -/

/-- The page of a file and the number of its slides, before anything is written. -/
def drafted (config : Page.Config) (store : Store) (input : String) :
    Logged (Except BuildError (Nat × String)) :=
  match loaded store input with
  | .error cause => ⟨.error cause, []⟩
  | .ok deck =>
      let rendered := Build.page deck config
      ⟨rendered.value.map (deck.slides.length, ·), rendered.log⟩

/-- A build writes its draft, if there is one and it can be written. -/
theorem run_file (store : Store) (input output : String) (config : Page.Config) :
    (file Store.files input output config).run store =
      let draft := drafted config store input
      match draft.value with
      | .error cause => (⟨.error cause, draft.log⟩, store)
      | .ok (count, page) =>
          match store.target? output with
          | none => (⟨.error .inaccessible, draft.log⟩, store)
          | some location =>
              (⟨.ok ⟨input, output, count⟩, draft.log ++ [.built ⟨input, output, count⟩]⟩,
                store.put location (.file page.toUTF8)) := by
  unfold file drafted
  rw [run_bind, run_deck]
  cases loaded store input with
  | error cause => rfl
  | ok deck =>
      dsimp only
      cases (Build.page deck config).value with
      | error cause => rfl
      | ok shown =>
          dsimp only [Except.map]
          rw [run_bind, run_writeText, Store.write?_eq_map]
          cases store.target? output <;> rfl

end SlideDeck.Build
