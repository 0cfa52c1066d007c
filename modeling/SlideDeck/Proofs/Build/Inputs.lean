import Mathlib.Data.List.Nodup
import Mathlib.Data.Set.List
import SlideDeck.Proofs.Build.Truth
import SlideDeck.Proofs.Text.ByteOrder

/-!
Contract: which presentations the builds of a directory find, and in which order.

Owns:
- `inputPath`, the path of a name in a directory;
- `exists_names`: the inputs are the paths of the files that are presentations, in the
  order of the bytes of their names;
- `listed_eq`: the order in which the directory is listed does not matter.

Does not own: the builds.
-/

namespace SlideDeck

namespace Build

variable {store : Store} {location : Location} {directory : String}

/-- The path of a name in a directory. -/
def inputPath (directory : String) (name : Name) : String :=
  String.ofList (Path.join directory.toList name.text.toList)

/-- The file of a presentation in the directory at a location. -/
def Holds (store : Store) (location : Location) (name : Name) : Prop :=
  (∃ bytes, store.get? (location ++ [name]) = some (.file bytes)) ∧
    ∃ stem extension, Path.IsSourceName name.text.toList stem extension

/-- The inputs that are found in the directory at a location. -/
def listed (store : Store) (location : Location) (directory : String) : List String :=
  inputs directory ((store.names location (· ≠ .directory)).map Name.text)

section Listed

variable (lies : store.Lies directory.toList location)

include lies

theorem inputPath_lt_iff (first second : Name) :
    inputPath directory first < inputPath directory second ↔ first.text < second.text := by
  obtain ⟨front, joined, -⟩ := lies.exists_front
  change (inputPath directory first).toList < (inputPath directory second).toList ↔ _
  rw [inputPath, inputPath, String.toList_ofList, String.toList_ofList, joined, joined]
  constructor
  · intro less
    rcases lt_trichotomy first.text.toList second.text.toList with smaller | equal | greater
    · exact smaller
    · rw [equal] at less
      exact absurd less (lt_irrefl _)
    · have turned : front ++ '/' :: second.text.toList < front ++ '/' :: first.text.toList :=
        List.append_left_lt (List.cons_lt_cons_iff.mpr (.inr ⟨rfl, greater⟩))
      exact absurd less (lt_asymm turned)
  · intro less
    exact List.append_left_lt (List.cons_lt_cons_iff.mpr (.inr ⟨rfl, less⟩))

theorem inputPath_injective {first second : Name}
    (same : inputPath directory first = inputPath directory second) : first = second := by
  have leads := lies.locate_join first
  have otherLeads := lies.locate_join second
  rw [inputPath, inputPath, String.ofList_inj] at same
  rw [same, otherLeads] at leads
  simpa using leads.symm

theorem find?_inputPath (name : Name) :
    store.find? (inputPath directory name) = store.get? (location ++ [name]) := by
  rw [Store.find?, inputPath, String.toList_ofList, lies.locate_join]
  rfl

/-- What is found are the presentations among the files of the directory. -/
theorem mem_listed_iff {input : String} :
    input ∈ listed store location directory ↔
      ∃ name, Holds store location name ∧ inputPath directory name = input := by
  obtain ⟨front, joined, -⟩ := lies.exists_front
  have isSource (name : Name) : Path.isSource (inputPath directory name).toList = true ↔
      ∃ stem extension, Path.IsSourceName name.text.toList stem extension := by
    rw [inputPath, String.toList_ofList, joined, Path.isSource_append_iff name.isFileName]
  have isFile (name : Name) : name ∈ store.names location (· ≠ .directory) ↔
      ∃ bytes, store.get? (location ++ [name]) = some (.file bytes) := by
    rw [Store.mem_names_iff]
    constructor
    · rintro ⟨entry, present, noDirectory⟩
      cases entry with
      | directory => simp at noDirectory
      | file bytes => exact ⟨bytes, present⟩
    · rintro ⟨bytes, present⟩
      exact ⟨.file bytes, present, by simp⟩
  rw [listed, mem_inputs_iff]
  constructor
  · rintro ⟨⟨_, member, rfl⟩, source⟩
    obtain ⟨name, named, rfl⟩ := List.mem_map.mp member
    exact ⟨name, ⟨(isFile name).mp named, (isSource name).mp source⟩, rfl⟩
  · rintro ⟨name, ⟨present, source⟩, rfl⟩
    exact ⟨⟨name.text, List.mem_map_of_mem ((isFile name).mpr present), rfl⟩,
      (isSource name).mpr source⟩

theorem listed_nodup : (listed store location directory).Nodup := by
  have paths : ((store.names location (· ≠ .directory)).map (inputPath directory)).Nodup :=
    List.Nodup.map (fun _ _ same => inputPath_injective lies same) (store.nodup_names location _)
  rw [listed, inputs, (List.mergeSort_perm _ _).nodup_iff, List.map_map]
  exact paths.filter _

end Listed

theorem inputs_pairwise (directory : String) (names : List String) :
    (inputs directory names).Pairwise (· ≤ ·) := by
  let before (first second : String) : Bool := decide (first ≤ second)
  have transitive : ∀ first second third : String, before first second = true →
      before second third = true → before first third = true := by
    intro first second third
    simp only [before, decide_eq_true_eq]
    exact String.le_trans
  have total : ∀ first second : String, (before first second || before second first) = true := by
    intro first second
    simpa [before] using String.le_total first second
  exact (List.pairwise_mergeSort transitive total _).imp fun less => of_decide_eq_true less

/-- The inputs are the paths of the presentations in the directory, each once, in the order of the
bytes of their names. -/
theorem exists_names (lies : store.Lies directory.toList location) :
    ∃ names : List Name, listed store location directory = names.map (inputPath directory) ∧
      names.Pairwise (fun first second => Text.bytes first.text < Text.bytes second.text) ∧
      ∀ name, name ∈ names ↔ Holds store location name := by
  have paths : listed store location directory ∈ Set.range (List.map (inputPath directory)) := by
    rw [Set.range_list_map]
    intro input member
    obtain ⟨name, -, equal⟩ := (mem_listed_iff lies).mp member
    exact ⟨name, equal⟩
  obtain ⟨names, namesEq⟩ := paths
  refine ⟨names, namesEq.symm, ?_, ?_⟩
  · have sorted := inputs_pairwise directory
      ((store.names location (· ≠ .directory)).map Name.text)
    have distinct := listed_nodup lies
    have ascending : (listed store location directory).Pairwise (· < ·) :=
      (List.Pairwise.and sorted distinct).imp fun both =>
        String.not_le.mp fun turned => both.2 (String.le_antisymm both.1 turned)
    rw [← namesEq, List.pairwise_map] at ascending
    refine ascending.imp ?_
    intro first second less
    exact Text.bytes_lt_iff.mpr ((inputPath_lt_iff lies first second).mp less)
  · intro name
    rw [← List.mem_map_of_injective fun _ _ same => inputPath_injective lies same, namesEq,
      mem_listed_iff lies]
    constructor
    · rintro ⟨other, held, same⟩
      rw [← inputPath_injective lies same]
      exact held
    · intro held
      exact ⟨name, held, rfl⟩

/-- Two stores with the same presentations in a directory give the same inputs, in whatever order
they list it. -/
theorem listed_eq {other : Store} (lies : store.Lies directory.toList location)
    (otherLies : other.Lies directory.toList location)
    (same : ∀ name, Holds other location name ↔ Holds store location name) :
    listed other location directory = listed store location directory := by
  have perm : (listed other location directory).Perm (listed store location directory) := by
    rw [List.perm_ext_iff_of_nodup (listed_nodup otherLies) (listed_nodup lies)]
    intro input
    simp only [mem_listed_iff lies, mem_listed_iff otherLies, same]
  exact perm.eq_of_pairwise (fun _ _ _ _ => String.le_antisymm) (inputs_pairwise _ _)
    (inputs_pairwise _ _)

end Build

end SlideDeck
