import SlideDeck.Proofs.Store.Component
import SlideDeck.Proofs.Store.PagePath
import SlideDeck.Proofs.Text.ByteOrder

/-!
Contract: paths of bytes.

The rules for paths look at ASCII characters only. So it makes no difference whether they read the
characters of a path or the bytes by which these are written; above all, the characters that are cut
from the end of a path before its page gets an extension are ASCII, and no other is parted.

Owns:
- `IsEncoding`, a writing of characters by units that keeps the ASCII characters;
- `IsEncoding.pagePath_flatMap`: the page of an encoded path is the encoded page;
- `defaultOutput_bytes`, the same for the bytes of a path.

Does not own: paths of bytes that are the bytes of no characters. These are covered wherever a
statement is about all paths, with `ofByte` for each byte.
-/

namespace SlideDeck.Path

variable {path front name stem extension behind text known : Spelling} {write : Char → List Char}

def IsAscii (text : List Char) : Prop :=
  ∀ character ∈ text, character.toNat < 128

-- By name: the search for an instance may find the one that goes through all characters there are.
instance : DecidablePred IsAscii := fun text =>
  List.decidableBAll (fun character : Char => character.toNat < 128) text

theorem Idle.isAscii (idle : Idle behind) : IsAscii behind := by
  induction idle with
  | nil => simp [IsAscii]
  | slash _ inductionHypothesis =>
      exact List.forall_mem_cons.mpr ⟨by decide, inductionHypothesis⟩
  | dot _ inductionHypothesis =>
      refine List.forall_mem_cons.mpr ⟨by decide, List.forall_mem_cons.mpr ⟨by decide, ?_⟩⟩
      exact inductionHypothesis

/-- A character that is written small as an ASCII letter is an ASCII letter. -/
theorem isAscii_of_known (known : extension.map Char.toLower ∈ sourceExtensions) :
    IsAscii extension := by
  have letters : ∀ other ∈ sourceExtensions, IsAscii other := by decide
  intro character member
  have small := letters _ known character.toLower (List.mem_map_of_mem member)
  unfold Char.toLower at small
  split at small
  next upper => exact Nat.lt_of_le_of_lt upper.2 (by decide)
  next => exact small

/-- A writing of characters by units. ASCII characters are their own units, and no other character
has one of them for a unit. -/
structure IsEncoding (write : Char → List Char) : Prop where
  nonempty : ∀ character, write character ≠ []
  ascii : ∀ character, character.toNat < 128 → write character = [character]
  beyond : ∀ character, 128 ≤ character.toNat → ∀ unit ∈ write character, 128 ≤ unit.toNat

namespace IsEncoding

variable (encoding : IsEncoding write)

include encoding

/-! ### Texts -/

theorem flatMap_of_isAscii (isAscii : IsAscii text) : text.flatMap write = text := by
  induction text with
  | nil => rfl
  | cons character rest inductionHypothesis =>
      rw [List.flatMap_cons, encoding.ascii character (isAscii character List.mem_cons_self),
        inductionHypothesis fun other member => isAscii other (List.mem_cons_of_mem _ member)]
      rfl

theorem isAscii_of_flatMap (isAscii : IsAscii (text.flatMap write)) : IsAscii text := by
  intro character member
  by_contra beyond
  obtain ⟨unit, others, written⟩ := List.exists_cons_of_ne_nil (encoding.nonempty character)
  have unitMember : unit ∈ write character := by simp [written]
  have unitBeyond := encoding.beyond character (not_lt.mp beyond) unit unitMember
  exact not_lt.mpr unitBeyond (isAscii unit (List.mem_flatMap.mpr ⟨character, member, unitMember⟩))

/-- Only an ASCII text is written as an ASCII text. -/
theorem flatMap_eq_iff (isAscii : IsAscii known) : text.flatMap write = known ↔ text = known := by
  constructor
  · intro same
    rw [← same, encoding.flatMap_of_isAscii (encoding.isAscii_of_flatMap (same ▸ isAscii))]
  · rintro rfl
    exact encoding.flatMap_of_isAscii isAscii

theorem mem_flatMap_iff {mark : Char} (isAscii : mark.toNat < 128) :
    mark ∈ text.flatMap write ↔ mark ∈ text := by
  rw [List.mem_flatMap]
  constructor
  · rintro ⟨character, member, written⟩
    by_cases small : character.toNat < 128
    · rw [encoding.ascii character small, List.mem_singleton] at written
      rwa [written]
    · exact absurd isAscii (not_lt.mpr (encoding.beyond character (not_lt.mp small) mark written))
  · intro member
    exact ⟨mark, member, by rw [encoding.ascii mark isAscii]; exact List.mem_singleton_self mark⟩

/-! ### Paths around their file names -/

theorem closed_flatMap (closed : lastPart front = []) : lastPart (front.flatMap write) = [] := by
  rw [lastPart_eq_nil_iff] at closed ⊢
  rcases closed with rfl | ⟨before, rfl⟩
  · exact .inl rfl
  · refine .inr ⟨before.flatMap write, ?_⟩
    rw [List.flatMap_append, List.flatMap_singleton, encoding.ascii '/' (by decide)]

theorem isFileName_flatMap (isName : IsFileName name) : IsFileName (name.flatMap write) := by
  refine ⟨?_, ?_, ?_, ?_⟩
  · rw [ne_eq, encoding.flatMap_eq_iff (by decide)]
    exact isName.nonempty
  · rw [ne_eq, encoding.flatMap_eq_iff (by decide)]
    exact isName.notDot
  · rw [ne_eq, encoding.flatMap_eq_iff (by decide)]
    exact isName.notParent
  · rw [encoding.mem_flatMap_iff (by decide)]
    exact isName.noSlash

theorem spelled_flatMap (spelled : Spelled path front name behind) :
    Spelled (path.flatMap write) (front.flatMap write) (name.flatMap write) behind where
  whole := by
    rw [spelled.whole, List.flatMap_append, List.flatMap_append,
      encoding.flatMap_of_isAscii spelled.idle.isAscii]
  closed := encoding.closed_flatMap spelled.closed
  isName := encoding.isFileName_flatMap spelled.isName
  idle := spelled.idle

theorem fileName?_flatMap (path : Spelling) :
    fileName? (path.flatMap write) = (fileName? path).map (·.flatMap write) := by
  cases named : fileName? path with
  | some name =>
      obtain ⟨front, behind, spelled⟩ := fileName?_eq_some_iff.mp named
      exact (encoding.spelled_flatMap spelled).fileName?_eq
  | none =>
      obtain ⟨behind, idle, whole⟩ := exists_idle path
      have encoded : path.flatMap write = (spine path).flatMap write ++ behind := by
        conv => lhs; rw [whole]
        rw [List.flatMap_append, encoding.flatMap_of_isAscii idle.isAscii]
      rw [encoded, fileName?_append_idle idle]
      rcases spine_of_fileName?_eq_none named with nothing | here | ⟨front, closed, parent⟩
      · rw [nothing]
        rfl
      · rw [here, encoding.flatMap_of_isAscii (by decide)]
        rfl
      · have dots : ['.', '.'].flatMap write = ['.', '.'] := encoding.flatMap_of_isAscii (by decide)
        rw [parent, List.flatMap_append, dots]
        exact fileName?_parent (encoding.closed_flatMap closed)

/-! ### Presentations and their pages -/

theorem isSourceName_flatMap (source : IsSourceName name stem extension) :
    IsSourceName (name.flatMap write) (stem.flatMap write) extension where
  isName := encoding.isFileName_flatMap source.isName
  split := by
    rw [source.split, List.flatMap_append, List.flatMap_cons, encoding.ascii '.' (by decide),
      encoding.flatMap_of_isAscii (isAscii_of_known source.known)]
    rfl
  stem_ne_nil := by
    rw [ne_eq, encoding.flatMap_eq_iff (by decide)]
    exact source.stem_ne_nil
  noDot := source.noDot
  known := source.known

/-- A name that is written as the name of a presentation is the name of a presentation. -/
theorem isSourceName_of_flatMap (source : IsSourceName (name.flatMap write) stem extension)
    (isName : IsFileName name) : ∃ before, IsSourceName name before extension := by
  have member : '.' ∈ name := by
    rw [← encoding.mem_flatMap_iff (by decide), source.split]
    simp
  obtain absent | ⟨before, last, rfl, noDot⟩ := absent_or_exists_last '.' name
  · exact absurd member absent
  have parted := source.split
  rw [List.flatMap_append, List.flatMap_cons, encoding.ascii '.' (by decide)] at parted
  have lastNoDot : '.' ∉ last.flatMap write := by rwa [encoding.mem_flatMap_iff (by decide)]
  obtain ⟨stemEq, extensionEq⟩ := parted_unique lastNoDot source.noDot parted
  rw [encoding.flatMap_eq_iff (isAscii_of_known source.known)] at extensionEq
  subst extensionEq
  refine ⟨before, isName, rfl, ?_, noDot, source.known⟩
  rintro rfl
  exact source.stem_ne_nil stemEq.symm

theorem isSource_flatMap (path : Spelling) : isSource (path.flatMap write) = isSource path := by
  cases named : fileName? path with
  | none =>
      have encoded := encoding.fileName?_flatMap path
      rw [named, Option.map_none] at encoded
      rw [isSource, isSource, extension?, extension?, encoded, named]
  | some name =>
      obtain ⟨front, behind, spelled⟩ := fileName?_eq_some_iff.mp named
      rw [Bool.eq_iff_iff, spelled.isSource_iff, (encoding.spelled_flatMap spelled).isSource_iff]
      constructor
      · rintro ⟨stem, extension, source⟩
        obtain ⟨before, decoded⟩ := encoding.isSourceName_of_flatMap source spelled.isName
        exact ⟨before, extension, decoded⟩
      · rintro ⟨stem, extension, source⟩
        exact ⟨_, extension, encoding.isSourceName_flatMap source⟩

theorem pageExtension_flatMap : pageExtension.flatMap write = pageExtension :=
  encoding.flatMap_of_isAscii (by decide)

theorem pageName_flatMap (stem : List Char) :
    pageName (stem.flatMap write) = (pageName stem).flatMap write := by
  have dot : stem.flatMap write = ['.'] ↔ stem = ['.'] := encoding.flatMap_eq_iff (by decide)
  by_cases single : stem = ['.']
  · rw [pageName, pageName, if_pos (dot.mpr single), if_pos single,
      encoding.flatMap_of_isAscii (by decide)]
  · rw [pageName, pageName, if_neg (dot.not.mpr single), if_neg single, List.flatMap_append,
      encoding.pageExtension_flatMap]

/-- It makes no difference whether a path is encoded before its page is named or after. -/
theorem pagePath_flatMap (path : Spelling) :
    pagePath (path.flatMap write) = (pagePath path).flatMap write := by
  by_cases source : isSource path = true
  · obtain ⟨front, name, behind, stem, extension, spelled, isSourceName⟩ := isSource_iff.mp source
    rw [spelled.pagePath_eq isSourceName, (encoding.spelled_flatMap spelled).pagePath_eq
      (encoding.isSourceName_flatMap isSourceName), List.flatMap_append]
    split
    next => rw [encoding.pageName_flatMap]
    next => rw [List.flatMap_append, encoding.pageExtension_flatMap]
  · have noSource : isSource path = false := by simpa using source
    rw [pagePath_of_not_source noSource,
      pagePath_of_not_source ((encoding.isSource_flatMap path).trans noSource),
      List.flatMap_append, encoding.pageExtension_flatMap]

end IsEncoding

/-! ### Bytes -/

/-- A byte of a path, as a character of a path. -/
def ofByte (byte : UInt8) : Char :=
  Char.ofNat byte.toNat

theorem toNat_ofByte (byte : UInt8) : (ofByte byte).toNat = byte.toNat := by
  have small := byte.toNat_lt
  have valid : byte.toNat.isValidChar := .inl (by omega)
  rw [ofByte, Char.ofNat, dif_pos valid]
  rfl

/-- The first byte of a longer encoding is marked by its high bits, as are those behind it. -/
theorem le_of_mem_utf8EncodeChar {character : Char} (large : 128 ≤ character.toNat) {byte : UInt8}
    (member : byte ∈ String.utf8EncodeChar character) : 128 ≤ byte.toNat := by
  have notSmall : ¬ character.val.toNat ≤ 127 := Nat.not_le.mpr large
  unfold String.utf8EncodeChar at member
  dsimp only at member
  rw [if_neg notSmall] at member
  split_ifs at member <;>
    simp only [List.mem_cons, List.not_mem_nil, or_false] at member <;>
    rcases member with rfl | rfl | rfl | rfl <;>
    rw [UInt8.toNat_ofNat'] <;>
    omega

theorem isEncoding_utf8 :
    IsEncoding fun character => (String.utf8EncodeChar character).map ofByte where
  nonempty character := by
    rw [ne_eq, List.map_eq_nil_iff]
    exact String.utf8EncodeChar_ne_nil
  ascii character small := by
    have isByte : character.val.toNat ≤ 127 := Nat.le_of_lt_succ small
    rw [String.utf8EncodeChar, if_pos isByte, List.map_singleton]
    refine congrArg (fun other => [other]) (Char.toNat_inj.mp ?_)
    rw [toNat_ofByte, UInt8.toNat_ofNat', Nat.mod_eq_of_lt (by omega)]
    rfl
  beyond character large := by
    intro written member
    obtain ⟨byte, byteMember, rfl⟩ := List.mem_map.mp member
    rw [toNat_ofByte]
    exact le_of_mem_utf8EncodeChar large byteMember

/-- The bytes of a default output are those that are made from the bytes of the input, and by these
an input is known as well. -/
theorem defaultOutput_bytes (input : String) :
    pagePath ((Text.bytes input).map ofByte) = (Text.bytes (defaultOutput input)).map ofByte ∧
      isSource ((Text.bytes input).map ofByte) = isSource input.toList := by
  have written : ∀ text : String, (Text.bytes text).map ofByte =
      text.toList.flatMap fun character => (String.utf8EncodeChar character).map ofByte := by
    intro text
    rw [Text.bytes_eq, List.map_flatMap]
  rw [written, written, defaultOutput, String.toList_ofList]
  exact ⟨isEncoding_utf8.pagePath_flatMap _, isEncoding_utf8.isSource_flatMap _⟩

end SlideDeck.Path
