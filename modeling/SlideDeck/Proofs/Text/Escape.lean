import SlideDeck.Text.Escape

/-!
Contract: escaped texts and the texts that they stand for.

Owns:
- `decode`, which reads every reference once, and `unescape`;
- `IsEscaped`, the texts with no metacharacter but the `&` of references;
- `isEscaped_iff`: these are exactly the encoded texts, so that encoding and decoding are inverses
  of each other between all texts and the escaped ones.

Does not own: where escaped texts are written.
-/

namespace SlideDeck.Text

namespace Escape

def metacharacters : List Char := ['&', '<', '>', '"', '\'']

/-- Reads references from left to right. What has been read is not read again. -/
def decode : List Char → List Char
  | '&' :: 'a' :: 'm' :: 'p' :: ';' :: rest => '&' :: decode rest
  | '&' :: 'l' :: 't' :: ';' :: rest => '<' :: decode rest
  | '&' :: 'g' :: 't' :: ';' :: rest => '>' :: decode rest
  | '&' :: 'q' :: 'u' :: 'o' :: 't' :: ';' :: rest => '"' :: decode rest
  | '&' :: '#' :: '0' :: '3' :: '9' :: ';' :: rest => '\'' :: decode rest
  | character :: rest => character :: decode rest
  | [] => []

/-- No metacharacter stands in a text but `&`, and this only at the front of a reference. -/
structure IsEscaped (text : List Char) : Prop where
  plain : ∀ character ∈ metacharacters, character ∈ text → character = '&'
  referenced : ∀ front back, text = front ++ '&' :: back →
    ∃ character ∈ metacharacters, reference character <+: '&' :: back

variable {head character : Char} {tail text rest : List Char}

/-! ### What is written for one character -/

theorem reference_of_not_mem (plain : character ∉ metacharacters) :
    reference character = [character] := by
  unfold reference
  split <;> simp_all [metacharacters]

/-- A reference is `&` and letters that are no metacharacters. -/
theorem reference_of_mem (member : character ∈ metacharacters) :
    ∃ letters, reference character = '&' :: letters ∧
      ∀ letter ∈ letters, letter ∉ metacharacters := by
  simp only [metacharacters, List.mem_cons, List.not_mem_nil, or_false] at member
  rcases member with rfl | rfl | rfl | rfl | rfl <;> exact ⟨_, rfl, by simp [metacharacters]⟩

theorem reference_ne_nil (character : Char) : reference character ≠ [] := by
  unfold reference
  split <;> simp

theorem decode_cons_of_ne (different : head ≠ '&') (tail : List Char) :
    decode (head :: tail) = head :: decode tail := by
  apply decode.eq_6
  all_goals
    intro _ equal
    exact absurd equal different

theorem decode_reference (character : Char) (rest : List Char) :
    decode (reference character ++ rest) = character :: decode rest := by
  by_cases member : character ∈ metacharacters
  · simp only [metacharacters, List.mem_cons, List.not_mem_nil, or_false] at member
    rcases member with rfl | rfl | rfl | rfl | rfl <;> rfl
  · rw [reference_of_not_mem member]
    refine decode_cons_of_ne ?_ rest
    intro equal
    exact member (equal ▸ List.mem_cons_self)

theorem decode_encode (text : List Char) : decode (encode text) = text := by
  induction text with
  | nil => rfl
  | cons head tail inductionHypothesis =>
      rw [encode_cons, decode_reference, inductionHypothesis]

/-! ### Escaped texts -/

namespace IsEscaped

theorem nil : IsEscaped [] where
  plain := by simp
  referenced := by simp

theorem of_append {front : List Char} (escaped : IsEscaped (front ++ rest)) : IsEscaped rest where
  plain := fun character member inRest =>
    escaped.plain character member (List.mem_append_right _ inRest)
  referenced := by
    intro before back whole
    exact escaped.referenced (front ++ before) back (by rw [whole, List.append_assoc])

theorem cons (plain : head ∈ metacharacters → head = '&')
    (referenced : head = '&' → ∃ character ∈ metacharacters, reference character <+: head :: tail)
    (escaped : IsEscaped tail) : IsEscaped (head :: tail) where
  plain := by
    intro character member inText
    rcases List.mem_cons.mp inText with rfl | inTail
    · exact plain member
    · exact escaped.plain character member inTail
  referenced := by
    intro front back whole
    cases front with
    | nil =>
        obtain ⟨rfl, rfl⟩ := List.cons.inj whole
        exact referenced rfl
    | cons first front => exact escaped.referenced front back (List.cons.inj whole).2

theorem plain_append {letters : List Char} (plain : ∀ letter ∈ letters, letter ∉ metacharacters)
    (escaped : IsEscaped rest) : IsEscaped (letters ++ rest) := by
  induction letters with
  | nil => exact escaped
  | cons letter letters inductionHypothesis =>
      rw [List.forall_mem_cons] at plain
      refine cons (fun member => absurd member plain.1) ?_ (inductionHypothesis plain.2)
      intro equal
      exact absurd (equal ▸ List.mem_cons_self) plain.1

theorem reference_append (character : Char) (escaped : IsEscaped rest) :
    IsEscaped (reference character ++ rest) := by
  by_cases member : character ∈ metacharacters
  · obtain ⟨letters, written, plain⟩ := reference_of_mem member
    have begins : reference character <+: '&' :: (letters ++ rest) := by
      rw [written]
      exact List.prefix_append _ _
    rw [written]
    exact cons (fun _ => rfl) (fun _ => ⟨character, member, begins⟩) (plain_append plain escaped)
  · rw [reference_of_not_mem member]
    exact plain_append (by simpa using member) escaped

/-- What stands at the front of an escaped text is written for one character. -/
theorem exists_reference (escaped : IsEscaped (head :: tail)) :
    ∃ character rest, reference character ++ rest = head :: tail := by
  by_cases ampersand : head = '&'
  · subst ampersand
    obtain ⟨character, -, rest, whole⟩ := escaped.referenced [] tail rfl
    exact ⟨character, rest, whole⟩
  · have plain : head ∉ metacharacters := fun member =>
      ampersand (escaped.plain head member List.mem_cons_self)
    exact ⟨head, tail, by rw [reference_of_not_mem plain]; rfl⟩

end IsEscaped

/-- The escaped texts are exactly those that are written for a text. -/
theorem isEscaped_iff : IsEscaped text ↔ ∃ source, encode source = text := by
  constructor
  · intro escaped
    generalize lengthEq : text.length = length
    induction length using Nat.strongRecOn generalizing text with
    | ind length inductionHypothesis =>
        cases text with
        | nil => exact ⟨[], rfl⟩
        | cons head tail =>
            obtain ⟨character, rest, whole⟩ := escaped.exists_reference
            rw [← whole] at escaped lengthEq ⊢
            have positive := List.length_pos_iff.mpr (reference_ne_nil character)
            rw [List.length_append] at lengthEq
            obtain ⟨source, rfl⟩ :=
              inductionHypothesis rest.length (by omega) escaped.of_append rfl
            exact ⟨character :: source, encode_cons character source⟩
  · rintro ⟨source, rfl⟩
    induction source with
    | nil => exact .nil
    | cons head tail inductionHypothesis =>
        rw [encode_cons]
        exact inductionHypothesis.reference_append head

theorem encode_decode (escaped : IsEscaped text) : encode (decode text) = text := by
  obtain ⟨source, rfl⟩ := isEscaped_iff.mp escaped
  rw [decode_encode]

end Escape

/-- The text that an escaped text stands for. -/
def unescape (text : String) : String :=
  String.ofList (Escape.decode text.toList)

def IsEscaped (text : String) : Prop :=
  Escape.IsEscaped text.toList

theorem isEscaped_escape (text : String) : IsEscaped (escape text) := by
  rw [IsEscaped, escape, String.toList_ofList]
  exact Escape.isEscaped_iff.mpr ⟨_, rfl⟩

theorem unescape_escape (text : String) : unescape (escape text) = text := by
  rw [unescape, escape, String.toList_ofList, Escape.decode_encode, String.ofList_toList]

theorem escape_unescape {text : String} (escaped : IsEscaped text) :
    escape (unescape text) = text := by
  rw [unescape, escape, String.toList_ofList, Escape.encode_decode escaped, String.ofList_toList]

theorem escape_append (first second : String) :
    escape (first ++ second) = escape first ++ escape second := by
  rw [escape, escape, escape, String.toList_append, Escape.encode_append, String.ofList_append]

end SlideDeck.Text
