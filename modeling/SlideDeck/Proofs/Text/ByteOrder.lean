import Mathlib.Data.Char
import Mathlib.Data.List.Lex

/-!
Contract: texts in the order of their characters are in the order of their bytes.

Every character is written by one to four bytes. The lead byte of a longer encoding is greater than
that of a shorter one, and encodings of one length compare as the code points do, from the highest
digit on.

Owns:
- `bytes`, the bytes of a text;
- `bytes_lt_iff`, the one order by the other.
-/

namespace SlideDeck.Text

/-- The bytes of a text. -/
def bytes (text : String) : List UInt8 :=
  text.toUTF8.data.toList

theorem bytes_eq (text : String) : bytes text = text.toList.flatMap String.utf8EncodeChar := by
  conv => lhs; rw [← String.ofList_toList (s := text)]
  rw [bytes, String.toUTF8_eq_toByteArray, String.toByteArray_ofList, List.utf8Encode]
  simp

theorem codePoint_lt (character : Char) : character.val.toNat < 0x110000 := by
  rcases character.valid with low | high
  · exact Nat.lt_trans low (by decide)
  · exact high.2

/-- The digits above the lowest two and three, to the base of a continuation byte. -/
theorem highDigits (code : Nat) :
    code / 4096 = code / 64 / 64 ∧ code / 262144 = code / 64 / 64 / 64 := by
  constructor <;> simp [Nat.div_div_eq_div_mul]

/-- The first bytes in which the encodings of two characters differ decide about their order,
whatever stands behind. -/
theorem encoding_lt {first second : Char} (less : first < second) (behind others : List UInt8) :
    String.utf8EncodeChar first ++ behind < String.utf8EncodeChar second ++ others := by
  have less : first.val.toNat < second.val.toNat := less
  have bound := codePoint_lt second
  unfold String.utf8EncodeChar
  dsimp only
  rw [(highDigits first.val.toNat).1, (highDigits first.val.toNat).2,
    (highDigits second.val.toNat).1, (highDigits second.val.toNat).2]
  -- One case for each pair of lengths; the shorter encoding has the smaller lead byte.
  split_ifs <;>
    simp only [List.cons_append, List.nil_append, List.cons_lt_cons_iff,
      UInt8.lt_iff_toNat_lt, ← UInt8.toNat_inj, UInt8.toNat_ofNat'] <;>
    omega

theorem encodings_lt {first second : List Char} (less : first < second) :
    first.flatMap String.utf8EncodeChar < second.flatMap String.utf8EncodeChar := by
  induction first generalizing second with
  | nil =>
      cases second with
      | nil => exact absurd less (List.lt_irrefl _)
      | cons head tail =>
          obtain ⟨byte, bytes, encoded⟩ :=
            List.exists_cons_of_ne_nil (String.utf8EncodeChar_ne_nil (c := head))
          rw [List.flatMap_cons, encoded, List.cons_append]
          exact List.nil_lt_cons _ _
  | cons head tail inductionHypothesis =>
      cases second with
      | nil => exact absurd less (List.not_lt_nil _)
      | cons other others =>
          rw [List.flatMap_cons, List.flatMap_cons]
          rcases List.cons_lt_cons_iff.mp less with smaller | ⟨rfl, tailLess⟩
          · exact encoding_lt smaller _ _
          · exact List.append_left_lt (inductionHypothesis tailLess)

theorem bytes_lt_iff {first second : String} : bytes first < bytes second ↔ first < second := by
  rw [bytes_eq, bytes_eq]
  constructor
  · intro less
    rcases lt_trichotomy first.toList second.toList with smaller | equal | greater
    · exact smaller
    · rw [equal] at less
      exact absurd less (List.lt_irrefl _)
    · exact absurd (encodings_lt greater) (List.lt_asymm less)
  · exact fun less => encodings_lt less

end SlideDeck.Text
