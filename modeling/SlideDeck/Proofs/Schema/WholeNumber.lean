import Std.Data.String.ToInt
import SlideDeck.Proofs.Decimal.ShortestWhole
import SlideDeck.Proofs.Result
import SlideDeck.Schema.Shape

/-!
Contract: the texts that integers are shown as.

An integer below 2 ^ 63 is shown by its own digits. From there on it becomes a floating point
number first, and what is shown is the shortest decimal that reads back as that number.

Owns:
- the text of an integer on either side of 2 ^ 63;
- `integer_texts`: when an integer keeps its digits, and when two are shown alike;
- two integers that are shown alike.
-/

namespace SlideDeck.Schema

open SlideDeck.Deck (Leaf)
open SlideDeck.Decimal (Binary64 ShortestWhole nearestEven_eq_iff)
open SlideDeck.Decimal.Binary64 (nearestEven)
open SlideDeck.Yaml (Value)

variable {number other : Int}

/-! ### One integer -/

theorem toString_int_inj : toString number = toString other ↔ number = other :=
  Int.repr_inj

theorem toString_nat_eq_iff (least : 0 ≤ number) {shown : Nat} :
    toString shown = toString number ↔ shown = number.toNat := by
  obtain ⟨natural, rfl⟩ := Int.eq_ofNat_of_zero_le least
  exact Nat.repr_inj

theorem display_small (small : number < 2 ^ 63) :
    (leaf (.integer number)).display = toString number := by
  have within : number < Int.pow 2 63 := small
  rw [leaf, if_pos within]
  rfl

/-- A large integer is shown as the shortest decimal of the multiple of 2048 nearest to it. -/
theorem display_large (least : 2 ^ 63 ≤ number) (most : number < 2 ^ 64) :
    ∃ shown, ShortestWhole (nearestEven number.toNat 2048) shown ∧
      (leaf (.integer number)).display = toString shown := by
  have beyond : ¬number < Int.pow 2 63 := Int.not_lt.mpr least
  have display : (leaf (.integer number)).display =
      Leaf.numberFormat.write (Binary64.ofNat number.toNat) := by
    rw [leaf, if_neg beyond]
    rfl
  rw [display]
  exact Decimal.write_ofNat (fun _ => rfl) rfl (by omega) (by omega)

/-- The shortest decimal of a large integer is large. -/
theorem large_of_shortest (least : 2 ^ 63 ≤ number) {shown : Nat}
    (shortest : ShortestWhole (nearestEven number.toNat 2048) shown) : 2 ^ 63 ≤ shown := by
  have rounded := nearestEven_eq_iff.mp (Eq.refl (nearestEven number.toNat 2048))
  cases shortest with
  | tenThousands divides rounds =>
      have near := nearestEven_eq_iff.mp rounds
      omega
  | thousands _ divides below above => omega

theorem display_eq_toString_iff (most : number < 2 ^ 64) :
    (leaf (.integer number)).display = toString number ↔
      number < 2 ^ 63 ∨ ShortestWhole (nearestEven number.toNat 2048) number.toNat := by
  by_cases small : number < 2 ^ 63
  · exact iff_of_true (display_small small) (.inl small)
  · obtain ⟨shown, shortest, display⟩ := display_large (by omega) most
    rw [display, toString_nat_eq_iff (by omega), or_iff_right small]
    constructor
    · rintro rfl
      exact shortest
    · exact shortest.unique

/-! ### Two integers -/

/-- A large integer is not shown as a small one. -/
theorem display_large_ne_small (least : 2 ^ 63 ≤ number) (most : number < 2 ^ 64)
    (small : other < 2 ^ 63) :
    (leaf (.integer number)).display ≠ (leaf (.integer other)).display := by
  obtain ⟨shown, shortest, display⟩ := display_large least most
  have large := large_of_shortest least shortest
  rw [display, display_small small]
  intro alike
  have same : (shown : Int) = other := toString_int_inj.mp alike
  omega

theorem display_eq_display_iff (most : number < 2 ^ 64) (otherMost : other < 2 ^ 64) :
    (leaf (.integer number)).display = (leaf (.integer other)).display ↔
      number = other ∨ 2 ^ 63 ≤ number ∧ 2 ^ 63 ≤ other ∧
        nearestEven number.toNat 2048 = nearestEven other.toNat 2048 := by
  by_cases small : number < 2 ^ 63
  · by_cases otherSmall : other < 2 ^ 63
    · rw [display_small small, display_small otherSmall, toString_int_inj]
      omega
    · refine iff_of_false (display_large_ne_small (by omega) otherMost small).symm ?_
      omega
  by_cases otherSmall : other < 2 ^ 63
  · refine iff_of_false (display_large_ne_small (by omega) most otherSmall) ?_
    omega
  · have large := Int.not_lt.mp small
    have otherLarge := Int.not_lt.mp otherSmall
    obtain ⟨shown, shortest, display⟩ := display_large large most
    obtain ⟨otherShown, otherShortest, otherDisplay⟩ := display_large otherLarge otherMost
    rw [display, otherDisplay]
    constructor
    · intro alike
      obtain rfl : shown = otherShown := Nat.repr_inj.mp alike
      exact .inr ⟨large, otherLarge, shortest.rounds.symm.trans otherShortest.rounds⟩
    · rintro (rfl | ⟨-, -, alike⟩)
      · rw [shortest.unique otherShortest]
      · rw [alike] at shortest
        rw [shortest.unique otherShortest]

/-! ### Integers in a deck -/

theorem list_integers {α : Type} {read : Reader α} {shown : Int → α} (numbers : List Int)
    (reads : ∀ number, read (.integer number) = .ok (shown number)) :
    list read (.sequence (numbers.map .integer)) = .ok (numbers.map shown) := by
  unfold list
  dsimp only [Value.untagged]
  rw [Result.mapM_eq_ok_iff, List.forall₂_map_left_iff, List.forall₂_map_right_iff]
  exact List.forall₂_same.mpr fun number _ => reads number

theorem looseText_integer (number : Int) :
    looseText (.integer number) = .ok (some (leaf (.integer number)).display) := by
  have text : (leaf (.integer number)).text? = some (leaf (.integer number)).display := by
    rw [leaf]
    split <;> rfl
  exact congrArg Except.ok text

/-- **Integers as texts.** Every place that takes a leaf or a loose text shows an integer in one
way. The integer keeps its digits exactly if it is below 2 ^ 63 or is itself the shortest decimal
of its floating point number, and two integers are shown alike exactly if they are the same or
both so large that they have one floating point number. -/
theorem integer_texts {numbers : List Int} (most : ∀ number ∈ numbers, number < 2 ^ 64) :
    leaves (.sequence (numbers.map .integer)) =
        .ok (numbers.map fun number => leaf (.integer number)) ∧
      looseTexts (.sequence (numbers.map .integer)) =
        .ok (numbers.map fun number => (leaf (.integer number)).display) ∧
      (∀ number ∈ numbers, wholeLeaf (.integer number) = .ok (leaf (.integer number)) ∧
        looseText (.integer number) = .ok (some (leaf (.integer number)).display) ∧
        ((leaf (.integer number)).display = toString number ↔
          number < 2 ^ 63 ∨ ShortestWhole (nearestEven number.toNat 2048) number.toNat)) ∧
      ∀ first ∈ numbers, ∀ second ∈ numbers,
        ((leaf (.integer first)).display = (leaf (.integer second)).display ↔
          first = second ∨ 2 ^ 63 ≤ first ∧ 2 ^ 63 ≤ second ∧
            nearestEven first.toNat 2048 = nearestEven second.toNat 2048) := by
  refine ⟨list_integers numbers fun _ => rfl, list_integers numbers fun _ => rfl, ?_, ?_⟩
  · intro number member
    exact ⟨rfl, looseText_integer number, display_eq_toString_iff (most number member)⟩
  · intro first firstMember second secondMember
    exact display_eq_display_iff (most first firstMember) (most second secondMember)

/-- A whole number of nineteen digits keeps them, and two of twenty digits are shown alike. -/
theorem integer_texts_sample :
    (∀ number ∈ [9223372036854775807, 18446744073709551614, 18446744073709551615],
      (number : Int) < 2 ^ 64) ∧
    (leaf (.integer 9223372036854775807)).display = "9223372036854775807" ∧
    (leaf (.integer 18446744073709551614)).display =
      (leaf (.integer 18446744073709551615)).display := by
  have most : ∀ number ∈ [9223372036854775807, 18446744073709551614, 18446744073709551615],
      (number : Int) < 2 ^ 64 := by decide
  obtain ⟨-, -, own, pairs⟩ := integer_texts most
  refine ⟨most, ?_, ?_⟩
  · exact (own 9223372036854775807 (by decide)).2.2.mpr (.inl (by decide))
  · refine (pairs 18446744073709551614 (by decide) 18446744073709551615 (by decide)).mpr ?_
    exact .inr ⟨by decide, by decide, by decide⟩

/-- The shortest decimal of 2 ^ 64: no multiple of 10000 is rounded to it. -/
theorem shortestWhole_two_pow : ShortestWhole (2 ^ 53) 18446744073709552000 := by
  refine .thousands ?_ (by decide) (by decide) (by decide)
  intro other divides rounds
  have near := nearestEven_eq_iff.mp rounds
  omega

theorem looseText_greatest (least : 2 ^ 64 - 1024 ≤ number) (most : number < 2 ^ 64) :
    looseText (.integer number) = .ok (some "18446744073709552000") := by
  obtain ⟨shown, shortest, display⟩ := display_large (by omega) most
  have rounded : nearestEven number.toNat 2048 = 2 ^ 53 := by
    rw [nearestEven_eq_iff]
    omega
  rw [rounded] at shortest
  rw [looseText_integer, display, shortest.unique shortestWhole_two_pow]
  rfl

/-- The two greatest integers of 64 bits are shown as the same text, which is that of neither. -/
theorem great_integers_alike :
    looseText (.integer 18446744073709551615) = .ok (some "18446744073709552000") ∧
      looseText (.integer 18446744073709551614) = .ok (some "18446744073709552000") :=
  ⟨looseText_greatest (by decide) (by decide), looseText_greatest (by decide) (by decide)⟩

end SlideDeck.Schema
