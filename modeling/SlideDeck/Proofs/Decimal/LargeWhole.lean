import Mathlib.Algebra.Order.Ring.Int
import SlideDeck.Decimal.Shortest

/-!
Contract: whole numbers from 2 ^ 63 up to 2 ^ 64 as floating point numbers.

Of these only the multiples of 2048 are floating point numbers. Every other one is rounded to the
nearest multiple, and the decimals that read back as that number fill an interval around it. The
interval is a little lopsided at both ends of the range, where the distance between neighbours
changes.

Owns:
- the floating point number of such a whole number;
- `Surrounds`, what matters of the interval around it.

Does not own: which decimal of the interval is taken.
-/

namespace SlideDeck.Decimal

open Binary64

variable {value : Nat}

/-! ### Rounding to multiples of 2048 -/

theorem nearestEven_eq_iff {multiple : Nat} :
    nearestEven value 2048 = multiple ↔
      2048 * multiple ≤ value + 1024 ∧ value ≤ 2048 * multiple + 1024 ∧
        (multiple % 2 = 1 → 2048 * multiple < value + 1024 ∧ value < 2048 * multiple + 1024) := by
  unfold nearestEven
  dsimp only
  split
  · omega
  split
  · omega
  · omega

/-- The significand of a whole number has 53 digits, or it is the least with 54. -/
theorem nearestEven_range (least : 2 ^ 63 ≤ value) (most : value < 2 ^ 64) :
    2 ^ 52 ≤ nearestEven value 2048 ∧ nearestEven value 2048 ≤ 2 ^ 53 := by
  have rounded := nearestEven_eq_iff.mp (Eq.refl (nearestEven value 2048))
  omega

/-! ### The number of a whole number -/

theorem log2_eq (least : 2 ^ 63 ≤ value) (most : value < 2 ^ 64) : value.log2 = 63 := by
  have positive : value ≠ 0 := by omega
  rw [Nat.log2_eq_iff positive]
  exact ⟨least, by omega⟩

theorem quotientExponent_eq (least : 2 ^ 63 ≤ value) (most : value < 2 ^ 64) :
    quotientExponent value 1 = 11 := by
  have start : max (-1074) (((63 : Nat) : Int) - ((1 : Nat).log2 : Int) - 53) = 10 :=
    max_eq_right (by decide)
  have quotient : scaled value 1 10 = (value, 1024) := rfl
  have tooLarge : ¬value < 1024 * Nat.pow 2 53 := by
    simp only [Nat.pow_eq]
    omega
  unfold quotientExponent
  simp only [log2_eq least most, start, quotient]
  rw [if_neg tooLarge]
  rfl

theorem ofNat_eq_pack (least : 2 ^ 63 ≤ value) (most : value < 2 ^ 64) :
    ofNat value = pack false (nearestEven value 2048) 11 := by
  have positive : value ≠ 0 := by omega
  have quotient : scaled value 1 11 = (value, 2048) := rfl
  have whole : ofNat value = ofQuotient false value 1 := by
    unfold ofNat ofDecimal
    rw [if_neg positive]
    simp [log2_eq least most]
  rw [whole]
  unfold ofQuotient
  rw [quotientExponent_eq least most]
  simp only [quotient]

section Packed

variable {significand : Nat}

theorem pack_bits (most : significand ≤ 2 ^ 53) :
    (pack false significand 11).bits.toNat = 1085 * 2 ^ 52 + significand := by
  have finite : ¬(11 + 1074 : Int).toNat * Nat.pow 2 52 + significand ≥ 2047 * Nat.pow 2 52 := by
    simp only [Nat.pow_eq]
    omega
  unfold pack
  dsimp only
  rw [if_neg finite]
  unfold signed
  simp only [Bool.false_eq_true, if_false, Nat.pow_eq, UInt64.toNat_ofNat']
  omega

theorem pack_negative (most : significand ≤ 2 ^ 53) :
    (pack false significand 11).negative = false := by
  unfold negative
  rw [pack_bits most]
  simp only [Nat.pow_eq, beq_eq_false_iff_ne]
  omega

theorem pack_exponentField (least : 2 ^ 52 ≤ significand) (most : significand ≤ 2 ^ 53) :
    (pack false significand 11).exponentField = if significand < 2 ^ 53 then 1086 else 1087 := by
  unfold exponentField
  rw [pack_bits most]
  simp only [Nat.pow_eq]
  split <;> omega

theorem pack_finite (least : 2 ^ 52 ≤ significand) (most : significand ≤ 2 ^ 53) :
    (pack false significand 11).isNaN = false ∧ (pack false significand 11).isInfinite = false := by
  have field : ((pack false significand 11).exponentField == 2047) = false := by
    rw [pack_exponentField least most, beq_eq_false_iff_ne]
    split <;> omega
  unfold isNaN isInfinite
  rw [field]
  exact ⟨rfl, rfl⟩

/-- The largest significand is carried over into the exponent. -/
theorem pack_magnitude (least : 2 ^ 52 ≤ significand) (most : significand ≤ 2 ^ 53) :
    (pack false significand 11).magnitude =
      if significand < 2 ^ 53 then ⟨significand, 11⟩ else ⟨2 ^ 52, 12⟩ := by
  unfold magnitude fraction
  rw [pack_bits most, pack_exponentField least most]
  simp only [Nat.pow_eq]
  split
  next small =>
    have carried : 2 ^ 52 + (1085 * 2 ^ 52 + significand) % 2 ^ 52 = significand := by omega
    rw [if_neg (by decide), carried]
    rfl
  next large =>
    have carried : 2 ^ 52 + (1085 * 2 ^ 52 + significand) % 2 ^ 52 = 2 ^ 52 := by omega
    rw [if_neg (by decide), carried]
    rfl

end Packed

/-! ### The interval around a multiple -/

/-- What matters of the interval of the decimals that read back as a multiple of 2048. -/
structure Surrounds (interval : Interval) (multiple : Nat) : Prop where
  value : interval.value = 2048 * multiple
  denominator : interval.denominator = 1
  near : ∀ point, point ≤ 2048 * multiple + 500 → 2048 * multiple ≤ point + 500 →
    interval.holds point = true
  within : ∀ point, interval.holds point = true →
    point ≤ 2048 * multiple + 2048 ∧ 2048 * multiple ≤ point + 2048
  /-- No multiple of ten thousand lies where the interval is lopsided. -/
  tenThousands : ∀ point, 10000 ∣ point →
    (interval.holds point = true ↔ nearestEven point 2048 = multiple)

theorem holds_iff {interval : Interval} (one : interval.denominator = 1) {point : Nat} :
    interval.holds point = true ↔
      interval.low ≤ point ∧ point ≤ interval.high ∧
        (interval.closed = false → interval.low < point ∧ point < interval.high) := by
  unfold Interval.holds
  rw [one, Nat.mul_one]
  cases interval.closed with
  | true => simp
  | false =>
      simp
      omega

/-- Half the way to the next multiple on either side, but a quarter below the least multiple and
the whole way above the greatest. -/
theorem surrounds_of_bounds {interval : Interval} {multiple : Nat}
    (value : interval.value = 2048 * multiple) (denominator : interval.denominator = 1)
    (low : interval.low + 1024 = 2048 * multiple ∨
      interval.low + 512 = 2048 * multiple ∧ multiple = 2 ^ 52)
    (high : interval.high = 2048 * multiple + 1024 ∨
      interval.high = 2048 * multiple + 2048 ∧ multiple = 2 ^ 53)
    (closed : interval.closed = (multiple % 2 == 0)) : Surrounds interval multiple where
  value := value
  denominator := denominator
  near point below above := by
    rw [holds_iff denominator]
    omega
  within point inside := by
    rw [holds_iff denominator] at inside
    omega
  tenThousands point divides := by
    rw [holds_iff denominator, nearestEven_eq_iff, closed, beq_eq_false_iff_ne]
    omega

theorem surrounds_magnitude {multiple : Nat} (least : 2 ^ 52 ≤ multiple)
    (most : multiple ≤ 2 ^ 53) :
    Surrounds (.ofMagnitude (if multiple < 2 ^ 53 then ⟨multiple, 11⟩ else ⟨2 ^ 52, 12⟩))
      multiple := by
  split
  next small =>
    have interval : Interval.ofMagnitude ⟨multiple, 11⟩ =
        ⟨(4 * multiple - if multiple = 2 ^ 52 then 1 else 2) * 512, 4 * multiple * 512,
          (4 * multiple + 2) * 512, 1, multiple % 2 == 0⟩ := by
      simp [Interval.ofMagnitude]
    rw [interval]
    apply surrounds_of_bounds <;> dsimp only
    · omega
    · split <;> omega
    · omega
  next large =>
    obtain rfl : multiple = 2 ^ 53 := by omega
    exact surrounds_of_bounds rfl rfl (.inl rfl) (.inr ⟨rfl, rfl⟩) rfl

end SlideDeck.Decimal
