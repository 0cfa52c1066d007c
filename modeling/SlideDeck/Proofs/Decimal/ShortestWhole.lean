import SlideDeck.Decimal.NumberFormat
import SlideDeck.Proofs.Decimal.LargeWhole

/-!
Contract: the shortest decimals of the floating point numbers from 2 ^ 63 up to 2 ^ 64.

Such a number is a multiple of 2048, and the decimals that read back as it fill an interval that
is between 1536 and 3072 wide. So a multiple of 1000 always lies in the interval and a multiple of
10000 now and then. The search tries the long grids first: it ends on a multiple of 10000 if there
is one, and on the nearest multiple of 1000 otherwise.

Owns:
- what a hit of the search on one grid is;
- `ShortestWhole`, the decimal that the search ends on, and that there is only one.

Does not own: how the decimal is written.
-/

namespace SlideDeck.Decimal

open Binary64

variable {interval : Interval} {tie : Tie} {multiple : Nat}

/-! ### One grid -/

theorem holds_between (one : interval.denominator = 1) {low point high : Nat}
    (lowHolds : interval.holds low = true) (highHolds : interval.holds high = true)
    (above : low ≤ point) (below : point ≤ high) : interval.holds point = true := by
  rw [holds_iff one] at lowHolds highHolds ⊢
  refine ⟨by omega, by omega, ?_⟩
  intro isOpen
  have lowInside := lowHolds.2.2 isOpen
  have highInside := highHolds.2.2 isOpen
  omega

theorem rescale_natCast (interval : Interval) (exponent : Nat) :
    interval.rescale (exponent : Int) =
      { interval with denominator := interval.denominator * 10 ^ exponent } := by
  unfold Interval.rescale
  rw [if_neg (by omega), Int.natAbs_natCast, Nat.pow_eq]

theorem holds_rescale (one : interval.denominator = 1) (exponent point : Nat) :
    (interval.rescale (exponent : Int)).holds point = interval.holds (point * 10 ^ exponent) := by
  rw [rescale_natCast]
  unfold Interval.holds
  simp only [one, Nat.one_mul, Nat.mul_one]

/-- The point that is found lies in the interval and is a neighbour of the value. -/
theorem nearest?_sound {point : Nat} (found : interval.nearest? tie = some point) :
    interval.holds point = true ∧
      (point = interval.value / interval.denominator ∨
        point = interval.value / interval.denominator + 1) := by
  unfold Interval.nearest? at found
  dsimp only at found
  split at found
  next low high =>
    rw [Bool.and_eq_true] at low
    have neighbour : point = interval.value / interval.denominator ∨
        point = interval.value / interval.denominator + 1 := by
      rw [← Option.some.inj found]
      exact ite_eq_or_eq _ _ _
    refine ⟨?_, neighbour⟩
    rcases neighbour with rfl | rfl
    · exact low.1
    · exact high
  next low _ =>
    rw [Bool.and_eq_true] at low
    obtain rfl := Option.some.inj found
    exact ⟨low.1, .inl rfl⟩
  next _ high =>
    obtain rfl := Option.some.inj found
    exact ⟨high, .inr rfl⟩
  next => cases found

/-- Of two neighbours in the interval the nearer one is found, and a neighbour outside does not
count. -/
theorem nearest?_nearer {point : Nat} (found : interval.nearest? tie = some point)
    (positive : interval.value / interval.denominator ≠ 0)
    (noTie : 2 * (interval.value % interval.denominator) ≠ interval.denominator)
    (nearerHolds : 2 * (interval.value % interval.denominator) < interval.denominator →
      interval.holds (interval.value / interval.denominator) = true)
    (fartherHolds : interval.denominator < 2 * (interval.value % interval.denominator) →
      interval.holds (interval.value / interval.denominator + 1) = true) :
    point = if 2 * (interval.value % interval.denominator) < interval.denominator then
        interval.value / interval.denominator
      else interval.value / interval.denominator + 1 := by
  unfold Interval.nearest? at found
  simp only [if_neg noTie] at found
  by_cases nearer : 2 * (interval.value % interval.denominator) < interval.denominator
  · rw [if_pos nearer]
    simp only [nearerHolds nearer, nearer, decide_true, bne_iff_ne.mpr positive, Bool.and_true,
      if_true] at found
    split at found <;> simp_all
  · rw [if_neg nearer]
    have farther : interval.denominator < 2 * (interval.value % interval.denominator) := by omega
    simp only [fartherHolds farther, nearer, decide_false, Bool.false_eq_true, if_false] at found
    split at found <;> simp_all

theorem nearest?_isSome
    (hits : interval.holds (interval.value / interval.denominator) = true ∧
        interval.value / interval.denominator ≠ 0 ∨
      interval.holds (interval.value / interval.denominator + 1) = true) :
    (interval.nearest? tie).isSome = true := by
  unfold Interval.nearest?
  dsimp only
  rcases hits with ⟨low, positive⟩ | high
  · rw [low, bne_iff_ne.mpr positive]
    cases interval.holds (interval.value / interval.denominator + 1) <;> rfl
  · rw [high]
    cases interval.holds (interval.value / interval.denominator) &&
      interval.value / interval.denominator != 0 <;> rfl

/-! ### The search over the grids -/

/-- Zeros at the end of the digits are moved into the exponent. -/
theorem withoutEndZeros_eq (fuel digits exponent : Nat) :
    ∃ shortened zeros : Nat, withoutEndZeros fuel ⟨digits, exponent⟩ = ⟨shortened, zeros⟩ ∧
      shortened * 10 ^ zeros = digits * 10 ^ exponent := by
  induction fuel generalizing digits exponent with
  | zero => exact ⟨digits, exponent, rfl, rfl⟩
  | succ fuel inductionHypothesis =>
      rw [withoutEndZeros]
      split
      next endsInZero =>
        obtain ⟨shortened, zeros, same, product⟩ := inductionHypothesis (digits / 10) (exponent + 1)
        refine ⟨shortened, zeros, by exact_mod_cast same, ?_⟩
        have digitsEq : digits / 10 * 10 = digits :=
          Nat.div_mul_cancel (Nat.dvd_of_mod_eq_zero endsInZero.2)
        calc shortened * 10 ^ zeros = digits / 10 * 10 ^ (exponent + 1) := product
          _ = digits / 10 * 10 * 10 ^ exponent := by rw [Nat.pow_succ']; ac_rfl
          _ = digits * 10 ^ exponent := by rw [digitsEq]
      next => exact ⟨digits, exponent, rfl, rfl⟩

/-- If a grid hits, the search ends on that grid or on one that comes before it. -/
theorem shortestFrom_hit {top : Int} {fuel count least lead : Nat}
    (hits : ((interval.rescale least).nearest? tie).isSome = true)
    (reached : top = (least + lead + count : Nat)) (enough : lead < fuel) :
    ∃ exponent digits shortened zeros : Nat, least ≤ exponent ∧
      (interval.rescale exponent).nearest? tie = some digits ∧
      shortestFrom tie interval top fuel count = some ⟨shortened, zeros⟩ ∧
      shortened * 10 ^ zeros = digits * 10 ^ exponent := by
  induction fuel generalizing count lead with
  | zero => omega
  | succ fuel inductionHypothesis =>
      have exponent : top - (count : Int) = (least + lead : Nat) := by omega
      rw [shortestFrom, exponent]
      cases found : (interval.rescale (least + lead : Nat)).nearest? tie with
      | some digits =>
          obtain ⟨shortened, zeros, same, product⟩ := withoutEndZeros_eq 20 digits (least + lead)
          exact ⟨least + lead, digits, shortened, zeros, by omega, found, congrArg some same,
            product⟩
      | none =>
          cases lead with
          | zero =>
              rw [Nat.add_zero] at found
              rw [found] at hits
              cases hits
          | succ lead =>
              have reachedNext : top = (least + lead + (count + 1) : Nat) := by omega
              exact inductionHypothesis reachedNext (by omega)

/-! ### The shortest decimal -/

/-- The whole number that the shortest decimal of a multiple of 2048 stands for: a multiple of
10000 that is rounded to it, or the nearest multiple of 1000 if there is none. -/
inductive ShortestWhole (multiple shown : Nat) : Prop where
  | tenThousands (divides : 10000 ∣ shown) (rounds : nearestEven shown 2048 = multiple)
  | thousands (none : ∀ other, 10000 ∣ other → nearestEven other 2048 ≠ multiple)
      (divides : 1000 ∣ shown) (below : shown < 2048 * multiple + 500)
      (above : 2048 * multiple < shown + 500)

theorem ShortestWhole.rounds {shown : Nat} (shortest : ShortestWhole multiple shown) :
    nearestEven shown 2048 = multiple := by
  cases shortest with
  | tenThousands _ rounds => exact rounds
  | thousands _ _ below above =>
      rw [nearestEven_eq_iff]
      omega

theorem ShortestWhole.unique {first second : Nat} (firstShortest : ShortestWhole multiple first)
    (secondShortest : ShortestWhole multiple second) : first = second := by
  cases firstShortest with
  | tenThousands divides rounds =>
      cases secondShortest with
      | tenThousands otherDivides otherRounds =>
          rw [nearestEven_eq_iff] at rounds otherRounds
          omega
      | thousands none => exact absurd rounds (none first divides)
  | thousands none divides below above =>
      cases secondShortest with
      | tenThousands otherDivides otherRounds => exact absurd otherRounds (none second otherDivides)
      | thousands _ otherDivides otherBelow otherAbove => omega

section Search

variable (surrounds : Surrounds interval multiple)

include surrounds

theorem Surrounds.holds_value : interval.holds (2048 * multiple) = true :=
  surrounds.near _ (by omega) (by omega)

/-- A point of a grid in the interval makes the search find a point on that grid. -/
theorem Surrounds.hits_of_holds {exponent point : Nat} (large : 10 ^ exponent ≤ 2048 * multiple)
    (inside : interval.holds (point * 10 ^ exponent) = true) :
    ((interval.rescale exponent).nearest? tie).isSome = true := by
  have unit : 0 < 10 ^ exponent := Nat.pow_pos (by decide)
  have floorBelow := Nat.div_mul_le_self (2048 * multiple) (10 ^ exponent)
  have nextAbove := Nat.lt_div_mul_add unit (a := 2048 * multiple)
  apply nearest?_isSome
  rw [holds_rescale surrounds.denominator, holds_rescale surrounds.denominator, rescale_natCast]
  simp only [surrounds.value, surrounds.denominator, Nat.one_mul]
  by_cases below : point ≤ 2048 * multiple / 10 ^ exponent
  · have floorPositive : 2048 * multiple / 10 ^ exponent ≠ 0 :=
      Nat.ne_of_gt (Nat.div_pos large unit)
    refine .inl ⟨?_, floorPositive⟩
    exact holds_between surrounds.denominator inside surrounds.holds_value
      (Nat.mul_le_mul_right _ below) floorBelow
  · have pointAbove : 2048 * multiple / 10 ^ exponent + 1 ≤ point := by omega
    have nextLarger : 2048 * multiple ≤ (2048 * multiple / 10 ^ exponent + 1) * 10 ^ exponent :=
      calc 2048 * multiple ≤ 2048 * multiple / 10 ^ exponent * 10 ^ exponent + 10 ^ exponent :=
            Nat.le_of_lt nextAbove
        _ = (2048 * multiple / 10 ^ exponent + 1) * 10 ^ exponent := (Nat.succ_mul _ _).symm
    refine .inr ?_
    exact holds_between surrounds.denominator surrounds.holds_value inside nextLarger
      (Nat.mul_le_mul_right _ pointAbove)

/-- The grid of the multiples of 1000 is always hit, and nearest is a matter of the value alone. -/
theorem Surrounds.hits_thousands (large : 1000 ≤ 2048 * multiple) :
    ((interval.rescale (3 : Nat)).nearest? tie).isSome = true := by
  have inside : interval.holds ((2048 * multiple + 499) / 1000 * 1000) = true := by
    apply surrounds.near <;> omega
  exact surrounds.hits_of_holds large inside

theorem Surrounds.thousands_near {digits : Nat} (large : 1000 ≤ 2048 * multiple)
    (found : (interval.rescale (3 : Nat)).nearest? tie = some digits) :
    digits * 1000 < 2048 * multiple + 500 ∧ 2048 * multiple < digits * 1000 + 500 := by
  have one := surrounds.denominator
  have nearer := nearest?_nearer found
  simp only [holds_rescale one] at nearer
  simp only [rescale_natCast, one, surrounds.value, Nat.one_mul] at nearer
  have chosen := nearer (by omega) (by omega) (fun _ => surrounds.near _ (by omega) (by omega))
    (fun _ => surrounds.near _ (by omega) (by omega))
  split at chosen <;> omega

/-- The search ends on the shortest decimal. -/
theorem Surrounds.shortest {top : Int} (large : 10000 ≤ 2048 * multiple) (lower : 19 ≤ top)
    (upper : top ≤ 20) :
    ∃ digits zeros : Nat, shortestFrom tie interval top 17 1 = some ⟨digits, zeros⟩ ∧
      ShortestWhole multiple (digits * 10 ^ zeros) := by
  have rounded : ∀ {exponent digits : Nat}, 4 ≤ exponent →
      (interval.rescale exponent).nearest? tie = some digits →
      10000 ∣ digits * 10 ^ exponent ∧ nearestEven (digits * 10 ^ exponent) 2048 = multiple := by
    intro exponent digits least found
    have divides : 10000 ∣ digits * 10 ^ exponent :=
      Nat.dvd_mul_left_of_dvd (Nat.pow_dvd_pow 10 least) digits
    refine ⟨divides, (surrounds.tenThousands _ divides).mp ?_⟩
    rw [← holds_rescale surrounds.denominator]
    exact (nearest?_sound found).1
  by_cases present : ∃ other, 10000 ∣ other ∧ nearestEven other 2048 = multiple
  · obtain ⟨other, divides, rounds⟩ := present
    have inside := (surrounds.tenThousands other divides).mpr rounds
    obtain ⟨point, rfl⟩ := divides
    rw [Nat.mul_comm] at inside
    have hits : ((interval.rescale (4 : Nat)).nearest? tie).isSome = true :=
      surrounds.hits_of_holds large inside
    have reached : top = (4 + (top - 5).toNat + 1 : Nat) := by omega
    obtain ⟨exponent, digits, shortened, zeros, least, found, ended, product⟩ :=
      shortestFrom_hit hits reached (by omega : _ < 17)
    obtain ⟨divides, rounds⟩ := rounded least found
    rw [← product] at divides rounds
    exact ⟨shortened, zeros, ended, .tenThousands divides rounds⟩
  · have hits : ((interval.rescale (3 : Nat)).nearest? tie).isSome = true :=
      surrounds.hits_thousands (by omega)
    have reached : top = (3 + (top - 4).toNat + 1 : Nat) := by omega
    obtain ⟨exponent, digits, shortened, zeros, least, found, ended, product⟩ :=
      shortestFrom_hit hits reached (by omega : _ < 17)
    obtain rfl : exponent = 3 := by
      by_contra longer
      exact present ⟨_, rounded (by omega) found⟩
    obtain ⟨below, above⟩ := surrounds.thousands_near (by omega) found
    refine ⟨shortened, zeros, ended, ?_⟩
    rw [product]
    refine .thousands ?_ ⟨digits, Nat.mul_comm _ _⟩ below above
    intro other divides rounds
    exact present ⟨other, divides, rounds⟩

theorem Surrounds.exceeds_iff (exponent : Nat) :
    (interval.rescale (exponent : Int)).value < (interval.rescale (exponent : Int)).denominator ↔
      2048 * multiple < 10 ^ exponent := by
  rw [rescale_natCast]
  simp only [surrounds.value, surrounds.denominator, Nat.one_mul]

theorem Surrounds.decimalExponent_bounds (least : 2 ^ 52 ≤ multiple) (most : multiple ≤ 2 ^ 53) :
    19 ≤ decimalExponent interval ∧ decimalExponent interval ≤ 20 := by
  have positive : 2048 * multiple ≠ 0 := by omega
  have binary : (2048 * multiple).log2 = 63 ∨ (2048 * multiple).log2 = 64 := by
    rw [Nat.log2_eq_iff positive, Nat.log2_eq_iff positive]
    omega
  have estimate : (((2048 * multiple).log2 : Int) - ((1 : Nat).log2 : Int) - 1) * 30103 / 100000 =
      ((18 : Nat) : Int) := by
    rcases binary with binary | binary <;> rw [binary] <;> rfl
  have next : ((18 : Nat) : Int) + 1 = ((19 : Nat) : Int) := rfl
  have last : ((18 : Nat) : Int) + 2 = ((20 : Nat) : Int) := rfl
  have small : ¬2048 * multiple < 10 ^ 18 := by omega
  unfold decimalExponent
  simp only [surrounds.value, surrounds.denominator, estimate, decide_eq_true_eq,
    next, last, surrounds.exceeds_iff]
  split
  · omega
  split
  · omega
  split
  · omega
  · omega

end Search

theorem shortest_pack (least : 2 ^ 52 ≤ multiple) (most : multiple ≤ 2 ^ 53) :
    ∃ digits zeros : Nat, shortest tie (pack false multiple 11).magnitude = ⟨digits, zeros⟩ ∧
      ShortestWhole multiple (digits * 10 ^ zeros) := by
  have surrounds := surrounds_magnitude least most
  rw [← pack_magnitude least most] at surrounds
  obtain ⟨lower, upper⟩ := surrounds.decimalExponent_bounds least most
  obtain ⟨digits, zeros, ended, whole⟩ := surrounds.shortest (by omega) lower upper
  refine ⟨digits, zeros, ?_, whole⟩
  have nonzero : (pack false multiple 11).magnitude.significand ≠ 0 := by
    rw [pack_magnitude least most]
    split <;> dsimp only <;> omega
  unfold shortest
  rw [if_neg nonzero]
  dsimp only
  rw [ended]
  rfl

/-! ### Its text -/

/-- A power of ten puts zeros behind the digits. -/
theorem toDigits_mul_pow {digits : Nat} (positive : 0 < digits) (zeros : Nat) :
    Nat.toDigits 10 (digits * 10 ^ zeros) =
      Nat.toDigits 10 digits ++ List.replicate zeros '0' := by
  induction zeros with
  | zero => rw [Nat.pow_zero, Nat.mul_one, List.replicate_zero, List.append_nil]
  | succ zeros inductionHypothesis =>
      have shorter : 0 < digits * 10 ^ zeros := Nat.mul_pos positive (Nat.pow_pos (by decide))
      have lastDigit : Nat.toDigits 10 0 = ['0'] := rfl
      calc Nat.toDigits 10 (digits * 10 ^ (zeros + 1))
          = Nat.toDigits 10 (10 * (digits * 10 ^ zeros) + 0) := by
            rw [Nat.pow_succ, Nat.add_zero, ← Nat.mul_assoc, Nat.mul_comm]
        _ = Nat.toDigits 10 (digits * 10 ^ zeros) ++ Nat.toDigits 10 0 :=
            (Nat.toDigits_append_toDigits (by decide) shorter (by decide)).symm
        _ = Nat.toDigits 10 digits ++ List.replicate (zeros + 1) '0' := by
            rw [inductionHypothesis, lastDigit, List.append_assoc, List.replicate_succ']

variable {format : NumberFormat}

/-- With an exponent that is not negative, zeros are all that is put behind the digits. -/
theorem fixedPoint_whole (noPoint : format.pointZero = false) {digits : Nat}
    (positive : 0 < digits) (zeros : Nat) :
    format.fixedPoint (toString digits).toList ((toString digits).toList.length + (zeros : Int)) =
      (toString (digits * 10 ^ zeros)).toList := by
  have count : ((toString digits).toList.length + (zeros : Int)).toNat -
      (toString digits).toList.length = zeros := by omega
  unfold NumberFormat.fixedPoint
  dsimp only
  rw [if_pos (by omega), noPoint, count]
  simp only [Nat.toString_eq_ofList_toDigits, String.toList_ofList, toDigits_mul_pow positive,
    Bool.false_eq_true, if_false, List.append_nil]

theorem write_pack (positional : ∀ point, format.positional point = true)
    (noPoint : format.pointZero = false) (least : 2 ^ 52 ≤ multiple) (most : multiple ≤ 2 ^ 53) :
    ∃ shown, ShortestWhole multiple shown ∧
      format.write (pack false multiple 11) = toString shown := by
  obtain ⟨digits, zeros, shortest, whole⟩ := shortest_pack least most
  refine ⟨digits * 10 ^ zeros, whole, ?_⟩
  have positive : 0 < digits := by
    apply Nat.pos_of_ne_zero
    rintro rfl
    have rounds := whole.rounds
    rw [Nat.zero_mul, nearestEven_eq_iff] at rounds
    omega
  unfold NumberFormat.write
  rw [(pack_finite least most).1, (pack_finite least most).2, pack_negative most, shortest]
  simp only [positional, or_true, Bool.false_eq_true, if_false, if_true]
  rw [fixedPoint_whole noPoint positive, String.ofList_toList]

/-- The text of a whole number from 2 ^ 63 on is that of the shortest decimal. -/
theorem write_ofNat (positional : ∀ point, format.positional point = true)
    (noPoint : format.pointZero = false) {value : Nat} (least : 2 ^ 63 ≤ value)
    (most : value < 2 ^ 64) :
    ∃ shown, ShortestWhole (nearestEven value 2048) shown ∧
      format.write (ofNat value) = toString shown := by
  obtain ⟨lower, upper⟩ := nearestEven_range least most
  rw [ofNat_eq_pack least most]
  exact write_pack positional noPoint lower upper

end SlideDeck.Decimal
