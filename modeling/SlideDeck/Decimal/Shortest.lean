import SlideDeck.Decimal.Binary64

/-!
Contract: the shortest decimal that reads back as a given number.

A finite number stands for all reals that round to it: an interval around its value, whose ends
belong to it when the significand is even. On the grid of decimals with a given count of digits
only the two neighbours of the value can lie in that interval before any other point does, so
the counts 1, 2, … 17 are tried in turn and the first grid with a hit wins. Of two hits the
nearer is taken; an exact tie is the caller's choice.

Owns:
- `Numeral`, a natural number times a power of ten;
- `Interval`, the reals that round to a number, in exact natural arithmetic;
- `shortest`.

Does not own: how digits and exponent are laid out as text.
-/

namespace SlideDeck.Decimal

/-- The value `digits * 10 ^ exponent`. -/
structure Numeral where
  digits : Nat
  exponent : Int
deriving DecidableEq, Repr

/-- Which of two equally near decimals is taken. -/
inductive Tie where
  | toEven
  | upward
deriving DecidableEq, Repr

/-- A positive value with the interval of reals that round to it, all three as numerators over
one denominator. -/
structure Interval where
  low : Nat
  value : Nat
  high : Nat
  denominator : Nat
  closed : Bool
deriving DecidableEq, Repr

namespace Interval

/-- The reals that round to a magnitude. Below a power of two the neighbours are half as far
away, except at the least exponent. -/
def ofMagnitude (magnitude : Binary64.Magnitude) : Interval :=
  let significand := magnitude.significand
  let below := if significand = Nat.pow 2 52 ∧ magnitude.exponent > -1074 then 1 else 2
  let exponent := magnitude.exponent - 2
  let up := if exponent < 0 then 1 else Nat.pow 2 exponent.natAbs
  let down := if exponent < 0 then Nat.pow 2 exponent.natAbs else 1
  { low := (4 * significand - below) * up
    value := 4 * significand * up
    high := (4 * significand + 2) * up
    denominator := down
    closed := significand % 2 == 0 }

def rescale (interval : Interval) (exponent : Int) : Interval :=
  if exponent < 0 then
    let factor := Nat.pow 10 exponent.natAbs
    { interval with
      low := interval.low * factor
      value := interval.value * factor
      high := interval.high * factor }
  else
    { interval with denominator := interval.denominator * Nat.pow 10 exponent.natAbs }

def holds (interval : Interval) (point : Nat) : Bool :=
  let scaled := point * interval.denominator
  if interval.closed then interval.low ≤ scaled && scaled ≤ interval.high
  else interval.low < scaled && scaled < interval.high

/-- The natural number in the interval that is nearest to the value, among the two neighbours of
the value. -/
def nearest? (tie : Tie) (interval : Interval) : Option Nat :=
  let floor := interval.value / interval.denominator
  let doubled := 2 * (interval.value % interval.denominator)
  let preferFloor : Bool :=
    if doubled = interval.denominator then
      match tie with
      | .toEven => floor % 2 == 0
      | .upward => false
    else decide (doubled < interval.denominator)
  match interval.holds floor && floor != 0, interval.holds (floor + 1) with
  | true, true => some (if preferFloor then floor else floor + 1)
  | true, false => some floor
  | false, true => some (floor + 1)
  | false, false => none

end Interval

/-- The least exponent whose power of ten exceeds a positive value. -/
def decimalExponent (interval : Interval) : Int :=
  let binary : Int := (interval.value.log2 : Int) - (interval.denominator.log2 : Int)
  let estimate : Int := (binary - 1) * 30103 / 100000
  let exceeds (exponent : Int) : Bool :=
    let scaled := interval.rescale exponent
    scaled.value < scaled.denominator
  if exceeds estimate then estimate
  else if exceeds (estimate + 1) then estimate + 1
  else if exceeds (estimate + 2) then estimate + 2
  else estimate + 3

/-- The decimal without zeros at the end of its digits; `fuel` bounds their number. -/
def withoutEndZeros : Nat → Numeral → Numeral
  | 0, numeral => numeral
  | fuel + 1, numeral =>
      if numeral.digits ≠ 0 ∧ numeral.digits % 10 = 0 then
        withoutEndZeros fuel ⟨numeral.digits / 10, numeral.exponent + 1⟩
      else numeral

/-- The shortest decimal in the interval with `count` digits or more; `fuel` counts the grids
left to try. -/
def shortestFrom (tie : Tie) (interval : Interval) (top : Int) :
    (fuel count : Nat) → Option Numeral
  | 0, _ => none
  | fuel + 1, count =>
      let exponent := top - count
      match (interval.rescale exponent).nearest? tie with
      | some digits => some (withoutEndZeros 20 ⟨digits, exponent⟩)
      | none => shortestFrom tie interval top fuel (count + 1)

/-- The shortest decimal that rounds to a magnitude. Seventeen digits always suffice. -/
def shortest (tie : Tie) (magnitude : Binary64.Magnitude) : Numeral :=
  if magnitude.significand = 0 then ⟨0, 0⟩
  else
    let interval := Interval.ofMagnitude magnitude
    (shortestFrom tie interval (decimalExponent interval) 17 1).getD ⟨0, 0⟩

end SlideDeck.Decimal
