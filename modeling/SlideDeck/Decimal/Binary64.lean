/-!
Contract: binary floating point numbers of 64 bits, as bit patterns with an exact reading.

A number is stored as its bits, so that equality is decidable and statements about it are
statements about natural numbers. `magnitude` gives the significand and the power of two;
`ofDecimal` rounds a decimal to the nearest number, and a tie to the even significand.

Owns:
- the fields of a bit pattern and the special values;
- rounding of decimals and of natural numbers.

Does not own: the text of a number.
-/

namespace SlideDeck.Decimal

/-- A floating point number of 64 bits. -/
structure Binary64 where
  bits : UInt64
deriving DecidableEq, Repr, Inhabited

namespace Binary64

def negative (number : Binary64) : Bool :=
  number.bits.toNat / Nat.pow 2 63 == 1

def exponentField (number : Binary64) : Nat :=
  number.bits.toNat / Nat.pow 2 52 % Nat.pow 2 11

def fraction (number : Binary64) : Nat :=
  number.bits.toNat % Nat.pow 2 52

def isNaN (number : Binary64) : Bool :=
  number.exponentField == 2047 && number.fraction != 0

def isInfinite (number : Binary64) : Bool :=
  number.exponentField == 2047 && number.fraction == 0

def isZero (number : Binary64) : Bool :=
  number.exponentField == 0 && number.fraction == 0

/-- A finite number without its sign is `significand * 2 ^ exponent`. -/
structure Magnitude where
  significand : Nat
  exponent : Int
deriving DecidableEq, Repr

/-- The magnitude of a finite number: subnormal when the biased exponent is zero. -/
def magnitude (number : Binary64) : Magnitude :=
  if number.exponentField = 0 then
    ⟨number.fraction, -1074⟩
  else
    ⟨Nat.pow 2 52 + number.fraction, (number.exponentField : Int) - 1075⟩

/-- Equality of the numbers, not of the patterns: the zeros agree, and so do all that are no
number. -/
def sameNumber (left right : Binary64) : Bool :=
  left == right || (left.isZero && right.isZero) || (left.isNaN && right.isNaN)

def signed (negative : Bool) (bits : Nat) : Binary64 :=
  ⟨UInt64.ofNat (if negative then Nat.pow 2 63 + bits else bits)⟩

def infinity (negative : Bool) : Binary64 :=
  signed negative (2047 * Nat.pow 2 52)

def notANumber : Binary64 :=
  signed false (2047 * Nat.pow 2 52 + Nat.pow 2 51)

/-- The natural number nearest to a quotient; a tie goes to the even one. -/
def nearestEven (numerator denominator : Nat) : Nat :=
  let quotient := numerator / denominator
  let doubled := 2 * (numerator % denominator)
  if doubled < denominator then quotient
  else if doubled = denominator then quotient + quotient % 2
  else quotient + 1

/-- Bits of `significand * 2 ^ exponent`, where the significand is at most `2 ^ 53` and the
exponent is -1074 unless the significand is at least `2 ^ 52`. -/
def pack (negative : Bool) (significand : Nat) (exponent : Int) : Binary64 :=
  let bits := (exponent + 1074).toNat * Nat.pow 2 52 + significand
  if bits ≥ 2047 * Nat.pow 2 52 then infinity negative else signed negative bits

/-- A quotient divided by a power of two, as numerator and denominator. -/
def scaled (numerator denominator : Nat) (exponent : Int) : Nat × Nat :=
  if exponent < 0 then (numerator * Nat.pow 2 exponent.natAbs, denominator)
  else (numerator, denominator * Nat.pow 2 exponent.natAbs)

/-- The least power of two, from -1074 up, for which a positive quotient divided by it is below
`2 ^ 53`. -/
def quotientExponent (numerator denominator : Nat) : Int :=
  let low : Int := max (-1074) ((numerator.log2 : Int) - (denominator.log2 : Int) - 53)
  let quotient := scaled numerator denominator low
  if quotient.1 < quotient.2 * Nat.pow 2 53 then low else low + 1

/-- The number nearest to a positive quotient. -/
def ofQuotient (negative : Bool) (numerator denominator : Nat) : Binary64 :=
  let exponent := quotientExponent numerator denominator
  let quotient := scaled numerator denominator exponent
  pack negative (nearestEven quotient.1 quotient.2) exponent

/-- The number nearest to `digits * 10 ^ exponent`. Exponents far outside the range of the
numbers are settled without computing the power. -/
def ofDecimal (negative : Bool) (digits : Nat) (exponent : Int) : Binary64 :=
  if digits = 0 then signed negative 0
  else
    let top : Int := exponent + (digits.log2 * 30103 / 100000 : Nat)
    if top > 400 then infinity negative
    else if top < -400 then signed negative 0
    else if exponent < 0 then ofQuotient negative digits (Nat.pow 10 exponent.natAbs)
    else ofQuotient negative (digits * Nat.pow 10 exponent.natAbs) 1

def ofNat (value : Nat) : Binary64 :=
  ofDecimal false value 0

end Binary64

end SlideDeck.Decimal
