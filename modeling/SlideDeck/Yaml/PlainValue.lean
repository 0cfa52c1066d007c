import SlideDeck.Yaml.Character
import SlideDeck.Yaml.Value

/-!
Contract: the type of a plain text.

Null, booleans, integers and floating point numbers have written forms of their own; every other
plain text is a string. Integers may be decimal, hexadecimal, octal or binary and carry a sign;
a decimal with a zero in front of other digits is a string.

Owns:
- the written forms of the four types;
- `PlainValue.read`, which refuses integers that no 64-bit type holds but a 128-bit type does.
-/

namespace SlideDeck.Yaml.PlainValue

open SlideDeck.Decimal (Binary64)

/-- The written forms of null besides nothing at all. -/
def isNull (text : String) : Bool :=
  ["~", "null", "Null", "NULL"].contains text

def bool? (text : String) : Option Bool :=
  if ["true", "True", "TRUE"].contains text then some true
  else if ["false", "False", "FALSE"].contains text then some false
  else none

/-- The value of a digit in a base up to sixteen. -/
def digit? (base : Nat) (character : Char) : Option Nat :=
  (hexDigit? character).filter (· < base)

/-- The number that a nonempty list of digits stands for. -/
def digits? (base : Nat) (text : List Char) : Option Nat :=
  if text.isEmpty then none
  else text.foldlM (fun value character => (digit? base character).map (value * base + ·)) 0

def withoutSign : List Char → List Char
  | '+' :: rest => rest
  | '-' :: rest => rest
  | text => text

/-- Whether a text consists of digits with a zero in front of others, after a sign or none. -/
def hasLeadingZero (text : List Char) : Bool :=
  match withoutSign text with
  | '0' :: rest => !rest.isEmpty && rest.all Char.isDigit
  | _ => false

/-- Digits of a whole number, with the marker of its base. -/
def magnitude? (text : List Char) : Option Nat :=
  match text with
  | '0' :: 'x' :: rest => digits? 16 rest
  | '0' :: 'o' :: rest => digits? 8 rest
  | '0' :: 'b' :: rest => digits? 2 rest
  | _ => if hasLeadingZero text then none else digits? 10 text

def integer? (text : List Char) : Option Int :=
  match text with
  | '-' :: rest => (magnitude? rest).map fun value => -(value : Int)
  | '+' :: rest => (magnitude? rest).map Int.ofNat
  | _ => (magnitude? text).map Int.ofNat

/-- Where a whole number fits. -/
inductive Width where
  | word
  | doubleWord
  | wider
deriving DecidableEq, Repr

/-- Signed and unsigned types together: 64 bits, else 128 bits, else neither. -/
def width (value : Int) : Width :=
  if -Int.pow 2 63 ≤ value ∧ value < Int.pow 2 64 then .word
  else if -Int.pow 2 127 ≤ value ∧ value < Int.pow 2 128 then .doubleWord
  else .wider

def exponent? (text : List Char) : Option Int :=
  match text with
  | '-' :: rest => (digits? 10 rest).map fun value => -(value : Int)
  | '+' :: rest => (digits? 10 rest).map Int.ofNat
  | _ => (digits? 10 text).map Int.ofNat

/-- A decimal without sign: digits, perhaps a point and digits, perhaps an exponent. One digit
must stand before the exponent. -/
def decimal? (negative : Bool) (text : List Char) : Option Binary64 := do
  let whole := text.takeWhile Char.isDigit
  let behindWhole := text.dropWhile Char.isDigit
  let (fraction, behind) := match behindWhole with
    | '.' :: rest => (rest.takeWhile Char.isDigit, rest.dropWhile Char.isDigit)
    | rest => ([], rest)
  let digits ← digits? 10 (whole ++ fraction)
  let exponent ← match behind with
    | [] => some 0
    | 'e' :: rest | 'E' :: rest => exponent? rest
    | _ => none
  some (Binary64.ofDecimal negative digits (exponent - fraction.length))

/-- A floating point number. A decimal too large for one is none. -/
def float? (text : List Char) : Option Binary64 :=
  let spelled := String.ofList text
  if [".inf", ".Inf", ".INF", "+.inf", "+.Inf", "+.INF"].contains spelled then
    some (Binary64.infinity false)
  else if ["-.inf", "-.Inf", "-.INF"].contains spelled then some (Binary64.infinity true)
  else if [".nan", ".NaN", ".NAN"].contains spelled then some Binary64.notANumber
  else
    let number := match text with
      | '+' :: rest => decimal? false rest
      | '-' :: rest => decimal? true rest
      | _ => decimal? false text
    number.filter fun found => !found.isInfinite

/-- The value of a plain text; `none` when it is an integer of 65 to 128 bits. -/
def read (text : String) : Option Value :=
  let characters := text.toList
  let floatOrString :=
    if hasLeadingZero characters then Value.string text
    else match float? characters with
      | some number => .float number
      | none => .string text
  if text.isEmpty || isNull text then some .null
  else
    match bool? text with
    | some value => some (.bool value)
    | none =>
        match integer? characters with
        | some value =>
            match width value with
            | .word => some (.integer value)
            | .doubleWord => none
            | .wider => some floatOrString
        | none => some floatOrString

end SlideDeck.Yaml.PlainValue
