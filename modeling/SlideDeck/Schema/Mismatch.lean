import SlideDeck.Decimal.NumberFormat
import SlideDeck.Text.Quoted
import SlideDeck.Yaml.Value

/-!
Contract: the ways in which a readable value fails to have the shape that is asked of it.

Owns:
- `Found`, what stands in a place, and its words;
- `Mismatch` and its message.
-/

namespace SlideDeck.Schema

open SlideDeck.Decimal (Binary64 NumberFormat)
open SlideDeck.Yaml (Value)

/-- What stands in a place. -/
inductive Found where
  | null
  | bool (value : Bool)
  | integer (value : Int)
  | float (value : Binary64)
  | string (text : String)
  | sequence
  | mapping
deriving DecidableEq, Repr

namespace Found

def ofValue (value : Value) : Found :=
  match value.untagged with
  | .null | .tagged _ _ => .null
  | .bool value => .bool value
  | .integer value => .integer value
  | .float value => .float value
  | .string text => .string text
  | .sequence _ => .sequence
  | .mapping _ => .mapping

/-- Numbers in messages have no exponent and always a point. -/
def numberFormat : NumberFormat where
  positional _ := true
  pointZero := true
  tie := .upward
  nan := "NaN"
  infinity := "inf"
  minusInfinity := "-inf"

/-- A text between the marks that set off a value in a message. -/
def marked (text : String) : String :=
  "`" ++ text ++ "`"

def words : Found → String
  | null => "unit value"
  | bool value => "boolean " ++ marked (if value then "true" else "false")
  | integer value => "integer " ++ marked (toString value)
  | float value => "floating point " ++ marked (numberFormat.write value)
  | string text => "string " ++ Text.Quoted.encode text
  | sequence => "sequence"
  | mapping => "map"

end Found

/-- What a place asks for. -/
inductive Expected where
  | text
  | sequence
  | natural
  | fieldName
  | record (name : String)
deriving DecidableEq, Repr

def Expected.words : Expected → String
  | text => "a string"
  | sequence => "a sequence"
  | natural => "u32"
  | fieldName => "field identifier"
  | record name => "struct " ++ name

/-- Why a value does not have the shape asked of it. -/
inductive Mismatch where
  | wrongType (found : Found) (expected : Expected)
  | outOfRange (found : Found) (expected : Expected)
  | duplicateField (name : String)
  | sameKeys
  | slideNotMapping
  | noImageForm
  | taggedImage
  | within (field : String) (cause : Mismatch)
deriving DecidableEq, Repr

def Mismatch.message : Mismatch → String
  | wrongType found expected =>
      "invalid type: " ++ found.words ++ ", expected " ++ expected.words
  | outOfRange found expected =>
      "invalid value: " ++ found.words ++ ", expected " ++ expected.words
  | duplicateField name => "duplicate field " ++ Found.marked name
  | sameKeys => "duplicate entry in YAML map"
  | slideNotMapping => "slide must be a mapping"
  | noImageForm => "data did not match any variant of untagged enum ImageRef"
  | taggedImage => "untagged and internally tagged enums do not support enum input"
  | within field cause => field ++ ": " ++ cause.message

end SlideDeck.Schema
