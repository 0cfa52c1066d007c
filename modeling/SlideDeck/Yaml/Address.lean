import SlideDeck.Yaml.Cursor

/-!
Contract: the addresses that tags are made of.

An address is ASCII text, in which every other character is written as escapes of its bytes. The
escapes have the form of characters, but need not be the bytes of any.

Owns:
- `Address` and its text, if it has one;
- the reading of an address with its escapes.

Does not own: the tags in which addresses stand.
-/

namespace SlideDeck.Yaml

/-- The bytes of an address or of a part of it. -/
abbrev Address := List UInt8

namespace Address

def ofText (text : List Char) : Address :=
  (String.ofList text).toUTF8.toList

/-- A byte escape, a percent sign and two hexadecimal digits. -/
def octet? : List Char → Option UInt8
  | '%' :: high :: low :: _ => (hexNumber? [high, low]).map UInt8.ofNat
  | _ => none

/-- The number of bytes of a character by its first byte. -/
def width? (octet : UInt8) : Option Nat :=
  if octet < 0x80 then some 1
  else if octet < 0xC0 then none
  else if octet < 0xE0 then some 2
  else if octet < 0xF0 then some 3
  else if octet < 0xF8 then some 4
  else none

/-- Escapes of a number of further bytes of a character. -/
def continuation? : (count : Nat) → List Char → Option Address
  | 0, _ => some []
  | count + 1, text => do
      let octet ← octet? text
      if 0x80 ≤ octet ∧ octet < 0xC0 then
        let more ← continuation? count (text.drop 3)
        some (octet :: more)
      else none

/-- The bytes of a character written as escapes. Whether the bytes are those of a character is
not looked at. -/
def escape? (text : List Char) : Option Address := do
  let first ← octet? text
  let width ← width? first
  let more ← continuation? (width - 1) (text.drop 3)
  some (first :: more)

/-- The text of an address, if its bytes are those of a text. -/
def text? (address : Address) : Option String :=
  String.fromUTF8? ⟨address.toArray⟩

/-- The address up to the first null byte, which ends it. -/
def untilNull (address : Address) : Address :=
  address.takeWhile (· != 0)

/-- The bytes of an address and how many characters were read. Commas and square brackets belong
to it only between angle brackets and in directives. -/
def readFrom (verbatim : Bool) : (fuel : Nat) → List Char → Option (Address × Nat)
  | 0, _ => some ([], 0)
  | fuel + 1, text =>
      match text with
      | [] => some ([], 0)
      | character :: rest =>
          if character == '%' then do
            let escaped ← escape? text
            let length := 3 * escaped.length
            let (more, count) ← readFrom verbatim fuel (text.drop length)
            some (escaped ++ more, length + count)
          else if isAddressCharacter character ||
              (verbatim && [',', '[', ']'].contains character) then do
            let (more, count) ← readFrom verbatim fuel rest
            some (ofText [character] ++ more, count + 1)
          else some ([], 0)

def read (verbatim : Bool) (cursor : Cursor) : Option (Address × Cursor) :=
  (readFrom verbatim cursor.rest.length cursor.rest).map fun (address, count) =>
    (address, cursor.advance count)

end Address

end SlideDeck.Yaml
