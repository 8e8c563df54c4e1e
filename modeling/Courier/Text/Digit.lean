/-!
# Decimal digits

The digits of all scripts, and reading an integer written with them.
-/

namespace Courier.Text

/-- The code point of the zero of every script that has decimal digits (Unicode 14.0); the other
nine digits follow it. -/
def zeroDigits : List Nat := [
  0x30, 0x660, 0x6F0, 0x7C0, 0x966, 0x9E6, 0xA66, 0xAE6, 0xB66, 0xBE6, 0xC66, 0xCE6, 0xD66, 0xDE6,
  0xE50, 0xED0, 0xF20, 0x1040, 0x1090, 0x17E0, 0x1810, 0x1946, 0x19D0, 0x1A80, 0x1A90, 0x1B50,
  0x1BB0, 0x1C40, 0x1C50, 0xA620, 0xA8D0, 0xA900, 0xA9D0, 0xA9F0, 0xAA50, 0xABF0, 0xFF10, 0x104A0,
  0x10D30, 0x11066, 0x110F0, 0x11136, 0x111D0, 0x112F0, 0x11450, 0x114D0, 0x11650, 0x116C0,
  0x11730, 0x118E0, 0x11950, 0x11C50, 0x11D50, 0x11DA0, 0x16A60, 0x16AC0, 0x16B50, 0x1D7CE,
  0x1D7D8, 0x1D7E2, 0x1D7EC, 0x1D7F6, 0x1E140, 0x1E2F0, 0x1E950, 0x1FBF0]

/-- The value of a decimal digit of any script. -/
def digitValue? (c : Char) : Option Nat :=
  (zeroDigits.find? fun z => z ≤ c.toNat && c.toNat < z + 10).map (c.toNat - ·)

/-- The value of an ASCII decimal digit. -/
def asciiDigit? (c : Char) : Option Nat :=
  if c.isDigit then some (c.toNat - 48) else none

/-- Reads digits, one underscore allowed between two of them. `sawDigit` tells whether the character
before was a digit. -/
def readDigits (digit? : Char → Option Nat) (acc : Nat) (sawDigit : Bool) : List Char → Option Nat
  | [] => if sawDigit then some acc else none
  | c :: rest =>
    if c = '_' then
      if sawDigit then readDigits digit? acc false rest else none
    else
      match digit? c with
      | some d => readDigits digit? (10 * acc + d) true rest
      | none => none

/-- Reads an optional sign and then digits. -/
def readSigned (digit? : Char → Option Nat) : List Char → Option Int
  | '+' :: rest => (readDigits digit? 0 false rest).map Int.ofNat
  | '-' :: rest => (readDigits digit? 0 false rest).map fun n => -(n : Int)
  | cs => (readDigits digit? 0 false cs).map Int.ofNat

/-- The decimal numeral of a natural number. -/
def numeral (n : Nat) : String :=
  String.ofList (Nat.toDigits 10 n)

/-- The decimal numeral of an integer. -/
def signedNumeral : Int → String
  | .ofNat n => numeral n
  | .negSucc n => "-" ++ numeral (n + 1)

/-- Lower-case hexadecimal digits, padded with zeros to a width. -/
def hexNumeral (width n : Nat) : String :=
  let ds := Nat.toDigits 16 n
  String.ofList (List.replicate (width - ds.length) '0' ++ ds)

end Courier.Text
