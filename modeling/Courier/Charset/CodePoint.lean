import Courier.Bytes

/-!
# Code points

What reading text gives. Most code points are characters, but some charsets can tell one half of a
surrogate pair without the other, which is none.
-/

namespace Courier

/-- A code point of a text that was read. -/
inductive CodePoint where
  | char (c : Char)
  /-- Half of a surrogate pair that stands alone. -/
  | surrogate (code : Nat)
  deriving DecidableEq, Repr

namespace CodePoint

/-- The code point of a number. -/
def ofNat (n : Nat) : CodePoint :=
  if 0xD800 ≤ n && n < 0xE000 then surrogate n else char (Char.ofNat n)

/-- The character that stands for what is none. -/
def replacement : Char := Char.ofNat 0xFFFD

/-- A code point where only characters can stand. -/
def toChar : CodePoint → Char
  | char c => c
  | surrogate _ => replacement

/-- The code points of a text of characters. -/
def ofString (s : String) : List CodePoint :=
  s.toList.map char

end CodePoint

/-- A text that was read, and whether every byte of it was part of a character. -/
structure Decoded where
  text : List CodePoint
  clean : Bool
  deriving DecidableEq, Repr

namespace Decoded

/-- Puts the replacement into the gaps. -/
def ofPoints (items : List (Option CodePoint)) : Decoded :=
  ⟨items.map (·.getD (.char CodePoint.replacement)), items.all (·.isSome)⟩

/-- The same for items that are characters. -/
def ofItems (items : List (Option Char)) : Decoded :=
  ⟨items.map fun item => .char (item.getD CodePoint.replacement), items.all (·.isSome)⟩

/-- The text where only characters can stand. -/
def characters (d : Decoded) : List Char :=
  d.text.map CodePoint.toChar

end Decoded

end Courier
