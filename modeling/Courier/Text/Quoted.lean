import Courier.Text.Digit
import Courier.Text.Printable

/-!
# Texts shown in quotes

How a text is shown inside a message: between quotes, with a backslash before what would end it or
could not be seen. Single quotes are used unless the text holds one and no double quote.
-/

namespace Courier.Text

/-- The quote that a text is shown in. -/
def quoteMark (cs : List Char) : Char :=
  if cs.contains '\'' && !cs.contains '"' then '"' else '\''

/-- How one character is shown between the given quotes. -/
def quotedChar (quote c : Char) : List Char :=
  if c = quote || c = '\\' then ['\\', c]
  else if c = '\n' then ['\\', 'n']
  else if c = '\r' then ['\\', 'r']
  else if c = '\t' then ['\\', 't']
  else if isPrintable c then [c]
  else if c.toNat < 0x100 then '\\' :: 'x' :: (hexNumeral 2 c.toNat).toList
  else if c.toNat < 0x10000 then '\\' :: 'u' :: (hexNumeral 4 c.toNat).toList
  else '\\' :: 'U' :: (hexNumeral 8 c.toNat).toList

/-- A text between quotes. -/
def quoted (s : String) : String :=
  let mark := quoteMark s.toList
  String.ofList (mark :: s.toList.flatMap (quotedChar mark) ++ [mark])

/-- A sequence of code points between quotes; one that is no character is shown by its number. -/
def quotedCodes (codes : List Nat) : String :=
  let mark := quoteMark (codes.map Char.ofNat)
  let shown (n : Nat) : List Char :=
    if n.isValidChar then quotedChar mark (Char.ofNat n) else '\\' :: 'u' :: (hexNumeral 4 n).toList
  String.ofList (mark :: codes.flatMap shown ++ [mark])

/-- How a character that a charset lacks is named in a message. -/
def escapedChar (c : Char) : String :=
  if c.toNat < 0x100 then "\\x" ++ hexNumeral 2 c.toNat
  else if c.toNat < 0x10000 then "\\u" ++ hexNumeral 4 c.toNat
  else "\\U" ++ hexNumeral 8 c.toNat

end Courier.Text
