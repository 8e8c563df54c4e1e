import Courier.Charset.CodePoint
import Courier.Text.CharacterName
import Courier.Text.Digit

/-!
# Backslash escapes

Text as ASCII in which every other character is a backslash with the code point in hexadecimal. The
reader knows the usual letter escapes, octal numbers and the names of characters as well; a backslash
before any other character stands for itself.
-/

namespace Courier.Charset

/-- How one character is written. -/
def escapeChar (c : Char) : Bytes :=
  let n := c.toNat
  if c = '\\' then [92, 92]
  else if c = '\t' then [92, 116]
  else if c = '\n' then [92, 110]
  else if c = '\r' then [92, 114]
  else if 32 ≤ n && n < 127 then [n.toUInt8]
  else if n < 0x100 then 92 :: 120 :: ascii (Text.hexNumeral 2 n)
  else if n < 0x10000 then 92 :: 117 :: ascii (Text.hexNumeral 4 n)
  else 92 :: 85 :: ascii (Text.hexNumeral 8 n)

/-- A text with escapes. -/
def escapeBytes (cs : List Char) : Bytes :=
  cs.flatMap escapeChar

/-- The number that hexadecimal digits at the front give, at most so many, and how many there are. -/
def takeHex : Nat → Nat → Nat → Bytes → Nat × Nat
  | 0, acc, seen, _ => (acc, seen)
  | _ + 1, acc, seen, [] => (acc, seen)
  | n + 1, acc, seen, b :: rest =>
    match hexValue? b with
    | some d => takeHex n (acc * 16 + d.toNat) (seen + 1) rest
    | none => (acc, seen)

/-- The number that octal digits at the front give, at most so many, and how many there are. -/
def takeOctal : Nat → Nat → Nat → Bytes → Nat × Nat
  | 0, acc, seen, _ => (acc, seen)
  | _ + 1, acc, seen, [] => (acc, seen)
  | n + 1, acc, seen, b :: rest =>
    if 48 ≤ b && b ≤ 55 then takeOctal n (acc * 8 + (b.toNat - 48)) (seen + 1) rest
    else (acc, seen)

/-- The escapes of one letter. -/
def letterEscapes : List (UInt8 × Nat) := [
  (92, 92), (39, 39), (34, 34), (98, 8), (102, 12), (116, 9), (110, 10), (114, 13), (118, 11),
  (97, 7)]

/-- How many hexadecimal digits the letter of an escape asks for. -/
def hexWidth? (b : UInt8) : Option Nat :=
  if b = 120 then some 2
  else if b = 117 then some 4
  else if b = 85 then some 8
  else none

/-- What the name of a character stands for, given what follows the letter that announces it, and how
many bytes of that it takes. The name stands in braces. -/
def readName : Bytes → List (Option CodePoint) × Nat
  | 123 :: rest =>
    let name := rest.takeWhile (· ≠ 125)
    if name.length = rest.length || name.isEmpty then ([none], 1 + name.length)
    else ([(Text.characterNamed? (latinText name).toList).map .char], 2 + name.length)
  | _ => ([none], 0)

/-- What an escape stands for, given what follows the backslash, and how many bytes of that it
takes. -/
def readEscape : Bytes → List (Option CodePoint) × Nat
  | [] => ([none], 0)
  | b :: rest =>
    if b = 10 then ([], 1)
    else
      match letterEscapes.lookup b with
      | some n => ([some (.ofNat n)], 1)
      | none =>
        if 48 ≤ b && b ≤ 55 then
          let (n, seen) := takeOctal 3 0 0 (b :: rest)
          ([some (.ofNat n)], seen)
        else
          match hexWidth? b with
          | some width =>
            let (n, seen) := takeHex width 0 0 rest
            if seen = width && n ≤ 0x10FFFF then ([some (.ofNat n)], 1 + seen)
            else ([none], 1 + seen)
          | none =>
            if b = 78 then
              let (items, taken) := readName rest
              (items, 1 + taken)
            else ([some (.char '\\'), some (.ofNat b.toNat)], 1)

/-- Reads a text with escapes; a byte that is not a backslash is the character of its number. -/
def readEscaped : Bytes → List (Option CodePoint)
  | [] => []
  | b :: rest =>
    if b = 92 then
      let (items, taken) := readEscape rest
      items ++ readEscaped (rest.drop taken)
    else some (.ofNat b.toNat) :: readEscaped rest
termination_by bytes => bytes.length
decreasing_by
  · simp only [List.length_drop, List.length_cons]; omega
  · exact Nat.lt_succ_self _

end Courier.Charset
