import Courier.Text.Split

/-!
# Sets of code points

A set of characters is given as a list of closed ranges of code points. Long lists are written as
lines of hexadecimal numerals, such as `30-39 5F`.
-/

namespace Courier.Text

/-- Whether a code point lies in one of the given closed ranges. -/
def inRanges (table : List (Nat × Nat)) (n : Nat) : Bool :=
  table.any fun r => r.1 ≤ n && n ≤ r.2

/-- The value of an upper-case hexadecimal numeral. -/
def readHex (ds : List Char) : Nat :=
  ds.foldl (fun n d => 16 * n + (d.toNat - if d.isDigit then 48 else 55)) 0

/-- Reads a range; a single numeral is the range of that one code point. -/
def readRange (cs : List Char) : Nat × Nat :=
  let (low, high) := cut '-' cs
  (readHex low, readHex (high.getD low))

/-- Reads lines of ranges. -/
def readRanges (lines : List String) : List (Nat × Nat) :=
  lines.flatMap fun line => (splitOn ' ' line.toList).map readRange

end Courier.Text
