/-!
# White space

The characters that count as white space, and taking them off the two ends of a text.
-/

namespace Courier.Text

/-- White space: the separators of Unicode, the line breaks, and the four information separators
`U+001C` to `U+001F`. -/
def isBlank (c : Char) : Bool :=
  let n := c.toNat
  (9 ≤ n && n ≤ 13) || (28 ≤ n && n ≤ 32) || n == 0x85 || n == 0xA0 || n == 0x1680 ||
    (0x2000 ≤ n && n ≤ 0x200A) || n == 0x2028 || n == 0x2029 || n == 0x202F || n == 0x205F ||
    n == 0x3000

/-- White space without the information separators: what the reader of settings takes off. -/
def isSpaceSeparator (c : Char) : Bool :=
  isBlank c && !(28 ≤ c.toNat && c.toNat ≤ 31)

/-- Takes the characters of a class off both ends. -/
def trimBy (p : Char → Bool) (cs : List Char) : List Char :=
  ((cs.dropWhile p).reverse.dropWhile p).reverse

/-- Takes the white space off both ends. -/
def stripChars (cs : List Char) : List Char :=
  trimBy isBlank cs

/-- The text without the white space at its two ends. -/
def strip (s : String) : String :=
  String.ofList (stripChars s.toList)

end Courier.Text
