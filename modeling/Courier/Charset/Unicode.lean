import Courier.Bytes

/-!
# The Unicode encoding forms

UTF-8, UTF-16 and UTF-32, writing and reading. A reader gives one item per character and one gap
(`none`) for each stretch of bytes that encodes no character: in UTF-8 the longest beginning of a
character that was not completed, in the others one unit, or what is left at the end.
-/

namespace Courier.Charset

/-! ## Writing -/

/-- A text in UTF-8. -/
def utf8Bytes (cs : List Char) : Bytes :=
  cs.flatMap String.utf8EncodeChar

/-- Order of the bytes of a unit. -/
inductive ByteOrder where
  | little | big
  deriving DecidableEq, Repr

/-- A number below 65536 as two bytes. -/
def ByteOrder.pair (order : ByteOrder) (n : Nat) : Bytes :=
  match order with
  | .little => [(n % 256).toUInt8, (n / 256).toUInt8]
  | .big => [(n / 256).toUInt8, (n % 256).toUInt8]

/-- The 16-bit units of a character: one, or a high and a low surrogate. -/
def utf16Units (c : Char) : List Nat :=
  let n := c.toNat
  if n < 0x10000 then [n]
  else [0xD800 + (n - 0x10000) / 0x400, 0xDC00 + (n - 0x10000) % 0x400]

/-- A text in UTF-16 without a byte order mark. -/
def utf16Bytes (order : ByteOrder) (cs : List Char) : Bytes :=
  cs.flatMap fun c => (utf16Units c).flatMap order.pair

/-- A text in UTF-32 without a byte order mark. -/
def utf32Bytes (order : ByteOrder) (cs : List Char) : Bytes :=
  cs.flatMap fun c =>
    let low := order.pair (c.toNat % 65536)
    let high := order.pair (c.toNat / 65536)
    match order with
    | .little => low ++ high
    | .big => high ++ low

/-- The character that tells the byte order at the start of a text. -/
def byteOrderMark : Char := Char.ofNat 0xFEFF

/-- The mark as it stands before UTF-8 text. -/
def utf8Mark : Bytes := [0xEF, 0xBB, 0xBF]

/-! ## Reading UTF-8 -/

/-- How many continuation bytes follow a first byte, and the bounds of the first of them. None for a
byte that begins no character of several bytes. -/
def continuation? (b : UInt8) : Option (Nat × UInt8 × UInt8) :=
  if 0xC2 ≤ b && b ≤ 0xDF then some (1, 0x80, 0xBF)
  else if b = 0xE0 then some (2, 0xA0, 0xBF)
  else if b = 0xED then some (2, 0x80, 0x9F)
  else if 0xE1 ≤ b && b ≤ 0xEF then some (2, 0x80, 0xBF)
  else if b = 0xF0 then some (3, 0x90, 0xBF)
  else if 0xF1 ≤ b && b ≤ 0xF3 then some (3, 0x80, 0xBF)
  else if b = 0xF4 then some (3, 0x80, 0x8F)
  else none

/-- The continuation bytes at the front, at most so many; the first within the given bounds. -/
def takeTail : Nat → UInt8 → UInt8 → Bytes → Bytes
  | 0, _, _, _ => []
  | _ + 1, _, _, [] => []
  | n + 1, lo, hi, b :: rest =>
    if lo ≤ b && b ≤ hi then b :: takeTail n 0x80 0xBF rest else []

/-- The code point of a first byte with its continuation bytes. -/
def codePoint (b : UInt8) (tail : Bytes) : Nat :=
  let lead := if tail.length = 1 then b.toNat % 32 else if tail.length = 2 then b.toNat % 16
    else b.toNat % 8
  tail.foldl (fun n t => n * 64 + t.toNat % 64) lead

/-- The first item of a UTF-8 text, and how many bytes after the first byte it takes. -/
def utf8Item (b : UInt8) (rest : Bytes) : Option Char × Nat :=
  if b < 0x80 then (some (Char.ofNat b.toNat), 0)
  else
    match continuation? b with
    | none => (none, 0)
    | some (count, lo, hi) =>
      let tail := takeTail count lo hi rest
      if tail.length = count then (some (Char.ofNat (codePoint b tail)), count)
      else (none, tail.length)

/-- Reads UTF-8. -/
def readUtf8 : Bytes → List (Option Char)
  | [] => []
  | b :: rest =>
    let (item, more) := utf8Item b rest
    item :: readUtf8 (rest.drop more)
termination_by bytes => bytes.length
decreasing_by simp only [List.length_drop, List.length_cons]; omega

/-! ## Reading UTF-16 and UTF-32 -/

/-- The number that two bytes give. -/
def ByteOrder.unit (order : ByteOrder) (x y : UInt8) : Nat :=
  match order with
  | .little => x.toNat + 256 * y.toNat
  | .big => 256 * x.toNat + y.toNat

def isHighSurrogate (n : Nat) : Bool := 0xD800 ≤ n && n < 0xDC00

def isLowSurrogate (n : Nat) : Bool := 0xDC00 ≤ n && n < 0xE000

/-- The character of a high and a low surrogate. -/
def joinSurrogates (high low : Nat) : Char :=
  Char.ofNat (0x10000 + (high - 0xD800) * 0x400 + (low - 0xDC00))

/-- Reads UTF-16. A high surrogate that nothing whole follows is one gap together with what is
left. -/
def readUtf16 (order : ByteOrder) : Bytes → List (Option Char)
  | x :: y :: rest =>
    let u := order.unit x y
    if isHighSurrogate u then
      match rest with
      | z :: w :: more =>
        let v := order.unit z w
        if isLowSurrogate v then some (joinSurrogates u v) :: readUtf16 order more
        else none :: readUtf16 order (z :: w :: more)
      | _ => [none]
    else (if isLowSurrogate u then none else some (Char.ofNat u)) :: readUtf16 order rest
  | [_] => [none]
  | [] => []

/-- Reads UTF-32. -/
def readUtf32 (order : ByteOrder) : Bytes → List (Option Char)
  | x :: y :: z :: w :: rest =>
    let n :=
      match order with
      | .little => order.unit x y + 65536 * order.unit z w
      | .big => 65536 * order.unit x y + order.unit z w
    (if n.isValidChar then some (Char.ofNat n) else none) :: readUtf32 order rest
  | [] => []
  | _ => [none]

/-- The byte order that a mark at the front tells, and what follows the mark. -/
def utf16Order? : Bytes → Option (ByteOrder × Bytes)
  | 0xFF :: 0xFE :: rest => some (.little, rest)
  | 0xFE :: 0xFF :: rest => some (.big, rest)
  | _ => none

/-- The same for UTF-32. -/
def utf32Order? : Bytes → Option (ByteOrder × Bytes)
  | 0xFF :: 0xFE :: 0 :: 0 :: rest => some (.little, rest)
  | 0 :: 0 :: 0xFE :: 0xFF :: rest => some (.big, rest)
  | _ => none

end Courier.Charset
