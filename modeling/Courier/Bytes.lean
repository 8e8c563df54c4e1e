/-!
# Bytes

Contents of bodies and files are lists of bytes.
-/

namespace Courier

/-- A sequence of bytes. -/
abbrev Bytes := List UInt8

/-- The bytes of an ASCII text. -/
def ascii (s : String) : Bytes :=
  s.toList.map fun c => c.toNat.toUInt8

/-- The line break of message headers. -/
def crlf : Bytes := [13, 10]

/-- White space among bytes: tab, line feed, vertical tab, form feed, carriage return, space. -/
def isBlankByte (b : UInt8) : Bool :=
  (9 ≤ b && b ≤ 13) || b == 32

/-- An ASCII capital letter as its small letter; other bytes stay. -/
def lowerByte (b : UInt8) : UInt8 :=
  if 65 ≤ b && b ≤ 90 then b + 32 else b

/-- The upper-case hexadecimal digit of a number below sixteen. -/
def hexDigit (n : UInt8) : UInt8 :=
  if n < 10 then 48 + n else 55 + n

/-- The value of a hexadecimal digit in either case. -/
def hexValue? (b : UInt8) : Option UInt8 :=
  if 48 ≤ b && b ≤ 57 then some (b - 48)
  else if 65 ≤ b && b ≤ 70 then some (b - 55)
  else if 97 ≤ b && b ≤ 102 then some (b - 87)
  else none

/-- A percent sign and the two hexadecimal digits of a byte. -/
def percentByte (b : UInt8) : Bytes :=
  [37, hexDigit (b / 16), hexDigit (b % 16)]

/-- Undoes percent escapes; a percent sign that begins none stays. -/
def percentDecode : Bytes → Bytes
  | b :: h :: l :: rest =>
    if b = 37 then
      match hexValue? h, hexValue? l with
      | some x, some y => (x * 16 + y) :: percentDecode rest
      | _, _ => b :: percentDecode (h :: l :: rest)
    else b :: percentDecode (h :: l :: rest)
  | rest => rest

/-- The characters whose code points are the bytes. -/
def latinText (bytes : Bytes) : String :=
  String.ofList (bytes.map fun b => Char.ofNat b.toNat)

/-- A statement on the numbers below sixteen holds if it holds of each of them. -/
theorem forall_nibble {p : UInt8 → Prop} (h : ∀ k ∈ List.range 16, p (UInt8.ofNat k)) {n : UInt8}
    (hn : n < 16) : p n := by
  have hk := h n.toNat (List.mem_range.2 (by simpa using UInt8.lt_iff_toNat_lt.1 hn))
  simpa using hk

theorem hexValue?_hexDigit {n : UInt8} (h : n < 16) : hexValue? (hexDigit n) = some n :=
  forall_nibble (p := fun n => hexValue? (hexDigit n) = some n) (by decide) h

end Courier
