import Courier.Bytes

/-!
# Writing line by line

A part header is written as one text, but it is read line by line. `LineCodec` says what makes the two
agree: the characters of which header lines are made are written as in ASCII, and a carriage return ends
whatever was begun before it and stands for no other character. A line may change how the lines after it
are written, as it does in a charset that announces itself once; so the property is one of a family of
ways to write that is closed under the end of a line (`LineFamily`).
-/

namespace Courier.Charset

/-- The characters of which header lines are made, but for what is told in them. -/
def headerDirect (c : Char) : Bool :=
  c.isAlphanum || "-\r\n:;=\" ".toList.contains c

/-- Ways to write text that each write a line by itself and go on in one of these ways after it. -/
structure LineFamily (family : (List Char → Bytes) → Prop) : Prop where
  nil : ∀ encode, family encode → encode [] = []
  direct : ∀ encode, family encode → ∀ c rest, headerDirect c = true →
    encode (c :: rest) = c.toNat.toUInt8 :: encode rest
  line : ∀ encode, family encode → ∀ s, '\r' ∉ s →
    ∃ bytes next, 13 ∉ bytes ∧ family next ∧
      ∀ rest, encode (s ++ '\r' :: '\n' :: rest) = bytes ++ crlf ++ next rest

/-- A way to write text of which each line can be read by itself. -/
def LineCodec (encode : List Char → Bytes) : Prop :=
  ∃ family, LineFamily family ∧ family encode

end Courier.Charset
