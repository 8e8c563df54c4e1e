import Courier.Charset.Codec
import Courier.Charset.Escape
import Courier.Charset.Punycode
import Courier.Charset.SingleByte
import Courier.Charset.Unicode
import Courier.Charset.Utf7

/-!
# Encoding and decoding text

Writing never fails for want of a character: one that the charset lacks is written as a question
mark. Reading never fails for want of a character either: bytes that encode none become `U+FFFD`,
and the result tells whether there were any.
-/

namespace Courier

open Charset

/-! ## Writing -/

/-- A text in a charset of one byte per character. -/
def Charset.encodeBy (byte? : Char → Option UInt8) (cs : List Char) : Bytes :=
  cs.map fun c => (byte? c).getD ((byte? '?').getD 63)

/-- The byte of a character whose code point is below a limit. -/
def Charset.belowLimit (limit : Nat) (c : Char) : Option UInt8 :=
  if c.toNat < limit then some c.toNat.toUInt8 else none

/-- A text in a charset; none for a charset that refuses every text and for transformations of
bytes. -/
def Codec.encode? : Codec → List Char → Option Bytes
  | .platform codec, cs => codec.writer.toOption.map (·.write cs)
  | .utf8, cs => some (utf8Bytes cs)
  | .utf8Sig, cs => some (utf8Mark ++ utf8Bytes cs)
  | .utf16, cs => some (utf16Bytes .little (byteOrderMark :: cs))
  | .utf16le, cs => some (utf16Bytes .little cs)
  | .utf16be, cs => some (utf16Bytes .big cs)
  | .utf32, cs => some (utf32Bytes .little (byteOrderMark :: cs))
  | .utf32le, cs => some (utf32Bytes .little cs)
  | .utf32be, cs => some (utf32Bytes .big cs)
  | .utf7, cs => some (utf7Bytes cs)
  | .usAscii, cs => some (encodeBy (belowLimit 0x80) cs)
  | .latin1, cs => some (encodeBy (belowLimit 0x100) cs)
  | .latin9, cs => some (encodeBy (fun c => byteOf? (overAscii latin9Upper) c.toNat) cs)
  | .windows1252, cs => some (encodeBy (fun c => byteOf? (overAscii windows1252Upper) c.toNat) cs)
  | .koi8r, cs => some (encodeBy (fun c => byteOf? (overAscii koi8rUpper) c.toNat) cs)
  | .cp037, cs => some (encodeBy (fun c => byteOf? cp037Table c.toNat) cs)
  | .unicodeEscape, cs => some (escapeBytes cs)
  | .punycode, cs => some (punycodeBytes cs)
  | _, _ => none

/-- What a charset that refuses every text says of it. -/
def Codec.writeRefusal : Codec → String
  | .platform ⟨.error reason, _, _, _, _, _⟩ => reason
  | _ => "undefined encoding"

/-- A text in the charset of a given name. -/
def encodeText [Platform] (charset : String) (text : String) : Except CharsetFault Bytes :=
  match Codec.lookupText charset with
  | .error fault => .error fault
  | .ok codec =>
    match codec.encode? text.toList with
    | some bytes => .ok bytes
    | none => .error (.refuses charset true codec.writeRefusal)

/-- The characters that give the lines of a part header their shape. -/
def headerShape : String := "-\r\n:;=\""

/-- Whether a codec writes the characters that shape a header as ASCII does. -/
def Codec.keepsHeaderShape : Codec → Bool
  | .platform codec => codec.keepsShape
  | codec => codec.encode? headerShape.toList == some (ascii headerShape)

/-- The codec for part headers beside text in a charset: its own if it keeps the shape of the header
lines, otherwise UTF-8. -/
def headerCodec [Platform] (charset : String) : Except CharsetFault Codec :=
  match Codec.lookupText charset with
  | .ok codec => .ok (if codec.keepsHeaderShape then codec else .utf8)
  | .error .nulInName => .error .nulInName
  | .error _ => .ok .utf8

/-! ## Reading -/

/-- Why bytes could not be read as text at all. -/
inductive DecodeFault where
  /-- The charset cannot be used on text. -/
  | charset (fault : CharsetFault)
  /-- A byte beyond ASCII where only ASCII can stand. -/
  | notAscii (byte : UInt8) (position : Nat)
  /-- A stream whose units have this many bits does not tell their byte order. -/
  | noByteOrderMark (bits : Nat)
  /-- The charset refuses the stream. -/
  | streamRefused (reason : String)
  /-- A transformation of bytes that insists on strict errors. -/
  | strictOnly
  /-- A transformation of text that was given bytes. -/
  | textOnly
  deriving DecidableEq, Repr

/-- The first byte beyond ASCII and its place. -/
def firstNonAscii? (bytes : Bytes) : Option (UInt8 × Nat) :=
  (bytes.findIdx? (0x80 ≤ ·)).map fun i => (bytes.getD i 0, i)

/-- Reads Punycode; the part after the last hyphen has to be ASCII. -/
def decodePunycode (bytes : Bytes) : Except DecodeFault Decoded :=
  match firstNonAscii? (splitLastHyphen bytes).2 with
  | some (byte, position) => .error (.notAscii byte position)
  | none => .ok (readPunycode bytes)

/-- Reads text after a byte order mark, or in little-endian order without one. -/
def decodeMarked (order? : Bytes → Option (ByteOrder × Bytes))
    (read : ByteOrder → Bytes → List (Option Char)) (bytes : Bytes) : Decoded :=
  match order? bytes with
  | some (order, rest) => .ofItems (read order rest)
  | none => .ofItems (read .little bytes)

/-- Takes a mark off the front of UTF-8 text. -/
def dropUtf8Mark (bytes : Bytes) : Bytes :=
  if utf8Mark.isPrefixOf bytes then bytes.drop 3 else bytes

/-- Reads text in a codec: in the given way in one of the platform, in the one way there is in a
described one. The fault is for the codecs that refuse, with their reason. -/
def Codec.decodeWith (own : PlatformCodec → Bytes → Except String Decoded)
    (refused : String → DecodeFault) : Codec → Bytes → Except DecodeFault Decoded
  | .platform codec, bytes =>
    match own codec bytes with
    | .ok decoded => .ok decoded
    | .error reason => .error (refused reason)
  | .utf8, bytes => .ok (.ofItems (readUtf8 bytes))
  | .utf8Sig, bytes => .ok (.ofItems (readUtf8 (dropUtf8Mark bytes)))
  | .utf16, bytes => .ok (decodeMarked utf16Order? readUtf16 bytes)
  | .utf16le, bytes => .ok (.ofItems (readUtf16 .little bytes))
  | .utf16be, bytes => .ok (.ofItems (readUtf16 .big bytes))
  | .utf32, bytes => .ok (decodeMarked utf32Order? readUtf32 bytes)
  | .utf32le, bytes => .ok (.ofItems (readUtf32 .little bytes))
  | .utf32be, bytes => .ok (.ofItems (readUtf32 .big bytes))
  | .utf7, bytes => .ok (.ofPoints (readUtf7 bytes))
  | .usAscii, bytes =>
    .ok (.ofItems (bytes.map fun b => if b < 0x80 then some (Char.ofNat b.toNat) else none))
  | .latin1, bytes => .ok (.ofItems (bytes.map fun b => some (Char.ofNat b.toNat)))
  | .latin9, bytes => .ok (.ofItems (bytes.map (charOf? (overAscii latin9Upper))))
  | .windows1252, bytes => .ok (.ofItems (bytes.map (charOf? (overAscii windows1252Upper))))
  | .koi8r, bytes => .ok (.ofItems (bytes.map (charOf? (overAscii koi8rUpper))))
  | .cp037, bytes => .ok (.ofItems (bytes.map (charOf? cp037Table)))
  | .unicodeEscape, bytes => .ok (.ofPoints (readEscaped bytes))
  | .punycode, bytes => decodePunycode bytes
  | _, _ => .error (refused "undefined encoding")

/-- Reads a whole text in the charset of a given name. No bytes are no text in every charset whose
name can be looked up. -/
def decodeText [Platform] (charset : String) (bytes : Bytes) : Except DecodeFault Decoded :=
  if charset.toList.contains (Char.ofNat 0) then .error (.charset .nulInName)
  else if bytes.isEmpty then .ok ⟨[], true⟩
  else
    match Codec.lookupText charset with
    | .error fault => .error (.charset fault)
    | .ok codec => codec.decodeWith (·.readWhole) (.charset ∘ .refuses charset false) bytes

/-- Reads a whole text in which nothing may be replaced. -/
def Codec.decodeStrict (codec : Codec) (bytes : Bytes) : Option (List CodePoint) :=
  match codec with
  | .platform codec => codec.readStrict bytes
  | codec =>
    match codec.decodeWith (·.readWhole) .streamRefused bytes with
    | .ok ⟨text, true⟩ => some text
    | _ => none

/-- Reads a whole text in the charset of a given name, in which nothing may be replaced. A name that
cannot even be looked up is a fault. -/
def decodeTextStrict [Platform] (charset : String) (bytes : Bytes) :
    Except CharsetFault (Option (List CodePoint)) :=
  if charset.toList.contains (Char.ofNat 0) then .error .nulInName
  else if bytes.isEmpty then .ok (some [])
  else
    match Codec.lookupText charset with
    | .error _ => .ok none
    | .ok codec => .ok (codec.decodeStrict bytes)

/-- Reads a stream that has ended. Unlike a whole text, a stream of wide units has to tell their byte
order unless it is shorter than one unit, and a stream that ends inside the mark of UTF-8 is
empty. -/
def Codec.decodeStream (codec : Codec) (bytes : Bytes) : Except DecodeFault Decoded :=
  match codec with
  | .utf8Sig =>
    if bytes.length < 3 && bytes.isPrefixOf utf8Mark then .ok ⟨[], true⟩
    else codec.decodeWith (·.readStream) .streamRefused bytes
  | .utf16 =>
    if (utf16Order? bytes).isNone && 2 ≤ bytes.length then .error (.noByteOrderMark 16)
    else codec.decodeWith (·.readStream) .streamRefused bytes
  | .utf32 =>
    if (utf32Order? bytes).isNone && 4 ≤ bytes.length then .error (.noByteOrderMark 32)
    else codec.decodeWith (·.readStream) .streamRefused bytes
  | .hex | .base64 | .bz2 | .zlib | .uu | .quopri => .error .strictOnly
  | .rot13 => .error .textOnly
  | _ => codec.decodeWith (·.readStream) .streamRefused bytes

end Courier
