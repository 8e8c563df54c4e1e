import Courier.Charset.CodePoint
import Courier.Charset.Line

/-!
# The platform

What the program finds where it runs and does not bring along: charsets beyond the ones that it
describes itself, the registered types of file names, room for what is read, and a store of cookies.
Everything that is stated of the program holds for every platform.
-/

namespace Courier

/-- How a charset writes texts. A character that it lacks is written as a question mark. -/
structure TextWriter where
  write : List Char → Bytes
  lacks : Char → Bool
  write_replaced : ∀ cs, write (cs.map fun c => if lacks c then '?' else c) = write cs

/-- A charset of the platform, by what it does. A writer or reader that refuses gives its reason. -/
structure PlatformCodec where
  /-- Writes texts with errors replaced; a codec that cannot do so refuses every text. -/
  writer : Except String TextWriter
  /-- Whether the characters that shape a header are written as in ASCII if nothing may be replaced. -/
  keepsShape : Bool
  /-- Reads a whole text in which nothing may be replaced. -/
  readStrict : Bytes → Option (List CodePoint)
  /-- Reads a whole text with errors replaced. -/
  readWhole : Bytes → Except String Decoded
  /-- Reads a stream that has ended with errors replaced. -/
  readStream : Bytes → Except String Decoded
  lineCodec : ∀ w, writer = .ok w → keepsShape = true → Charset.LineCodec w.write

/-- What the program finds where it runs. -/
class Platform where
  /-- The charsets beyond the described ones, by the form of a name under which it is looked up. -/
  codec? : String → Option PlatformCodec
  codec?_empty : codec? "" = none
  /-- The registered types, by extensions in lower case with their full stop. -/
  types : List (String × String)
  types_unbroken : ∀ entry ∈ types, '\r' ∉ entry.2.toList ∧ '\n' ∉ entry.2.toList
  /-- How many bytes can be read from a disk at one go: at least a chunk of a body. -/
  room : Int
  chunk_le_room : 65536 ≤ room
  /-- What a connection remembers of the cookies that it was told. -/
  Cookies : Type
  noCookies : Cookies
  /-- What is remembered after a reply from an address with the given headers. -/
  learnCookies : Cookies → String → List (Bytes × Bytes) → Cookies
  /-- The cookies that go with a message to an address, if there are any. -/
  cookiesFor? : Cookies → String → Option String
  cookiesFor?_none : ∀ address, cookiesFor? noCookies address = none

end Courier
