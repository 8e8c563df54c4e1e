import Courier.Bytes
import Courier.Mime.FileName

/-!
# Sniffing mime types

The type of a content, told from its first bytes and from a file name. A signature in the bytes
counts more than the name, and the name more than the looks of the text.
-/

namespace Courier.Mime

/-- Bytes that a content of a certain type starts with. The first one that fits counts. -/
def signatures : List (Bytes × String) := [
  (ascii "%PDF-", "application/pdf"),
  ([0x89, 0x50, 0x4E, 0x47, 0x0D, 0x0A, 0x1A, 0x0A], "image/png"),
  ([0xFF, 0xD8, 0xFF], "image/jpeg"),
  (ascii "GIF87a", "image/gif"),
  (ascii "GIF89a", "image/gif"),
  (ascii "BM", "image/bmp"),
  ([0x49, 0x49, 0x2A, 0x00], "image/tiff"),
  ([0x4D, 0x4D, 0x00, 0x2A], "image/tiff"),
  ([0x00, 0x00, 0x01, 0x00], "image/x-icon"),
  ([0x50, 0x4B, 0x03, 0x04], "application/zip"),
  ([0x1F, 0x8B], "application/gzip"),
  ([0x37, 0x7A, 0xBC, 0xAF, 0x27, 0x1C], "application/x-7z-compressed"),
  ([0x52, 0x61, 0x72, 0x21, 0x1A, 0x07], "application/vnd.rar"),
  ([0xD0, 0xCF, 0x11, 0xE0, 0xA1, 0xB1, 0x1A, 0xE1], "application/x-ole-storage"),
  (ascii "\x7b\\rtf", "application/rtf"),
  (ascii "OggS", "audio/ogg"),
  (ascii "fLaC", "audio/flac"),
  (ascii "ID3", "audio/mpeg"),
  ([0x1A, 0x45, 0xDF, 0xA3], "video/webm"),
  ([0x7F, 0x45, 0x4C, 0x46], "application/x-elf")]

/-- The formats of a RIFF container, told by the four bytes at offset eight. -/
def riffFormats : List (Bytes × String) := [
  (ascii "WEBP", "image/webp"), (ascii "WAVE", "audio/wav"), (ascii "AVI ", "video/x-msvideo")]

/-- The type of a RIFF container whose format is in the content. -/
def riffType (content : Bytes) : Option String :=
  if (ascii "RIFF").isPrefixOf content && 12 ≤ content.length then
    riffFormats.lookup ((content.drop 8).take 4)
  else none

/-- The type that the bytes alone prove. -/
def typeOfSignature (content : Bytes) : Option String :=
  match signatures.find? fun s => s.1.isPrefixOf content with
  | some (_, type) => some type
  | none =>
    match riffType content with
    | some type => some type
    | none => if (content.drop 4).take 4 = ascii "ftyp" then some "video/mp4" else none

/-- The bytes that may stand before a text in UTF-8. -/
def textMark : Bytes := [0xEF, 0xBB, 0xBF]

/-- The text of a content without the mark and the white space before it. -/
def textStart (content : Bytes) : Bytes :=
  (if textMark.isPrefixOf content then content.drop 3 else content).dropWhile isBlankByte

/-- The type that the beginning of a text looks like. -/
def typeOfText (content : Bytes) : Option String :=
  let text := textStart content
  let lowered := (text.take 15).map lowerByte
  if (ascii "<?xml").isPrefixOf lowered then some "application/xml"
  else if (ascii "<!doctype html").isPrefixOf lowered || (ascii "<html").isPrefixOf lowered then
    some "text/html"
  else if (ascii "\x7b").isPrefixOf text || (ascii "[").isPrefixOf text then
    some "application/json"
  else none

/-- The type that a file name suggests; none without a name. -/
def typeOfName? [Platform] (name : Option String) : Option String :=
  match name with
  | some name => if name = "" then none else typeOfName name
  | none => none

/-- The type of a content that starts with the given bytes. -/
def sniff [Platform] (start : Bytes) (name : Option String) : Option String :=
  (typeOfSignature start).or ((typeOfName? name).or (typeOfText start))

end Courier.Mime
