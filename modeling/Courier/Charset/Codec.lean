import Courier.Platform

/-!
# Names of charsets

A charset is known by many names. A name is looked up after its case is dropped and every run of
characters other than ASCII letters, ASCII digits and the full stop is made one underscore, none at
either end. The codecs that are described here come first; any other name is left to the platform.
-/

namespace Courier

/-- The ways to turn text into bytes that have a name: the ones that are described here, and those of
the platform. The group from `hex` on turns bytes into bytes and cannot be used on text. -/
inductive Codec where
  | utf8 | utf8Sig
  | utf16 | utf16le | utf16be
  | utf32 | utf32le | utf32be
  | utf7
  | usAscii | latin1 | latin9 | windows1252 | koi8r | cp037
  | unicodeEscape | punycode
  | undefined
  | hex | base64 | bz2 | zlib | uu | quopri | rot13
  | platform (codec : PlatformCodec)
  deriving Inhabited

/-- What is wrong with a charset that was asked to encode or decode text. -/
inductive CharsetFault where
  /-- No charset has this name. -/
  | unknown (name : String)
  /-- A name with a NUL character cannot even be looked up. -/
  | nulInName
  /-- The name is that of a transformation of bytes. -/
  | notText (name : String)
  /-- The charset refuses what it was given; `encoding` tells which way it was used. -/
  | refuses (name : String) (encoding : Bool) (reason : String)
  deriving DecidableEq, Repr

namespace Codec

/-- Whether the codec turns text into bytes at all. -/
def isText : Codec → Bool
  | hex | base64 | bz2 | zlib | uu | quopri | rot13 => false
  | _ => true

/-- The own name of each codec. -/
def ownNames : List (String × Codec) := [
  ("utf_8", utf8), ("utf_8_sig", utf8Sig), ("utf_16", utf16), ("utf_16_le", utf16le),
  ("utf_16_be", utf16be), ("utf_32", utf32), ("utf_32_le", utf32le), ("utf_32_be", utf32be),
  ("utf_7", utf7), ("ascii", usAscii), ("latin_1", latin1), ("iso8859_1", latin1),
  ("iso8859_15", latin9), ("cp1252", windows1252), ("koi8_r", koi8r), ("cp037", cp037),
  ("unicode_escape", unicodeEscape), ("hex_codec", hex), ("base64_codec", base64),
  ("bz2_codec", bz2), ("zlib_codec", zlib), ("uu_codec", uu), ("quopri_codec", quopri),
  ("rot_13", rot13), ("undefined", undefined), ("punycode", punycode)]

/-- The other names of the codecs. -/
def aliases : List (String × Codec) := [
  ("cp65001", utf8), ("u8", utf8), ("utf", utf8), ("utf8", utf8), ("utf8_ucs2", utf8),
  ("utf8_ucs4", utf8), ("u16", utf16), ("utf16", utf16), ("unicodelittleunmarked", utf16le),
  ("utf_16le", utf16le), ("unicodebigunmarked", utf16be), ("utf_16be", utf16be), ("u32", utf32),
  ("utf32", utf32), ("utf_32le", utf32le), ("utf_32be", utf32be), ("u7", utf7),
  ("unicode_1_1_utf_7", utf7), ("utf7", utf7), ("646", usAscii), ("ansi_x3.4_1968", usAscii),
  ("ansi_x3.4_1986", usAscii), ("ansi_x3_4_1968", usAscii), ("cp367", usAscii),
  ("csascii", usAscii), ("ibm367", usAscii), ("iso646_us", usAscii),
  ("iso_646.irv_1991", usAscii), ("iso_ir_6", usAscii), ("us", usAscii), ("us_ascii", usAscii),
  ("8859", latin1), ("cp819", latin1), ("csisolatin1", latin1), ("ibm819", latin1),
  ("iso8859", latin1), ("iso8859_1", latin1), ("iso_8859_1", latin1), ("iso_8859_1_1987", latin1),
  ("iso_ir_100", latin1), ("l1", latin1), ("latin", latin1), ("latin1", latin1),
  ("iso_8859_15", latin9), ("l9", latin9), ("latin9", latin9), ("1252", windows1252),
  ("windows_1252", windows1252), ("cskoi8r", koi8r), ("037", cp037), ("csibm037", cp037),
  ("ebcdic_cp_ca", cp037), ("ebcdic_cp_nl", cp037), ("ebcdic_cp_us", cp037),
  ("ebcdic_cp_wt", cp037), ("ibm037", cp037), ("ibm039", cp037), ("hex", hex),
  ("base64", base64), ("base_64", base64), ("bz2", bz2), ("zip", zlib), ("zlib", zlib),
  ("uu", uu), ("quopri", quopri), ("quoted_printable", quopri), ("quotedprintable", quopri),
  ("rot13", rot13)]

/-- Drops case and makes each run of other characters one underscore. `gap` tells that such a run
was just passed, `started` that something was kept before it. -/
def normalizeFrom (gap started : Bool) : List Char → List Char
  | [] => []
  | c :: rest =>
    if c.isAlphanum || c = '.' then
      let tail := c.toLower :: normalizeFrom false true rest
      if gap && started then '_' :: tail else tail
    else normalizeFrom true started rest

/-- The form of a name under which it is looked up. -/
def normalize (name : String) : String :=
  String.ofList (normalizeFrom false false name.toList)

/-- The described codec with a normalized name. A full stop in an alias may stand for an underscore;
the own names have none. -/
def described? (key : String) : Option Codec :=
  match aliases.lookup key with
  | some codec => some codec
  | none =>
    let plain := String.ofList (key.toList.map fun c => if c = '.' then '_' else c)
    match aliases.lookup plain with
    | some codec => some codec
    | none => ownNames.lookup key

/-- The codec with a normalized name. -/
def find? [Platform] (key : String) : Option Codec :=
  (described? key).or ((Platform.codec? key).map .platform)

/-- The codec with a given name. -/
def lookup [Platform] (name : String) : Except CharsetFault Codec :=
  if name.toList.contains (Char.ofNat 0) then .error .nulInName
  else
    match find? (normalize name) with
    | some codec => .ok codec
    | none => .error (.unknown name)

/-- The codec with a given name, if it is one for text. -/
def lookupText [Platform] (name : String) : Except CharsetFault Codec :=
  match lookup name with
  | .ok codec => if codec.isText then .ok codec else .error (.notText name)
  | .error fault => .error fault

end Codec

end Courier
