import Courier.Text.CharacterName.Alias
import Courier.Text.CharacterName.Ancient
import Courier.Text.CharacterName.Asian
import Courier.Text.CharacterName.European
import Courier.Text.CharacterName.Notation
import Courier.Text.CharacterName.Phonetic
import Courier.Text.CharacterName.Picture
import Courier.Text.CharacterName.Presentation
import Courier.Text.CharacterName.Sign
import Courier.Text.CharacterName.Syllable
import Courier.Text.Hangul
import Courier.Text.Ranges

/-!
# Names of characters

Which character has a given name. Most names are listed; those of syllables of Hangul are made of the
names of letters, and those of ideographs and some other characters end in the number of the code
point.

A line of the list gives the names of consecutive characters, the first of which it tells. The digit
before a name says how many words of the name before it come first.
-/

namespace Courier.Text

/-! ## Listed names -/

/-- The words of a name that is written after another one. -/
def nameAfter (before : List (List Char)) : List Char → List (List Char)
  | [] => before
  | count :: rest =>
    before.take (count.toNat - 48) ++ (if rest.isEmpty then [] else splitOn ' ' rest)

/-- Names in the order in which they are read, the last one first, and its words. -/
structure NameList where
  names : List (String × Nat) := []
  last : List (List Char) := []

/-- Reads one name more. -/
def NameList.add (l : NameList) (code : Nat) (written : List Char) : NameList :=
  let words := nameAfter l.last written
  ⟨(String.ofList (joinWith ' ' words), code) :: l.names, words⟩

/-- Reads a line of names. -/
def NameList.addLine (l : NameList) (line : String) : NameList :=
  let (code, rest) := cut ' ' line.toList
  ((splitOn ';' (rest.getD [])).zipIdx (readHex code)).foldl (fun l p => l.add p.2 p.1) l

/-- The names of a list. -/
def readNames (lines : List String) : List (String × Nat) :=
  (lines.foldl NameList.addLine {}).names

/-- All listed names; they are read when they are first asked for. -/
def listedNames : Thunk (List (String × Nat)) :=
  Thunk.mk fun _ =>
    [europeanNames, asianNames, phoneticNames, signNames, syllableNames, presentationNames,
      ancientNames, notationNames, pictureNames, furtherNames].flatMap readNames

/-! ## Numbered names -/

/-- Names that end in the number of the code point, and the code points that have them. -/
def numberedNames : List (String × List (Nat × Nat)) := [
  ("CJK COMPATIBILITY IDEOGRAPH-", readRanges ["F900-FA6D FA70-FAD9 2F800-2FA1D"]),
  ("KHITAN SMALL SCRIPT CHARACTER-", readRanges ["18B00-18CD5"]),
  ("NUSHU CHARACTER-", readRanges ["1B170-1B2FB"])]

/-- The code points of unified ideographs. -/
def ideographRanges : List (Nat × Nat) := readRanges [
  "3400-4DBF 4E00-9FFF 20000-2A6DF 2A700-2B738 2B740-2B81D 2B820-2CEA1 2CEB0-2EBE0 30000-3134A"]

/-- Whether a character is an upper-case hexadecimal digit. -/
def isHexDigit (c : Char) : Bool :=
  c.isDigit || ('A' ≤ c && c ≤ 'F')

/-- The code point of a number in a name; it is written without zeros before it. -/
def numberNamed? (ranges : List (Nat × Nat)) (ds : List Char) : Option Nat :=
  let n := readHex ds
  if ds.all isHexDigit && ds.head?.any (· != '0') && inRanges ranges n then some n else none

/-- The ideograph with the number that a name ends in, of four or five digits. -/
def ideographNamed? (ds : List Char) : Option Nat :=
  let n := readHex ds
  if (ds.length = 4 || ds.length = 5) && ds.all isHexDigit && inRanges ideographRanges n then some n
  else none

/-- What follows a beginning of a text. -/
def after? (start : String) (cs : List Char) : Option (List Char) :=
  if start.toList.isPrefixOf cs then some (cs.drop start.length) else none

/-- The code point of a character whose name ends in its number. -/
def numbered? (name : List Char) : Option Nat :=
  numberedNames.findSome? fun p => (after? p.1 name).bind (numberNamed? p.2)

/-! ## All names -/

/-- The code point of the character with a name. Case does not matter, except in the names of
syllables and of unified ideographs. -/
def codeNamed? (name : List Char) : Option Nat :=
  match after? "HANGUL SYLLABLE " name, after? "CJK UNIFIED IDEOGRAPH-" name with
  | some letters, _ => Hangul.named? letters
  | none, some digits => ideographNamed? digits
  | none, none =>
    let upper := name.map Char.toUpper
    (numbered? upper).or (listedNames.get.lookup (String.ofList upper))

/-- The character with a name. -/
def characterNamed? (name : List Char) : Option Char :=
  (codeNamed? name).map Char.ofNat

end Courier.Text
