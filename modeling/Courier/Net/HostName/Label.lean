import Courier.Charset.Punycode
import Courier.Net.HostName.Characters
import Courier.Text.Composition
import Courier.Text.Digit
import Courier.Text.Quoted

/-!
# Labels of host names

A label is the part of a host name between two dots. It has a form in which every script may stand,
and a form in ASCII: `xn--` and Punycode. Which labels are good is said of the first form, in terms of
code points.
-/

namespace Courier.Net

/-! ## What can be wrong -/

/-- What is wrong with the directions of a label. -/
inductive DirectionFault where
  | unknown (position : Nat)
  | first
  | inRightToLeft (position : Nat)
  | inLeftToRight (position : Nat)
  | mixedNumbers
  | last
  deriving DecidableEq, Repr

/-- What is wrong with a name or a label. Positions count from one. -/
inductive NameFault where
  | nameTooLong
  | emptyLabel
  | labelTooLong
  | notComposed
  | innerHyphens
  | outerHyphen
  | leadingMark
  | noContent
  | lastHyphen
  | notPunycode
  /-- Content that is not how Punycode writes what it stands for. -/
  | notCanonical
  /-- A joiner that joins nothing. -/
  | joiner (code position : Nat) (label : List Nat)
  /-- A joiner after a character that has no name. -/
  | joinerAfterNameless (code position : Nat) (label : List Nat)
  /-- A character that may stand nowhere. -/
  | code (code position : Nat) (label : List Nat)
  /-- A character that needs others beside it. -/
  | context (code position : Nat) (label : List Nat)
  | direction (fault : DirectionFault) (label : List Nat)
  deriving DecidableEq, Repr

/-- A code point as it is named in messages. -/
def codeName (n : Nat) : String :=
  "U+" ++ String.ofList ((Text.hexNumeral 4 n).toList.map Char.toUpper)

/-- What a user is told about directions. -/
def DirectionFault.message (label : List Nat) : DirectionFault → String
  | unknown position =>
    "Unknown directionality in label " ++ Text.quotedCodes label ++ " at position " ++
      Text.numeral position
  | first =>
    "First codepoint in label " ++ Text.quotedCodes label ++ " must be directionality L, R or AL"
  | inRightToLeft position =>
    "Invalid direction for codepoint at position " ++ Text.numeral position ++
      " in a right-to-left label"
  | inLeftToRight position =>
    "Invalid direction for codepoint at position " ++ Text.numeral position ++
      " in a left-to-right label"
  | mixedNumbers => "Can not mix numeral types in a right-to-left label"
  | last => "Label ends with illegal codepoint directionality"

/-- What a user is told about a name. -/
def NameFault.message : NameFault → String
  | nameTooLong => "Domain too long"
  | emptyLabel => "Empty Label"
  | labelTooLong => "Label too long"
  | notComposed => "Label must be in Normalization Form C"
  | innerHyphens => "Label has disallowed hyphens in 3rd and 4th position"
  | outerHyphen => "Label must not start or end with a hyphen"
  | leadingMark => "Label begins with an illegal combining character"
  | noContent => "Malformed A-label, no Punycode eligible content found"
  | lastHyphen => "A-label must not end with a hyphen"
  | notPunycode => "Invalid A-label"
  | notCanonical => "A-label is not the canonical Punycode encoding of its U-label"
  | joiner n position label =>
    "Joiner " ++ codeName n ++ " not allowed at position " ++ Text.numeral position ++ " in " ++
      Text.quotedCodes label
  | joinerAfterNameless n position label =>
    "Unknown codepoint adjacent to joiner " ++ codeName n ++ " at position " ++
      Text.numeral position ++ " in " ++ Text.quotedCodes label
  | code n position label =>
    "Codepoint " ++ codeName n ++ " at position " ++ Text.numeral position ++ " of " ++
      Text.quotedCodes label ++ " not allowed"
  | context n position label =>
    "Codepoint " ++ codeName n ++ " not allowed at position " ++ Text.numeral position ++ " in " ++
      Text.quotedCodes label
  | direction fault label => fault.message label

/-! ## Characters beside others -/

/-- A character among others: those before it, the nearest first, and those after it. -/
structure Neighbours where
  before : List Nat
  after : List Nat

/-- Whether the letters on both sides of a character are joined, other characters passed over. -/
def Neighbours.areJoined (s : Neighbours) : Bool :=
  let nearest (cs : List Nat) : Joining :=
    ((cs.map joiningOf).find? (· != .transparent)).getD .none
  let left := nearest s.before
  let right := nearest s.after
  (left = .after || left = .both) && (right = .before || right = .both)

/-- Whether the character before a joiner, if there is one, has a name. -/
def Neighbours.followNamed (s : Neighbours) : Bool :=
  s.before.head?.all hasName

/-- Whether a joiner stands after a sign that takes a vowel away. -/
def Neighbours.followVirama (s : Neighbours) : Bool :=
  match s.before with
  | [] => false
  | n :: _ => Text.combiningClass n = Text.viramaClass

/-- The joiner that keeps letters apart, and the one that brings them together. -/
def joiners : List Nat := [0x200C, 0x200D]

/-- Whether a joiner may stand where it does. -/
def Neighbours.allowJoiner (s : Neighbours) (n : Nat) : Bool :=
  s.followVirama || (n = 0x200C && s.areJoined)

/-- Whether a character that needs others beside it, or none of a kind, may stand where it does; none
for a character that may stand nowhere. -/
def Neighbours.allow? (s : Neighbours) (n : Nat) : Option Bool :=
  let whole := s.before ++ s.after
  if n = 0xB7 then some (s.before.head? = some 0x6C && s.after.head? = some 0x6C)
  else if n = 0x375 then some (s.after.head?.any (Text.inRanges greekRanges))
  else if n = 0x5F3 || n = 0x5F4 then some (s.before.head?.any (Text.inRanges hebrewRanges))
  else if n = 0x30FB then some (whole.any fun m => m != 0x30FB && Text.inRanges japaneseRanges m)
  else if 0x660 ≤ n && n ≤ 0x669 then some (!whole.any fun m => 0x6F0 ≤ m && m ≤ 0x6F9)
  else if 0x6F0 ≤ n && n ≤ 0x6F9 then some (!whole.any fun m => 0x660 ≤ m && m ≤ 0x669)
  else none

/-- Looks at one character of a label. -/
def checkCode (label : List Nat) (n position : Nat) (s : Neighbours) : Except NameFault Unit :=
  if isPermitted n then .ok ()
  else if joiners.contains n then
    if !s.followNamed then .error (.joinerAfterNameless n position label)
    else if s.allowJoiner n then .ok ()
    else .error (.joiner n position label)
  else
    match s.allow? n with
    | some true => .ok ()
    | some false => .error (.context n position label)
    | none => .error (.code n position label)

/-- Looks at the characters of a label that come after others, the nearest of those first. -/
def checkCodes (label : List Nat) (before : List Nat) : List Nat → Except NameFault Unit
  | [] => .ok ()
  | n :: after => do
    checkCode label n (before.length + 1) ⟨before, after⟩
    checkCodes label (n :: before) after

/-! ## Directions -/

/-- Whether a character of this direction makes its label one of two directions. -/
def Direction.turns (d : Direction) : Bool :=
  d = .rightToLeft || d = .arabicNumber

/-- Whether the last character of a label, marks not counted, may have a direction. -/
def endsWell (allowed : List Direction) (directions : List Direction) : Bool :=
  match directions.reverse.find? (· != .mark) with
  | some d => allowed.contains d
  | none => false

/-- Looks at the characters of a label from right to left. `number` is the kind of the numbers that
stand before. -/
def checkRightToLeft (position : Nat) (number : Option Direction) :
    List Direction → Except DirectionFault Unit
  | [] => .ok ()
  | d :: rest =>
    if d = .leftToRight then .error (.inRightToLeft position)
    else if d = .arabicNumber || d = .europeanNumber then
      if number.any (· != d) then .error .mixedNumbers
      else checkRightToLeft (position + 1) (some d) rest
    else checkRightToLeft (position + 1) number rest

/-- Looks at the directions of a label that has characters from right to left. -/
def checkBothDirections (directions : List Direction) : Except DirectionFault Unit :=
  match directions.head? with
  | some .rightToLeft => do
    checkRightToLeft 1 none directions
    if endsWell [.rightToLeft, .europeanNumber, .arabicNumber] directions then .ok ()
    else .error .last
  | some .leftToRight =>
    match directions.findIdx? Direction.turns with
    | some i => .error (.inLeftToRight (i + 1))
    | none => .error .last
  | _ => .error .first

/-- Looks at the directions of a label. -/
def checkDirections (directions : List Direction) : Except DirectionFault Unit :=
  match directions.findIdx? (· = .unknown) with
  | some i => .error (.unknown (i + 1))
  | none => if directions.any Direction.turns then checkBothDirections directions else .ok ()

/-! ## Labels -/

/-- The code point of the hyphen. -/
def hyphen : Nat := 0x2D

/-- How long a name may be that ends in a dot. A label is refused first if it is longer. -/
def nameLimit : Nat := 254

/-- Looks at a label. Of several faults that of the whole label is told first, then that of the first
bad character, then that of directions. -/
def checkLabel (label : List Nat) : Except NameFault Unit :=
  if label.isEmpty then .error .emptyLabel
  else if nameLimit < label.length then .error .labelTooLong
  else if Text.composed label != label then .error .notComposed
  else if (label.drop 2).take 2 = [hyphen, hyphen] then .error .innerHyphens
  else if label.head? = some hyphen || label.getLast? = some hyphen then .error .outerHyphen
  else if label.head?.any Text.isMark then .error .leadingMark
  else do
    checkCodes label [] label
    match checkDirections (label.map directionOf) with
    | .ok () => .ok ()
    | .error fault => .error (.direction fault label)

/-- How long a label may be in ASCII. -/
def labelLimit : Nat := 63

/-- What a label in ASCII begins with if it stands for another. -/
def asciiMark : List Char := "xn--".toList

/-- Whether a label is written in ASCII. -/
def isAscii (label : List Char) : Bool :=
  label.all (·.toNat < 0x80)

/-- The code points of the label that a label in ASCII stands for. -/
def labelOfAscii (label : List Char) : Except NameFault (List Nat) := do
  let lowered := label.map Char.toLower
  if asciiMark.isPrefixOf lowered then
    let content := lowered.drop asciiMark.length
    if content.isEmpty then throw .noContent
    if content.getLast? = some '-' then throw .lastHyphen
    let written := ascii (String.ofList content)
    let (codes, clean) := Charset.readCodes written
    if !clean then throw .notPunycode
    if Charset.writeCodes codes != written then throw .notCanonical
    checkLabel codes
    return codes
  else
    checkLabel (lowered.map Char.toNat)
    return lowered.map Char.toNat

/-- A label in ASCII; one that is in ASCII already stays as it is. -/
def asciiOfLabel (label : List Char) : Except NameFault (List Char) := do
  let written ←
    if isAscii label then do
      let _ ← labelOfAscii label
      pure label
    else do
      checkLabel (label.map Char.toNat)
      pure (asciiMark ++ (latinText (Charset.punycodeBytes label)).toList)
  if labelLimit < written.length then throw .labelTooLong
  return written

end Courier.Net
