import Courier.Charset.Codec
import Courier.Decimal.Reading
import Courier.Text.Blank
import Courier.Text.Digit
import Courier.Text.Split

/-!
# Values of settings

A setting is given as text by an environment variable, or as a value of any kind by a caller. Each
kind of setting has one reader, which says what is wrong with a value that it refuses.
-/

namespace Courier

/-- A value given for a setting. -/
inductive SettingValue where
  | null
  | bool (b : Bool)
  | int (n : Int)
  | float (x : Float)
  | text (s : String)
  /-- A list or a table; no setting takes one. -/
  | other

/-- Why a value is refused. -/
inductive SettingFault where
  | notWhole | unreadableWhole | wholeTooLarge | fractional | notFinite
  | notNumber | unreadableNumber
  | notSwitch | unreadableSwitch
  | notText
  | notPositive | negative
  | unknownCharset (name : String)
  | nulInCharset
  deriving DecidableEq, Repr

/-- What a user is told about a refused value. -/
def SettingFault.message : SettingFault → String
  | notWhole => "Input should be a valid integer"
  | unreadableWhole => "Input should be a valid integer, unable to parse string as an integer"
  | wholeTooLarge => "Unable to parse input string as an integer, exceeded maximum size"
  | fractional => "Input should be a valid integer, got a number with a fractional part"
  | notFinite => "Input should be a finite number"
  | notNumber => "Input should be a valid number"
  | unreadableNumber => "Input should be a valid number, unable to parse string as a number"
  | notSwitch => "Input should be a valid boolean"
  | unreadableSwitch => "Input should be a valid boolean, unable to interpret input"
  | notText => "Input should be a valid string"
  | notPositive => "Input should be greater than 0"
  | negative => "Input should be greater than or equal to 0"
  | unknownCharset name => "Value error, Unknown charset: " ++ name
  | nulInCharset => "Value error, embedded null character"

namespace SettingValue

/-! ## Whole numbers -/

/-- A text without the underscores in it, if each of them stands alone and none at an end. -/
def withoutUnderscores (cs : List Char) : List Char :=
  let pieces := Text.splitOn '_' cs
  if pieces.any List.isEmpty then cs else pieces.flatten

/-- What is left of a text when the zeros at its front are taken off, where underscores may follow
the first one; one character is left at least, and one before a point. None if the text begins like
no number. A minus sign may stand behind zeros. -/
def withoutZeros : List Char → Option (List Char)
  | [] => none
  | first :: rest =>
    if first = '-' || ('1' ≤ first && first ≤ '9') then some (first :: rest)
    else if first = '0' then afterZeros first rest
    else none
where
  /-- The same behind a zero or an underscore. -/
  afterZeros (before : Char) : List Char → Option (List Char)
    | [] => some [before]
    | c :: rest =>
      if c = '0' || c = '_' then afterZeros c rest
      else if c = '-' || ('1' ≤ c && c ≤ '9') then some (c :: rest)
      else if c = '.' then some (before :: c :: rest)
      else none

/-- A text without the point and the zeros at its end, if it ends in a point and zeros. -/
def withoutPlaces (cs : List Char) : List Char :=
  let (before, rest) := cs.span (· != '.')
  let places := rest.drop 1
  if !places.isEmpty && places.all (· == '0') then before else cs

/-- How many digits the text of a whole number may have. -/
def wholeDigits : Nat := 4300

/-- A text without the minus sign at its front. -/
def withoutMinus : List Char → List Char
  | '-' :: cs => cs
  | cs => cs

/-- Reads an optional minus sign and digits without a zero before others. -/
def readWhole (cs : List Char) : Option Int :=
  let ds := withoutMinus cs
  if ds.all Char.isDigit && ds.length ≤ wholeDigits && (ds.head? != some '0' || ds.length = 1) then
    Text.readSigned Text.asciiDigit? cs
  else none

/-- Whether a text, as it stands, begins with more digits than a whole number may have. -/
def beginsTooLong (cs : List Char) : Bool :=
  let ds := withoutMinus cs
  ds.head? != some '0' && wholeDigits < (ds.takeWhile Char.isDigit).length

/-- The whole number that a text stands for: a sign and digits with white space around them. The
digits may have zeros before them, underscores among them, and a point with zeros after them. -/
def wholeOfText (s : String) : Option Int :=
  let shortened :=
    match Text.trimBy Text.isSpaceSeparator s.toList with
    | '+' :: '-' :: _ => none
    | '+' :: cs => withoutZeros cs
    | '-' :: cs => (withoutZeros cs).map ('-' :: ·)
    | cs => withoutZeros cs
  shortened.bind fun cs => readWhole (withoutUnderscores (withoutPlaces cs))

/-- The whole number that a binary number is. One of 2^63 or more in size is refused. -/
def wholeOfFloat (x : Float) : Except SettingFault Int :=
  if x.isNaN || x.isInf then .error .notFinite
  else if x.floor != x then .error .fractional
  else if x.abs ≥ 9223372036854775808.0 then .error .wholeTooLarge
  else .ok (if x < 0.0 then -Int.ofNat x.abs.toUInt64.toNat else Int.ofNat x.toUInt64.toNat)

/-- Reads a whole number. -/
def whole : SettingValue → Except SettingFault Int
  | .int n => .ok n
  | .bool b => .ok (if b then 1 else 0)
  | .float x => wholeOfFloat x
  | .text s =>
    if beginsTooLong s.toList then .error .wholeTooLarge
    else
      match wholeOfText s with
      | some n => .ok n
      | none => .error .unreadableWhole
  | .null | .other => .error .notWhole

/-- Reads a whole number above zero. -/
def positiveWhole (v : SettingValue) : Except SettingFault Nat :=
  match v.whole with
  | .error fault => .error fault
  | .ok n => if 0 < n then .ok n.toNat else .error .notPositive

/-- Reads a whole number that is not negative. -/
def naturalWhole (v : SettingValue) : Except SettingFault Nat :=
  match v.whole with
  | .error fault => .error fault
  | .ok n => if 0 ≤ n then .ok n.toNat else .error .negative

/-! ## Numbers -/

/-- The binary number nearest to a whole number; none beyond its range. -/
def numberOfWhole (n : Int) : Except SettingFault Float :=
  let x := Decimal.scaled (n < 0) n.natAbs 0
  if x.isInf then .error .notNumber else .ok x

/-- The number that a text stands for: with white space around it, or else with underscores in it. -/
def numberOfText (s : String) : Option Float :=
  match Decimal.read (Text.trimBy Text.isSpaceSeparator s.toList) with
  | some x => some x
  | none => Decimal.read (withoutUnderscores s.toList)

/-- Reads a number. -/
def number : SettingValue → Except SettingFault Float
  | .int n => numberOfWhole n
  | .bool b => .ok (if b then 1.0 else 0.0)
  | .float x => .ok x
  | .text s =>
    match numberOfText s with
    | some x => .ok x
    | none => .error .unreadableNumber
  | .null | .other => .error .notNumber

/-- Reads a number above zero. -/
def positiveNumber (v : SettingValue) : Except SettingFault Float :=
  match v.number with
  | .error fault => .error fault
  | .ok x => if 0.0 < x then .ok x else .error .notPositive

/-- Reads a number that is not negative. -/
def naturalNumber (v : SettingValue) : Except SettingFault Float :=
  match v.number with
  | .error fault => .error fault
  | .ok x => if 0.0 ≤ x then .ok x else .error .negative

/-! ## Switches and texts -/

/-- The words for an open switch, in lower case. -/
def offWords : List String := ["0", "off", "f", "false", "n", "no"]

/-- The words for a closed switch, in lower case. -/
def onWords : List String := ["1", "on", "t", "true", "y", "yes"]

/-- Zero and one as the states of a switch. A number that does not fit a machine word is not even
looked at. -/
def switchOfWhole (n : Int) : Except SettingFault Bool :=
  if n = 0 then .ok false
  else if n = 1 then .ok true
  else if n < -0x8000000000000000 || 0x8000000000000000 ≤ n then .error .notSwitch
  else .error .unreadableSwitch

/-- Reads a switch. -/
def switch : SettingValue → Except SettingFault Bool
  | .bool b => .ok b
  | .int n => switchOfWhole n
  | .float x =>
    match wholeOfFloat x with
    | .ok n => switchOfWhole n
    | .error _ => .error .notSwitch
  | .text s =>
    let word := String.ofList (s.toList.map Char.toLower)
    if offWords.contains word then .ok false
    else if onWords.contains word then .ok true
    else .error .unreadableSwitch
  | .null | .other => .error .notSwitch

/-- Reads a text. -/
def string : SettingValue → Except SettingFault String
  | .text s => .ok s
  | _ => .error .notText

/-- Reads the name of a charset. -/
def charsetName [Platform] (v : SettingValue) : Except SettingFault String :=
  match v.string with
  | .error fault => .error fault
  | .ok name =>
    match Codec.lookup name with
    | .ok _ => .ok name
    | .error .nulInName => .error .nulInCharset
    | .error _ => .error (.unknownCharset name)

end SettingValue

end Courier
