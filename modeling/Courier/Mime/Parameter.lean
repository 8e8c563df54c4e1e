import Courier.Charset.Coding
import Courier.Text.Blank
import Courier.Text.Case
import Courier.Text.Split

/-!
# Content types and their parameters

A content type is a mime type with parameters after it, each behind a semicolon. A value may stand in
double quotes or angle brackets. A name that ends in an asterisk announces a value with percent
escapes that names its charset; a name with a number is one of several pieces of a value.
-/

namespace Courier.Mime

/-- The mime type of a content type, without its parameters. -/
def mimeTypeOf (contentType : String) : String :=
  String.ofList (Text.stripChars (Text.cut ';' contentType.toList).1)

/-! ## Quoted values -/

/-- Puts `by_` for each `a` that `b` follows, from left to right. -/
def replacePair (a b by_ : Char) : List Char → List Char
  | c :: d :: rest =>
    if c = a && d = b then by_ :: replacePair a b by_ rest
    else c :: replacePair a b by_ (d :: rest)
  | rest => rest

/-- Takes double quotes or angle brackets off a value that stands in them. -/
def unquoteValue (value : List Char) : List Char :=
  match value with
  | first :: second :: rest =>
    let last := (second :: rest).getLast (by simp)
    let inner := (second :: rest).dropLast
    if first = '"' && last = '"' then replacePair '\\' '"' '"' (replacePair '\\' '\\' '\\' inner)
    else if first = '<' && last = '>' then inner
    else value
  | short => short

/-- Puts a backslash before each backslash and each double quote. -/
def escapeValue (value : List Char) : List Char :=
  value.flatMap fun c => if c = '\\' || c = '"' then ['\\', c] else [c]

/-- A value in double quotes. -/
def quoteValue (value : List Char) : List Char :=
  '"' :: escapeValue value ++ ['"']

/-! ## Taking a content type apart -/

/-- The pieces between the semicolons that stand outside double quotes. `inside` tells whether an odd
number of quotes was passed, `escaped` whether a backslash came just before; such a quote does not
count. -/
def pieces (inside escaped : Bool) : List Char → List (List Char)
  | [] => [[]]
  | c :: rest =>
    if c = ';' && !inside then [] :: pieces false false rest
    else
      let inside := if c = '"' && !escaped then !inside else inside
      match pieces inside (c == '\\') rest with
      | [] => [[c]]
      | piece :: more => (c :: piece) :: more

/-- The name and the value of a piece. A name that has a value is taken in lower case. -/
def nameAndValue (piece : List Char) : List Char × List Char :=
  match Text.cut '=' piece with
  | (name, some value) =>
    ((Text.lower (String.ofList (Text.stripChars name))).toList, Text.stripChars value)
  | (name, none) => (Text.stripChars name, [])

/-- The parts of a name such as `title*1*`: the name itself and the digits of its number, none where
it has no number. None for a name that is not of this form. -/
def continuation? (name : List Char) : Option (List Char × List Char) :=
  let isWord (c : Char) : Bool := c.isAlphanum || c = '_'
  match name.span isWord with
  | ([], _) => none
  | (word, '*' :: rest) =>
    match rest.span Char.isDigit with
    | ([], []) => some (word, [])
    | ([], _) => none
    | (digits, tail) => if tail = [] || tail = ['*'] then some (word, digits) else none
  | _ => none

/-- A piece of a value that is spread over several parameters. -/
structure Continuation where
  number : Option Nat
  value : List Char
  /-- Whether the piece has percent escapes. -/
  encoded : Bool

/-- The order in which pieces are put together: by number, then by value. -/
def Continuation.before (a b : Continuation) : Bool :=
  if a.number = b.number then
    if a.value = b.value then !a.encoded || b.encoded
    else String.ofList a.value < String.ofList b.value
  else a.number.getD 0 < b.number.getD 0

/-- The value of a parameter: text as it stands, or text that names its charset and language. -/
inductive ParameterValue where
  | plain (text : List Char)
  | extended (charset : Option (List Char)) (text : List Char)
  deriving DecidableEq, Repr

/-- Why the parameters of a content type cannot be read. -/
inductive PieceFault where
  /-- A value has a piece with a number and a piece without one; `numberedFirst` tells which came
  first. -/
  | mixed (numberedFirst : Bool)
  /-- The number of a piece has more digits than are read. -/
  | longNumber (digits : Nat)
  deriving DecidableEq, Repr

/-- How many digits the number of a piece may have. -/
def numberDigits : Nat := 4300

/-- The number of a piece, if its name has one. -/
def pieceNumber (digits : List Char) : Except PieceFault (Option Nat) :=
  if digits.isEmpty then .ok none
  else if numberDigits < digits.length then .error (.longNumber digits.length)
  else .ok (some (digits.foldl (fun n d => 10 * n + (d.toNat - 48)) 0))

/-- Undoes percent escapes among characters; each gives the character of its number. -/
def unescapePercent : List Char → List Char
  | c :: h :: l :: rest =>
    let digit? (d : Char) : Option Nat :=
      if d.toNat < 0x80 then (hexValue? d.toNat.toUInt8).map UInt8.toNat else none
    match c == '%', digit? h, digit? l with
    | true, some x, some y => Char.ofNat (16 * x + y) :: unescapePercent rest
    | _, _, _ => c :: unescapePercent (h :: l :: rest)
  | rest => rest

/-- Takes charset and language off the front of an extended value, each closed by an apostrophe. -/
def splitExtended (value : List Char) : ParameterValue :=
  match Text.cut '\'' value with
  | (charset, some rest) =>
    match Text.cut '\'' rest with
    | (_, some text) => .extended (some charset) (unquoteValue ('"' :: text ++ ['"']))
    | (_, none) => .extended none (unquoteValue ('"' :: value ++ ['"']))
  | (_, none) => .extended none (unquoteValue ('"' :: value ++ ['"']))

/-- The value that pieces give together. -/
def joinPieces (parts : List Continuation) : Except PieceFault ParameterValue :=
  match parts with
  | [] => .ok (.plain [])
  | first :: _ =>
    if parts.any fun p => p.number.isSome != first.number.isSome then
      .error (.mixed first.number.isSome)
    else
      let sorted := parts.mergeSort Continuation.before
      let text := sorted.flatMap fun p => if p.encoded then unescapePercent p.value else p.value
      if parts.any (·.encoded) then .ok (splitExtended (escapeValue text))
      else .ok (.plain (unquoteValue (quoteValue text)))

/-- Adds a piece to the ones of its name. -/
def addPiece (groups : List (List Char × List Continuation)) (word : List Char)
    (part : Continuation) : List (List Char × List Continuation) :=
  if groups.any fun g => g.1 = word then
    groups.map fun g => if g.1 = word then (g.1, g.2 ++ [part]) else g
  else groups ++ [(word, [part])]

/-- Groups the pieces of spread values under their names, each name where it first stands. -/
def groupPieces (params : List (List Char × List Char)) :
    Except PieceFault (List (List Char × List Continuation)) :=
  params.foldlM
    (fun groups (name, value) => do
      match continuation? name with
      | none => return groups
      | some (word, digits) =>
        let number ← pieceNumber digits
        return addPiece groups word ⟨number, unquoteValue value, name.getLast? == some '*'⟩)
    []

/-- All parameters of a content type. What stands before the first semicolon is taken for one too.
Values that are spread over several parameters come last. -/
def parameters (contentType : String) :
    Except PieceFault (List (List Char × ParameterValue)) :=
  match (pieces false false contentType.toList).map nameAndValue with
  | [] => .ok []
  | (name, value) :: rest => do
    let whole := (rest.filter fun p => (continuation? p.1).isNone).map fun p =>
      (p.1, ParameterValue.plain (unquoteValue (quoteValue (unquoteValue p.2))))
    let spread ← (← groupPieces rest).mapM fun g => do return (g.1, ← joinPieces g.2)
    return (name, .plain (unquoteValue value)) :: whole ++ spread

/-- The value of the first parameter with a name, whatever its case. -/
def parameter? (contentType name : String) : Except PieceFault (Option ParameterValue) := do
  let params ← parameters contentType
  return (params.find? fun p => Text.lower (String.ofList p.1) = name).map Prod.snd

/-! ## The charset parameter -/

/-- A text as bytes: one byte per character below 256, an escape for every other one. -/
def rawBytes (text : List Char) : Bytes :=
  text.flatMap fun c =>
    if c.toNat < 0x100 then [c.toNat.toUInt8]
    else if c.toNat < 0x10000 then 92 :: 117 :: ascii (Text.hexNumeral 4 c.toNat)
    else 92 :: 85 :: ascii (Text.hexNumeral 8 c.toNat)

/-- Why the charset parameter cannot be told. -/
inductive CharsetParameterFault where
  | pieces (fault : PieceFault)
  | undecodable (fault : DecodeFault)
  deriving DecidableEq, Repr

/-- Whether a fault means that the charset cannot be found, not that it failed on the bytes. -/
def DecodeFault.isLookup : DecodeFault → Bool
  | .charset (.unknown _) => true
  | .charset (.notText _) => true
  | _ => false

/-- The text of a value, one that names its charset decoded in it. If there is no such charset the text
is taken as it stands. -/
def ParameterValue.decode [Platform] : ParameterValue → Except DecodeFault (List Char)
  | .plain text => .ok (unquoteValue text)
  | .extended charset text =>
    match decodeText (String.ofList (charset.getD "us-ascii".toList)) (rawBytes text) with
    | .ok decoded => .ok decoded.characters
    | .error fault =>
      if DecodeFault.isLookup fault then .ok (unquoteValue text) else .error fault

/-- The charset parameter as it was sent; none if it is missing or blank. -/
def charsetSent [Platform] (contentType : String) : Except CharsetParameterFault (Option String) :=
  match parameter? contentType "charset" with
  | .error fault => .error (.pieces fault)
  | .ok none => .ok none
  | .ok (some value) =>
    match value.decode with
    | .error fault => .error (.undecodable fault)
    | .ok text =>
      let text := Text.stripChars text
      .ok (if text.isEmpty then none else some (String.ofList text))

/-- The charset that a content type asks to be read in: the parameter in lower case, if it is ASCII.
A value that cannot be decoded in the charset it names is taken as it stands. -/
def charsetAsked [Platform] (contentType : String) : Except CharsetParameterFault (Option String) :=
  let lowered (text : List Char) : Option String :=
    if text.all (·.toNat < 0x80) then some (String.ofList (text.map Char.toLower)) else none
  -- half of a surrogate pair is not ASCII, and neither is what stands for it among characters
  match parameter? contentType "charset" with
  | .error fault => .error (.pieces fault)
  | .ok none => .ok none
  | .ok (some (.plain text)) => .ok (lowered text)
  | .ok (some (.extended charset text)) =>
    let name :=
      match charset with
      | some (c :: cs) => String.ofList (c :: cs)
      | _ => "us-ascii"
    match decodeTextStrict name (rawBytes text) with
    | .error fault => .error (.undecodable (.charset fault))
    | .ok (some decoded) => .ok (lowered (decoded.map CodePoint.toChar))
    | .ok none => .ok (lowered text)

end Courier.Mime
