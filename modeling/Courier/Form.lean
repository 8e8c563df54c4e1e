import Courier.Charset.Coding
import Courier.Source
import Courier.Text.Split

/-!
# URL-encoded forms

Parameters as one line of ASCII: pairs joined by ampersands, name and value joined by an equals sign,
their bytes escaped. Reading takes such a line apart again; a parameter without a value has no equals
sign, one with an empty value has.
-/

namespace Courier.Form

/-! ## Writing -/

/-- Whether a byte stands for itself: letters, digits, underscore, full stop, hyphen, tilde. -/
def isPlain (b : UInt8) : Bool :=
  (48 ≤ b && b ≤ 57) || (65 ≤ b && b ≤ 90) || (97 ≤ b && b ≤ 122) ||
    b == 95 || b == 46 || b == 45 || b == 126

/-- One byte of a text. The byte of a space is a plus sign if there is a space in the text. -/
def escapeByte (hasSpace : Bool) (b : UInt8) : Bytes :=
  if isPlain b then [b]
  else if b = 32 && hasSpace then [43]
  else percentByte b

/-- The bytes of a text, escaped. -/
def escape (hasSpace : Bool) (bytes : Bytes) : Bytes :=
  bytes.flatMap (escapeByte hasSpace)

/-- A name or a value. An empty one is empty in every charset. -/
def encodeField [Platform] (charset text : String) : Except CharsetFault Bytes :=
  if text = "" then .ok []
  else
    match encodeText charset text with
    | .error fault => .error fault
    | .ok bytes => .ok (escape (text.toList.contains ' ') bytes)

/-- A parameter. -/
def encodeParameter [Platform] (charset : String) (p : Parameter) : Except CharsetFault Bytes :=
  match encodeField charset p.name with
  | .error fault => .error fault
  | .ok name =>
    match p.value with
    | none => .ok name
    | some value =>
      match encodeField charset value with
      | .error fault => .error fault
      | .ok value => .ok (name ++ 61 :: value)

/-- The parameters of a form. -/
def encodePairs [Platform] (charset : String) : List Parameter → Except CharsetFault (List Bytes)
  | [] => .ok []
  | p :: rest =>
    match encodeParameter charset p with
    | .error fault => .error fault
    | .ok pair =>
      match encodePairs charset rest with
      | .error fault => .error fault
      | .ok pairs => .ok (pair :: pairs)

/-- A form. -/
def encode [Platform] (charset : String) (parameters : List Parameter) : Except CharsetFault Bytes :=
  (encodePairs charset parameters).map (Text.joinWith 38)

/-! ## Reading -/

/-- Undoes the escapes of a name or a value. -/
def unescape (field : Bytes) : Bytes :=
  percentDecode (field.map fun b => if b = 43 then 32 else b)

/-- A name and a value, if there is an equals sign. -/
def fieldsOf (pair : Bytes) : Bytes × Option Bytes :=
  let (name, value) := Text.cut 61 pair
  (unescape name, value.map unescape)

/-- The names and values of a form. -/
def pairsOf (body : Bytes) : List (Bytes × Option Bytes) :=
  (Text.splitOn 38 body).map fieldsOf

/-- The text of a name or value. -/
def decodeField [Platform] (charset : String) (field : Bytes) : Except DecodeFault String :=
  (decodeText charset field).map fun d => String.ofList d.characters

/-- The parameters of a form. -/
def decode [Platform] (charset : String) (body : Bytes) : Except DecodeFault (List Parameter) :=
  (pairsOf body).mapM fun (name, value) => do
    let name ← decodeField charset name
    match value with
    | none => return ⟨name, none⟩
    | some value => return ⟨name, some (← decodeField charset value)⟩

end Courier.Form
