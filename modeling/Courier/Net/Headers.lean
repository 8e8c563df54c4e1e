import Courier.Charset.Coding
import Courier.Failure

/-!
# Headers

A message has a list of headers. Case does not matter in their names, and a name may stand more than
once.
-/

namespace Courier.Net

/-- The headers of a request, in order. -/
abbrev Headers := List (String × String)

/-- A name in lower case. -/
def lowerName (name : String) : String :=
  String.ofList (name.toList.map Char.toLower)

/-- Whether two names are the same but for case. -/
def sameName (a b : String) : Bool :=
  lowerName a == lowerName b

namespace Headers

/-- Whether a header of a name is there. -/
def has (headers : Headers) (name : String) : Bool :=
  headers.any fun h => sameName h.1 name

/-- The headers of other names. -/
def without (headers : Headers) (name : String) : Headers :=
  headers.filter fun h => !sameName h.1 name

/-- The headers with others added, which replace those of the same name. -/
def update (headers added : Headers) : Headers :=
  headers.filter (fun h => !has added h.1) ++ added

/-- The headers with one of the given name and value: in the place of the first of that name, the
others gone, or else at the end. -/
def set (headers : Headers) (name value : String) : Headers :=
  match headers with
  | [] => [(name, value)]
  | h :: rest =>
    if sameName h.1 name then (name, value) :: without rest name else h :: set rest name value

/-- Refuses headers beyond ASCII, name before value, header by header. -/
def check : Headers → Except Failure Unit
  | [] => .ok ()
  | (name, value) :: rest =>
    match asciiBytes name with
    | .error failure => .error failure
    | .ok _ =>
      match asciiBytes value with
      | .error failure => .error failure
      | .ok _ => check rest

end Headers

/-! ## Headers of replies -/

/-- Headers as they are sent. -/
abbrev RawHeaders := List (Bytes × Bytes)

/-- How the bytes of headers are read: as ASCII if all of them are, else as UTF-8 if all of them are,
else one character per byte. -/
def headerCodecOf (headers : RawHeaders) : Codec :=
  let all (p : Bytes → Bool) : Bool := headers.all fun h => p h.1 && p h.2
  if all fun b => b.all (· < 0x80) then .usAscii
  else if all fun b => (Charset.readUtf8 b).all Option.isSome then .utf8
  else .latin1

/-- The text of a header. -/
def headerText (codec : Codec) (bytes : Bytes) : String :=
  match codec.decodeStream bytes with
  | .ok decoded => String.ofList decoded.characters
  | .error _ => ""

/-- The headers of a reply as text, their names in lower case. -/
def decodeHeaders (headers : RawHeaders) : Headers :=
  let codec := headerCodecOf headers
  headers.map fun h => (headerText codec (h.1.map lowerByte), headerText codec h.2)

end Courier.Net
