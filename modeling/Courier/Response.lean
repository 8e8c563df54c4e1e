import Courier.Machine
import Courier.Mime.Parameter
import Courier.Text.Blank
import Courier.Text.Case

/-!
# Responses

The reply to a request. Its body can be had as bytes or as text; the text is made once and kept.
-/

namespace Courier

/-- A reply and the address that gave it. -/
structure Response where
  status : Nat
  /-- Names in lower case. -/
  headers : Net.Headers
  data : Bytes
  url : String
  /-- The text of the body once it was read. -/
  text : Option (List CodePoint) := none

namespace Response

/-- The response of a reply. -/
def ofReply (url : String) (reply : Net.Reply) : Response :=
  { status := reply.status, headers := Net.decodeHeaders reply.headers, data := reply.body, url }

/-- The phrase of the status; empty if it has none. -/
def reason (r : Response) : String :=
  Net.reasonPhrase r.status

/-- How a response is shown. -/
def shown (r : Response) : String :=
  "<Response [" ++ Text.numeral r.status ++ " " ++ r.reason ++ "]>"

/-! ## Headers -/

/-- Puts a value at the end of those of its name; a new name comes last. -/
def insertValue (groups : List (String × List String)) (name value : String) :
    List (String × List String) :=
  match groups with
  | [] => [(name, [value])]
  | g :: rest =>
    if g.1 = name then (g.1, g.2 ++ [value]) :: rest else g :: insertValue rest name value

/-- Whether a header is wanted: all are if no name or an empty one is asked for. -/
def isWanted (wanted : Option String) (name : String) : Bool :=
  match wanted with
  | none | some "" => true
  | some w => Text.lower name = Text.lower w

/-- The headers by name, each with its values in order; of one name only if it is asked for. -/
def headerGroups (r : Response) (wanted : Option String) : List (String × List String) :=
  r.headers.foldl
    (fun groups h => if isWanted wanted h.1 then insertValue groups h.1 h.2 else groups) []

/-- The values of a header. -/
def headerValues (r : Response) (name : String) : List String :=
  (r.headers.filter (·.1 = name)).map Prod.snd

/-- The values of a header as one. -/
def header? (r : Response) (name : String) : Option String :=
  match r.headerValues name with
  | [] => none
  | values => some (String.intercalate ", " values)

/-- Adds an element of a list of methods: blank ones and those that are there already are dropped. -/
def insertMethod (methods : List String) (element : List Char) : List String :=
  let method := Text.upper (String.ofList (Text.stripChars element))
  if method = "" || methods.contains method then methods else methods ++ [method]

/-- The methods that the server allows. -/
def allowedMethods (r : Response) : List String :=
  (r.headerValues "allow").foldl
    (fun methods value => (Text.splitOn ',' value.toList).foldl insertMethod methods) []

/-! ## Text -/

/-- The charset of the content type as it was sent. -/
def charset [Platform] (r : Response) : Except Mime.CharsetParameterFault (Option String) :=
  match r.header? "content-type" with
  | none | some "" => .ok none
  | some type => Mime.charsetSent type

/-- Why the body has no text. -/
inductive TextFault where
  | parameter (fault : Mime.CharsetParameterFault)
  | body (fault : DecodeFault)
  deriving DecidableEq, Repr

/-- The charset that the body is read in: the one that the content type asks for, if there is one of
that name, else UTF-8. -/
def bodyCodec [Platform] (r : Response) : Except TextFault Codec :=
  match r.header? "content-type" with
  | none => .ok .utf8
  | some type =>
    match Mime.charsetAsked type with
    | .error fault => .error (.parameter fault)
    | .ok none | .ok (some "") => .ok .utf8
    | .ok (some name) =>
      match Codec.lookup name with
      | .ok codec => .ok codec
      | .error .nulInName => .error (.body (.charset .nulInName))
      | .error _ => .ok .utf8

/-- The body as text. -/
def decodeBody [Platform] (r : Response) : Except TextFault (List CodePoint) :=
  if r.data.isEmpty then .ok []
  else
    match r.bodyCodec with
    | .error fault => .error fault
    | .ok codec =>
      match codec.decodeStream r.data with
      | .ok decoded => .ok decoded.text
      | .error fault => .error (.body fault)

/-- Whether a body without text is taken for an empty one. -/
def TextFault.isForgiven : TextFault → Bool
  | body (.notAscii ..) => true
  | body (.charset (.unknown _)) => true
  | body (.charset (.notText _)) => true
  | parameter (.undecodable (.notAscii ..)) => true
  | parameter (.undecodable (.charset (.unknown _))) => true
  | parameter (.undecodable (.charset (.notText _))) => true
  | _ => false

/-- The failure that a fault of the text is told as. -/
def TextFault.toFailure : TextFault → Failure
  | parameter (.pieces fault) => .pieces fault
  | parameter (.undecodable fault) => .decode fault
  | body fault => .decode fault

/-- The text of the body, and the response that keeps it. Bytes that are no text in their charset are
reported and leave an empty text. -/
def readText [Platform] (r : Response) : Act (List CodePoint × Response) := do
  match r.text with
  | some text => return (text, r)
  | none =>
    match r.decodeBody with
    | .ok text => return (text, { r with text := some text })
    | .error fault =>
      if fault.isForgiven then
        Machine.log .error
          ("Error when getting response body for: " ++ r.url ++ ": " ++ fault.toFailure.message)
        return ([], { r with text := some [] })
      else throw fault.toFailure

end Response

end Courier
