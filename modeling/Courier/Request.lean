import Courier.Builder
import Courier.Net.Headers
import Courier.Text.Case

/-!
# Requests

A method, an address, headers and, where the method allows one, a body. What is sent in one attempt
follows from them and the entity of the body.
-/

namespace Courier

/-- The methods of requests. -/
inductive Method where
  | get | post | put | patch | delete | head | options | trace
  deriving DecidableEq, Repr

namespace Method

/-- All methods. -/
def all : List Method := [get, post, put, patch, delete, head, options, trace]

/-- The name of a method. -/
def name : Method → String
  | get => "GET"
  | post => "POST"
  | put => "PUT"
  | patch => "PATCH"
  | delete => "DELETE"
  | head => "HEAD"
  | options => "OPTIONS"
  | trace => "TRACE"

/-- Whether requests of a method may have a body. -/
def allowsBody : Method → Bool
  | post | put | patch | delete => true
  | _ => false

/-- The method of a name in capitals. -/
def ofName (name : String) : Except Failure Method :=
  match all.find? (·.name = name) with
  | some method => .ok method
  | none => .error (.unknownMethod name)

/-- The method of a name in any case. -/
def ofText (text : String) : Except Failure Method :=
  ofName (Text.upper text)

end Method

/-- A request. -/
structure Request where
  method : Method
  url : String
  headers : Net.Headers := []
  body : Option Builder

/-- What one attempt to send a request consists of. -/
structure Attempt where
  method : Method
  url : String
  headers : Net.Headers
  content : Option Entity
  /-- How long a reply is waited for, if not as long as usual. -/
  timeout : Option Float := none

namespace Request

/-- A request with nothing in its body. -/
def create (method : Method) (url : String) (charset : String := defaultCharset)
    (sniffBytes : Int := 32) : Request :=
  { method, url, body := if method.allowsBody then some { charset, sniffBytes } else none }

/-- Adds a header. One without a name or a value is refused. -/
def addHeader (r : Request) (name value : Option String) : Bool × Request :=
  match name, value with
  | some name, some value =>
    if name = "" then (false, r) else (true, { r with headers := r.headers ++ [(name, value)] })
  | _, _ => (false, r)

/-- Reports that a method of the given name came to nothing for want of a body. -/
def reportNoBody (r : Request) (operation : String) : Act Unit :=
  Machine.log .warning (operation ++ " ignored: " ++ r.method.name ++ " requests do not carry a body")

/-- Changes the body; refused if there is none. -/
def onBody (r : Request) (operation : String) (change : Builder → Act (Bool × Builder)) :
    Act (Bool × Request) := do
  match r.body with
  | none =>
    r.reportNoBody operation
    return (false, r)
  | some b =>
    let (done, b) ← change b
    return (done, { r with body := some b })

/-- Sets the text of the body, and its type if one is given. -/
def setBody (r : Request) (text type : Option String) : Act Request := do
  let (_, r) ← r.onBody "set_body_content" fun b => pure (true, b.setBody text type)
  return r

/-- Sets the charset of the body. -/
def setCharset [Platform] (r : Request) (charset : Option String) : Act (Bool × Request) :=
  r.onBody "set_charset" fun b => b.setCharset charset

/-- The same for a name in which halves of surrogate pairs may stand. -/
def setCharsetPoints [Platform] (r : Request) (charset : Option (List CodePoint)) :
    Act (Bool × Request) :=
  r.onBody "set_charset" fun b => b.setCharsetPoints charset

/-- Attaches a file to the body. -/
def addFile (r : Request) (fieldName fileName : Option String) (source : Source)
    (mimeType : Option String) : Act (Bool × Request) :=
  r.onBody "add_file" fun b => b.addFile fieldName fileName source mimeType

/-- Adds a parameter to the body. -/
def addParameter (r : Request) (name value : Option String) : Act (Bool × Request) :=
  r.onBody "add_parameter" fun b => pure (b.addParameter name value)

/-- The entity of the body. -/
def build [Platform] (r : Request) : Act (Option Entity × Request) := do
  match r.body with
  | none => return (none, r)
  | some b =>
    let (entity, b) ← b.build
    return (entity, { r with body := some b })

/-- Whether a header speaks of the entity, which says such things itself. -/
def speaksOfEntity (name : String) : Bool :=
  ["content-type", "content-length"].contains (Text.lower name)

/-- The headers that an entity brings along. -/
def entityHeaders (entity : Entity) : Net.Headers :=
  ("Content-Type", entity.contentType) ::
    (match entity.length with
      | some n => [("Content-Length", Text.signedNumeral n)]
      | none => [])

/-- What an attempt to send the request with an entity consists of. -/
def attempt (r : Request) (entity : Option Entity) : Attempt :=
  let headers :=
    match entity with
    | none => r.headers
    | some e => r.headers.filter (fun h => !speaksOfEntity h.1) ++ entityHeaders e
  { method := r.method, url := r.url, headers, content := entity }

/-- How a request is shown. -/
def shown (r : Request) : String :=
  "<HttpRequest " ++ r.method.name ++ " " ++ r.url ++ ">"

end Request

end Courier
