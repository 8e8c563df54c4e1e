import Courier.Entity
import Courier.Multipart.Field

/-!
# Multipart forms

A form whose parts stand between lines of a boundary. Each part has a header and a payload; a file is
read from its source while the form is sent. The header is in the charset of the form if that leaves
the marks of a header as they are, else in UTF-8.
-/

namespace Courier.Multipart

/-- What a part carries. -/
inductive Payload where
  | held (bytes : Bytes)
  | file (source : Handle)

/-- A part, its header with the boundary line before it and the empty line after it. -/
structure Part where
  header : Bytes
  payload : Payload

/-- A multipart form that is being put together. -/
structure Draft where
  charset : String
  /-- The codec of the part headers. -/
  codec : Codec
  boundary : String
  parts : List Part := []

/-- Begins a form. A boundary is drawn unless one is given. -/
def Draft.begin [Platform] (charset : String) (boundary : Option String) : Act Draft := do
  match headerCodec charset with
  | .error fault => throw (.charset fault)
  | .ok codec =>
    let boundary ←
      match boundary with
      | some b => if b = "" then Machine.drawBoundary else pure b
      | none => Machine.drawBoundary
    return { charset, codec, boundary }

namespace Draft

/-- The content type of the form. -/
def contentType (d : Draft) : String :=
  "multipart/form-data; boundary=" ++ d.boundary

/-- A boundary line and a header of the given lines. -/
def headerText (d : Draft) (lines : List String) : String :=
  "--" ++ d.boundary ++ "\r\n" ++ String.join (lines.map (· ++ "\r\n")) ++ "\r\n"

/-- A boundary line and a header of the given lines, as they are sent. -/
def header (d : Draft) (lines : List String) : Bytes :=
  (d.codec.encode? (d.headerText lines).toList).getD []

/-- The line that says what a part is. -/
def disposition (fields : List (String × String)) : String :=
  "Content-Disposition: form-data; " ++
    String.intercalate "; " (fields.map fun f => parameter f.1 f.2)

/-- Adds a part. -/
def add (d : Draft) (part : Part) : Draft :=
  { d with parts := d.parts ++ [part] }

/-- Adds a part with a header of the given lines. A codec that refuses every text writes no header
either. -/
def addPart (d : Draft) (lines : List String) (payload : Except Failure Payload) :
    Except Failure Draft :=
  if (d.codec.encode? (d.headerText lines).toList).isNone then
    .error (.charset (.refuses d.charset true d.codec.writeRefusal))
  else payload.map fun payload => d.add ⟨d.header lines, payload⟩

/-- A text as a payload; a missing one is empty. -/
def textPayload [Platform] (d : Draft) (value : Option String) : Except Failure Payload :=
  match encodeText d.charset (value.getD "") with
  | .error fault => .error (.charset fault)
  | .ok bytes => .ok (.held bytes)

/-- Adds a text. -/
def addText [Platform] (d : Draft) (name : String) (value : Option String) : Except Failure Draft :=
  d.addPart [disposition [("name", name)]] (d.textPayload value)

/-- Adds a file. -/
def addFile (d : Draft) (name fileName : String) (source : Handle) (contentType : String) :
    Except Failure Draft :=
  d.addPart
    [disposition [("name", name), ("filename", fileName)], "Content-Type: " ++ contentType]
    (.ok (.file source))

/-- The line that ends the form. -/
def closing (d : Draft) : Except Failure Bytes :=
  asciiBytes ("--" ++ d.boundary ++ "--\r\n")

/-- How many bytes a part takes up to the line break after it. -/
def partLength (part : Part) : Act Int :=
  match part.payload with
  | .held bytes => return part.header.length + bytes.length
  | .file source => do return part.header.length + (← source.length)

/-- How many bytes the parts take, each with the line break after it. -/
def partsLength : List Part → Act Int
  | [] => return 0
  | part :: rest => do
    let first ← partLength part
    let others ← partsLength rest
    return first + 2 + others

/-- How many bytes the form takes. No file is opened for it. -/
def length (d : Draft) : Act Int := do
  let parts ← partsLength d.parts
  let closing ← Act.ofExcept d.closing
  return parts + closing.length

/-- The pieces of a part. -/
def partPieces (part : Part) : List Piece :=
  .chunk part.header ::
    (match part.payload with
      | .held [] => []
      | .held bytes => [.chunk bytes]
      | .file source => [.file source]) ++
    [.chunk crlf]

/-- The pieces of the form. -/
def pieces (d : Draft) : List Piece :=
  d.parts.flatMap partPieces ++
    [match d.closing with
      | .ok bytes => .chunk bytes
      | .error failure => .fault failure]

end Draft

end Courier.Multipart
