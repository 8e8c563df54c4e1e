import Courier.Form
import Courier.Mime.Sniff
import Courier.Multipart.Draft

/-!
# Building bodies

What was put into the body of one request, and the entity that it makes: a form of parameters, a text,
one file, or a multipart form. Parameters and files make an entity each time; a text makes one once.
-/

namespace Courier

/-- The charset that is used unless another is set. -/
def defaultCharset : String := "UTF-8"

/-- The type of a text of which no type is known. -/
def defaultTextType : String := "text/plain"

/-- The type of a file of which no type is known. -/
def defaultFileType : String := "application/octet-stream"

/-- What was put into a body. -/
structure Builder where
  charset : String := defaultCharset
  /-- How many bytes of a file are looked at to tell its type; a negative number means all. -/
  sniffBytes : Int := 32
  text : Option String := none
  textType : String := defaultTextType
  parameters : List Parameter := []
  files : List Attachment := []

namespace Builder

/-! ## Putting things in -/

/-- A text that is given and not empty. -/
def given? (text : Option String) : Option String :=
  text.filter (· ≠ "")

/-- Sets the text, and its type if one is given. -/
def setBody (b : Builder) (text : Option String) (type : Option String) : Builder :=
  { b with
    text
    textType := match type with
      | some t => if t = "" then b.textType else t
      | none => b.textType }

/-- Adds a parameter. Without a name the value becomes the text; without both nothing happens. -/
def addParameter (b : Builder) (name value : Option String) : Bool × Builder :=
  match name, value with
  | some name, value => (true, { b with parameters := b.parameters ++ [⟨name, value⟩] })
  | none, some value => (true, b.setBody (some value) none)
  | none, none => (false, b)

/-- Sets the charset, or the usual one if none is given. One that is not known is refused. -/
def setCharset [Platform] (b : Builder) (charset : Option String) : Act (Bool × Builder) := do
  match charset with
  | none => return (true, { b with charset := defaultCharset })
  | some name =>
    match Codec.lookup name with
    | .ok _ => return (true, { b with charset := name })
    | .error (.unknown _) =>
      Machine.log .warning ("Ignoring unknown charset: " ++ name)
      return (false, b)
    | .error fault => throw (.charset fault)

/-- The same for a name in which halves of surrogate pairs may stand. Such a name cannot even be looked
up. -/
def setCharsetPoints [Platform] (b : Builder) (charset : Option (List CodePoint)) :
    Act (Bool × Builder) := do
  let name ← Act.ofExcept (charset.mapM asString)
  b.setCharset name

/-- Attaches a file. One that is not there, or that is nothing to attach, is refused. -/
def addFile (b : Builder) (fieldName fileName : Option String) (source : Source)
    (mimeType : Option String) : Act (Bool × Builder) := do
  match ← source.resolve? with
  | none =>
    Machine.log .debug ("Unsupported file source: " ++ source.label)
    return (false, b)
  | some handle =>
    if ← handle.exists? then
      let fileName ←
        match given? fileName with
        | some name => pure name
        | none => Act.ofExcept (handle.defaultName (← get).usage)
      return (true, { b with files := b.files ++ [⟨fieldName, fileName, handle, mimeType⟩] })
    else return (false, b)

/-! ## The entity -/

/-- Whether a file is still there; one that is not is reported. -/
def isAvailable (a : Attachment) : Act Bool := do
  if ← a.source.exists? then return true
  else
    Machine.log .error
      ("Could not add file to request, it is no longer available: " ++ a.source.shown)
    return false

/-- The type of a file: the one it was attached with, else the one it reports, else the one that its
name and first bytes tell. -/
def resolveType [Platform] (b : Builder) (a : Attachment) : Act String := do
  match given? a.mimeType with
  | some type => return type
  | none =>
    match given? (← Act.ofExcept (a.source.mimeType (← get).usage)) with
    | some type => return type
    | none =>
      let start ← a.source.readOnce b.sniffBytes
      return (Mime.sniff start (some a.fileName)).getD defaultFileType

/-- The form of the parameters. -/
def formEntity [Platform] (b : Builder) : Except Failure Entity :=
  match Form.encode b.charset b.parameters with
  | .error fault => .error (.charset fault)
  | .ok bytes =>
    .ok (.ofBytes .form ("application/x-www-form-urlencoded; charset=" ++ b.charset)
      (some b.charset) bytes)

/-- The text. -/
def textEntity [Platform] (b : Builder) (text : String) : Except Failure Entity :=
  match encodeText b.charset text with
  | .error fault => .error (.charset fault)
  | .ok bytes =>
    .ok (.ofBytes .text (b.textType ++ "; charset=" ++ b.charset) (some b.charset) bytes)

/-- The one file; none if it is no longer there. -/
def fileEntity [Platform] (b : Builder) (a : Attachment) : Act (Option Entity) := do
  if ← isAvailable a then
    let type ← b.resolveType a
    let length ← a.source.length
    return some (.ofPieces .file type none (some length) [.file a.source])
  else return none

/-- Adds the files that are still there to a multipart form. -/
def addFiles [Platform] (b : Builder) (d : Multipart.Draft) : List Attachment → Act Multipart.Draft
  | [] => return d
  | a :: rest => do
    if ← isAvailable a then
      let type ← b.resolveType a
      let d ← Act.ofExcept (d.addFile a.partName a.fileName a.source type)
      addFiles b d rest
    else addFiles b d rest

/-- Adds parameters to a multipart form. -/
def addTexts [Platform] (d : Multipart.Draft) : List Parameter → Except Failure Multipart.Draft
  | [] => .ok d
  | p :: rest =>
    match d.addText p.name p.value with
    | .error failure => .error failure
    | .ok d => addTexts d rest

/-- The multipart form of all files and parameters. -/
def multipartEntity [Platform] (b : Builder) : Act Entity := do
  let d ← Multipart.Draft.begin b.charset none
  let d ← b.addFiles d b.files
  let d ← Act.ofExcept (addTexts d b.parameters)
  let length ← d.length
  return .ofPieces .multipart d.contentType (some b.charset) (some length) d.pieces

/-- The entity of what was put in, if there is anything. A text is gone after it made one. -/
def build [Platform] (b : Builder) : Act (Option Entity × Builder) := do
  match b.files, b.parameters with
  | [], [] =>
    match b.text with
    | none | some "" => return (none, b)
    | some text =>
      let entity ← Act.ofExcept (b.textEntity text)
      return (some entity, { b with text := none })
  | [], _ =>
    let entity ← Act.ofExcept b.formEntity
    return (some entity, b)
  | [a], [] => return (← b.fileEntity a, b)
  | _, _ => return (some (← b.multipartEntity), b)

end Builder

end Courier
