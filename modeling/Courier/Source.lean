import Courier.Machine
import Courier.Source.Stream

/-!
# Sources of files

What a caller attaches to a request: a file on the disk, bytes in memory, or a source of the caller's
own, which answers as it likes each time it is asked.
-/

namespace Courier

/-- The sorts of sources. -/
inductive SourceKind where
  | path | memory
  /-- A sort that cannot be attached. -/
  | foreign (name : String)
  deriving DecidableEq, Repr

/-- Whether sources of a sort can be attached. -/
def SourceKind.isSupported : SourceKind → Bool
  | foreign _ => false
  | _ => true

/-- The name of a sort. -/
def SourceKind.name : SourceKind → String
  | path => "path"
  | memory => "memory"
  | foreign name => name

/-- How a source of the caller's own answers. What it says of itself may depend on how it was used so
far; the other functions take the number of the question of their kind, counted from one. -/
structure Conduct where
  /-- The name of the sort of source, as the journal shows it. -/
  label : String
  kind : Usage → Except Failure SourceKind := fun _ => .ok .memory
  name : Usage → Except Failure String
  mimeType : Usage → Except Failure (Option String) := fun _ => .ok none
  present : Nat → Except Failure Bool := fun _ => .ok true
  size : Nat → Except Failure Int
  opening : Nat → Except Failure Delivery

/-- Something that can be attached and read. -/
inductive Handle where
  | onDisk (path : FilePath)
  | inMemory (data : Bytes) (name : String) (mimeType : Option String)
  /-- A source of the caller's own; its number tells it from all others. -/
  | custom (id : Nat) (conduct : Conduct)

/-- The size that a directory has on the disk. -/
def directorySize : Int := 4096

namespace Handle

/-- The sort of a source, after the given uses. -/
def kind (h : Handle) (usage : Nat → Usage) : Except Failure SourceKind :=
  match h with
  | onDisk _ => .ok .path
  | inMemory .. => .ok .memory
  | custom id conduct => conduct.kind (usage id)

/-- The name that a source has of itself. -/
def defaultName (h : Handle) (usage : Nat → Usage) : Except Failure String :=
  match h with
  | onDisk path => .ok path.name
  | inMemory _ name _ => .ok name
  | custom id conduct => conduct.name (usage id)

/-- The mime type that a source reports, if it knows one. -/
def mimeType (h : Handle) (usage : Nat → Usage) : Except Failure (Option String) :=
  match h with
  | onDisk _ => .ok none
  | inMemory _ _ mimeType => .ok mimeType
  | custom id conduct => conduct.mimeType (usage id)

/-- How a source is shown in the journal. -/
def shown : Handle → String
  | onDisk path => "LocalFile(" ++ Text.quoted path.text ++ ")"
  | inMemory data name _ =>
    "MemoryFile(name=" ++ Text.quoted name ++ ", length=" ++ Text.numeral data.length ++ ")"
  | custom _ conduct => "<" ++ conduct.label ++ ">"

/-- Asks a source whether it is there. -/
def exists? : Handle → Act Bool
  | onDisk path => do Act.ofExcept ((← get).files.isFile path)
  | inMemory .. => return true
  | custom id conduct => do
    let usage ← Machine.countUse id fun u => { u with asked := u.asked + 1 }
    Act.ofExcept (conduct.present usage.asked)

/-- How many bytes a source has. -/
def length : Handle → Act Int
  | onDisk path => do
    match ← Act.ofExcept ((← get).files.find path) with
    | .file content => return content.length
    | .directory => return directorySize
  | inMemory data _ _ => return data.length
  | custom id conduct => do
    let usage ← Machine.countUse id fun u => { u with measured := u.measured + 1 }
    Act.ofExcept (conduct.size usage.measured)

/-- Opens a source. -/
def openRead : Handle → Act Stream
  | onDisk path => do
    let content ← Act.ofExcept ((← get).files.content path)
    return ⟨.disk, content, 0⟩
  | inMemory data _ _ => return ⟨.memory, data, 0⟩
  | custom id conduct => do
    let usage ← Machine.countUse id fun u => { u with opened := u.opened + 1 }
    let delivery ← Act.ofExcept (conduct.opening usage.opened)
    return ⟨.custom delivery, delivery.content, 0⟩

/-- One reading of a source that is opened for it. -/
def readOnce [Platform] (h : Handle) (size : Int) : Act Bytes := do
  let stream ← h.openRead
  let (bytes, _) ← Act.ofExcept (stream.read size)
  return bytes

end Handle

/-- The name of a file in memory that was given none. -/
def uploadName : String := "upload"

/-- What a caller gives for a file. -/
inductive Source where
  | path (path : String)
  /-- Something that gives a path when it is asked for one. -/
  | pathLike (label : String) (answer : Except Failure String)
  | bytes (data : Bytes)
  | handle (handle : Handle)
  /-- Anything else; only the name of its sort is known. -/
  | unsupported (label : String)

namespace Source

/-- The source of a file, if what is given is one that can be attached. -/
def resolve? : Source → Act (Option Handle)
  | path p => return some (.onDisk (.ofText p))
  | pathLike _ answer => do
    let p ← Act.ofExcept answer
    return some (.onDisk (.ofText p))
  | bytes data => return some (.inMemory data uploadName none)
  | handle h => do
    let kind ← Act.ofExcept (h.kind (← get).usage)
    return if kind.isSupported then some h else none
  | unsupported _ => return none

/-- The name of the sort of what is given, as the journal shows it. -/
def label : Source → String
  | path _ => "str"
  | pathLike label _ => label
  | bytes _ => "bytes"
  | handle (.onDisk _) => "LocalFile"
  | handle (.inMemory ..) => "MemoryFile"
  | handle (.custom _ conduct) => conduct.label
  | unsupported label => label

end Source

/-- A file that was recorded on a request, and how it is to be sent. -/
structure Attachment where
  fieldName : Option String
  fileName : String
  source : Handle
  mimeType : Option String := none

/-- The name of the part in which a file is sent. -/
def Attachment.partName (a : Attachment) : String :=
  match a.fieldName with
  | some field => if field = "" then a.fileName else field
  | none => a.fileName

/-- A parameter of a form. A missing value is not an empty one. -/
structure Parameter where
  name : String
  value : Option String
  deriving DecidableEq, Repr

end Courier
