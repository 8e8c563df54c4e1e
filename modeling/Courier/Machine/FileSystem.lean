import Courier.Failure
import Courier.Machine.Path

/-!
# Files

What lies at which place. The place of a file is the list of names on the way from the root. A path
is followed name by name, so that every directory on the way has to be there.
-/

namespace Courier

/-- What lies at a place. -/
inductive FileNode where
  | file (content : Bytes)
  | directory
  deriving DecidableEq, Repr

/-- The names on the way from the root. -/
abbrev Place := List String

/-- All files and directories. The root is always there. -/
structure FileSystem where
  /-- Where relative paths start. -/
  home : Place
  nodes : List (Place × FileNode)
  /-- The files that may not be opened, and the directories that may not be entered. -/
  barred : List Place := []

namespace FileSystem

/-- No files; only the directory in which the program runs. -/
def bare : FileSystem := { home := ["work"], nodes := [(["work"], .directory)] }

/-- What lies at a place. -/
def node? (fs : FileSystem) (place : Place) : Option FileNode :=
  if place = [] then some .directory else fs.nodes.lookup place

/-- How many bytes a name may have. -/
def nameLimit : Nat := 255

/-- How many bytes a whole path may have. -/
def pathLimit : Nat := 4095

/-- Goes on from a place by the given names. -/
def walk (fs : FileSystem) (shown : String) (place : Place) :
    List String → Except SystemFault (Place × FileNode)
  | [] =>
    match fs.node? place with
    | some node => .ok (place, node)
    | none => .error (.missing shown)
  | name :: rest =>
    match fs.node? place with
    | none => .error (.missing shown)
    | some (.file _) => .error (.belowFile shown)
    | some .directory =>
      if fs.barred.contains place then .error (.denied shown)
      else if name = ".." then walk fs shown place.dropLast rest
      else if nameLimit < name.utf8ByteSize then .error (.nameTooLong shown)
      else walk fs shown (place ++ [name]) rest

/-- Where the following of a path starts. -/
def start (fs : FileSystem) (p : FilePath) : Place :=
  if p.root = "" then fs.home else []

/-- What a path leads to, and its place. -/
def locate (fs : FileSystem) (p : FilePath) : Except Failure (Place × FileNode) :=
  if p.text.toList.contains (Char.ofNat 0) then .error .nulInPath
  else if pathLimit < p.text.utf8ByteSize then .error (.system (.nameTooLong p.text))
  else
    match fs.walk p.text (fs.start p) p.names with
    | .ok found => .ok found
    | .error fault => .error (.system fault)

/-- What a path leads to. -/
def find (fs : FileSystem) (p : FilePath) : Except Failure FileNode :=
  (fs.locate p).map Prod.snd

/-- The content of a file that may be opened. -/
def content (fs : FileSystem) (p : FilePath) : Except Failure Bytes :=
  match fs.locate p with
  | .error failure => .error failure
  | .ok (place, node) =>
    if fs.barred.contains place then .error (.system (.denied p.text))
    else
      match node with
      | .file content => .ok content
      | .directory => .error (.system (.directory p.text))

/-- Whether a failure to find something only means that it is not there. -/
def isAbsence : Failure → Bool
  | .nulInPath => true
  | .system fault => fault.kind = .fileMissing || fault.kind = .notDirectory
  | _ => false

/-- Whether a path leads to a file. A path that could lead to none at all is an error. -/
def isFile (fs : FileSystem) (p : FilePath) : Except Failure Bool :=
  match fs.find p with
  | .ok (.file _) => .ok true
  | .ok .directory => .ok false
  | .error failure => if isAbsence failure then .ok false else .error failure

/-! ## Changes -/

/-- Puts something at a place. -/
def put (fs : FileSystem) (place : Place) (node : FileNode) : FileSystem :=
  { fs with nodes := (place, node) :: fs.nodes.filter (·.1 ≠ place) }

/-- Makes the directories that are not yet there on the way from a place. -/
def makeDirectories (fs : FileSystem) (place : Place) : List String → FileSystem
  | [] => fs
  | name :: rest =>
    let next := if name = ".." then place.dropLast else place ++ [name]
    let made := if (fs.node? next).isNone then fs.put next .directory else fs
    makeDirectories made next rest

/-- Makes a directory and all directories on the way to it. -/
def makeDirectory (fs : FileSystem) (p : FilePath) : Except Failure FileSystem :=
  let made := fs.makeDirectories (fs.start p) p.names
  match made.find p with
  | .ok .directory => .ok made
  | .ok (.file _) => .error (.system (.occupied p.text))
  | .error failure => .error failure

/-- Writes a file, making the directories on the way to it. -/
def write (fs : FileSystem) (p : FilePath) (content : Bytes) : Except Failure FileSystem := do
  let made ← fs.makeDirectory p.parent
  match made.locate p with
  | .ok (_, .directory) => .error (.system (.directory p.text))
  | .ok (place, .file _) => .ok (made.put place (.file content))
  | .error _ =>
    match made.locate p.parent with
    | .ok (place, _) => .ok (made.put (place ++ [p.name]) (.file content))
    | .error failure => .error failure

/-- Removes a file. -/
def remove (fs : FileSystem) (p : FilePath) : Except Failure FileSystem :=
  match fs.locate p with
  | .ok (place, .file _) => .ok { fs with nodes := fs.nodes.filter (·.1 ≠ place) }
  | .ok (_, .directory) => .error (.system (.directory p.text))
  | .error failure => .error failure

end FileSystem

end Courier
