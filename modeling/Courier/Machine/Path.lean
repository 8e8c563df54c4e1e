import Courier.Text.Split

/-!
# Paths

The path of a file: a root and the names on the way. Repeated slashes, a slash at the end and names of
one dot say nothing and are dropped; two dots stay.
-/

namespace Courier

/-- The path of a file. -/
structure FilePath where
  /-- Empty for a path that starts where the program runs; else one slash or two. -/
  root : String
  names : List String
  deriving DecidableEq, Repr

namespace FilePath

/-- The root that a text begins with: exactly two slashes are kept apart from one. -/
def rootOf : List Char → String
  | '/' :: '/' :: '/' :: _ => "/"
  | '/' :: '/' :: _ => "//"
  | '/' :: _ => "/"
  | _ => ""

/-- Reads a path. -/
def ofText (s : String) : FilePath :=
  let cs := s.toList
  let names := (Text.splitOn '/' cs).filter fun n => n ≠ [] ∧ n ≠ ['.']
  ⟨rootOf cs, names.map String.ofList⟩

/-- The text of a path. -/
def text (p : FilePath) : String :=
  if p.root = "" && p.names.isEmpty then "." else p.root ++ String.intercalate "/" p.names

/-- The last name of a path; empty if there is none. -/
def name (p : FilePath) : String :=
  p.names.getLast?.getD ""

/-- The way to the directory that a path is in. -/
def parent (p : FilePath) : FilePath :=
  { p with names := p.names.dropLast }

end FilePath

end Courier
