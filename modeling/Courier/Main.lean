import Courier.Cli
import Courier.Platform.Plain

/-!
# The program

Gathers what a command needs from the system, runs it, and prints what it says. The program has no
network of its own: every attempt to connect fails.
-/

namespace Courier

/-- The settings that are in the environment. -/
def inheritedVariables : IO Variables := do
  let mut found : Variables := []
  for field in Field.all do
    match ← IO.getEnv field.environmentName with
    | some value => found := found ++ [(field.environmentName, value)]
    | none => pure ()
  return found

/-- The paths that a command line may speak of: all that follows an equals sign in its arguments. -/
def mentionedPaths (arguments : List String) : List String :=
  arguments.filterMap fun a => (Text.cut '=' a.toList).2.map String.ofList

/-- The files at the given paths, as far as they can be read. -/
def inheritedFiles (paths : List String) : IO FileSystem := do
  let mut files := FileSystem.bare
  for path in paths do
    let content ← (some <$> IO.FS.readBinFile path) <|> pure none
    match content with
    | some bytes =>
      match files.write (.ofText path) bytes.toList with
      | .ok changed => files := changed
      | .error _ => pure ()
    | none => pure ()
  return files

/-- What comes of every exchange. -/
def noNetwork : Net.Outcome :=
  .fails (.network .connectError "network is unreachable")

end Courier

/-- Runs the command that the arguments ask for. -/
def main (arguments : List String) : IO UInt32 := do
  let environment ← Courier.inheritedVariables
  let files ← Courier.inheritedFiles (Courier.mentionedPaths arguments)
  let result := Courier.Cli.run environment arguments { files, beyond := Courier.noNetwork }
  IO.print result.out
  for entry in result.machine.journal.entries do
    IO.eprintln (entry.level.name ++ " httpbody: " ++ entry.text)
  IO.eprint result.err
  match result.failure with
  | some failure => IO.eprintln failure.message
  | none => pure ()
  return result.status.toUInt32
