import Courier.Platform
import Courier.Text.Case
import Courier.Text.Split

/-!
# Mime types of file names

The mime type that the extension of a file name suggests. The registered types are those of the
platform. Some extensions stand for two, such as `.tgz` for `.tar.gz`, and an extension that only tells a
compression is looked through.
-/

namespace Courier.Mime

/-- Extensions that stand for two. -/
def doubleExtensions : List (String × String) := [
  (".svgz", ".svg.gz"), (".taz", ".tar.gz"), (".tbz2", ".tar.bz2"), (".tgz", ".tar.gz"),
  (".txz", ".tar.xz"), (".tz", ".tar.gz")]

/-- Extensions that tell how a file is compressed. Their case counts. -/
def compressions : List String := [".Z", ".br", ".bz2", ".gz", ".xz"]

/-- Types in common use that are not registered. -/
def commonTypes : List (String × String) := [
  (".jpg", "image/jpg"), (".mid", "audio/midi"), (".midi", "audio/midi"), (".pct", "image/pict"),
  (".pic", "image/pict"), (".pict", "image/pict"), (".rtf", "application/rtf"),
  (".webp", "image/webp"), (".xul", "text/xul")]

/-- Takes a name apart before its extension, which starts at the last full stop of the last component.
Full stops at the start of the component do not count. -/
def splitExtension (name : List Char) : List Char × List Char :=
  match name.reverse.span fun c => c ≠ '.' && c ≠ '/' with
  | (after, '.' :: before) =>
    if (before.takeWhile (· ≠ '/')).all (· = '.') then (name, [])
    else (before.reverse, '.' :: after.reverse)
  | _ => (name, [])

/-- Takes the scheme off a name that has the form of an address: what stands before the first colon,
if that is not empty and holds no slash. -/
def splitScheme (name : List Char) : Option (List Char) × List Char :=
  match name.span fun c => c ≠ ':' && c ≠ '/' with
  | (scheme, ':' :: rest) => if scheme.isEmpty then (none, name) else (some scheme, rest)
  | _ => (none, name)

/-- The type that an address with its content in it declares. -/
def typeOfData (address : List Char) : Option String :=
  match Text.cut ',' address with
  | (_, none) => none
  | (front, some _) =>
    let declared := (Text.cut ';' front).1
    if declared.contains '=' || !declared.contains '/' then some "text/plain"
    else some (String.ofList declared)

/-- The type of an extension, whatever its case. -/
def typeOfExtension [Platform] (extension : List Char) : Option String :=
  let key := Text.lower (String.ofList extension)
  match Platform.types.lookup key with
  | some type => some type
  | none => commonTypes.lookup key

/-- The type that a path suggests. -/
def typeOfPath [Platform] (path : List Char) : Option String :=
  let (base, extension) := splitExtension path
  let (base, extension) :=
    match doubleExtensions.lookup (Text.lower (String.ofList extension)) with
    | some double => splitExtension (base ++ double.toList)
    | none => (base, extension)
  if compressions.contains (String.ofList extension) then typeOfExtension (splitExtension base).2
  else typeOfExtension extension

/-- The type that a file name suggests. -/
def typeOfName [Platform] (name : String) : Option String :=
  match splitScheme name.toList with
  | (some scheme, rest) =>
    if Text.lower (String.ofList scheme) = "data" then typeOfData rest else typeOfPath rest
  | (none, rest) => typeOfPath rest

end Courier.Mime
