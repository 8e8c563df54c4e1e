import Courier.Net.HostName.Label
import Courier.Text.Case

/-!
# Host names

A host name is a row of labels with dots between them. One that goes beyond ASCII is written in
ASCII, label by label; one that stands in ASCII for another is read back in the same way.
-/

namespace Courier.Net.HostName

/-- The characters that stand for the dot between two labels. -/
def dots : List Char := ['.', Char.ofNat 0x3002, Char.ofNat 0xFF0E, Char.ofNat 0xFF61]

/-- The labels of a name; a dot at its end ends the last one. -/
structure Labels where
  labels : List (List Char)
  closed : Bool

/-- The labels of a name. -/
def labelsOf (name : List Char) : Labels :=
  let pieces := Text.splitOn '.' (name.map fun c => if dots.contains c then '.' else c)
  if pieces.getLast? = some [] then ⟨pieces.dropLast, true⟩ else ⟨pieces, false⟩

/-- A name in ASCII, in lower case. -/
def encode (name : String) : Except NameFault String := do
  let lowered := (Text.lower name).toList
  if nameLimit < lowered.length then throw .nameTooLong
  let ⟨labels, closed⟩ := labelsOf lowered
  let labels ← labels.mapM asciiOfLabel
  let joined := Text.joinWith '.' (if closed then labels ++ [[]] else labels)
  if (if closed then nameLimit else nameLimit - 1) < joined.length then throw .nameTooLong
  return String.ofList joined

/-- The name that a name in ASCII stands for. -/
def decode (name : String) : Except NameFault String := do
  if nameLimit < name.length then throw .nameTooLong
  let ⟨labels, closed⟩ := labelsOf name.toList
  let labels ← labels.mapM fun label => (labelOfAscii label).map (·.map Char.ofNat)
  return String.ofList (Text.joinWith '.' (if closed then labels ++ [[]] else labels))

/-- Whether a name begins with a label that stands in ASCII for another. -/
def isEncoded (name : String) : Bool :=
  asciiMark.isPrefixOf name.toList

end Courier.Net.HostName
