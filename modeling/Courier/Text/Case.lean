import Courier.Text.Ranges
import Courier.Text.CaseTable

/-!
# Letter case

The full upper-case and lower-case forms of a text. One character may become several, and a capital
sigma takes its final form at the end of a word.
-/

namespace Courier.Text

/-- Moves a code point by the first run that covers it; none if no run does. -/
def shiftBy (table : List CaseRun) (n : Nat) : Option Nat :=
  (table.find? (·.covers n)).map fun r => (Int.ofNat n + r.shift).toNat

/-- The upper-case form of one character. -/
def upperChar (c : Char) : List Char :=
  if c.toNat < 0x80 then [c.toUpper]
  else
    match upperExpansions.lookup c.toNat with
    | some ns => ns.map Char.ofNat
    | none => [((shiftBy upperRuns c.toNat).map Char.ofNat).getD c]

/-- The upper-case form of a text. -/
def upper (s : String) : String :=
  String.ofList (s.toList.flatMap upperChar)

/-- The lower-case form of one character that is not a capital sigma. -/
def lowerChar (c : Char) : List Char :=
  if c.toNat < 0x80 then [c.toLower]
  else if c.toNat = 0x130 then ['i', Char.ofNat 0x307]
  else [((shiftBy lowerRuns c.toNat).map Char.ofNat).getD c]

/-- Whether the nearest character that is not skipped has case. -/
def nextIsCased (cs : List Char) : Bool :=
  match cs.dropWhile fun c => inRanges caseIgnorableRanges c.toNat with
  | [] => false
  | c :: _ => inRanges casedRanges c.toNat

/-- The lower-case form of a text, given the characters before it, the nearest first. -/
def lowerFrom (before : List Char) : List Char → List Char
  | [] => []
  | c :: rest =>
    if c.toNat = 0x3A3 then
      let isFinal := nextIsCased before && !nextIsCased rest
      Char.ofNat (if isFinal then 0x3C2 else 0x3C3) :: lowerFrom (c :: before) rest
    else lowerChar c ++ lowerFrom (c :: before) rest

/-- The lower-case form of a text. -/
def lower (s : String) : String :=
  String.ofList (lowerFrom [] s.toList)

/-- The characters beyond ASCII whose caseless form is ASCII. -/
def asciiFolds : List (Nat × String) := [
  (0xDF, "ss"), (0x17F, "s"), (0x1E9E, "ss"), (0x212A, "k"), (0xFB00, "ff"), (0xFB01, "fi"),
  (0xFB02, "fl"), (0xFB03, "ffi"), (0xFB04, "ffl"), (0xFB05, "st"), (0xFB06, "st")]

/-- The caseless form of a text as far as it is ASCII; other characters stay. It decides whether a
text equals an ASCII word when case is ignored. -/
def foldAscii (s : String) : String :=
  String.ofList (s.toList.flatMap fun c =>
    match asciiFolds.lookup c.toNat with
    | some folded => folded.toList
    | none => [c.toLower])

theorem upperChar_of_ascii {c : Char} (h : c.toNat < 0x80) : upperChar c = [c.toUpper] := by
  simp [upperChar, h]

theorem lowerChar_of_ascii {c : Char} (h : c.toNat < 0x80) : lowerChar c = [c.toLower] := by
  simp [lowerChar, h]

end Courier.Text
