import Courier.Text.Split

/-!
# Syllables of Hangul

A syllable is a leading consonant, a vowel, and perhaps a trailing consonant. Its code point and its
name follow from those of its letters.
-/

namespace Courier.Text.Hangul

/-- The first syllable. -/
def base : Nat := 0xAC00

/-- The first leading consonant. -/
def leadBase : Nat := 0x1100

/-- The first vowel. -/
def vowelBase : Nat := 0x1161

/-- The code point before the first trailing consonant. -/
def tailBase : Nat := 0x11A7

/-- How many leading consonants there are. -/
def leadCount : Nat := 19

/-- How many vowels there are. -/
def vowelCount : Nat := 21

/-- How many trailing consonants there are, the lack of one among them. -/
def tailCount : Nat := 28

/-- The syllable of letters that are given by their places. -/
def syllable (lead vowel tail : Nat) : Nat :=
  base + (lead * vowelCount + vowel) * tailCount + tail

/-- Whether a code point is that of a syllable. -/
def isSyllable (n : Nat) : Bool :=
  base ≤ n && n < base + leadCount * vowelCount * tailCount

/-- The letters of a syllable. -/
def letters? (n : Nat) : Option (List Nat) :=
  if isSyllable n then
    let place := n - base
    let lead := leadBase + place / (vowelCount * tailCount)
    let vowel := vowelBase + place / tailCount % vowelCount
    let tail := place % tailCount
    some (if tail = 0 then [lead, vowel] else [lead, vowel, tailBase + tail])
  else none

/-- The syllable of a leading consonant and a vowel, or of a syllable without a trailing consonant
and such a consonant. -/
def join? (a b : Nat) : Option Nat :=
  if leadBase ≤ a && a < leadBase + leadCount && vowelBase ≤ b && b < vowelBase + vowelCount then
    some (syllable (a - leadBase) (b - vowelBase) 0)
  else if isSyllable a && (a - base) % tailCount = 0 && tailBase < b && b < tailBase + tailCount then
    some (a + (b - tailBase))
  else none

/-! ## Names -/

/-- The names of the leading consonants in order; the silent one has none. -/
def leadNames : List (List Char) :=
  splitOn ' ' "G GG N D DD R M B BB S SS  J JJ C K T P H".toList

/-- The names of the vowels in order. -/
def vowelNames : List (List Char) :=
  splitOn ' ' "A AE YA YAE EO E YEO YE O WA WAE OE YO U WEO WE WI YU EU YI I".toList

/-- The names of the trailing consonants in order; the lack of one comes first. -/
def tailNames : List (List Char) :=
  splitOn ' ' " G GG GS N NJ NH D L LG LM LB LS LT LP LH M B BS S SS NG J C K T P H".toList

/-- The place of the longest name that a text begins with, and what follows it. -/
def takeName (names : List (List Char)) (cs : List Char) : Option (Nat × List Char) :=
  let found := names.zipIdx.filter fun p => p.1.isPrefixOf cs
  let best := found.foldl
    (fun (best : Option (List Char × Nat)) p =>
      if best.all fun q => q.1.length < p.1.length then some p else best)
    none
  best.map fun p => (p.2, cs.drop p.1.length)

/-- The syllable whose letters have the names that a text is made of. -/
def named? (cs : List Char) : Option Nat := do
  let (lead, cs) ← takeName leadNames cs
  let (vowel, cs) ← takeName vowelNames cs
  let (tail, cs) ← takeName tailNames cs
  if cs.isEmpty then some (syllable lead vowel tail) else none

example : letters? (syllable 1 2 3) = some [0x1101, 0x1163, 0x11AA] := by decide

end Courier.Text.Hangul
