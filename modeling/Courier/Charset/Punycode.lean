import Courier.Charset.CodePoint

/-!
# Punycode

The ASCII characters of a text stand first, then a hyphen, then the others: for each, in increasing
order, the distance from the one before in a count that runs over all code points and all places of
the text. The distances are numbers of variable length to a base of thirty-six whose thresholds
adapt to their size.
-/

namespace Courier.Charset

/-- The threshold of the digit at place `j`. -/
def threshold (j bias : Nat) : Nat :=
  min 26 (max 1 (36 * (j + 1) - bias))

theorem threshold_pos (j bias : Nat) : 1 ≤ threshold j bias := by
  unfold threshold; omega

theorem threshold_le (j bias : Nat) : threshold j bias ≤ 26 := by
  unfold threshold; omega

/-- Divides by thirty-five until at most 455 is left, counting thirty-six each time. -/
def shrink (delta divisions : Nat) : Nat × Nat :=
  if 455 < delta then shrink (delta / 35) (divisions + 36) else (delta, divisions)
termination_by delta
decreasing_by omega

/-- The bias after a distance, for a text that now has `count` characters. -/
def adaptBias (delta : Nat) (first : Bool) (count : Nat) : Nat :=
  let delta := if first then delta / 700 else delta / 2
  let (delta, divisions) := shrink (delta + delta / count) 0
  divisions + 36 * delta / (delta + 38)

/-! ## Writing -/

/-- The digit of a number below thirty-six: letters, then decimal digits. -/
def punycodeDigit (n : Nat) : UInt8 :=
  if n < 26 then (97 + n).toUInt8 else (22 + n).toUInt8

/-- A distance as digits, from place `j` on. -/
def distanceDigits (bias j n : Nat) : Bytes :=
  let t := threshold j bias
  if n < t then [punycodeDigit n]
  else punycodeDigit (t + (n - t) % (36 - t)) :: distanceDigits bias (j + 1) ((n - t) / (36 - t))
termination_by n
decreasing_by
  have h1 := threshold_pos j bias
  have h2 := threshold_le j bias
  calc (n - threshold j bias) / (36 - threshold j bias) ≤ n - threshold j bias := Nat.div_le_self _ _
    _ < n := by omega

/-- Inserts into an increasing list unless it is there. -/
def insertIncreasing (n : Nat) : List Nat → List Nat
  | [] => [n]
  | m :: rest =>
    if n < m then n :: m :: rest else if n = m then m :: rest else m :: insertIncreasing n rest

/-- The distances of the code points beyond ASCII in increasing order. `next` is the least code point
not counted yet, `placed` how many characters are smaller. -/
def distances (text : List Nat) : List Nat → Nat → Nat → Nat → List Nat
  | [], _, _, _ => []
  | c :: more, next, placed, delta =>
    let start := delta + (c - next) * (placed + 1)
    let (ds, rest) := runPlaces c start text
    ds ++ distances text more (c + 1) (placed + text.count c) (rest + 1)
where
  /-- One pass over the text: a smaller character is passed, an equal one gives a distance. -/
  runPlaces (c : Nat) (delta : Nat) : List Nat → List Nat × Nat
    | [] => ([], delta)
    | n :: rest =>
      if n < c then runPlaces c (delta + 1) rest
      else if n = c then
        let (ds, last) := runPlaces c 0 rest
        (delta :: ds, last)
      else runPlaces c delta rest

/-- All distances as digits. `count` is the number of characters placed. -/
def distanceBytes (bias : Nat) (first : Bool) (count : Nat) : List Nat → Bytes
  | [] => []
  | d :: rest =>
    distanceDigits bias 0 d ++ distanceBytes (adaptBias d first (count + 1)) false (count + 1) rest

/-- Code points in Punycode. -/
def writeCodes (text : List Nat) : Bytes :=
  let basic := text.filter (· < 128)
  let others := (text.filter (128 ≤ ·)).foldr insertIncreasing []
  let tail := distanceBytes 72 true basic.length (distances text others 128 basic.length 0)
  if basic.isEmpty then tail else basic.map Nat.toUInt8 ++ 45 :: tail

/-- A text in Punycode. -/
def punycodeBytes (cs : List Char) : Bytes :=
  writeCodes (cs.map Char.toNat)

/-! ## Reading -/

/-- The value of a digit; letters count in either case. -/
def punycodeValue? (b : UInt8) : Option Nat :=
  if 65 ≤ b && b ≤ 90 then some (b.toNat - 65)
  else if 97 ≤ b && b ≤ 122 then some (b.toNat - 97)
  else if 48 ≤ b && b ≤ 57 then some (b.toNat - 22)
  else none

/-- Reads one distance from place `j` on, with weight `w`; none if a byte is no digit or the bytes
end too early. -/
def readDistance (bias : Nat) (j w acc : Nat) : Bytes → Option (Nat × Bytes)
  | [] => none
  | b :: rest =>
    match punycodeValue? b with
    | none => none
    | some d =>
      let t := threshold j bias
      if d < t then some (acc + d * w, rest)
      else readDistance bias (j + 1) (w * (36 - t)) (acc + d * w) rest

theorem readDistance_shorter {bias j w acc d : Nat} {bytes rest : Bytes}
    (h : readDistance bias j w acc bytes = some (d, rest)) : rest.length < bytes.length := by
  induction bytes generalizing j w acc with
  | nil => simp [readDistance] at h
  | cons b bytes ih =>
    unfold readDistance at h
    split at h
    · simp at h
    · dsimp only at h
      split at h
      · simp only [Option.some.injEq, Prod.mk.injEq] at h
        simp [h.2]
      · exact Nat.lt_succ_of_lt (ih h)

/-- Places the code points that the distances give into the text. `place` is where the last one went,
`code` what it was; one beyond the last code point becomes a question mark. A distance that cannot be
read ends the text. The flag tells whether all was well formed. -/
def placeAll (bias : Nat) (first : Bool) (code : Nat) (place : Int) (text : List Nat)
    (bytes : Bytes) : List Nat × Bool :=
  if bytes.isEmpty then (text, true)
  else
    match _hd : readDistance bias 0 1 0 bytes with
    | none => (text, false)
    | some (delta, rest) =>
      let count := (place + delta + 1).toNat
      let size := text.length + 1
      let code := code + count / size
      let fits := code ≤ 0x10FFFF
      let code := if fits then code else 63
      let spot := count % size
      let text := text.take spot ++ code :: text.drop spot
      let (text, clean) := placeAll (adaptBias delta first text.length) false code spot text rest
      (text, clean && fits)
termination_by bytes.length
decreasing_by exact readDistance_shorter _hd

/-- The bytes before and after the last hyphen; none before if there is no hyphen. -/
def splitLastHyphen (bytes : Bytes) : Bytes × Bytes :=
  match bytes.reverse.span (· ≠ 45) with
  | (after, _ :: before) => (before.reverse, after.reverse)
  | (after, []) => ([], after.reverse)

/-- Reads Punycode whose part after the last hyphen is ASCII. The flag tells whether all was well
formed. -/
def readCodes (bytes : Bytes) : List Nat × Bool :=
  let (basic, tail) := splitLastHyphen bytes
  let text := basic.map fun b => if b < 0x80 then b.toNat else 0xFFFD
  let (text, clean) := placeAll 72 true 0x80 (-1) text tail
  (text, clean && basic.all (· < 0x80))

/-- The same as code points. -/
def readPunycode (bytes : Bytes) : Decoded :=
  let (text, clean) := readCodes bytes
  ⟨text.map .ofNat, clean⟩

end Courier.Charset
