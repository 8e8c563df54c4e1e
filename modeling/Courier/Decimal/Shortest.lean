import Courier.Text.Digit

/-!
# The shortest decimal of a binary number

A finite binary64 number is shown by the fewest decimal digits that read back as the same number,
and of those by the ones nearest to it. The search runs over exact natural numbers.
-/

namespace Courier.Decimal

/-- The reals that round to a binary64 number: `low`, `mid` and `high` over one denominator. -/
structure Interval where
  low : Nat
  mid : Nat
  high : Nat
  den : Nat
  /-- Whether the two ends round to the number too. -/
  closed : Bool

/-- Sign, integer significand and binary exponent of a finite number given by its bits. -/
structure Parts where
  negative : Bool
  significand : Nat
  exponent : Int

/-- The leading bit of a significand, which the bits of a number leave out. -/
def hiddenBit : Nat := 1 <<< 52

/-- Takes the bits of a finite number apart. -/
def Parts.ofBits (bits : UInt64) : Parts :=
  let n := bits.toNat
  let fraction := n % hiddenBit
  let biased := n / hiddenBit % 2048
  let negative := n >>> 63 == 1
  if biased = 0 then ⟨negative, fraction, -1074⟩
  else ⟨negative, hiddenBit + fraction, Int.ofNat biased - 1075⟩

/-- The reals that round to the number. Below a power of two the gap is half as wide. -/
def Parts.interval (p : Parts) : Interval :=
  let m := p.significand
  let below := if m = hiddenBit && p.exponent > -1074 then 4 * m - 1 else 4 * m - 2
  let up := (p.exponent - 2).toNat
  let down := (2 - p.exponent).toNat
  ⟨below <<< up, (4 * m) <<< up, (4 * m + 2) <<< up, 1 <<< down, m % 2 == 0⟩

/-- Whether `g * 10 ^ k` lies in the interval. -/
def Interval.holds (i : Interval) (k : Int) (g : Nat) : Bool :=
  let point := g * Nat.pow 10 k.toNat * i.den
  let scale := Nat.pow 10 (-k).toNat
  if i.closed then i.low * scale ≤ point && point ≤ i.high * scale
  else i.low * scale < point && point < i.high * scale

/-- The exponent of ten of the leading digit of the middle. -/
def Interval.leading (i : Interval) : Int :=
  if i.den ≤ i.mid then ((Text.numeral (i.mid / i.den)).length : Int) - 1
  else -((Text.numeral ((i.den + i.mid - 1) / i.mid - 1)).length : Int)

/-- The point of the grid `10 ^ k` nearest to the middle among those that lie in the interval. -/
def Interval.nearest? (i : Interval) (k : Int) : Option Nat :=
  let value := i.mid * Nat.pow 10 (-k).toNat
  let unit := i.den * Nat.pow 10 k.toNat
  let g := value / unit
  let rest := value % unit
  match i.holds k g, i.holds k (g + 1) with
  | true, true =>
    if 2 * rest < unit then some g
    else if 2 * rest > unit then some (g + 1)
    else some (if g % 2 = 0 then g else g + 1)
  | true, false => some g
  | false, true => some (g + 1)
  | false, false => none

/-- The digits and the exponent of ten of the last of them. -/
def Interval.shortest (i : Interval) : Nat × Int :=
  let lead := i.leading
  match (List.range 17).findSome? fun (n : Nat) =>
    (i.nearest? (lead - n)).map fun g => (g, lead - (n : Int)) with
  | some found => found
  | none => (0, 0)

/-- Takes the zeros off the end of a numeral, counting them into the exponent. -/
def trimZeros (digits : List Char) (k : Int) : List Char × Int :=
  let kept := (digits.reverse.dropWhile (· = '0')).reverse
  (kept, k + ((digits.length - kept.length : Nat) : Int))

/-- A number with `digits` whose last digit counts `10 ^ k`: positional when the leading digit counts
at least `10 ^ -4` and less than `10 ^ 16`, otherwise with an exponent of at least two digits. -/
def layOut (digits : List Char) (k : Int) : List Char :=
  let lead := k + digits.length - 1
  if -4 ≤ lead && lead < 16 then
    if 0 ≤ k then digits ++ List.replicate k.toNat '0' ++ ['.', '0']
    else if 0 ≤ lead then
      digits.take (lead + 1).toNat ++ '.' :: digits.drop (lead + 1).toNat
    else '0' :: '.' :: List.replicate (-lead - 1).toNat '0' ++ digits
  else
    let mantissa :=
      match digits with
      | [d] => [d]
      | d :: rest => d :: '.' :: rest
      | [] => ['0']
    let size := (Text.numeral lead.natAbs).toList
    let sign := if lead < 0 then '-' else '+'
    mantissa ++ 'e' :: sign :: List.replicate (2 - size.length) '0' ++ size

/-- The text of a binary64 number. -/
def text (x : Float) : String :=
  if x.isNaN then "nan"
  else if x.isInf then (if x < 0 then "-inf" else "inf")
  else
    let p := Parts.ofBits x.toBits
    let sign := if p.negative then "-" else ""
    if p.significand = 0 then sign ++ "0.0"
    else
      let (g, k) := p.interval.shortest
      let (digits, k) := trimZeros (Text.numeral g).toList k
      sign ++ String.ofList (layOut digits k)

end Courier.Decimal
