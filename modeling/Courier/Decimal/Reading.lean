/-!
# Reading decimal numbers

A number is an optional sign, digits with an optional point before, among or after them, and an
optional exponent; or one of the words for infinity and for no number.
-/

namespace Courier.Decimal

/-- The value of a list of ASCII digits. -/
def natOfDigits (ds : List Char) : Nat :=
  ds.foldl (fun n d => 10 * n + (d.toNat - 48)) 0

/-- `± m * 10 ^ e`. Beyond the range of the format the value is infinite or zero, whatever the
exponent. -/
def scaled (negative : Bool) (m : Nat) (e : Int) : Float :=
  let size := ((Nat.toDigits 10 m).length : Int) + e
  let magnitude : Float :=
    if m = 0 || size < -400 then 0.0
    else if size > 400 then 1.0 / 0.0
    else if e < 0 then Float.ofScientific m true e.natAbs
    else Float.ofScientific m false e.natAbs
  if negative then -magnitude else magnitude

/-- Reads an exponent: nothing, or the letter, an optional sign and digits. -/
def readExponent : List Char → Option Int
  | [] => some 0
  | mark :: rest =>
    if mark = 'e' || mark = 'E' then
      let (negative, ds) : Bool × List Char :=
        match rest with
        | '-' :: ds => (true, ds)
        | '+' :: ds => (false, ds)
        | ds => (false, ds)
      if ds.isEmpty || !ds.all Char.isDigit then none
      else
        let n := (natOfDigits ds : Int)
        some (if negative then -n else n)
    else none

/-- Reads an unsigned number. -/
def readUnsigned (negative : Bool) (cs : List Char) : Option Float :=
  let word := cs.map Char.toLower
  if word = "inf".toList || word = "infinity".toList then
    some (if negative then -(1.0 / 0.0) else 1.0 / 0.0)
  else if word = "nan".toList then some (0.0 / 0.0)
  else
    let (whole, rest) := cs.span Char.isDigit
    let (places, rest) :=
      match rest with
      | '.' :: rest => rest.span Char.isDigit
      | rest => ([], rest)
    if whole.isEmpty && places.isEmpty then none
    else
      (readExponent rest).map fun e =>
        scaled negative (natOfDigits (whole ++ places)) (e - places.length)

/-- Reads a number. -/
def read : List Char → Option Float
  | '+' :: cs => readUnsigned false cs
  | '-' :: cs => readUnsigned true cs
  | cs => readUnsigned false cs

end Courier.Decimal
