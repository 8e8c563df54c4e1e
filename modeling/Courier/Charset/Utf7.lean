import Courier.Charset.CodePoint
import Courier.Charset.Unicode

/-!
# UTF-7

Text for channels that carry ASCII only. Characters outside a safe set are written as their 16-bit
units in base 64, between a plus sign and a minus sign; the minus sign is left out before a
character that cannot be taken for a part of the run.
-/

namespace Courier.Charset

/-- The sixty-four digits. -/
def base64Digits : Bytes :=
  ascii "ABCDEFGHIJKLMNOPQRSTUVWXYZabcdefghijklmnopqrstuvwxyz0123456789+/"

/-- The digit of a number below sixty-four. -/
def base64Digit (n : Nat) : UInt8 :=
  base64Digits.getD n 65

/-- The value of a digit. -/
def base64Value? (b : UInt8) : Option Nat :=
  base64Digits.idxOf? b

/-! ## Writing -/

/-- Whether a character is written as it is: printable ASCII without the backslash, the tilde and
the plus sign, and tab, line feed and carriage return. -/
def utf7Direct (c : Char) : Bool :=
  let n := c.toNat
  n == 9 || n == 10 || n == 13 ||
    (32 ≤ n && n < 127 && c != '\\' && c != '~' && c != '+')

/-- A run in base 64: the bits not written yet, fewer than six. -/
structure Base64Run where
  count : Nat
  bits : Nat

/-- Adds sixteen bits to a run and writes the digits that are complete. -/
def Base64Run.push (run : Base64Run) (unit : Nat) : Bytes × Base64Run :=
  let count := run.count + 16
  let bits := run.bits * 65536 + unit
  let digits := (List.range (count / 6)).map fun k =>
    base64Digit (bits >>> (count - 6 * (k + 1)) % 64)
  (digits, ⟨count % 6, bits % (1 <<< (count % 6))⟩)

/-- The last digit of a run, filled up with zero bits. -/
def Base64Run.finish (run : Base64Run) : Bytes :=
  if run.count = 0 then [] else [base64Digit (run.bits <<< (6 - run.count) % 64)]

/-- Writes a character into a run. -/
def Base64Run.write (run : Base64Run) (c : Char) : Bytes × Base64Run :=
  (utf16Units c).foldl
    (fun acc unit =>
      let (digits, next) := acc.2.push unit
      (acc.1 ++ digits, next))
    ([], run)

/-- Writes a text, given the run that is open. -/
def utf7From : Option Base64Run → List Char → Bytes
  | none, [] => []
  | some run, [] => run.finish ++ [45]
  | none, c :: rest =>
    if c = '+' then 43 :: 45 :: utf7From none rest
    else if utf7Direct c then c.toNat.toUInt8 :: utf7From none rest
    else
      let (digits, run) := Base64Run.write ⟨0, 0⟩ c
      43 :: digits ++ utf7From (some run) rest
  | some run, c :: rest =>
    if utf7Direct c then
      let b := c.toNat.toUInt8
      let mark : Bytes := if (base64Value? b).isSome || b = 45 then [45] else []
      run.finish ++ mark ++ b :: utf7From none rest
    else
      let (digits, run) := run.write c
      digits ++ utf7From (some run) rest

/-- A text in UTF-7. -/
def utf7Bytes (cs : List Char) : Bytes :=
  utf7From none cs

/-! ## Reading -/

/-- Where the reader stands: in plain text, behind a plus sign, or in a run with so many bits not
used yet and perhaps a high surrogate that waits for its other half. -/
inductive Utf7State where
  | plain
  | plus
  | run (count bits : Nat) (high : Option Nat)

/-- The items of a plain byte and the state after it. -/
def utf7Plain (b : UInt8) : List (Option CodePoint) × Utf7State :=
  if b = 43 then ([], .plus)
  else if b < 0x80 then ([some (.ofNat b.toNat)], .plain)
  else ([none], .plain)

/-- The items of a 16-bit unit, given the high surrogate before it, and the one to wait for. A surrogate
without its other half is told as it is. -/
def utf7Unit (high : Option Nat) (unit : Nat) : List (Option CodePoint) × Option Nat :=
  match high with
  | some h =>
    if isLowSurrogate unit then ([some (.char (joinSurrogates h unit))], none)
    else if isHighSurrogate unit then ([some (.ofNat h)], some unit)
    else ([some (.ofNat h), some (.ofNat unit)], none)
  | none =>
    if isHighSurrogate unit then ([], some unit) else ([some (.ofNat unit)], none)

/-- Adds a digit to a run. -/
def utf7Digit (count bits : Nat) (high : Option Nat) (value : Nat) :
    List (Option CodePoint) × Utf7State :=
  let count := count + 6
  let bits := bits * 64 + value
  if 16 ≤ count then
    let left := count - 16
    let (items, high) := utf7Unit high (bits >>> left)
    (items, .run left (bits % (1 <<< left)) high)
  else ([], .run count bits high)

/-- The items of a byte and the state after it. A run that ends with bits that are not zero, or with
enough of them for a digit, is a gap together with the byte that ends it. -/
def utf7Step (state : Utf7State) (b : UInt8) : List (Option CodePoint) × Utf7State :=
  match state with
  | .plain => utf7Plain b
  | .plus =>
    if b = 45 then ([some (.char '+')], .plain)
    else
      match base64Value? b with
      | some value => utf7Digit 0 0 none value
      | none => ([none], .plain)
  | .run count bits high =>
    match base64Value? b with
    | some value => utf7Digit count bits high value
    | none =>
      if 6 ≤ count || bits ≠ 0 then ([none], .plain)
      else
        let lone : List (Option CodePoint) :=
          match high with
          | some h => if b < 0x80 then [some (.ofNat h)] else []
          | none => []
        if b = 45 then (lone, .plain)
        else
          let (items, next) := utf7Plain b
          (lone ++ items, next)

/-- What a text that ends in a state leaves. -/
def Utf7State.finish : Utf7State → List (Option CodePoint)
  | .run count bits high => if high.isSome || 6 ≤ count || bits ≠ 0 then [none] else []
  | _ => []

/-- Reads UTF-7 from a state. -/
def utf7Items (state : Utf7State) : Bytes → List (Option CodePoint)
  | [] => state.finish
  | b :: rest =>
    let (items, next) := utf7Step state b
    items ++ utf7Items next rest

/-- Reads UTF-7. -/
def readUtf7 (bytes : Bytes) : List (Option CodePoint) :=
  utf7Items .plain bytes

end Courier.Charset
