import Courier.Text.CompositionTable
import Courier.Text.Hangul
import Courier.Text.Mark

/-!
# Composed texts

A character with marks may be written as one code point or as several. A text is composed if each
stands as one code point where there is one, and the marks that are left stand in the order of their
classes.
-/

namespace Courier.Text

/-! ## Taking characters apart -/

/-- What a character is made of. -/
def partsOf? (n : Nat) : Option (List Nat) :=
  (Hangul.letters? n).or ((compositions.lookup n).or (decompositions.lookup n))

/-- What a character is made of in the end, if its parts are taken apart so many times. -/
def decompose : Nat → Nat → List Nat
  | 0, n => [n]
  | depth + 1, n =>
    match partsOf? n with
    | none => [n]
    | some parts => parts.flatMap (decompose depth)

/-- How many times a character can be taken apart. -/
def depthLimit : Nat := 4

/-- Puts a mark before the marks of its class and of higher classes. -/
def insertMark (n : Nat) : List Nat → List Nat
  | [] => [n]
  | m :: rest =>
    if combiningClass m < combiningClass n && 0 < combiningClass m then m :: insertMark n rest
    else n :: m :: rest

/-- Puts the marks between two other characters in the order of their classes. -/
def arrange (codes : List Nat) : List Nat :=
  codes.foldr insertMark []

/-! ## Putting characters together -/

/-- The character that two become. -/
def compose? (a b : Nat) : Option Nat :=
  (Hangul.join? a b).or ((compositions.find? fun e => e.2 = [a, b]).map Prod.fst)

/-- Whether a mark that was passed keeps a character from the one before it. -/
def isBlocked (passed : List Nat) (n : Nat) : Bool :=
  match passed with
  | [] => false
  | m :: _ => combiningClass n ≤ combiningClass m

/-- Puts the marks that follow a character together with it where they become one; `passed` are the
ones that stay, the last one first. A character that is no mark begins anew. -/
def composeFrom (start : Nat) (passed : List Nat) : List Nat → List Nat
  | [] => start :: passed.reverse
  | n :: rest =>
    match if isBlocked passed n then none else compose? start n with
    | some whole => composeFrom whole passed rest
    | none =>
      if combiningClass n = 0 then start :: passed.reverse ++ composeFrom n [] rest
      else composeFrom start (n :: passed) rest

/-- The composed form of a text. -/
def composed (codes : List Nat) : List Nat :=
  match arrange (codes.flatMap (decompose depthLimit)) with
  | [] => []
  | n :: rest => composeFrom n [] rest

end Courier.Text
