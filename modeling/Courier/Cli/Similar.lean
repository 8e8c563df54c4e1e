/-!
# Similar words

Which known words a mistyped one may have been meant for. Two words are as similar as the share of
letters that they have in common: in the longest stretch that both hold, and then, on either side of
it, in the longest stretch that both hold there.
-/

namespace Courier.Cli

/-- How long a beginning two texts share. -/
def commonStart : List Char → List Char → Nat
  | a :: as, b :: bs => if a = b then commonStart as bs + 1 else 0
  | _, _ => 0

/-- A stretch that two texts share: where it begins in each, and its length. -/
structure Stretch where
  left : Nat
  right : Nat
  length : Nat

/-- The longest stretch that two texts share; of several, the one that begins first. -/
def longestStretch (a b : List Char) : Stretch :=
  let candidates := (List.range a.length).flatMap fun i =>
    (List.range b.length).map fun j => Stretch.mk i j (commonStart (a.drop i) (b.drop j))
  candidates.foldl (fun best s => if best.length < s.length then s else best) ⟨0, 0, 0⟩

/-- How many letters two texts have in common, given a bound on the number of stretches. -/
def commonLetters : Nat → List Char → List Char → Nat
  | 0, _, _ => 0
  | bound + 1, a, b =>
    let s := longestStretch a b
    if s.length = 0 then 0
    else
      commonLetters bound (a.take s.left) (b.take s.right) + s.length +
        commonLetters bound (a.drop (s.left + s.length)) (b.drop (s.right + s.length))

/-- A known word, the letters that it has in common with another, and the letters of both. -/
structure Likeness where
  word : String
  shared : Nat
  total : Nat

/-- How similar a known word is to another. -/
def likeness (word known : String) : Likeness :=
  let a := known.toList
  ⟨known, 2 * commonLetters (a.length + 1) a word.toList, a.length + word.length⟩

/-- Whether a word is at least as similar as another; of equally similar ones the later in the
alphabet counts as more so. -/
def Likeness.atLeast (x y : Likeness) : Bool :=
  if x.shared * y.total = y.shared * x.total then y.word ≤ x.word
  else y.shared * x.total < x.shared * y.total

/-- The known words of which at least six tenths are shared: the three most similar ones, in the order
of the alphabet. -/
def similar (word : String) (known : List String) : List String :=
  let close := (known.map (likeness word)).filter fun l => 6 * l.total ≤ 10 * l.shared
  let best := (close.mergeSort Likeness.atLeast).take 3
  (best.map (·.word)).mergeSort fun a b => decide (a ≤ b)

end Courier.Cli
