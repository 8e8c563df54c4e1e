/-!
# Cutting sequences at a separator

`cut` takes a sequence apart at the first separator, `splitOn` at every one. Joining with the
separator undoes both.
-/

namespace Courier.Text

variable {α : Type} [DecidableEq α]

/-- What stands before the first separator, and what stands after it if there is one. -/
def cut (sep : α) : List α → List α × Option (List α)
  | [] => ([], none)
  | a :: rest =>
    if a = sep then ([], some rest)
    else
      let (before, after) := cut sep rest
      (a :: before, after)

/-- The pieces between the separators; a sequence without a separator is its own single piece. -/
def splitOn (sep : α) : List α → List (List α)
  | [] => [[]]
  | a :: rest =>
    if a = sep then [] :: splitOn sep rest
    else
      match splitOn sep rest with
      | [] => [[a]]
      | piece :: pieces => (a :: piece) :: pieces

/-- The pieces with a separator between each two of them. -/
def joinWith (sep : α) : List (List α) → List α
  | [] => []
  | [piece] => piece
  | piece :: pieces => piece ++ sep :: joinWith sep pieces

theorem splitOn_ne_nil (sep : α) (l : List α) : splitOn sep l ≠ [] := by
  induction l with
  | nil => simp [splitOn]
  | cons a rest ih =>
    unfold splitOn
    split
    · simp
    · split <;> simp

theorem splitOn_append_sep {sep : α} {piece rest : List α} (h : sep ∉ piece) :
    splitOn sep (piece ++ sep :: rest) = piece :: splitOn sep rest := by
  induction piece with
  | nil => simp [splitOn]
  | cons a piece ih =>
    simp only [List.mem_cons, not_or] at h
    simp [splitOn, ih h.2, Ne.symm h.1]

theorem splitOn_of_not_mem {sep : α} {piece : List α} (h : sep ∉ piece) :
    splitOn sep piece = [piece] := by
  induction piece with
  | nil => rfl
  | cons a piece ih =>
    simp only [List.mem_cons, not_or] at h
    simp [splitOn, ih h.2, Ne.symm h.1]

theorem cut_append_sep {sep : α} {before after : List α} (h : sep ∉ before) :
    cut sep (before ++ sep :: after) = (before, some after) := by
  induction before with
  | nil => simp [cut]
  | cons a before ih =>
    simp only [List.mem_cons, not_or] at h
    simp [cut, ih h.2, Ne.symm h.1]

theorem cut_of_not_mem {sep : α} {l : List α} (h : sep ∉ l) : cut sep l = (l, none) := by
  induction l with
  | nil => rfl
  | cons a l ih =>
    simp only [List.mem_cons, not_or] at h
    simp [cut, ih h.2, Ne.symm h.1]

end Courier.Text
