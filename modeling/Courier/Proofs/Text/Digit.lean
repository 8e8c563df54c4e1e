import Courier.Text.Digit
import Mathlib.Algebra.Group.Nat.Defs

/-!
# Digits and other fixed characters

A hexadecimal numeral consists of small hexadecimal digits (`hexNumeral_digits`), of as many as its width
asks for while the number fits (`length_hexNumeral`). What is claimed of each character of a fixed text is
decided by going through the text (`forall_mem_of_all`).
-/

namespace Courier.Text

/-- Deciding over the list, where deciding over all characters would not end. -/
theorem forall_mem_of_all {p : Char → Prop} [DecidablePred p] {l : List Char}
    (h : (l.all fun c => decide (p c)) = true) : ∀ c ∈ l, p c := by
  intro c hc
  exact of_decide_eq_true (List.all_eq_true.mp h c hc)

/-- `Char.isAlphanum` lies between the zero and the small z. -/
theorem isAlphanum_range {c : Char} (h : c.isAlphanum = true) : 48 ≤ c.toNat ∧ c.toNat ≤ 122 := by
  unfold Char.isAlphanum Char.isAlpha Char.isUpper Char.isLower Char.isDigit at h
  simp only [Bool.or_eq_true, Bool.and_eq_true, decide_eq_true_eq, UInt32.le_iff_toNat_le,
    ge_iff_le] at h
  have hvalue : c.toNat = c.val.toNat := rfl
  have hlow : '0'.val.toNat = 48 := rfl
  have hlast : 'z'.val.toNat = 122 := rfl
  have hA : 'A'.val.toNat = 65 := rfl
  have hZ : 'Z'.val.toNat = 90 := rfl
  have ha : 'a'.val.toNat = 97 := rfl
  have h9 : '9'.val.toNat = 57 := rfl
  omega

/-- The digits of a hexadecimal numeral. -/
def hexDigits : List Char := "0123456789abcdef".toList

theorem digitChar_mem_hexDigits : ∀ d < 16, Nat.digitChar d ∈ hexDigits := by
  decide

theorem toDigits_mem_hexDigits {n : Nat} {c : Char} (h : c ∈ Nat.toDigits 16 n) : c ∈ hexDigits := by
  -- the last digit is that of the remainder, those before it are the digits of the quotient
  induction n using Nat.strongRecOn with
  | _ n ih =>
    rw [Nat.toDigits_eq_if (by decide)] at h
    split at h
    · next hn =>
      rw [List.mem_singleton] at h
      rw [h]
      exact digitChar_mem_hexDigits n hn
    · next hn =>
      rw [List.mem_append, List.mem_singleton] at h
      rcases h with h | h
      · exact ih (n / 16) (by omega) h
      · rw [h]
        exact digitChar_mem_hexDigits (n % 16) (Nat.mod_lt _ (by decide))

theorem hexNumeral_digits {width n : Nat} {c : Char} (h : c ∈ (hexNumeral width n).toList) :
    c ∈ hexDigits := by
  unfold hexNumeral at h
  rw [String.toList_ofList, List.mem_append, List.mem_replicate] at h
  rcases h with ⟨-, rfl⟩ | h
  · decide
  · exact toDigits_mem_hexDigits h

/-- A number below `16 ^ width` has no more than `width` digits. Induction on the width, a digit at a time.
-/
theorem length_toDigits_le {n width : Nat} (hwidth : 0 < width) (h : n < 16 ^ width) :
    (Nat.toDigits 16 n).length ≤ width := by
  induction width generalizing n with
  | zero => omega
  | succ width ih =>
    rw [Nat.toDigits_eq_if (by decide)]
    split
    · exact Nat.succ_le_succ (Nat.zero_le width)
    · next hn =>
      have hq : n / 16 < 16 ^ width := by
        rw [Nat.pow_succ] at h
        omega
      have hpos : 0 < width := by
        rcases width with _ | width
        · rw [Nat.pow_zero] at hq
          omega
        · omega
      rw [List.length_append, List.length_singleton]
      exact Nat.succ_le_succ (ih hpos hq)

/-- A numeral is filled up to its width, and never longer (`length_toDigits_le`). -/
theorem length_hexNumeral {width n : Nat} (hwidth : 0 < width) (h : n < 16 ^ width) :
    (hexNumeral width n).toList.length = width := by
  have hle := length_toDigits_le hwidth h
  unfold hexNumeral
  rw [String.toList_ofList, List.length_append, List.length_replicate]
  omega

end Courier.Text
