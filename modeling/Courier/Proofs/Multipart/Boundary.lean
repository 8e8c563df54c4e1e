import Courier.Machine
import Courier.Proofs.Text.Digit

/-!
# Drawn boundaries

A drawn boundary consists of small hexadecimal digits (`boundary_digits`), of 32 of them
(`length_boundary`).
-/

namespace Courier.Machine

/-- `Machine.boundary` is a hexadecimal numeral. -/
theorem boundary_digits {n : Nat} {c : Char} (h : c ∈ (boundary n).toList) : c ∈ Text.hexDigits :=
  Text.hexNumeral_digits h

/-- Digits are ASCII, so a line that a drawn boundary ends can be written (`Draft.closing_of_drawn`). -/
theorem boundary_ascii (n : Nat) : ∀ c ∈ (boundary n).toList, c.toNat < 0x80 := by
  have hall : ∀ c ∈ Text.hexDigits, c.toNat < 0x80 := Text.forall_mem_of_all (by decide)
  exact fun c hc => hall c (boundary_digits hc)

/-- Filled up to 32 digits, and never longer, since the number is taken below `16 ^ 32`. -/
theorem length_boundary (n : Nat) : (boundary n).toList.length = 32 :=
  Text.length_hexNumeral (by decide) (Nat.mod_lt n (by decide))

end Courier.Machine
