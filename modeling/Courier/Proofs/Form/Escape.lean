import Courier.Form

/-!
# Escaped names and values

Escaping is undone byte by byte (`unescape_escape`), whether spaces were written as plus signs or not,
and leaves no separator of a form in a name or value (`amp_not_mem_escape`, `equals_not_mem_escape`).
-/

namespace Courier

/-! ## Percent escapes -/

/-- A byte that is no percent sign is read as itself. The cases are those of `percentDecode`, which looks at
three bytes. -/
theorem percentDecode_cons {b : UInt8} (h : b ≠ 37) (rest : Bytes) :
    percentDecode (b :: rest) = b :: percentDecode rest := by
  match rest with
  | [] => rfl
  | [_] => rfl
  | _ :: _ :: _ => rw [percentDecode, if_neg h]

theorem nibbles_lt (b : UInt8) : b / 16 < 16 ∧ b % 16 < 16 := by
  have hb := b.toNat_lt
  rw [UInt8.lt_iff_toNat_lt, UInt8.lt_iff_toNat_lt, UInt8.toNat_div, UInt8.toNat_mod]
  show b.toNat / 16 < 16 ∧ b.toNat % 16 < 16
  omega

/-- Put together they are the byte again, by `omega` on its number. -/
theorem nibbles_join (b : UInt8) : b / 16 * 16 + b % 16 = b := by
  have hb := b.toNat_lt
  rw [← UInt8.toNat_inj, UInt8.toNat_add, UInt8.toNat_mul, UInt8.toNat_div, UInt8.toNat_mod]
  show (b.toNat / 16 * 16 % 256 + b.toNat % 16) % 256 = b.toNat
  omega

/-- **An escape is read as the byte that it was made of**, through `hexValue?_hexDigit` for either half. -/
theorem percentDecode_percentByte (b : UInt8) (rest : Bytes) :
    percentDecode (percentByte b ++ rest) = b :: percentDecode rest := by
  obtain ⟨hhigh, hlow⟩ := nibbles_lt b
  show percentDecode (37 :: hexDigit (b / 16) :: hexDigit (b % 16) :: rest) = _
  rw [percentDecode, if_pos rfl, hexValue?_hexDigit hhigh, hexValue?_hexDigit hlow]
  show (b / 16 * 16 + b % 16) :: percentDecode rest = _
  rw [nibbles_join]

namespace Form

/-! ## The bytes of a form -/

/-- The bytes of which a form consists. -/
def alphabet : Bytes :=
  ascii "ABCDEFGHIJKLMNOPQRSTUVWXYZabcdefghijklmnopqrstuvwxyz0123456789_.-~+%=&"

/-- Bytes that are left as they are belong to the alphabet; `decide` goes through all 256. -/
theorem isPlain_mem_alphabet {b : UInt8} (h : isPlain b = true) : b ∈ alphabet := by
  -- byte by byte
  have hall : ∀ n < 256, isPlain (UInt8.ofNat n) = true → UInt8.ofNat n ∈ alphabet := by
    decide +kernel
  have hb := hall b.toNat b.toNat_lt
  rw [UInt8.ofNat_toNat] at hb
  exact hb h

theorem isPlain_hexDigit {n : UInt8} (h : n < 16) : isPlain (hexDigit n) = true :=
  forall_nibble (p := fun n => isPlain (hexDigit n) = true) (by decide) h

theorem marks_mem_alphabet : ∀ b ∈ ascii "+%=&", b ∈ alphabet := by
  decide +kernel

/-- A byte of `escapeByte` is plain, a plus sign, or a percent sign: the digits of an escape are plain. -/
theorem mem_escapeByte {hasSpace : Bool} {b x : UInt8} (h : x ∈ escapeByte hasSpace b) :
    isPlain x = true ∨ x = 43 ∨ x = 37 := by
  obtain ⟨hhigh, hlow⟩ := nibbles_lt b
  unfold escapeByte at h
  split at h
  · next hplain =>
    rw [List.mem_singleton] at h
    rw [h]
    exact .inl hplain
  · split at h
    · rw [List.mem_singleton] at h
      exact .inr (.inl h)
    · unfold percentByte at h
      rw [List.mem_cons, List.mem_cons, List.mem_singleton] at h
      -- a percent sign and the two digits of the byte, which are plain
      rcases h with rfl | rfl | rfl
      · exact .inr (.inr rfl)
      · exact .inl (isPlain_hexDigit hhigh)
      · exact .inl (isPlain_hexDigit hlow)

/-- `mem_escapeByte` for a whole text. -/
theorem mem_escape {hasSpace : Bool} {bytes : Bytes} {x : UInt8} (h : x ∈ escape hasSpace bytes) :
    isPlain x = true ∨ x = 43 ∨ x = 37 := by
  unfold escape at h
  rw [List.mem_flatMap] at h
  obtain ⟨b, -, hx⟩ := h
  exact mem_escapeByte hx

/-- `mem_escape` in terms of the alphabet of forms. -/
theorem mem_alphabet_of_mem_escape {hasSpace : Bool} {bytes : Bytes} {x : UInt8}
    (h : x ∈ escape hasSpace bytes) : x ∈ alphabet := by
  rcases mem_escape h with hplain | rfl | rfl
  · exact isPlain_mem_alphabet hplain
  · exact marks_mem_alphabet 43 (by decide)
  · exact marks_mem_alphabet 37 (by decide)

/-- No pair ends within an escaped text, by `mem_escape`. -/
theorem amp_not_mem_escape {hasSpace : Bool} {bytes : Bytes} : 38 ∉ escape hasSpace bytes := by
  intro h
  have := mem_escape h
  revert this
  decide

/-- No name ends within an escaped text, by `mem_escape`. -/
theorem equals_not_mem_escape {hasSpace : Bool} {bytes : Bytes} : 61 ∉ escape hasSpace bytes := by
  intro h
  have := mem_escape h
  revert this
  decide

/-! ## Undoing the escapes

A plus sign in the text is written as an escape, so plus signs can be made spaces before the escapes
are undone. -/

/-- A plus sign as a space. -/
def plusToSpace (b : UInt8) : UInt8 := if b = 43 then 32 else b

theorem plusToSpace_of_isPlain {b : UInt8} (h : isPlain b = true) : plusToSpace b = b ∧ b ≠ 37 := by
  constructor
  · refine if_neg ?_
    rintro rfl
    cases h
  · rintro rfl
    cases h

/-- Escapes hold no plus sign, so `plusToSpace` leaves them alone. -/
theorem plusToSpace_percentByte (b : UInt8) :
    (percentByte b).map plusToSpace = percentByte b := by
  obtain ⟨hhigh, hlow⟩ := nibbles_lt b
  show [37, plusToSpace (hexDigit (b / 16)), plusToSpace (hexDigit (b % 16))] = _
  rw [(plusToSpace_of_isPlain (isPlain_hexDigit hhigh)).1,
    (plusToSpace_of_isPlain (isPlain_hexDigit hlow)).1]
  rfl

/-- One byte of the text: plain, a space that became a plus sign, or an escape. The cases are those of
`escapeByte`. -/
theorem unescape_escapeByte (hasSpace : Bool) (b : UInt8) (rest : Bytes) :
    percentDecode ((escapeByte hasSpace b).map plusToSpace ++ rest) = b :: percentDecode rest := by
  unfold escapeByte
  split
  · next hplain =>
    obtain ⟨hsame, hne⟩ := plusToSpace_of_isPlain hplain
    show percentDecode (plusToSpace b :: rest) = _
    rw [hsame, percentDecode_cons hne]
  · split
    · next hspace =>
      obtain ⟨rfl, -⟩ : b = 32 ∧ hasSpace = true := by
        simpa only [Bool.and_eq_true, decide_eq_true_eq] using hspace
      show percentDecode (32 :: rest) = _
      rw [percentDecode_cons (by decide)]
    · -- no digit of an escape is a plus sign
      rw [plusToSpace_percentByte, percentDecode_percentByte]

/-- **Escaping is undone, whatever the bytes.** -/
theorem unescape_escape (hasSpace : Bool) (bytes : Bytes) :
    unescape (escape hasSpace bytes) = bytes := by
  show percentDecode ((escape hasSpace bytes).map plusToSpace) = bytes
  induction bytes with
  | nil => rfl
  | cons b rest ih =>
    show percentDecode ((escapeByte hasSpace b ++ escape hasSpace rest).map plusToSpace) = _
    rw [List.map_append, unescape_escapeByte, ih]

end Form

end Courier
