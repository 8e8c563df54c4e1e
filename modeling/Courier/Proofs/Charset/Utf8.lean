import Courier.Charset.Unicode

/-!
# UTF-8, written and read

A character is written as a first byte, which tells how many bytes follow and between which bounds the
first of them lies, and the bytes that follow. The reader takes exactly these bytes and gives the
character back, whatever stands behind them (`readUtf8_char`), so that a text is read as it was written
(`readUtf8_utf8Bytes`).
-/

namespace Courier.Charset

/-! ## Bytes that follow

A byte that follows carries six bits of the character. -/

/-- The byte that carries six bits. -/
def tailByte (n : Nat) : UInt8 := UInt8.ofNat (n % 0x40 + 0x80)

theorem tailByte_toNat (n : Nat) : (tailByte n).toNat = n % 0x40 + 0x80 :=
  UInt8.toNat_ofNat_of_lt' (show _ < 256 by omega)

theorem tailByte_between {n lo hi : Nat} (hlo : lo ≤ n % 0x40 + 0x80) (hhi : n % 0x40 + 0x80 ≤ hi)
    (hlo' : lo < 256) (hhi' : hi < 256) :
    UInt8.ofNat lo ≤ tailByte n ∧ tailByte n ≤ UInt8.ofNat hi := by
  rw [UInt8.le_iff_toNat_le, UInt8.le_iff_toNat_le, tailByte_toNat, UInt8.toNat_ofNat_of_lt' hlo',
    UInt8.toNat_ofNat_of_lt' hhi']
  exact ⟨hlo, hhi⟩

/-- `takeTail` takes a byte within its bounds; the bytes after it have the full range. -/
theorem takeTail_cons {n : Nat} {lo hi b : UInt8} (rest : Bytes) (h : lo ≤ b ∧ b ≤ hi) :
    takeTail (n + 1) lo hi (b :: rest) = b :: takeTail n 0x80 0xBF rest := by
  simp [takeTail, h.1, h.2]

theorem takeTail_tailByte (n k : Nat) (rest : Bytes) :
    takeTail (n + 1) 0x80 0xBF (tailByte k :: rest) = tailByte k :: takeTail n 0x80 0xBF rest :=
  have hbetween : UInt8.ofNat 0x80 ≤ tailByte k ∧ tailByte k ≤ UInt8.ofNat 0xBF :=
    tailByte_between (by omega) (by omega) (by omega) (by omega)
  takeTail_cons rest hbetween

/-! ## First bytes

What a first byte asks of the byte after it. The bounds are narrower where a shorter form, a surrogate
or a number beyond the last character would begin. -/

/-- First bytes of two-byte forms; `decide` goes through them. -/
theorem continuation?_two : ∀ k < 0x20, 2 ≤ k →
    continuation? (UInt8.ofNat (k + 0xc0)) = some (1, 0x80, 0xBF) := by
  decide

/-- First bytes of three-byte forms. `E0` would begin shorter forms below `A0`, and `ED` surrogates above
`9F`. -/
theorem continuation?_three : ∀ k < 0x10,
    continuation? (UInt8.ofNat (k + 0xe0)) =
      some (2, UInt8.ofNat (if k = 0 then 0xA0 else 0x80),
        UInt8.ofNat (if k = 0xd then 0x9F else 0xBF)) := by
  decide

/-- First bytes of four-byte forms. `F0` would begin shorter forms below `90`, and `F4` ends at `8F`. -/
theorem continuation?_four : ∀ k < 5,
    continuation? (UInt8.ofNat (k + 0xf0)) =
      some (3, UInt8.ofNat (if k = 0 then 0x90 else 0x80),
        UInt8.ofNat (if k = 4 then 0x8F else 0xBF)) := by
  decide

/-- `utf8Item` gives a character if the first byte is followed by what `continuation?` asks for. -/
theorem utf8Item_tail {b : UInt8} {tail rest : Bytes} {count : Nat} {lo hi : UInt8} {c : Char}
    (hc : continuation? b = some (count, lo, hi)) (hb : 0x80 ≤ b.toNat)
    (ht : takeTail count lo hi (tail ++ rest) = tail) (hlen : tail.length = count)
    (hcode : codePoint b tail = c.toNat) :
    utf8Item b (tail ++ rest) = (some c, tail.length) := by
  have hbig : ¬ b < 0x80 := by
    rw [UInt8.lt_iff_toNat_lt]
    exact Nat.not_lt.mpr hb
  unfold utf8Item
  rw [if_neg hbig, hc]
  simp only [ht, hlen, hcode, Char.ofNat_toNat, if_true]

/-! ## One character -/

/-- `String.utf8EncodeChar` by the size of the number. ASCII is one byte. -/
theorem utf8EncodeChar_one {c : Char} (h : c.toNat ≤ 0x7f) :
    String.utf8EncodeChar c = [UInt8.ofNat c.toNat] := by
  unfold String.utf8EncodeChar
  exact if_pos h

/-- Two bytes carry five bits and six. -/
theorem utf8EncodeChar_two {c : Char} (hlo : 0x7f < c.toNat) (hhi : c.toNat ≤ 0x7ff) :
    String.utf8EncodeChar c = [UInt8.ofNat (c.toNat / 0x40 % 0x20 + 0xc0), tailByte c.toNat] := by
  unfold String.utf8EncodeChar
  exact (if_neg (Nat.not_le.mpr hlo)).trans (if_pos hhi)

/-- Three bytes carry four bits and twice six. -/
theorem utf8EncodeChar_three {c : Char} (hlo : 0x7ff < c.toNat) (hhi : c.toNat ≤ 0xffff) :
    String.utf8EncodeChar c =
      [UInt8.ofNat (c.toNat / 0x1000 % 0x10 + 0xe0), tailByte (c.toNat / 0x40), tailByte c.toNat] := by
  unfold String.utf8EncodeChar
  have hone : ¬ c.toNat ≤ 0x7f := by omega
  exact ((if_neg hone).trans (if_neg (Nat.not_le.mpr hlo))).trans (if_pos hhi)

/-- Four bytes carry three bits and three times six. -/
theorem utf8EncodeChar_four {c : Char} (hlo : 0xffff < c.toNat) :
    String.utf8EncodeChar c =
      [UInt8.ofNat (c.toNat / 0x40000 % 0x08 + 0xf0), tailByte (c.toNat / 0x1000),
        tailByte (c.toNat / 0x40), tailByte c.toNat] := by
  unfold String.utf8EncodeChar
  have hone : ¬ c.toNat ≤ 0x7f := by omega
  have htwo : ¬ c.toNat ≤ 0x7ff := by omega
  exact (((if_neg hone).trans (if_neg htwo)).trans (if_neg (Nat.not_le.mpr hlo)))

/-- A byte below 128 stands for the character of its number, and in no form of another one: in the longer
forms all bytes are from 128 on. -/
theorem toNat_of_mem_utf8EncodeChar {c : Char} {b : UInt8} (h : b ∈ String.utf8EncodeChar c)
    (hb : b.toNat < 0x80) : c.toNat = b.toNat := by
  rcases Nat.lt_or_ge 0x7f c.toNat with h₁ | h₁
  · -- every byte of a longer form is 128 at least
    have htail : ∀ n, b ≠ tailByte n := by
      rintro n rfl
      rw [tailByte_toNat] at hb
      omega
    have hlead : ∀ n, 0x80 ≤ n → n < 256 → b ≠ UInt8.ofNat n := by
      rintro n hn hlt rfl
      rw [UInt8.toNat_ofNat_of_lt' hlt] at hb
      omega
    rcases Nat.lt_or_ge 0x7ff c.toNat with h₂ | h₂
    · rcases Nat.lt_or_ge 0xffff c.toNat with h₃ | h₃
      · rw [utf8EncodeChar_four h₃] at h
        simp only [List.mem_cons, List.not_mem_nil, htail, or_false] at h
        exact absurd h (hlead _ (by omega) (by omega))
      · rw [utf8EncodeChar_three h₂ h₃] at h
        simp only [List.mem_cons, List.not_mem_nil, htail, or_false] at h
        exact absurd h (hlead _ (by omega) (by omega))
    · rw [utf8EncodeChar_two h₁ h₂] at h
      simp only [List.mem_cons, List.not_mem_nil, htail, or_false] at h
      exact absurd h (hlead _ (by omega) (by omega))
  · rw [utf8EncodeChar_one h₁, List.mem_singleton] at h
    rw [h]
    exact (UInt8.toNat_ofNat_of_lt' (show _ < 256 by omega)).symm

/-- The bytes of a character are one item, whatever stands behind them. -/
def ReadsAs (bytes : Bytes) (c : Char) : Prop :=
  ∃ b tail, bytes = b :: tail ∧ ∀ rest, utf8Item b (tail ++ rest) = (some c, tail.length)

/-- The first byte is below 128, so `utf8Item` asks for no other. -/
theorem readsAs_one {c : Char} (h : c.toNat ≤ 0x7f) : ReadsAs (String.utf8EncodeChar c) c := by
  have hlead : (UInt8.ofNat c.toNat).toNat = c.toNat :=
    UInt8.toNat_ofNat_of_lt' (show _ < 256 by omega)
  have hsmall : UInt8.ofNat c.toNat < 0x80 := by
    rw [UInt8.lt_iff_toNat_lt, hlead]
    exact Nat.lt_succ_of_le h
  refine ⟨_, _, utf8EncodeChar_one h, fun rest => ?_⟩
  unfold utf8Item
  rw [if_pos hsmall, hlead, Char.ofNat_toNat]
  rfl

/-- By `continuation?_two` one byte follows, and `utf8Item_tail` takes it; the number is put together again
by `omega`. -/
theorem readsAs_two {c : Char} (hlo : 0x7f < c.toNat) (hhi : c.toNat ≤ 0x7ff) :
    ReadsAs (String.utf8EncodeChar c) c := by
  have hk : c.toNat / 0x40 % 0x20 < 0x20 := by omega
  have hlead : (UInt8.ofNat (c.toNat / 0x40 % 0x20 + 0xc0)).toNat =
      c.toNat / 0x40 % 0x20 + 0xc0 := UInt8.toNat_ofNat_of_lt' (show _ < 256 by omega)
  refine ⟨_, _, utf8EncodeChar_two hlo hhi, fun rest => ?_⟩
  refine utf8Item_tail (continuation?_two _ hk (by omega)) (by omega)
    (takeTail_tailByte 0 c.toNat rest) rfl ?_
  unfold codePoint
  simp only [List.length_singleton, List.foldl_cons, List.foldl_nil, if_true, hlead,
    tailByte_toNat]
  omega

/-- By `continuation?_three`. That the second byte is within its bounds is where surrogates are excluded. -/
theorem readsAs_three {c : Char} (hlo : 0x7ff < c.toNat) (hhi : c.toNat ≤ 0xffff) :
    ReadsAs (String.utf8EncodeChar c) c := by
  have hvalid : c.toNat < 0xd800 ∨ 0xdfff < c.toNat ∧ c.toNat < 0x110000 := c.valid
  have hk : c.toNat / 0x1000 % 0x10 < 0x10 := by omega
  have hlead : (UInt8.ofNat (c.toNat / 0x1000 % 0x10 + 0xe0)).toNat =
      c.toNat / 0x1000 % 0x10 + 0xe0 := UInt8.toNat_ofNat_of_lt' (show _ < 256 by omega)
  refine ⟨_, _, utf8EncodeChar_three hlo hhi, fun rest => ?_⟩
  refine utf8Item_tail (continuation?_three _ hk) (by omega) ?_ rfl ?_
  · rw [List.cons_append, takeTail_cons _ (tailByte_between ?_ ?_ ?_ ?_), List.cons_append,
      takeTail_tailByte]
    · rfl
    -- the narrow bounds leave out short forms and surrogates, which no character is
    all_goals split <;> omega
  · simp only [codePoint, List.length_cons, List.length_nil, List.foldl_cons, List.foldl_nil,
      hlead, tailByte_toNat, Nat.reduceAdd, Nat.reduceEqDiff, if_false, if_true]
    omega

/-- By `continuation?_four`. The last character, `10FFFF`, is where the upper bound comes from. -/
theorem readsAs_four {c : Char} (h : 0xffff < c.toNat) : ReadsAs (String.utf8EncodeChar c) c := by
  have hvalid : c.toNat < 0xd800 ∨ 0xdfff < c.toNat ∧ c.toNat < 0x110000 := c.valid
  have hk : c.toNat / 0x40000 % 0x08 < 5 := by omega
  have hlead : (UInt8.ofNat (c.toNat / 0x40000 % 0x08 + 0xf0)).toNat =
      c.toNat / 0x40000 % 0x08 + 0xf0 := UInt8.toNat_ofNat_of_lt' (show _ < 256 by omega)
  refine ⟨_, _, utf8EncodeChar_four h, fun rest => ?_⟩
  refine utf8Item_tail (continuation?_four _ hk) (by omega) ?_ rfl ?_
  · rw [List.cons_append, takeTail_cons _ (tailByte_between ?_ ?_ ?_ ?_), List.cons_append,
      takeTail_tailByte, List.cons_append, takeTail_tailByte]
    · rfl
    -- the narrow bounds leave out short forms and numbers beyond the last character
    all_goals split <;> omega
  · simp only [codePoint, List.length_cons, List.length_nil, List.foldl_cons, List.foldl_nil,
      hlead, tailByte_toNat, Nat.reduceAdd, Nat.reduceEqDiff, if_false]
    omega

/-- **Each character is read back from its bytes**, of which there are one to four. -/
theorem readsAs_utf8EncodeChar (c : Char) : ReadsAs (String.utf8EncodeChar c) c := by
  rcases Nat.lt_or_ge 0x7f c.toNat with h₁ | h₁
  · rcases Nat.lt_or_ge 0x7ff c.toNat with h₂ | h₂
    · rcases Nat.lt_or_ge 0xffff c.toNat with h₃ | h₃
      · exact readsAs_four h₃
      · exact readsAs_three h₂ h₃
    · exact readsAs_two h₁ h₂
  · exact readsAs_one h₁

/-! ## A text -/

/-- The reader takes one character off and goes on: `readsAs_utf8EncodeChar` under `readUtf8`. -/
theorem readUtf8_char (c : Char) (rest : Bytes) :
    readUtf8 (String.utf8EncodeChar c ++ rest) = some c :: readUtf8 rest := by
  obtain ⟨b, tail, hc, hitem⟩ := readsAs_utf8EncodeChar c
  rw [hc, List.cons_append, readUtf8, hitem]
  show some c :: readUtf8 ((tail ++ rest).drop tail.length) = _
  rw [List.drop_left]

/-- **A text in UTF-8 is read as it was written.** -/
theorem readUtf8_utf8Bytes (cs : List Char) : readUtf8 (utf8Bytes cs) = cs.map some := by
  induction cs with
  | nil =>
    show readUtf8 [] = []
    rw [readUtf8]
  | cons c cs ih =>
    show readUtf8 (String.utf8EncodeChar c ++ utf8Bytes cs) = _
    rw [readUtf8_char, ih, List.map_cons]

end Courier.Charset
