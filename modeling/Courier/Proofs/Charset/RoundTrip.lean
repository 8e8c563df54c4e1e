import Courier.Charset.Coding
import Courier.Proofs.Charset.Utf8

/-!
# Texts written and read back

In UTF-8, Latin-1 and ASCII the characters that can be written are the first ones of Unicode, up to a
number. A text that is written and read back is the text with a question mark for each character from
that number on (`decodeText_encodeText`).
-/

namespace Courier

open Charset

/-- The number of characters that a charset has, where these are the first ones of Unicode. -/
def Codec.repertoire? : Codec → Option Nat
  | .utf8 => some 0x110000
  | .latin1 => some 0x100
  | .usAscii => some 0x80
  | _ => none

/-- A question mark for a character beyond a repertoire; other characters stay. -/
def replaceBeyond (size : Nat) (c : Char) : Char :=
  if c.toNat < size then c else '?'

/-- A text with question marks for the characters beyond a repertoire. -/
def replaceText (size : Nat) (text : String) : String :=
  String.ofList (text.toList.map (replaceBeyond size))

theorem toNat_lt_last (c : Char) : c.toNat < 0x110000 := by
  have hvalid : c.toNat < 0xd800 ∨ 0xdfff < c.toNat ∧ c.toNat < 0x110000 := c.valid
  omega

theorem replaceText_whole (text : String) : replaceText 0x110000 text = text := by
  have hsame : ∀ c, replaceBeyond 0x110000 c = c := fun c => if_pos (toNat_lt_last c)
  unfold replaceText
  rw [List.map_congr_left fun c _ => hsame c, List.map_id', String.ofList_toList]

/-- What stays is below the repertoire, and so is the question mark, number 63. -/
theorem replaceBeyond_lt {size : Nat} (hsize : 0x3F < size) (c : Char) :
    (replaceBeyond size c).toNat < size := by
  unfold replaceBeyond
  split
  · assumption
  · exact hsize

/-! ## One byte for each character -/

/-- The byte that `encodeBy` writes for a character under a limit is the number of `replaceBeyond`. -/
theorem belowLimit_getD {size : Nat} (hsize : 0x3F < size) (c : Char) :
    (belowLimit size c).getD ((belowLimit size '?').getD 63) =
      (replaceBeyond size c).toNat.toUInt8 := by
  have hmark : belowLimit size '?' = some 63 := if_pos hsize
  rw [hmark]
  unfold belowLimit replaceBeyond
  split <;> rfl

theorem encodeBy_belowLimit {size : Nat} (hsize : 0x3F < size) (cs : List Char) :
    encodeBy (belowLimit size) cs = cs.map fun c => (replaceBeyond size c).toNat.toUInt8 := by
  unfold encodeBy
  exact List.map_congr_left fun c _ => belowLimit_getD hsize c

/-- Reading each byte as the character with its number undoes `encodeBy (belowLimit size)`, but for the
question marks. -/
theorem map_encodeBy_belowLimit {size : Nat} (hsize : 0x3F < size) {read : UInt8 → Option Char}
    (hread : ∀ n < size, read n.toUInt8 = some (Char.ofNat n)) (cs : List Char) :
    (encodeBy (belowLimit size) cs).map read = cs.map fun c => some (replaceBeyond size c) := by
  rw [encodeBy_belowLimit hsize, List.map_map]
  refine List.map_congr_left fun c _ => ?_
  rw [Function.comp_apply, hread _ (replaceBeyond_lt hsize c), Char.ofNat_toNat]

/-! ## A whole text -/

/-- **Reading what was written gives the text with its question marks, and leaves no byte over.** -/
theorem Codec.decodeWith_encode {codec : Codec} {size : Nat} (hsize : codec.repertoire? = some size)
    (own : PlatformCodec → Bytes → Except String Decoded) (refused : String → DecodeFault)
    (cs : List Char) :
    ∃ bytes, codec.encode? cs = some bytes ∧
      codec.decodeWith own refused bytes =
        .ok (.ofItems (cs.map fun c => some (replaceBeyond size c))) := by
  cases codec <;> cases hsize
  -- UTF-8 writes every character, so nothing is replaced; the other two write one byte for each
  case utf8 =>
    have hsame : ∀ c ∈ cs, some (replaceBeyond 0x110000 c) = some c :=
      fun c _ => congrArg some (if_pos (toNat_lt_last c))
    refine ⟨_, rfl, ?_⟩
    rw [List.map_congr_left hsame]
    show Except.ok (Decoded.ofItems (readUtf8 (utf8Bytes cs))) = _
    rw [readUtf8_utf8Bytes]
  case usAscii =>
    refine ⟨_, rfl, congrArg (fun items => Except.ok (Decoded.ofItems items))
      (map_encodeBy_belowLimit (by decide) (fun n hn => ?_) cs)⟩
    have hbyte : n.toUInt8.toNat = n := UInt8.toNat_ofNat_of_lt' (show n < 256 by omega)
    have hascii : n.toUInt8 < 0x80 := by
      rw [UInt8.lt_iff_toNat_lt, hbyte]
      exact hn
    rw [if_pos hascii, hbyte]
  case latin1 =>
    refine ⟨_, rfl, congrArg (fun items => Except.ok (Decoded.ofItems items))
      (map_encodeBy_belowLimit (by decide) (fun n hn => ?_) cs)⟩
    have hbyte : n.toUInt8.toNat = n := UInt8.toNat_ofNat_of_lt' hn
    rw [hbyte]

theorem Decoded.ofItems_some (cs : List Char) :
    Decoded.ofItems (cs.map some) = ⟨cs.map .char, true⟩ := by
  have htext : (cs.map some).map (fun item => CodePoint.char (item.getD CodePoint.replacement)) =
      cs.map .char := by
    rw [List.map_map]
    rfl
  have hclean : (cs.map some).all (·.isSome) = true := by simp
  unfold Decoded.ofItems
  rw [htext, hclean]

theorem Decoded.characters_ofString (text : String) (clean : Bool) :
    (Decoded.mk (CodePoint.ofString text) clean).characters = text.toList := by
  unfold Decoded.characters CodePoint.ofString
  rw [List.map_map]
  exact List.map_id _

/-- A codec of a known repertoire reads no bytes as the empty text alone. -/
theorem eq_nil_of_decodeWith_nil {codec : Codec} {size : Nat}
    (hsize : codec.repertoire? = some size) {own : PlatformCodec → Bytes → Except String Decoded}
    {refused : String → DecodeFault} {cs : List Char}
    (h : codec.decodeWith own refused [] = .ok (.ofItems (cs.map some))) : cs = [] := by
  rw [Decoded.ofItems_some] at h
  cases codec <;> cases hsize <;> simp [Codec.decodeWith, Decoded.ofItems, readUtf8] at h <;>
    exact h

variable [Platform]

/-- `Codec.lookupText` looks a name up (`Codec.no_nul_of_lookup`). -/
theorem no_nul_of_lookupText {charset : String} {codec : Codec}
    (h : Codec.lookupText charset = .ok codec) :
    charset.toList.contains (Char.ofNat 0) = false := by
  unfold Codec.lookupText Codec.lookup at h
  cases hnul : charset.toList.contains (Char.ofNat 0) with
  | false => rfl
  | true =>
    rw [hnul] at h
    cases h

/-- `decodeText` of no bytes is no text, in every charset for text. -/
theorem decodeText_nil {charset : String} {codec : Codec}
    (h : Codec.lookupText charset = .ok codec) : decodeText charset [] = .ok ⟨[], true⟩ := by
  unfold decodeText
  rw [no_nul_of_lookupText h]
  rfl

/-- **A text that was written is read as itself, but for what the charset lacks.** -/
theorem decodeText_encodeText {charset : String} {codec : Codec} {size : Nat}
    (hcharset : Codec.lookupText charset = .ok codec) (hsize : codec.repertoire? = some size)
    (text : String) :
    ∃ bytes, encodeText charset text = .ok bytes ∧
      decodeText charset bytes = .ok ⟨CodePoint.ofString (replaceText size text), true⟩ := by
  obtain ⟨bytes, hbytes, hread⟩ := Codec.decodeWith_encode hsize (·.readWhole)
    (.charset ∘ .refuses charset false) text.toList
  have hitems : text.toList.map (fun c => some (replaceBeyond size c)) =
      (replaceText size text).toList.map some := by
    unfold replaceText
    rw [String.toList_ofList, List.map_map]
    rfl
  rw [hitems] at hread
  refine ⟨bytes, ?_, ?_⟩
  · unfold encodeText
    rw [hcharset]
    simp only [hbytes]
  · -- no bytes are read without the codec, which would have read them as the same text
    cases bytes with
    | nil =>
      unfold CodePoint.ofString
      rw [eq_nil_of_decodeWith_nil hsize hread, decodeText_nil hcharset]
      rfl
    | cons b rest =>
      unfold decodeText
      rw [no_nul_of_lookupText hcharset, hcharset]
      show codec.decodeWith _ _ (b :: rest) = _
      rw [hread, Decoded.ofItems_some]
      rfl

end Courier
