import Courier.Charset.Coding
import Mathlib.Data.List.DropRight
import Mathlib.Data.List.GetD
import Mathlib.Data.List.TakeDrop

/-!
# Streams that are not read

A stream that has ended is read as text in any codec, unless there is a reason against it: its units have no
order, a byte beyond ASCII stands behind its last hyphen, the codec reads none at all, or it is one of the
platform that refuses this one. `Codec.Refuses` has a rule for each reason and tells it by the bytes. Main
statement: `Codec.decodeStream_error_iff`, by cases on the codec.
-/

namespace Courier

namespace Charset

/-! ## Marks of the byte order -/

/-- By the first two bytes: an order is found exactly where one of the two marks is a prefix. -/
theorem utf16Order?_isNone (bytes : Bytes) :
    (utf16Order? bytes).isNone ↔ ¬ [0xFF, 0xFE] <+: bytes ∧ ¬ [0xFE, 0xFF] <+: bytes := by
  constructor
  · intro h
    constructor <;>
    · rintro ⟨rest, rfl⟩
      cases h
  · rintro ⟨hlittle, hbig⟩
    unfold utf16Order?
    split
    · next rest => exact absurd ⟨rest, rfl⟩ hlittle
    · next rest => exact absurd ⟨rest, rfl⟩ hbig
    · rfl

/-- By the first four bytes, for the two marks of UTF-32. -/
theorem utf32Order?_isNone (bytes : Bytes) :
    (utf32Order? bytes).isNone ↔ ¬ [0xFF, 0xFE, 0, 0] <+: bytes ∧ ¬ [0, 0, 0xFE, 0xFF] <+: bytes := by
  constructor
  · intro h
    constructor <;>
    · rintro ⟨rest, rfl⟩
      cases h
  · rintro ⟨hlittle, hbig⟩
    unfold utf32Order?
    split
    · next rest => exact absurd ⟨rest, rfl⟩ hlittle
    · next rest => exact absurd ⟨rest, rfl⟩ hbig
    · rfl

/-! ## Behind the last hyphen -/

/-- What stands before the last hyphen, up to it: nothing, or something that ends in a hyphen. -/
def UpToHyphen (front : Bytes) : Prop :=
  ∀ hne : front ≠ [], front.getLast hne = 45

/-- `splitLastHyphen` works on the reversed bytes; its second part is `List.rtakeWhile`. -/
theorem splitLastHyphen_snd (bytes : Bytes) :
    (splitLastHyphen bytes).2 = bytes.rtakeWhile (· ≠ 45) := by
  unfold splitLastHyphen List.rtakeWhile
  rw [List.span_eq_takeWhile_dropWhile]
  split
  · next after _ before hspan => rw [← (Prod.mk.inj hspan).1]
  · next after hspan => rw [← (Prod.mk.inj hspan).1]

/-- **The part behind the last hyphen is the one that has no hyphen and that a hyphen, if anything, stands
before.** -/
theorem splitLastHyphen_snd_iff {bytes tail : Bytes} :
    (splitLastHyphen bytes).2 = tail ↔
      ∃ front, bytes = front ++ tail ∧ UpToHyphen front ∧ 45 ∉ tail := by
  rw [splitLastHyphen_snd]
  constructor
  · rintro rfl
    refine ⟨bytes.rdropWhile (· ≠ 45), List.rdropWhile_append_rtakeWhile.symm, fun hne => ?_, ?_⟩
    · simpa using List.rdropWhile_last_not _ bytes hne
    · intro hmem
      simpa using List.mem_rtakeWhile_imp hmem
  · rintro ⟨front, rfl, hfront, htail⟩
    -- from the right the scan takes all of `tail` and stops at the hyphen `front` ends in
    have hnone : front.rtakeWhile (· ≠ 45) = [] := by
      rw [List.rtakeWhile_eq_nil_iff]
      intro hne
      simpa using hfront hne
    have hall : ∀ b ∈ tail.reverse, decide (b ≠ 45) = true := by
      intro b hb
      rw [decide_eq_true_eq]
      rintro rfl
      exact htail (List.mem_reverse.mp hb)
    rw [List.rtakeWhile, List.reverse_append, List.takeWhile_append_of_pos hall, List.reverse_append,
      List.reverse_reverse]
    exact congrArg (· ++ tail) hnone

end Charset

open Charset

/-- The byte found is the first one beyond ASCII, and its place the number of those before it
(`List.findIdx?_eq_some_iff_getElem`). -/
theorem firstNonAscii?_eq_some {bytes : Bytes} {byte : UInt8} {place : Nat} :
    firstNonAscii? bytes = some (byte, place) ↔
      ∃ before after, bytes = before ++ byte :: after ∧ before.length = place ∧
        (∀ b ∈ before, b < 0x80) ∧ 0x80 ≤ byte := by
  unfold firstNonAscii?
  constructor
  · intro h
    obtain ⟨i, hi, heq⟩ := Option.map_eq_some_iff.mp h
    obtain ⟨hlt, hbeyond, hbefore⟩ := List.findIdx?_eq_some_iff_getElem.mp hi
    rw [List.getD_eq_getElem _ _ hlt] at heq
    obtain ⟨rfl, rfl⟩ := Prod.mk.inj heq
    -- the index found splits the bytes into what stands before and behind it
    refine ⟨bytes.take i, bytes.drop (i + 1), ?_, List.length_take_of_le hlt.le, ?_,
      of_decide_eq_true hbeyond⟩
    · rw [List.cons_getElem_drop_succ, List.take_append_drop]
    · intro b hb
      obtain ⟨j, hj, rfl⟩ := List.mem_iff_getElem.mp hb
      rw [List.length_take] at hj
      rw [List.getElem_take]
      simpa using hbefore j (by omega)
  · rintro ⟨before, after, rfl, rfl, hbefore, hbeyond⟩
    have hfind : (before ++ byte :: after).findIdx? (0x80 ≤ ·) = some before.length := by
      rw [List.findIdx?_append, List.findIdx?_eq_none_iff.mpr (by simpa using hbefore),
        List.findIdx?_cons, if_pos (decide_eq_true hbeyond)]
      simp
    rw [hfind]
    simp

/-- Of all the steps of `decodePunycode` only the check of the part behind the last hyphen can fail. -/
theorem decodePunycode_error_iff {bytes : Bytes} {fault : DecodeFault} :
    decodePunycode bytes = .error fault ↔
      ∃ byte place, firstNonAscii? (splitLastHyphen bytes).2 = some (byte, place) ∧
        fault = .notAscii byte place := by
  unfold decodePunycode
  cases firstNonAscii? (splitLastHyphen bytes).2 with
  | none => simp
  | some found =>
    obtain ⟨byte, place⟩ := found
    simp [eq_comm]

/-! ## Reasons -/

/-- Why a stream is not read in a codec. -/
inductive Codec.Refuses (bytes : Bytes) : Codec → DecodeFault → Prop where
  /-- There is a unit of sixteen bits, and no mark tells the order of its bytes. -/
  | unmarked16 (hunit : 2 ≤ bytes.length) (hlittle : ¬ [0xFF, 0xFE] <+: bytes)
      (hbig : ¬ [0xFE, 0xFF] <+: bytes) : Refuses bytes .utf16 (.noByteOrderMark 16)
  /-- The same with thirty-two bits. -/
  | unmarked32 (hunit : 4 ≤ bytes.length) (hlittle : ¬ [0xFF, 0xFE, 0, 0] <+: bytes)
      (hbig : ¬ [0, 0, 0xFE, 0xFF] <+: bytes) : Refuses bytes .utf32 (.noByteOrderMark 32)
  /-- There is a byte beyond ASCII behind the last hyphen; the first one is told with its place there. -/
  | beyondAscii {front before after : Bytes} {byte : UInt8}
      (hbytes : bytes = front ++ (before ++ byte :: after)) (hfront : UpToHyphen front)
      (hlast : 45 ∉ before ++ byte :: after) (hbefore : ∀ b ∈ before, b < 0x80)
      (hbeyond : 0x80 ≤ byte) : Refuses bytes .punycode (.notAscii byte before.length)
  /-- The codec refuses every stream. -/
  | always : Refuses bytes .undefined (.streamRefused "undefined encoding")
  /-- The codec makes bytes of bytes and does not let errors pass. -/
  | strict {codec : Codec} (hcodec : codec ∈ [.hex, .base64, .bz2, .zlib, .uu, .quopri]) :
      Refuses bytes codec .strictOnly
  /-- The codec makes text of text. -/
  | rotation : Refuses bytes .rot13 .textOnly
  /-- The codec is one of the platform and says so itself. -/
  | own {codec : PlatformCodec} {reason : String} (hread : codec.readStream bytes = .error reason) :
      Refuses bytes (.platform codec) (.streamRefused reason)

theorem ite_error_iff {ε α : Type} {c : Prop} [Decidable c] {own fault : ε} {a : α} :
    (if c then .error own else .ok a : Except ε α) = .error fault ↔ c ∧ own = fault := by
  split <;> simp_all

/-- `decodeStream` asks for an order only where there are two bytes or more. -/
theorem Codec.decodeStream_utf16 {bytes : Bytes} {fault : DecodeFault} :
    Codec.utf16.decodeStream bytes = .error fault ↔
      ((¬ [0xFF, 0xFE] <+: bytes ∧ ¬ [0xFE, 0xFF] <+: bytes) ∧ 2 ≤ bytes.length) ∧
        .noByteOrderMark 16 = fault := by
  simp only [decodeStream, decodeWith, ite_error_iff, Bool.and_eq_true, utf16Order?_isNone,
    decide_eq_true_eq]

/-- `decodeStream` asks for an order where there are four bytes or more. -/
theorem Codec.decodeStream_utf32 {bytes : Bytes} {fault : DecodeFault} :
    Codec.utf32.decodeStream bytes = .error fault ↔
      ((¬ [0xFF, 0xFE, 0, 0] <+: bytes ∧ ¬ [0, 0, 0xFE, 0xFF] <+: bytes) ∧ 4 ≤ bytes.length) ∧
        .noByteOrderMark 32 = fault := by
  simp only [decodeStream, decodeWith, ite_error_iff, Bool.and_eq_true, utf32Order?_isNone,
    decide_eq_true_eq]

/-- **A stream has no text exactly if there is a reason for it.** -/
theorem Codec.decodeStream_error_iff {codec : Codec} {bytes : Bytes} {fault : DecodeFault} :
    codec.decodeStream bytes = .error fault ↔ Refuses bytes codec fault := by
  constructor
  · intro h
    -- the codecs that refuse some bytes come first; of the rest some refuse all, and the others none
    cases codec
    case utf16 =>
      obtain ⟨⟨⟨hlittle, hbig⟩, hunit⟩, rfl⟩ := decodeStream_utf16.mp h
      exact .unmarked16 hunit hlittle hbig
    case utf32 =>
      obtain ⟨⟨⟨hlittle, hbig⟩, hunit⟩, rfl⟩ := decodeStream_utf32.mp h
      exact .unmarked32 hunit hlittle hbig
    case punycode =>
      obtain ⟨byte, place, hfirst, rfl⟩ := decodePunycode_error_iff.mp h
      obtain ⟨before, after, htail, rfl, hbefore, hbeyond⟩ := firstNonAscii?_eq_some.mp hfirst
      obtain ⟨front, hbytes, hfront, hlast⟩ := splitLastHyphen_snd_iff.mp htail
      exact .beyondAscii hbytes hfront hlast hbefore hbeyond
    case utf8Sig =>
      simp only [decodeStream] at h
      split at h <;> cases h
    case undefined => cases h; exact .always
    case rot13 => cases h; exact .rotation
    case platform own =>
      simp only [decodeStream, decodeWith] at h
      cases hread : own.readStream bytes with
      | ok decoded => simp [hread] at h
      | error reason =>
        simp only [hread, Except.error.injEq] at h
        subst h
        exact .own hread
    all_goals cases h
    all_goals exact .strict (by simp)
  · intro h
    cases h with
    | unmarked16 hunit hlittle hbig =>
      exact decodeStream_utf16.mpr ⟨⟨⟨hlittle, hbig⟩, hunit⟩, rfl⟩
    | unmarked32 hunit hlittle hbig =>
      exact decodeStream_utf32.mpr ⟨⟨⟨hlittle, hbig⟩, hunit⟩, rfl⟩
    | beyondAscii hbytes hfront hlast hbefore hbeyond =>
      have htail := splitLastHyphen_snd_iff.mpr ⟨_, hbytes, hfront, hlast⟩
      refine decodePunycode_error_iff.mpr ⟨_, _, ?_, rfl⟩
      rw [htail]
      exact firstNonAscii?_eq_some.mpr ⟨_, _, rfl, rfl, hbefore, hbeyond⟩
    | always => rfl
    | strict hcodec =>
      simp only [List.mem_cons, List.not_mem_nil, or_false] at hcodec
      obtain rfl | rfl | rfl | rfl | rfl | rfl := hcodec <;> rfl
    | rotation => rfl
    | own hread => simp only [decodeStream, decodeWith, hread]

/-- By the cases of `Codec.Refuses`: only Punycode is refused for a byte beyond ASCII. -/
theorem Codec.Refuses.punycode {codec : Codec} {bytes : Bytes} {byte : UInt8} {place : Nat}
    (h : codec.Refuses bytes (.notAscii byte place)) : codec = .punycode := by
  cases h
  rfl

end Courier
