import Courier.Proofs.Charset.Replace
import Courier.Proofs.Charset.Utf8
import Courier.Proofs.Text.Digit

/-!
# Charsets of part headers

A part header is written as one text, but it is read line by line (`LineCodec`). What a line is written
as is `lineBytes`, and `afterLine` is how the text behind it is written, which is the same way as before
for every codec that is described here. In a `MarkCodec` a line feed and a double quote are of the kind of
the carriage return too, so that values within a line can be told. The described codecs that keep the shape
of a header are of this kind (`Codec.markCodec_of_keeps`); that holds for UTF-7 too, where what a character
is written as depends on those before it. Of a codec of the platform only the first is known
(`lineCodec_of_headerCodec`): in some the byte of a double quote is a part of other characters.
-/

namespace Courier.Charset

/-! ## Characters of header lines -/

/-- What a header line is made of is direct in UTF-7 too. By the kinds of characters that `headerDirect`
admits. -/
theorem utf7Direct_of_headerDirect {c : Char} (h : headerDirect c = true) : utf7Direct c = true := by
  have hlisted : ∀ d ∈ "-\r\n:;=\" ".toList, utf7Direct d = true :=
    Text.forall_mem_of_all (by decide)
  unfold headerDirect at h
  rw [Bool.or_eq_true, List.contains_iff_mem] at h
  rcases h with halnum | hmem
  · -- letters and digits lie between the space and the backslash, or between that and the tilde
    have hne : ∀ d : Char, d.isAlphanum = false → c ≠ d := by
      rintro d hd rfl
      rw [hd] at halnum
      cases halnum
    obtain ⟨hlow, hhigh⟩ := Text.isAlphanum_range halnum
    unfold utf7Direct
    simp [hne '\\' (by decide), hne '~' (by decide), hne '+' (by decide)]
    omega
  · exact hlisted c hmem

/-- `utf7Direct` admits no number from 128 on. -/
theorem toNat_lt_of_utf7Direct {c : Char} (h : utf7Direct c = true) : c.toNat < 0x80 := by
  unfold utf7Direct at h
  simp only [Bool.or_eq_true, Bool.and_eq_true, beq_iff_eq, decide_eq_true_eq] at h
  omega

/-- Header characters are ASCII, through `utf7Direct_of_headerDirect`. -/
theorem toNat_lt_of_headerDirect {c : Char} (h : headerDirect c = true) : c.toNat < 0x80 :=
  toNat_lt_of_utf7Direct (utf7Direct_of_headerDirect h)

theorem byte_toNat {c : Char} (h : c.toNat < 0x80) : c.toNat.toUInt8.toNat = c.toNat :=
  UInt8.toNat_ofNat_of_lt' (show _ < 256 by omega)

theorem char_eq_of_toNat {c d : Char} (h : c.toNat = d.toNat) : c = d := by
  rw [← Char.ofNat_toNat c, h, Char.ofNat_toNat]

/-! ## Lines -/

/-- The characters that end a value or a line of a part header. -/
def marks : List Char := ['"', '\r', '\n']

/-- A way to write text in which a mark ends whatever was begun before it and stands for itself
alone. -/
structure MarkCodec (encode : List Char → Bytes) : Prop where
  nil : encode [] = []
  direct : ∀ c rest, headerDirect c = true → encode (c :: rest) = c.toNat.toUInt8 :: encode rest
  mark : ∀ x ∈ marks, ∀ s, ∃ bytes, (∀ y ∈ marks, y ∉ s → y.toNat.toUInt8 ∉ bytes) ∧
    ∀ rest, encode (s ++ x :: rest) = bytes ++ x.toNat.toUInt8 :: encode rest

/-- **A mark codec writes line by line**, and goes on after a line as it began. The family of ways to write
has the codec alone. -/
theorem MarkCodec.lineCodec {encode : List Char → Bytes} (h : MarkCodec encode) :
    LineCodec encode := by
  refine ⟨(· = encode), ⟨?_, ?_, ?_⟩, rfl⟩
  · rintro _ rfl
    exact h.nil
  · rintro _ rfl
    exact h.direct
  · rintro _ rfl s hs
    obtain ⟨bytes, hbytes, hmark⟩ := h.mark '\r' (by decide) s
    refine ⟨bytes, _, hbytes '\r' (by decide) hs, rfl, fun rest => ?_⟩
    rw [hmark, h.direct '\n' rest (by decide), List.append_assoc]
    rfl

/-- The bytes of a line: what is written before the carriage return behind it. -/
def lineBytes (encode : List Char → Bytes) (s : List Char) : Bytes :=
  (encode (s ++ ['\r', '\n'])).takeWhile (· ≠ 13)

/-- How what follows a line is written. -/
def afterLine (encode : List Char → Bytes) (s : List Char) : List Char → Bytes := fun rest =>
  (encode (s ++ '\r' :: '\n' :: rest)).drop ((lineBytes encode s).length + 2)

/-- The bytes of lines that are written one after the other. -/
def linesBytes (encode : List Char → Bytes) : List (List Char) → List Bytes
  | [] => []
  | s :: rest => lineBytes encode s :: linesBytes (afterLine encode s) rest

/-- `lineBytes` and `afterLine` are determined by any equation that splits what is written at the first
carriage return. -/
theorem line_eq {encode next : List Char → Bytes} {s : List Char} {bytes : Bytes} (hbytes : 13 ∉ bytes)
    (h : ∀ rest, encode (s ++ '\r' :: '\n' :: rest) = bytes ++ crlf ++ next rest) :
    lineBytes encode s = bytes ∧ afterLine encode s = next := by
  have hclean : ∀ b ∈ bytes, decide (b ≠ 13) = true := by
    intro b hb
    rw [decide_eq_true_eq]
    rintro rfl
    exact hbytes hb
  -- with nothing after it the line's bytes end at the first carriage return, which `bytes` does not hold
  have hsame : lineBytes encode s = bytes := by
    unfold lineBytes
    rw [h [], List.append_assoc, List.takeWhile_append_of_pos hclean]
    exact List.append_nil bytes
  refine ⟨hsame, ?_⟩
  funext rest
  have hlength : (lineBytes encode s).length + 2 = (bytes ++ crlf).length := by
    rw [hsame, List.length_append]
    rfl
  unfold afterLine
  rw [h, hlength, List.drop_left]

namespace LineCodec

variable {encode : List Char → Bytes} (h : LineCodec encode)
include h

/-- `LineCodec` at the empty text: nothing is written. -/
theorem nil : encode [] = [] := by
  obtain ⟨family, hfamily, hencode⟩ := h
  exact hfamily.nil encode hencode

theorem direct {c : Char} (hc : headerDirect c = true) (rest : List Char) :
    encode (c :: rest) = c.toNat.toUInt8 :: encode rest := by
  obtain ⟨family, hfamily, hencode⟩ := h
  exact hfamily.direct encode hencode c rest hc

/-- `direct` for a whole stretch of header characters. Induction on the stretch. -/
theorem direct_append {s : List Char} (hs : ∀ c ∈ s, headerDirect c = true) (rest : List Char) :
    encode (s ++ rest) = s.map (fun c => c.toNat.toUInt8) ++ encode rest := by
  induction s with
  | nil => rfl
  | cons c s ih =>
    rw [List.cons_append, h.direct (hs c List.mem_cons_self),
      ih fun d hd => hs d (List.mem_cons_of_mem _ hd)]
    rfl

/-- **A line is written before its line break, without a carriage return, whatever follows**, and what
follows is written line by line again. -/
theorem line_append {s : List Char} (hs : '\r' ∉ s) :
    13 ∉ lineBytes encode s ∧ LineCodec (afterLine encode s) ∧
      ∀ rest, encode (s ++ '\r' :: '\n' :: rest) =
        lineBytes encode s ++ crlf ++ afterLine encode s rest := by
  obtain ⟨family, hfamily, hencode⟩ := h
  obtain ⟨bytes, next, hbytes, hnext, hline⟩ := hfamily.line encode hencode s hs
  obtain ⟨hsame, hafter⟩ := line_eq hbytes hline
  rw [hsame, hafter]
  exact ⟨hbytes, ⟨family, hfamily, hnext⟩, hline⟩

/-- `lineBytes` of a line that begins with header characters begins with their bytes
(`LineCodec.direct_append`). -/
theorem lineBytes_append {start : List Char} (hstart : ∀ c ∈ start, headerDirect c = true)
    (hline : '\r' ∉ start) (s : List Char) :
    lineBytes encode (start ++ s) = start.map (fun c => c.toNat.toUInt8) ++ lineBytes encode s := by
  have hclean : ∀ b ∈ start.map fun c => c.toNat.toUInt8, decide (b ≠ 13) = true := by
    rw [List.forall_mem_map]
    intro c hc
    rw [decide_eq_true_eq]
    intro hbyte
    have hnat := congrArg UInt8.toNat hbyte
    rw [byte_toNat (toNat_lt_of_headerDirect (hstart c hc))] at hnat
    have hsame : c = '\r' := char_eq_of_toNat hnat
    exact hline (hsame ▸ hc)
  unfold lineBytes
  rw [List.append_assoc, h.direct_append hstart, List.takeWhile_append_of_pos hclean]

/-- A line that begins with a header character is written as something. -/
theorem lineBytes_ne_nil {c : Char} {s : List Char} (hc : headerDirect c = true) (hne : c ≠ '\r') :
    lineBytes encode (c :: s) ≠ [] := by
  have hstart : ∀ d ∈ [c], headerDirect d = true := List.forall_mem_singleton.mpr hc
  have hline : '\r' ∉ [c] := by
    rw [List.mem_singleton]
    exact hne.symm
  rw [← List.singleton_append, h.lineBytes_append hstart hline]
  exact List.cons_ne_nil _ _

end LineCodec

/-- For a `MarkCodec` `afterLine` is the codec again, so `linesBytes` writes each line as if it stood alone.
Induction on the lines. -/
theorem MarkCodec.linesBytes_eq {encode : List Char → Bytes} (h : MarkCodec encode)
    {lines : List (List Char)} (hlines : ∀ s ∈ lines, '\r' ∉ s) :
    linesBytes encode lines = lines.map (lineBytes encode) := by
  induction lines with
  | nil => rfl
  | cons s rest ih =>
    obtain ⟨bytes, hbytes, hmark⟩ := h.mark '\r' (by decide) s
    have hline : ∀ text, encode (s ++ '\r' :: '\n' :: text) = bytes ++ crlf ++ encode text := by
      intro text
      rw [hmark, h.direct '\n' text (by decide), List.append_assoc]
      rfl
    obtain ⟨-, hafter⟩ := line_eq (hbytes '\r' (by decide) (hlines s List.mem_cons_self)) hline
    rw [linesBytes, hafter, ih fun t ht => hlines t (List.mem_cons_of_mem _ ht)]
    rfl

/-! ## Character by character -/

/-- The three marks are header characters themselves; `decide` goes through them. -/
theorem marks_direct {x : Char} (hx : x ∈ marks) : headerDirect x = true := by
  have hall : ∀ x ∈ marks, headerDirect x = true := Text.forall_mem_of_all (by decide)
  exact hall x hx

theorem marks_lt {x : Char} (hx : x ∈ marks) : x.toNat < 0x80 :=
  toNat_lt_of_headerDirect (marks_direct hx)

/-- A codec that writes each character by itself is a `MarkCodec` if only the marks are written with the
bytes of marks. -/
theorem markCodec_flatMap {write : Char → Bytes}
    (hdirect : ∀ c, headerDirect c = true → write c = [c.toNat.toUInt8])
    (hmark : ∀ x ∈ marks, ∀ c, x.toNat.toUInt8 ∈ write c → c = x) :
    MarkCodec fun s => s.flatMap write where
  nil := rfl
  direct := by
    intro c rest hc
    rw [List.flatMap_cons, hdirect c hc]
    rfl
  mark := by
    intro x hx s
    refine ⟨s.flatMap write, ?_, ?_⟩
    · intro y hy hys hmem
      obtain ⟨c, hc, hwrite⟩ := List.mem_flatMap.mp hmem
      exact hys (hmark y hy c hwrite ▸ hc)
    · intro rest
      rw [List.flatMap_append, List.flatMap_cons, hdirect x (marks_direct hx)]
      rfl

/-- UTF-8 writes each character by itself, and no byte of another character is an ASCII one
(`toNat_of_mem_utf8EncodeChar`). -/
theorem markCodec_utf8 : MarkCodec utf8Bytes := by
  refine markCodec_flatMap ?_ ?_
  · intro c hc
    exact utf8EncodeChar_one (Nat.le_of_lt_succ (toNat_lt_of_headerDirect hc))
  · intro x hx c hmem
    have hbyte := byte_toNat (marks_lt hx)
    have hsmall : x.toNat.toUInt8.toNat < 0x80 := by
      rw [hbyte]
      exact marks_lt hx
    exact char_eq_of_toNat ((toNat_of_mem_utf8EncodeChar hmem hsmall).trans hbyte)

/-- A codec of one byte for each character is a `MarkCodec` if the bytes below 128 are ASCII; what it lacks
becomes a question mark. -/
theorem markCodec_encodeBy {byte? : Char → Option UInt8}
    (hascii : ∀ c, c.toNat < 0x80 → byte? c = some c.toNat.toUInt8)
    (hmark : ∀ x ∈ marks, ∀ c, byte? c = some x.toNat.toUInt8 → c.toNat = x.toNat) :
    MarkCodec (encodeBy byte?) := by
  have heq : encodeBy byte? = fun s => s.flatMap fun c => [(byte? c).getD 63] := by
    funext s
    unfold encodeBy
    rw [hascii '?' (by decide), List.map_eq_flatMap]
    rfl
  rw [heq]
  refine markCodec_flatMap ?_ ?_
  · intro c hc
    rw [hascii c (toNat_lt_of_headerDirect hc)]
    rfl
  · intro x hx c hmem
    rw [List.mem_singleton] at hmem
    cases hbyte : byte? c with
    | none =>
      -- the replacement is no mark
      have hreplacement : ∀ x ∈ marks, x.toNat.toUInt8 ≠ 63 := Text.forall_mem_of_all (by decide)
      rw [hbyte] at hmem
      exact absurd hmem (hreplacement x hx)
    | some b =>
      rw [hbyte, Option.getD_some] at hmem
      exact char_eq_of_toNat (hmark x hx c (hmem ▸ hbyte))

/-- `belowLimit` is ASCII or Latin-1: the byte of a character is its number, up to a limit. -/
theorem markCodec_belowLimit {limit : Nat} (hlo : 0x80 ≤ limit) (hhi : limit ≤ 0x100) :
    MarkCodec (encodeBy (belowLimit limit)) := by
  refine markCodec_encodeBy ?_ ?_
  · intro c hc
    exact if_pos (by omega)
  · intro x hx c hc
    unfold belowLimit at hc
    split at hc
    · next hlt =>
      have hbyte : c.toNat.toUInt8.toNat = c.toNat :=
        UInt8.toNat_ofNat_of_lt' (show _ < 256 by omega)
      rw [← hbyte, Option.some.inj hc, byte_toNat (marks_lt hx)]
    · cases hc

/-! ## Tables -/

/-- The lower half of a table `overAscii` holds the numbers themselves. -/
theorem overAscii_getElem? {upper : List Nat} {n : Nat} (h : n < 0x80) :
    (overAscii upper)[n]? = some n := by
  unfold overAscii
  rw [List.getElem?_append_left (by simpa using h), List.getElem?_range h]

/-- `byteOf?` finds a number below 128 at its own place first. -/
theorem byteOf?_overAscii {upper : List Nat} {n : Nat} (h : n < 0x80) :
    byteOf? (overAscii upper) n = some n.toUInt8 := by
  have hne : n ≠ unassigned := by
    unfold unassigned
    omega
  have hidx : (overAscii upper).idxOf? n = some n := by
    have hat : ∀ j < 0x80, (overAscii upper)[j]? = some j := fun j hj => overAscii_getElem? hj
    obtain ⟨hlt, hget⟩ := List.getElem?_eq_some_iff.mp (hat n h)
    refine List.idxOf?_eq_some_iff.mpr ⟨hlt, hget, fun j hj => ?_⟩
    obtain ⟨_, hget'⟩ := List.getElem?_eq_some_iff.mp (hat j (Nat.lt_trans hj h))
    rw [hget']
    exact Nat.ne_of_lt hj
  unfold byteOf?
  rw [if_neg hne, hidx]
  rfl

/-- Where the byte found is ASCII, the place lies in the lower half, and there place and entry are the same.
-/
theorem eq_of_byteOf?_overAscii {upper : List Nat} {n k : Nat} (hupper : upper.length ≤ 128)
    (hk : k < 0x80) (h : byteOf? (overAscii upper) n = some k.toUInt8) : n = k := by
  unfold byteOf? at h
  split at h
  · cases h
  · obtain ⟨i, hi, hbyte⟩ := Option.map_eq_some_iff.mp h
    obtain ⟨hlt, hget, -⟩ := List.idxOf?_eq_some_iff.mp hi
    -- the place found is a byte, so `toUInt8` loses nothing of it
    have hlen : i < 256 := by
      unfold overAscii at hlt
      simp only [List.length_append, List.length_range] at hlt
      omega
    have hik : i = k := by
      have hnat := congrArg UInt8.toNat hbyte
      rwa [show (Nat.toUInt8 i).toNat = i from UInt8.toNat_ofNat_of_lt' hlen,
        show (Nat.toUInt8 k).toNat = k from UInt8.toNat_ofNat_of_lt' (show _ < 256 by omega)] at hnat
    subst hik
    have hat : (overAscii upper)[i]? = some i := overAscii_getElem? hk
    obtain ⟨_, hget'⟩ := List.getElem?_eq_some_iff.mp hat
    exact hget.symm.trans hget'

/-- **A table over ASCII is a mark codec**, by `markCodec_encodeBy` and the two lookups above. -/
theorem markCodec_overAscii {upper : List Nat} (hupper : upper.length ≤ 128) :
    MarkCodec (encodeBy fun c => byteOf? (overAscii upper) c.toNat) :=
  markCodec_encodeBy (fun _ hc => byteOf?_overAscii hc)
    fun _ hx _ hc => eq_of_byteOf?_overAscii hupper (marks_lt hx) hc

/-! ## UTF-7

A mark ends an open run, and no digit of a run is one. -/

/-- The digits of Base64 are letters, figures, `+` and `/`; `decide` compares all 64 with each mark. -/
theorem base64Digit_ne_mark {x : Char} (hx : x ∈ marks) (n : Nat) :
    base64Digit n ≠ x.toNat.toUInt8 := by
  have hdigits : ∀ x ∈ marks, x.toNat.toUInt8 ∉ base64Digits :=
    Text.forall_mem_of_all (by decide +kernel)
  have hfirst : ∀ x ∈ marks, x.toNat.toUInt8 ≠ 65 := Text.forall_mem_of_all (by decide)
  unfold base64Digit
  rw [List.getD_eq_getElem?_getD]
  cases hget : base64Digits[n]? with
  | none => exact fun h => hfirst x hx h.symm
  | some b => exact fun h => hdigits x hx (h ▸ List.mem_of_getElem? hget)

variable {x : Char}

theorem finish_no_mark (hx : x ∈ marks) (run : Base64Run) : x.toNat.toUInt8 ∉ run.finish := by
  unfold Base64Run.finish
  split
  · exact List.not_mem_nil
  · rw [List.mem_singleton]
    exact fun h => base64Digit_ne_mark hx _ h.symm

theorem push_no_mark (hx : x ∈ marks) (run : Base64Run) (unit : Nat) :
    x.toNat.toUInt8 ∉ (run.push unit).1 := by
  unfold Base64Run.push
  intro h
  obtain ⟨k, -, hk⟩ := List.mem_map.mp h
  exact base64Digit_ne_mark hx _ hk

/-- A character in a run is one unit or two, each by `push_no_mark`. -/
theorem write_no_mark (hx : x ∈ marks) (run : Base64Run) (c : Char) :
    x.toNat.toUInt8 ∉ (run.write c).1 := by
  unfold Base64Run.write
  -- the units of the character go into the run one after the other
  refine List.foldlRecOn (motive := fun acc : Bytes × Base64Run => x.toNat.toUInt8 ∉ acc.1) _ _
    List.not_mem_nil fun acc h unit _ => ?_
  rw [List.mem_append, not_or]
  exact ⟨h, push_no_mark hx _ _⟩

/-- Two ASCII characters with one byte are one character (`char_eq_of_toNat`). -/
theorem direct_ne_mark (hx : x ∈ marks) {c : Char} (hc : utf7Direct c = true) (hne : x ≠ c) :
    x.toNat.toUInt8 ≠ c.toNat.toUInt8 := by
  intro h
  have hnat := congrArg UInt8.toNat h
  rw [byte_toNat (marks_lt hx), byte_toNat (toNat_lt_of_utf7Direct hc)] at hnat
  exact hne (char_eq_of_toNat hnat)

/-- **A character adds bytes to what is written after it, none of them another mark, and leaves a run
open or closed.** -/
theorem utf7From_step (run : Option Base64Run) (c : Char) :
    ∃ bytes next, (∀ x ∈ marks, x ≠ c → x.toNat.toUInt8 ∉ bytes) ∧
      ∀ rest, utf7From run (c :: rest) = bytes ++ utf7From next rest := by
  cases run with
  | none =>
    by_cases hplus : c = '+'
    · subst hplus
      have hsigns : ∀ x ∈ marks, x.toNat.toUInt8 ∉ [(43 : UInt8), 45] :=
        Text.forall_mem_of_all (by decide)
      exact ⟨[43, 45], none, fun x hx _ => hsigns x hx, fun rest => rfl⟩
    · by_cases hc : utf7Direct c = true
      · refine ⟨[c.toNat.toUInt8], none, fun x hx hne => ?_, fun rest => ?_⟩
        · rw [List.mem_singleton]
          exact direct_ne_mark hx hc hne
        · rw [utf7From, if_neg hplus, if_pos hc]
          rfl
      · -- the character opens a run, which a plus sign stands before
        have hplus' : ∀ x ∈ marks, x.toNat.toUInt8 ≠ 43 := Text.forall_mem_of_all (by decide)
        refine ⟨43 :: (Base64Run.write ⟨0, 0⟩ c).1, some (Base64Run.write ⟨0, 0⟩ c).2,
          fun x hx _ => ?_, fun rest => ?_⟩
        · rw [List.mem_cons, not_or]
          exact ⟨hplus' x hx, write_no_mark hx _ _⟩
        · rw [utf7From, if_neg hplus, if_neg hc]
  | some run =>
    by_cases hc : utf7Direct c = true
    · -- a minus sign stands behind the run if the character could be taken for a part of it
      obtain ⟨sign, hsign, hstep⟩ : ∃ sign : Bytes, (∀ x ∈ marks, x.toNat.toUInt8 ∉ sign) ∧ ∀ rest,
          utf7From (some run) (c :: rest) =
            run.finish ++ sign ++ c.toNat.toUInt8 :: utf7From none rest := by
        refine ⟨if (base64Value? c.toNat.toUInt8).isSome || c.toNat.toUInt8 = 45 then [45] else [],
          ?_, fun rest => ?_⟩
        · split
          · exact Text.forall_mem_of_all (by decide)
          · exact fun _ _ => List.not_mem_nil
        · rw [utf7From, if_pos hc]
      refine ⟨run.finish ++ sign ++ [c.toNat.toUInt8], none, fun x hx hne => ?_, fun rest => ?_⟩
      · rw [List.mem_append, List.mem_append, List.mem_singleton, not_or, not_or]
        exact ⟨⟨finish_no_mark hx run, hsign x hx⟩, direct_ne_mark hx hc hne⟩
      · rw [hstep, List.append_assoc _ [_]]
        rfl
    · refine ⟨(run.write c).1, some (run.write c).2, fun x hx _ => write_no_mark hx _ _,
        fun rest => ?_⟩
      rw [utf7From, if_neg hc]

/-- `utf7From` ends an open run at a mark, without a minus sign before it, and goes on with none. -/
theorem utf7From_mark_cons (hx : x ∈ marks) (run : Option Base64Run) :
    ∃ bytes, (∀ y ∈ marks, y.toNat.toUInt8 ∉ bytes) ∧
      ∀ rest, utf7From run (x :: rest) = bytes ++ x.toNat.toUInt8 :: utf7From none rest := by
  have hplus : ∀ x ∈ marks, x ≠ '+' := Text.forall_mem_of_all (by decide)
  have hdigit : ∀ x ∈ marks,
      ((base64Value? x.toNat.toUInt8).isSome || x.toNat.toUInt8 = 45) = false :=
    Text.forall_mem_of_all (by decide +kernel)
  cases run with
  | none =>
    refine ⟨[], fun y _ => List.not_mem_nil, fun rest => ?_⟩
    rw [utf7From, if_neg (hplus x hx), if_pos (utf7Direct_of_headerDirect (marks_direct hx))]
    rfl
  | some run =>
    refine ⟨run.finish, fun y hy => finish_no_mark hy run, fun rest => ?_⟩
    rw [utf7From, if_pos (utf7Direct_of_headerDirect (marks_direct hx))]
    simp only [hdigit x hx, Bool.false_eq_true, if_false, List.append_nil]

/-- **A mark in UTF-7 stands for itself, whatever run was open.** Induction on what stands before it,
for whatever run is open there. -/
theorem utf7From_mark (hx : x ∈ marks) (run : Option Base64Run) (s : List Char) :
    ∃ bytes, (∀ y ∈ marks, y ∉ s → y.toNat.toUInt8 ∉ bytes) ∧
      ∀ rest, utf7From run (s ++ x :: rest) = bytes ++ x.toNat.toUInt8 :: utf7From none rest := by
  induction s generalizing run with
  | nil =>
    obtain ⟨bytes, hbytes, hmark⟩ := utf7From_mark_cons hx run
    exact ⟨bytes, fun y hy _ => hbytes y hy, hmark⟩
  | cons c s ih =>
    obtain ⟨first, next, hfirst, hstep⟩ := utf7From_step run c
    obtain ⟨bytes, hbytes, hmark⟩ := ih next
    refine ⟨first ++ bytes, fun y hy hys => ?_, fun rest => ?_⟩
    · obtain ⟨hne, hrest⟩ := not_or.mp fun h => hys (List.mem_cons.mpr h)
      rw [List.mem_append, not_or]
      exact ⟨hfirst y hy hne, hbytes y hy hrest⟩
    · rw [List.cons_append, hstep, hmark, List.append_assoc]

/-- UTF-7 as a mark codec. That a mark stands for itself is `utf7From_mark`; what it leaves behind is a
closed run. -/
theorem markCodec_utf7 : MarkCodec utf7Bytes where
  nil := rfl
  direct := by
    intro c rest hc
    have hplus : c ≠ '+' := by
      rintro rfl
      cases hc
    unfold utf7Bytes
    rw [utf7From, if_neg hplus, if_pos (utf7Direct_of_headerDirect hc)]
  mark := fun _ hx s => utf7From_mark hx none s

end Courier.Charset

namespace Courier

open Charset

/-! ## The codecs of part headers -/

/-- A text in a codec, as it stands in a part header. -/
def Codec.write (codec : Codec) (s : List Char) : Bytes :=
  (codec.encode? s).getD []

/-- **A described codec that keeps the shape of a header writes every mark as it is.** By cases on the
codec; the tables need no more than that their lower half is ASCII. -/
theorem Codec.markCodec_of_keeps {codec : Codec} (h : codec.keepsHeaderShape = true)
    (hown : ¬ codec.IsPlatform) : MarkCodec codec.write := by
  cases codec
  case utf8 => exact markCodec_utf8
  case utf7 => exact markCodec_utf7
  case usAscii => exact markCodec_belowLimit (by decide) (by decide)
  case latin1 => exact markCodec_belowLimit (by decide) (by decide)
  case latin9 =>
    exact markCodec_overAscii (show latin9Upper.length ≤ 128 by decide +kernel)
  case windows1252 =>
    exact markCodec_overAscii (show windows1252Upper.length ≤ 128 by decide +kernel)
  case koi8r =>
    exact markCodec_overAscii (show koi8rUpper.length ≤ 128 by decide +kernel)
  case platform own => exact absurd ⟨own, rfl⟩ hown
  -- the others do not write the shape of a header as ASCII does
  all_goals exact absurd h (by decide +kernel)

/-- **A codec that writes texts and keeps the shape of a header writes line by line**: a described one
because of its marks, one of the platform by its law. -/
theorem Codec.lineCodec_of_keeps {codec : Codec} (h : codec.keepsHeaderShape = true)
    (hwrites : codec.writes = true) : LineCodec codec.write := by
  by_cases hown : codec.IsPlatform
  · obtain ⟨own, rfl⟩ := hown
    cases hwriter : own.writer with
    | error reason =>
      simp [writes, hwriter, Except.toOption] at hwrites
    | ok w =>
      have hsame : Codec.write (.platform own) = w.write := by
        funext s
        simp [Codec.write, encode?, hwriter, Except.toOption]
      rw [hsame]
      exact own.lineCodec w hwriter h
  · exact (markCodec_of_keeps h hown).lineCodec

variable [Platform]

/-- `headerCodec` is the codec of the charset if that keeps the shape of a header, and else UTF-8, which
does. -/
theorem keeps_of_headerCodec {charset : String} {codec : Codec}
    (h : headerCodec charset = .ok codec) : codec.keepsHeaderShape = true := by
  have hutf8 : Codec.utf8.keepsHeaderShape = true := by decide +kernel
  unfold headerCodec at h
  split at h
  · next own _ =>
    cases h
    split
    · assumption
    · exact hutf8
  · cases h
  · cases h
    exact hutf8

/-- The codec of the headers writes line by line, if it writes at all (`Codec.lineCodec_of_keeps`). -/
theorem lineCodec_of_headerCodec {charset : String} {codec : Codec}
    (h : headerCodec charset = .ok codec) (hwrites : codec.writes = true) : LineCodec codec.write :=
  Codec.lineCodec_of_keeps (keeps_of_headerCodec h) hwrites

end Courier
