import Courier.Platform.Plain
import Courier.Proofs.Charset.Name
import Courier.Proofs.Charset.RoundTrip
import Courier.Proofs.Charset.Stream
import Courier.Response

/-!
# The text of a response

The body of a response is read in the charset that its content type asks for, and in UTF-8 where none is asked
for or none of that name is known (`Response.ReadIn`). What can stand in the way is listed in
`Response.Obstacle`: parameters that cannot be put together, names with a NUL character, and streams that the
codec refuses (`Codec.Refuses`).

Who asks for the text gets it, the same one at each call, and at most one note is written (`Response.Gets`). A
byte beyond ASCII where none can stand counts as no text, and the caller gets the empty one. Any other obstacle
is thrown at the caller, at each call anew (`Response.Withholds`). Main statement: `Response.calls_outcome`.
-/

namespace Courier

/-! ## Names that cannot be looked up -/

section Names

variable [Platform]

/-- `Codec.lookup` tells a NUL character before anything else. -/
theorem Codec.lookup_nulInName {name : String} :
    Codec.lookup name = .error .nulInName ↔ Char.ofNat 0 ∈ name.toList := by
  constructor
  · intro h
    obtain hunknown | ⟨-, hnul⟩ := Codec.lookup_error h
    · cases hunknown
    · exact hnul
  · intro hnul
    exact if_pos (by simpa using hnul)

/-- A whole text that is read strictly is not even looked at if and only if the name of the charset has a NUL
character. -/
theorem decodeTextStrict_error_iff {charset : String} {bytes : Bytes} {fault : CharsetFault} :
    decodeTextStrict charset bytes = .error fault ↔
      Char.ofNat 0 ∈ charset.toList ∧ fault = .nulInName := by
  unfold decodeTextStrict
  by_cases hnul : Char.ofNat 0 ∈ charset.toList
  · rw [if_pos (by simpa using hnul), Except.error.injEq]
    exact ⟨fun h => ⟨hnul, h.symm⟩, fun h => h.2.symm⟩
  · rw [if_neg (by simpa using hnul)]
    refine iff_of_false ?_ fun h => hnul h.1
    split
    · nofun
    · split <;> nofun

/-- **The charset that a content type asks for cannot be told if and only if its parameters cannot be put
together, or the one for the charset is written in a charset whose name has a NUL character.** -/
theorem Mime.charsetAsked_error_iff {type : String} {fault : CharsetParameterFault} :
    charsetAsked type = .error fault ↔
      (∃ piece, parameter? type "charset" = .error piece ∧ fault = .pieces piece) ∨
      (∃ charset text, parameter? type "charset" = .ok (some (.extended (some charset) text)) ∧
        Char.ofNat 0 ∈ charset ∧ fault = .undecodable (.charset .nulInName)) := by
  constructor
  · intro h
    unfold charsetAsked at h
    simp only at h
    split at h
    · next piece hpiece =>
      cases h
      exact .inl ⟨piece, hpiece, rfl⟩
    · cases h
    · cases h
    · next charset text hvalue =>
      split at h
      · next hdecode =>
        cases h
        -- an extended value without a charset is read as ASCII, whose name holds no null character
        obtain ⟨hnul, rfl⟩ := decodeTextStrict_error_iff.mp hdecode
        split at hnul
        · next c cs =>
          rw [String.toList_ofList] at hnul
          exact .inr ⟨_, text, hvalue, hnul, rfl⟩
        · exact absurd hnul (by decide)
      · cases h
      · cases h
  · rintro (⟨piece, hpiece, rfl⟩ | ⟨charset, text, hvalue, hnul, rfl⟩)
    · unfold charsetAsked
      simp only [hpiece]
    · obtain ⟨c, cs, rfl⟩ := List.exists_cons_of_ne_nil (List.ne_nil_of_mem hnul)
      have hdecode : decodeTextStrict (String.ofList (c :: cs)) (rawBytes text) = .error .nulInName :=
        decodeTextStrict_error_iff.mpr ⟨by rwa [String.toList_ofList], rfl⟩
      unfold charsetAsked
      simp only [hvalue, hdecode]

end Names

namespace Response

section Calls

variable [Platform]

/-! ## The codec of the body -/

/-- The codec that the body of a response is read in. -/
inductive ReadIn (r : Response) : Codec → Prop where
  /-- No type is told. -/
  | untyped (htype : r.header? "content-type" = none) : ReadIn r .utf8
  /-- The type asks for no charset. -/
  | unasked {type : String} (htype : r.header? "content-type" = some type)
      (hasked : Mime.charsetAsked type = .ok none) : ReadIn r .utf8
  /-- It asks for one that is not known. -/
  | unknown {type name : String} (htype : r.header? "content-type" = some type)
      (hasked : Mime.charsetAsked type = .ok (some name))
      (hname : Codec.lookup name = .error (.unknown name)) : ReadIn r .utf8
  /-- It asks for one that is known. -/
  | known {type name : String} {codec : Codec} (htype : r.header? "content-type" = some type)
      (hasked : Mime.charsetAsked type = .ok (some name)) (hname : Codec.lookup name = .ok codec) :
      ReadIn r codec

/-- Why the codec of the body cannot be told. -/
inductive Unnamed (r : Response) : TextFault → Prop where
  /-- The parameters of the type cannot be put together. -/
  | pieces {type : String} {piece : Mime.PieceFault} (htype : r.header? "content-type" = some type)
      (hpiece : Mime.parameter? type "charset" = .error piece) :
      Unnamed r (.parameter (.pieces piece))
  /-- The name of the charset is itself in a charset whose name has a NUL character. -/
  | nulInExtended {type : String} {charset text : List Char}
      (htype : r.header? "content-type" = some type)
      (hvalue : Mime.parameter? type "charset" = .ok (some (.extended (some charset) text)))
      (hnul : Char.ofNat 0 ∈ charset) :
      Unnamed r (.parameter (.undecodable (.charset .nulInName)))
  /-- The name of the charset has a NUL character. -/
  | nulInName {type name : String} (htype : r.header? "content-type" = some type)
      (hasked : Mime.charsetAsked type = .ok (some name)) (hnul : Char.ofNat 0 ∈ name.toList) :
      Unnamed r (.body (.charset .nulInName))

variable {r : Response} {codec : Codec} {fault : TextFault}

/-- What becomes of a charset that is asked for, by the three answers of `Codec.lookup`: it is taken, a NUL
character is told, and an unknown one is passed over. -/
theorem bodyCodec_asked {type name : String} (htype : r.header? "content-type" = some type)
    (hasked : Mime.charsetAsked type = .ok (some name)) :
    (∀ codec, Codec.lookup name = .ok codec → r.bodyCodec = .ok codec) ∧
      (Codec.lookup name = .error .nulInName → r.bodyCodec = .error (.body (.charset .nulInName))) ∧
      (Codec.lookup name = .error (.unknown name) → r.bodyCodec = .ok .utf8) := by
  unfold bodyCodec
  simp only [htype, hasked]
  by_cases hempty : name = ""
  · subst hempty
    rw [Codec.lookup_empty]
    refine ⟨fun _ h => ?_, fun h => ?_, fun _ => rfl⟩ <;> cases h
  · refine ⟨fun codec h => ?_, fun h => ?_, fun h => ?_⟩ <;> simp [h]

/-- **The body is read in a codec if and only if that is the one to read it in.** -/
theorem bodyCodec_ok_iff : r.bodyCodec = .ok codec ↔ r.ReadIn codec := by
  constructor
  · intro h
    unfold bodyCodec at h
    split at h
    · next htype =>
      cases h
      exact .untyped htype
    · next type htype =>
      split at h
      · cases h
      · next hasked =>
        cases h
        exact .unasked htype hasked
      · next hasked =>
        cases h
        exact .unknown htype hasked Codec.lookup_empty
      · next name _ hasked =>
        split at h
        · next hname =>
          cases h
          exact .known htype hasked hname
        · cases h
        · next missing hnul hname =>
          cases h
          -- an unknown name falls back to UTF-8; a null character in it does not
          obtain rfl | ⟨rfl, -⟩ := Codec.lookup_error hname
          · exact .unknown htype hasked hname
          · exact absurd rfl hnul
  · intro h
    cases h with
    | untyped htype =>
      unfold bodyCodec
      rw [htype]
    | unasked htype hasked =>
      unfold bodyCodec
      simp only [htype, hasked]
    | unknown htype hasked hname => exact (bodyCodec_asked htype hasked).2.2 hname
    | known htype hasked hname => exact (bodyCodec_asked htype hasked).1 _ hname

/-- **It is not read in any if and only if there is a reason why the codec cannot be told.** -/
theorem bodyCodec_error_iff : r.bodyCodec = .error fault ↔ r.Unnamed fault := by
  constructor
  · intro h
    unfold bodyCodec at h
    split at h
    · cases h
    · next type htype =>
      split at h
      · next hasked =>
        cases h
        obtain ⟨piece, hpiece, rfl⟩ | ⟨charset, text, hvalue, hnul, rfl⟩ :=
          Mime.charsetAsked_error_iff.mp hasked
        · exact .pieces htype hpiece
        · exact .nulInExtended htype hvalue hnul
      · cases h
      · cases h
      · next name _ hasked =>
        split at h
        · cases h
        · next hname =>
          cases h
          exact .nulInName htype hasked (Codec.lookup_nulInName.mp hname)
        · cases h
  · intro h
    cases h with
    | pieces htype hpiece =>
      -- the three ways in which no codec can be named, each from the step that fails
      have hasked := Mime.charsetAsked_error_iff.mpr (.inl ⟨_, hpiece, rfl⟩)
      unfold bodyCodec
      simp only [htype, hasked]
    | nulInExtended htype hvalue hnul =>
      have hasked := Mime.charsetAsked_error_iff.mpr (.inr ⟨_, _, hvalue, hnul, rfl⟩)
      unfold bodyCodec
      simp only [htype, hasked]
    | nulInName htype hasked hnul =>
      exact (bodyCodec_asked htype hasked).2.1 (Codec.lookup_nulInName.mpr hnul)

/-! ## The text of the body -/

/-- What can stand between a body and its text: the codec cannot be told, or it refuses the bytes. -/
inductive Obstacle (r : Response) : TextFault → Prop where
  | unnamed {fault : TextFault} (hunnamed : r.Unnamed fault) : Obstacle r fault
  | refused {codec : Codec} {fault : DecodeFault} (hcodec : r.ReadIn codec)
      (hrefused : codec.Refuses r.data fault) : Obstacle r (.body fault)

theorem decodeBody_empty (hdata : r.data = []) : r.decodeBody = .ok [] := by
  unfold decodeBody
  rw [hdata]
  rfl

/-- **A body that is not empty is the text that its codec reads.** -/
theorem decodeBody_ok_iff {text : List CodePoint} (hdata : r.data ≠ []) :
    r.decodeBody = .ok text ↔ ∃ codec decoded, r.ReadIn codec ∧
      codec.decodeStream r.data = .ok decoded ∧ text = decoded.text := by
  have hsome : r.data.isEmpty = false := by simpa using hdata
  unfold decodeBody
  rw [hsome, if_neg Bool.false_ne_true]
  constructor
  · intro h
    split at h
    · cases h
    · next codec hcodec =>
      split at h
      · next decoded hread =>
        cases h
        exact ⟨codec, decoded, bodyCodec_ok_iff.mp hcodec, hread, rfl⟩
      · cases h
  · rintro ⟨codec, decoded, hcodec, hread, rfl⟩
    rw [bodyCodec_ok_iff.mpr hcodec]
    simp only [hread]

/-- **It has no text if and only if there is an obstacle.** -/
theorem decodeBody_error_iff (hdata : r.data ≠ []) :
    r.decodeBody = .error fault ↔ r.Obstacle fault := by
  have hsome : r.data.isEmpty = false := by simpa using hdata
  unfold decodeBody
  rw [hsome, if_neg Bool.false_ne_true]
  constructor
  · intro h
    split at h
    · next hcodec =>
      cases h
      exact .unnamed (bodyCodec_error_iff.mp hcodec)
    · next codec hcodec =>
      split at h
      · cases h
      · next hrefused =>
        cases h
        exact .refused (bodyCodec_ok_iff.mp hcodec) (Codec.decodeStream_error_iff.mp hrefused)
  · intro h
    cases h with
    | unnamed hunnamed => rw [bodyCodec_error_iff.mpr hunnamed]
    | refused hcodec hrefused =>
      rw [bodyCodec_ok_iff.mpr hcodec]
      simp only [Codec.decodeStream_error_iff.mpr hrefused]

/-- By the cases of `Obstacle`: only a byte beyond ASCII is forgiven. -/
theorem Obstacle.isForgiven (h : r.Obstacle fault) :
    fault.isForgiven = true ↔ ∃ byte place, fault = .body (.notAscii byte place) := by
  constructor
  · intro hforgiven
    cases h with
    | unnamed hunnamed => cases hunnamed <;> cases hforgiven
    | refused hcodec hrefused =>
      cases hrefused with
      | beyondAscii => exact ⟨_, _, rfl⟩
      | _ => cases hforgiven
  · rintro ⟨byte, place, rfl⟩
    rfl

/-- By `Codec.Refuses.punycode`: where a byte beyond ASCII stands in the way the body is read in Punycode. -/
theorem Obstacle.punycode {byte : UInt8} {place : Nat} (h : r.Obstacle (.body (.notAscii byte place))) :
    r.ReadIn .punycode ∧ Codec.punycode.Refuses r.data (.notAscii byte place) := by
  cases h with
  | unnamed hunnamed => cases hunnamed
  | refused hcodec hrefused =>
    obtain rfl := hrefused.punycode
    exact ⟨hcodec, hrefused⟩

/-- `decodeBody_ok_iff` for text that was written in UTF-8, Latin-1 or ASCII, which `Codec.decodeWith_encode`
reads but for what the charset lacks. -/
theorem decodeBody_encode {size : Nat} {cs : List Char} (hcodec : r.ReadIn codec)
    (hsize : codec.repertoire? = some size) (hdata : codec.encode? cs = some r.data) :
    r.decodeBody = .ok ((cs.map (replaceBeyond size)).map .char) := by
  obtain ⟨bytes, hbytes, hread⟩ := Codec.decodeWith_encode hsize (·.readStream) .streamRefused cs
  obtain rfl := Option.some.inj (hbytes.symm.trans hdata)
  -- every item is a character, so the text of the items is the characters
  have hitems : cs.map (fun c => some (replaceBeyond size c)) =
      (cs.map (replaceBeyond size)).map some := by
    rw [List.map_map]
    rfl
  rw [hitems] at hread
  by_cases hempty : r.data = []
  · rw [hempty] at hread
    rw [decodeBody_empty hempty, eq_nil_of_decodeWith_nil hsize hread]
    rfl
  · have hstream : codec.decodeStream r.data =
        codec.decodeWith (·.readStream) .streamRefused r.data := by
      cases codec <;> cases hsize <;> rfl
    rw [hread, Decoded.ofItems_some] at hstream
    exact (decodeBody_ok_iff hempty).mpr ⟨codec, _, hcodec, hstream, rfl⟩

/-! ## One call -/

/-- What a caller gets who asks for the text, and the response that is there afterwards. -/
def call (r : Response) (m : Machine) : EStateM.Result Failure Machine (List CodePoint) × Response :=
  match r.readText m with
  | .ok (text, r') m' => (.ok text m', r')
  | .error failure m' => (.error failure m', r)

/-- The text that a caller gets, and what is noted about it. -/
inductive Gets (r : Response) : List CodePoint → Option String → Prop where
  /-- No bytes are the empty text. -/
  | empty (hdata : r.data = []) : Gets r [] none
  /-- The bytes are read in the codec of the body. -/
  | read {codec : Codec} {decoded : Decoded} (hdata : r.data ≠ []) (hcodec : r.ReadIn codec)
      (hread : codec.decodeStream r.data = .ok decoded) : Gets r decoded.text none
  /-- A byte stands where only ASCII can. -/
  | undecodable {byte : UInt8} {place : Nat} (hdata : r.data ≠ []) (hcodec : r.ReadIn .punycode)
      (hrefused : Codec.punycode.Refuses r.data (.notAscii byte place)) :
      Gets r [] (some ("Error when getting response body for: " ++ r.url ++ ": " ++
        (DecodeFault.notAscii byte place).message))

/-- What is thrown at the caller: there are bytes, and an obstacle that is not a byte beyond ASCII. -/
structure Withholds (r : Response) (fault : TextFault) : Prop where
  bytes : r.data ≠ []
  obstacle : r.Obstacle fault
  thrown : ∀ byte place, fault ≠ .body (.notAscii byte place)

/-- Writes a note if there is one. -/
def note (text : Option String) (m : Machine) : Machine :=
  { m with journal := text.elim m.journal (m.journal.add .error) }

omit [Platform] in
theorem TextFault.body_message (fault : DecodeFault) :
    (body fault).toFailure.message = fault.message := by
  simp only [toFailure, Failure.message]

theorem call_kept {text : List CodePoint} (h : r.text = some text) (m : Machine) :
    r.call m = (.ok text m, r) := by
  unfold call readText
  rw [h]
  rfl

/-- `Response.readText` keeps the text of a body that is read. -/
theorem call_of_ok {text : List CodePoint} (hfresh : r.text = none) (hbody : r.decodeBody = .ok text)
    (m : Machine) : r.call m = (.ok text m, { r with text := some text }) := by
  unfold call readText
  rw [hfresh, hbody]
  rfl

/-- `Response.readText` notes a byte beyond ASCII, and keeps the empty text. -/
theorem call_of_forgiven (hfresh : r.text = none) (hbody : r.decodeBody = .error fault)
    (hforgiven : fault.isForgiven = true) (m : Machine) :
    r.call m = (.ok [] (note (some ("Error when getting response body for: " ++ r.url ++ ": " ++
      fault.toFailure.message)) m), { r with text := some [] }) := by
  unfold call readText
  rw [hfresh, hbody]
  simp only [hforgiven, if_true]
  rfl

/-- `Response.readText` throws any other obstacle, and keeps nothing. -/
theorem call_of_thrown (hfresh : r.text = none) (hbody : r.decodeBody = .error fault)
    (hthrown : fault.isForgiven = false) (m : Machine) :
    r.call m = (.error fault.toFailure m, r) := by
  unfold call readText
  rw [hfresh, hbody]
  simp only [hthrown, Bool.false_eq_true, if_false]
  rfl

/-- **A call throws what is withheld, and leaves the response as it was.** -/
theorem Withholds.call (h : r.Withholds fault) (hfresh : r.text = none) (m : Machine) :
    r.call m = (.error fault.toFailure m, r) := by
  refine call_of_thrown hfresh ((decodeBody_error_iff h.bytes).mpr h.obstacle) ?_ m
  rw [← Bool.not_eq_true, h.obstacle.isForgiven]
  rintro ⟨byte, place, hfault⟩
  exact h.thrown byte place hfault

/-- **Where nothing is withheld, a call gives a text, and the response keeps it.** -/
theorem call_gets (hfresh : r.text = none) (hnone : ∀ fault, ¬ r.Withholds fault) :
    ∃ text noted, r.Gets text noted ∧
      ∀ m, r.call m = (.ok text (note noted m), { r with text := some text }) := by
  by_cases hdata : r.data = []
  · exact ⟨_, _, .empty hdata, call_of_ok hfresh (decodeBody_empty hdata)⟩
  · cases hbody : r.decodeBody with
    | ok text =>
      obtain ⟨codec, decoded, hcodec, hread, rfl⟩ := (decodeBody_ok_iff hdata).mp hbody
      exact ⟨_, _, .read hdata hcodec hread, call_of_ok hfresh hbody⟩
    | error fault =>
      have hobstacle := (decodeBody_error_iff hdata).mp hbody
      -- the one fault that is forgiven: punycode with a byte beyond ASCII
      have hbeyond : ∃ byte place, fault = .body (.notAscii byte place) := by
        by_contra hother
        exact hnone fault ⟨hdata, hobstacle, fun byte place h => hother ⟨byte, place, h⟩⟩
      obtain ⟨byte, place, rfl⟩ := hbeyond
      obtain ⟨hcodec, hrefused⟩ := hobstacle.punycode
      have hcall := call_of_forgiven hfresh hbody rfl
      rw [TextFault.body_message] at hcall
      exact ⟨_, _, .undecodable hdata hcodec hrefused, hcall⟩

/-! ## Calls in a row -/

/-- What callers get one after the other, each on the machine as it is then. -/
def calls (r : Response) : List Machine → List (EStateM.Result Failure Machine (List CodePoint))
  | [] => []
  | m :: rest => (r.call m).1 :: (r.call m).2.calls rest

/-- A text that is kept is given again and again. Induction on the calls with `call_kept`. -/
theorem calls_kept {text : List CodePoint} (h : r.text = some text) (ms : List Machine) :
    r.calls ms = ms.map (.ok text) := by
  induction ms with
  | nil => rfl
  | cons m rest ih =>
    rw [calls, call_kept h]
    exact congrArg (_ :: ·) ih

/-- What is withheld is thrown again and again. Induction on the calls with `Withholds.call`. -/
theorem Withholds.calls (h : r.Withholds fault) (hfresh : r.text = none) (ms : List Machine) :
    r.calls ms = ms.map (.error fault.toFailure) := by
  induction ms with
  | nil => rfl
  | cons m rest ih =>
    rw [Response.calls, h.call hfresh]
    exact congrArg (_ :: ·) ih

/-- After a call that gave a text, `calls_kept` tells the others. -/
theorem calls_of_call {text : List CodePoint} {m m' : Machine}
    (h : r.call m = (.ok text m', { r with text := some text })) (later : List Machine) :
    r.calls (m :: later) = .ok text m' :: later.map (.ok text) := by
  rw [calls, h]
  exact congrArg (_ :: ·) (calls_kept rfl later)

/-- **Who asks for the text of a response gets it, unless it is withheld.** Where nothing is withheld, the first
caller gets the text, a note is written at most, and all later ones get the same text and nothing is written.
Text that was written in a charset whose characters are the first ones of Unicode is what they get. What is
withheld is thrown at every caller. -/
theorem calls_outcome (r : Response) (hfresh : r.text = none) (m : Machine) (later : List Machine) :
    ((∀ fault, ¬ r.Withholds fault) →
      ∃ text noted, r.Gets text noted ∧
        r.calls (m :: later) = .ok text (note noted m) :: later.map (.ok text)) ∧
    (∀ codec size cs, r.ReadIn codec → codec.repertoire? = some size →
      codec.encode? cs = some r.data →
      r.calls (m :: later) = (m :: later).map (.ok ((cs.map (replaceBeyond size)).map .char))) ∧
    (∀ fault, r.Withholds fault →
      r.calls (m :: later) = (m :: later).map (.error fault.toFailure)) := by
  refine ⟨fun hnone => ?_, fun codec size cs hcodec hsize hdata => ?_, fun fault h => ?_⟩
  · obtain ⟨text, noted, hgets, hcall⟩ := call_gets hfresh hnone
    exact ⟨text, noted, hgets, calls_of_call (hcall m) later⟩
  · exact calls_of_call (call_of_ok hfresh (decodeBody_encode hcodec hsize hdata) m) later
  · exact h.calls hfresh _

end Calls

/-- A page of four bytes in a charset. -/
def page (charset : String) : Response :=
  { status := 200, headers := [("content-type", "text/plain; charset=" ++ charset)],
    data := [0x63, 0x61, 0x66, 0xE9], url := "https://example.test/r" }

/-- `calls_outcome` at a page in Latin-1, which is read each time. -/
theorem calls_outcome_page :
    (page "latin-1").text = none ∧
      (page "latin-1").calls [{}, {}, {}] = [{}, {}, {}].map (.ok (CodePoint.ofString "café")) := by
  have hcodec : (page "latin-1").ReadIn .latin1 :=
    .known rfl (by decide +kernel : _ = Except.ok (some "latin-1")) rfl
  exact ⟨rfl, (calls_outcome (page "latin-1") rfl {} [{}, {}]).2.1 _ _ "café".toList hcodec rfl rfl⟩

/-- `calls_outcome` at the same bytes in UTF-16, which do not tell their order: they are withheld each time.
-/
theorem calls_outcome_unmarked :
    (page "utf-16").text = none ∧ (page "utf-16").ReadIn .utf16 ∧
      ∃ failure, (page "utf-16").calls [{}, {}] = [.error failure {}, .error failure {}] ∧
        failure.message = "UTF-16 stream does not start with BOM" := by
  have hcodec : (page "utf-16").ReadIn .utf16 :=
    .known rfl (by decide +kernel : _ = Except.ok (some "utf-16")) rfl
  have hrefused : Codec.utf16.Refuses (page "utf-16").data (.noByteOrderMark 16) :=
    .unmarked16 (by decide) (by decide) (by decide)
  have hwithheld : (page "utf-16").Withholds (.body (.noByteOrderMark 16)) :=
    ⟨by decide, .refused hcodec hrefused, fun _ _ h => by cases h⟩
  refine ⟨rfl, hcodec, _, hwithheld.calls rfl _, ?_⟩
  rw [TextFault.body_message]
  rfl

end Response

end Courier
