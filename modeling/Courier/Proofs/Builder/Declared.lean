import Courier.Proofs.Builder.Outcome
import Courier.Proofs.Mime.Charset
import Courier.Platform.Plain

/-!
# The charset that an entity declares

A text or a form says in its content type in which charset it was written. Where the type leaves room for
that (`Mime.Extensible`) and the name of the charset has no semicolon, a receiver reads a name of the very
codec that wrote the bytes (`Builder.declared_charset`); a type with a charset of its own hides the one
that was used (`Builder.declared_charset_hidden`).
-/

namespace Courier

section

variable [Platform]

/-- `Response.charset` is `Mime.charsetSent` of the content type. -/
theorem Response.charset_of_header {r : Response} {type name : String}
    (htype : r.header? "content-type" = some type) (hsent : Mime.charsetSent type = .ok (some name)) :
    r.charset = .ok (some name) := by
  unfold Response.charset
  rw [htype]
  split
  · next hnone => cases hnone
  · next hempty =>
    -- an empty type would have no charset
    cases hempty
    have hnone : Mime.charsetSent "" = .ok none := rfl
    rw [hnone] at hsent
    cases hsent
  · next own hown =>
    cases hown
    exact hsent

namespace Builder

variable {b b' : Builder} {m m' : Machine} {e : Entity} {codec : Codec}

omit [Platform] in
/-- The type of a form has no parameter, so `Mime.extensible_of_plain` applies. -/
theorem extensible_formType : Mime.Extensible "application/x-www-form-urlencoded" :=
  Mime.extensible_of_plain (Text.forall_mem_of_all (by decide)) (by decide +kernel)

/-- **The declared charset is the one that was used.** By cases of `Builds`: a text declares behind its own
type, a form behind `application/x-www-form-urlencoded`, and `Mime.charsetSent_declared` reads both. -/
theorem declared_charset (hbuild : b.build m = .ok (some e, b') m')
    (hkind : e.kind = .text ∨ e.kind = .form) (hknown : Codec.lookup b.charset = .ok codec)
    (hcharset : ';' ∉ b.charset.toList) (htype : e.kind = .text → Mime.Extensible b.textType) :
    ∃ sent bytes,
      (∀ r : Response, r.header? "content-type" = some e.contentType → r.charset = .ok (some sent)) ∧
      Codec.lookup sent = .ok codec ∧ e.content = .held bytes ∧
      (e.kind = .text → ∃ text, b.text = some text ∧ codec.encode? text.toList = some bytes ∧
        encodeText sent text = .ok bytes ∧
        ∀ d, decodeText b.charset bytes = .ok d → decodeText sent bytes = .ok d) ∧
      (e.kind = .form → Form.encode sent b.parameters = .ok bytes) := by
  -- a file declares no charset, and a multipart form declares one for its parts alone
  cases builds_of_build hbuild with
  | file a e' m' hfiles hparams he =>
    rw [fileEntity_kind he] at hkind
    rcases hkind with hkind | hkind <;> cases hkind
  | multipart e' m' hfiles hmany he =>
    rw [multipartEntity_kind he] at hkind
    rcases hkind with hkind | hkind <;> cases hkind
  | text text e' hfiles hparams htext hne he =>
    obtain ⟨bytes, hbytes, rfl⟩ := textEntity_of_ok he
    obtain ⟨hsent, hlookup⟩ := Mime.charsetSent_declared (htype rfl) hcharset hknown
    obtain ⟨-, hwritten⟩ := (encodeText_eq_ok hknown).mp hbytes
    exact ⟨_, bytes, fun r hr => r.charset_of_header hr hsent, hlookup, rfl,
      fun _ => ⟨text, htext, hwritten, encodeText_of_lookup hknown hlookup hbytes,
        fun d => decodeText_of_lookup hknown hlookup⟩, nofun⟩
  | form e' hfiles hparams he =>
    obtain ⟨bytes, hbytes, rfl⟩ := formEntity_of_ok he
    obtain ⟨hsent, hlookup⟩ := Mime.charsetSent_declared extensible_formType hcharset hknown
    exact ⟨_, bytes, fun r hr => r.charset_of_header hr hsent, hlookup, rfl, nofun,
      fun _ => Form.encode_of_lookup hknown hlookup hbytes⟩

end Builder

end

namespace Builder

/-- A text with a quoted parameter in its type, in a charset by an unusual name. -/
def quotedText : Builder :=
  { charset := "<ISO 8859-1>", text := some "é", textType := "text/html; note=\"a;b\"" }

/-- The quotes of that type are closed, so its receiver reads a name of Latin-1. -/
theorem declared_charset_quoted :
    ∃ e b' m', quotedText.build {} = .ok (some e, b') m' ∧
      ∃ sent bytes,
        (∀ r : Response, r.header? "content-type" = some e.contentType → r.charset = .ok (some sent)) ∧
        Codec.lookup sent = .ok .latin1 ∧ e.content = .held bytes := by
  obtain ⟨e, b', m', hbuild, hkind⟩ :
      ∃ e b' m', quotedText.build {} = .ok (some e, b') m' ∧ e.kind = .text := ⟨_, _, _, rfl, rfl⟩
  have htype : Mime.Extensible quotedText.textType := by
    refine ⟨by decide +kernel, ?_, ?_⟩
    · exact ⟨[("text/html".toList, .plain []), ("note".toList, .plain "a;b".toList)], rfl⟩
    · have hpieces : Mime.pieces false false quotedText.textType.toList =
          ["text/html".toList, " note=\"a;b\"".toList] := by decide +kernel
      rw [hpieces]
      simp only [List.forall_mem_cons]
      exact ⟨by decide +kernel, by decide +kernel, List.forall_mem_nil _⟩
  have hcodec : Codec.lookup quotedText.charset = .ok .latin1 := rfl
  obtain ⟨sent, bytes, hsent, hlookup, hheld, -⟩ :=
    declared_charset hbuild (.inl hkind) hcodec (by decide +kernel) fun _ => htype
  exact ⟨e, b', m', hbuild, sent, bytes, hsent, hlookup, hheld⟩

/-- A type with a charset of its own hides the one that was used; and a semicolon in the name of a charset
ends the parameter. -/
theorem declared_charset_hidden :
    (¬ ∀ (type : String) (e : Entity) (b' : Builder) (m' : Machine),
      ({ text := some "é", textType := type } : Builder).build {} = .ok (some e, b') m' →
      ∃ sent, Mime.charsetSent e.contentType = .ok (some sent) ∧ Codec.lookup sent = .ok .utf8) ∧
    ¬ ∀ (charset : String) (codec : Codec) (e : Entity) (b' : Builder) (m' : Machine),
      Codec.lookup charset = .ok codec →
      ({ text := some "é", charset } : Builder).build {} = .ok (some e, b') m' →
      ∃ sent, Mime.charsetSent e.contentType = .ok (some sent) ∧ Codec.lookup sent = .ok codec := by
  constructor
  · intro h
    -- the type brings a charset of its own, and a receiver takes the first
    obtain ⟨sent, hsent, hlookup⟩ := h "text/plain; charset=latin-1" _ _ _ rfl
    have hown : Mime.charsetSent "text/plain; charset=latin-1; charset=UTF-8" =
        .ok (some "latin-1") := rfl
    have hlatin : Codec.lookup "latin-1" = .ok .latin1 := rfl
    cases hown.symm.trans hsent
    cases hlatin.symm.trans hlookup
  · intro h
    -- the semicolon in the name cuts the parameter short
    obtain ⟨sent, hsent, hlookup⟩ := h "iso8859;15" .latin9 _ _ _ rfl rfl
    have hcut : Mime.charsetSent "text/plain; charset=iso8859;15" = .ok (some "iso8859") := rfl
    have hlatin : Codec.lookup "iso8859" = .ok .latin1 := rfl
    cases hcut.symm.trans hsent
    cases hlatin.symm.trans hlookup

end Builder

end Courier
