import Courier.Platform.Plain
import Courier.Proofs.Builder.Outcome
import Courier.Proofs.Charset.RoundTrip
import Courier.Proofs.Form.Escape

/-!
# A form is read back as it was written

In the charsets of a known repertoire every list of parameters has a form. The form consists of bytes
of `Form.alphabet`, and taking it apart gives the parameters back, in order, with a question mark for
each character that the charset lacks (`decode_encode`). The separators stand between the names and
values only, since none is left in an escaped text; so no text can add a pair or merge two, and a
missing value stays apart from an empty one.
-/

namespace Courier.Text

variable {α : Type} [DecidableEq α]

/-- `Text.splitOn` undoes `joinWith` where no piece holds the separator. Induction on the pieces. -/
theorem splitOn_joinWith {sep : α} {pieces : List (List α)} (hne : pieces ≠ [])
    (h : ∀ piece ∈ pieces, sep ∉ piece) : splitOn sep (joinWith sep pieces) = pieces := by
  induction pieces with
  | nil => exact absurd rfl hne
  | cons piece rest ih =>
    have hpiece : sep ∉ piece := h piece List.mem_cons_self
    cases rest with
    | nil => exact splitOn_of_not_mem hpiece
    | cons next rest =>
      show splitOn sep (piece ++ sep :: joinWith sep (next :: rest)) = _
      rw [splitOn_append_sep hpiece,
        ih (List.cons_ne_nil _ _) fun p hp => h p (List.mem_cons_of_mem _ hp)]

omit [DecidableEq α] in
/-- What stands in joined pieces is the separator or stands in a piece. Induction on the pieces. -/
theorem mem_joinWith {sep x : α} {pieces : List (List α)} (h : x ∈ joinWith sep pieces) :
    x = sep ∨ ∃ piece ∈ pieces, x ∈ piece := by
  induction pieces with
  | nil => cases h
  | cons piece rest ih =>
    cases rest with
    | nil => exact .inr ⟨piece, List.mem_cons_self, h⟩
    | cons next rest =>
      have h' : x ∈ piece ++ sep :: joinWith sep (next :: rest) := h
      rw [List.mem_append, List.mem_cons] at h'
      rcases h' with hpiece | rfl | hrest
      · exact .inr ⟨piece, List.mem_cons_self, hpiece⟩
      · exact .inl rfl
      · rcases ih hrest with hsep | ⟨p, hp, hx⟩
        · exact .inl hsep
        · exact .inr ⟨p, List.mem_cons_of_mem _ hp, hx⟩

end Courier.Text

namespace Courier.Form

variable [Platform] {charset : String} {codec : Codec} {size : Nat}

/-! ## A name or a value -/

/-- **A name or value is written without separators and read as its text.** -/
theorem encodeField_spec (hcharset : Codec.lookupText charset = .ok codec)
    (hsize : codec.repertoire? = some size) (text : String) :
    ∃ field, encodeField charset text = .ok field ∧ (∀ x ∈ field, x ∈ alphabet) ∧
      38 ∉ field ∧ 61 ∉ field ∧
      decodeField charset (unescape field) = .ok (replaceText size text) := by
  -- an empty text is written without the charset being asked
  by_cases hempty : text = ""
  · refine ⟨[], if_pos hempty, fun x hx => absurd hx List.not_mem_nil, List.not_mem_nil,
      List.not_mem_nil, ?_⟩
    show (decodeText charset []).map _ = _
    rw [decodeText_nil hcharset, hempty]
    rfl
  · obtain ⟨bytes, hbytes, hread⟩ := decodeText_encodeText hcharset hsize text
    refine ⟨escape (text.toList.contains ' ') bytes, ?_, fun x => mem_alphabet_of_mem_escape,
      amp_not_mem_escape, equals_not_mem_escape, ?_⟩
    · unfold encodeField
      rw [if_neg hempty, hbytes]
    · rw [unescape_escape]
      unfold decodeField
      rw [hread]
      show Except.ok (String.ofList (Decoded.mk _ _).characters) = _
      rw [Decoded.characters_ofString, String.ofList_toList]

/-! ## A parameter -/

/-- A parameter with question marks for the characters beyond a repertoire. -/
def replaced (size : Nat) (p : Parameter) : Parameter :=
  ⟨replaceText size p.name, p.value.map (replaceText size)⟩

/-- The parameter of a name and a value that were taken out of a form. -/
def decodePair (charset : String) (pair : Bytes × Option Bytes) : Except DecodeFault Parameter := do
  let name ← decodeField charset pair.1
  match pair.2 with
  | none => return ⟨name, none⟩
  | some value => return ⟨name, some (← decodeField charset value)⟩

theorem decode_eq (charset : String) (body : Bytes) :
    decode charset body = (pairsOf body).mapM (decodePair charset) := rfl

/-- **A parameter is written as one piece and read as itself.** -/
theorem encodeParameter_spec (hcharset : Codec.lookupText charset = .ok codec)
    (hsize : codec.repertoire? = some size) (p : Parameter) :
    ∃ pair, encodeParameter charset p = .ok pair ∧ (∀ x ∈ pair, x ∈ alphabet) ∧ 38 ∉ pair ∧
      decodePair charset (fieldsOf pair) = .ok (replaced size p) := by
  obtain ⟨name, hname, hletters, hamp, hequals, hread⟩ :=
    encodeField_spec hcharset hsize p.name
  unfold encodeParameter replaced
  rw [hname]
  cases p.value with
  | none =>
    refine ⟨name, rfl, hletters, hamp, ?_⟩
    unfold decodePair fieldsOf
    rw [Text.cut_of_not_mem hequals]
    simp only [hread]
    rfl
  | some value =>
    -- the escaped name holds no `=`, so the first one of the pair is the one between name and value
    obtain ⟨field, hfield, hletters', hamp', -, hread'⟩ :=
      encodeField_spec hcharset hsize value
    simp only [hfield]
    refine ⟨name ++ 61 :: field, rfl, ?_, ?_, ?_⟩
    · intro x hx
      rw [List.mem_append, List.mem_cons] at hx
      rcases hx with hx | rfl | hx
      · exact hletters x hx
      · exact marks_mem_alphabet 61 (by decide)
      · exact hletters' x hx
    · rw [List.mem_append, List.mem_cons, not_or, not_or]
      exact ⟨hamp, by decide, hamp'⟩
    · unfold decodePair fieldsOf
      rw [Text.cut_append_sep hequals]
      simp only [hread, Option.map_some, hread']
      rfl

/-! ## A form -/

/-- Every list of parameters is written, one pair for each, and read as itself. Induction on the parameters,
with `encodeParameter_spec` for one. -/
theorem encodePairs_spec (hcharset : Codec.lookupText charset = .ok codec)
    (hsize : codec.repertoire? = some size) (ps : List Parameter) :
    ∃ pairs, encodePairs charset ps = .ok pairs ∧ pairs.length = ps.length ∧
      (∀ pair ∈ pairs, (∀ x ∈ pair, x ∈ alphabet) ∧ 38 ∉ pair) ∧
      (pairs.map fieldsOf).mapM (decodePair charset) = .ok (ps.map (replaced size)) := by
  induction ps with
  | nil => exact ⟨[], rfl, rfl, fun pair h => absurd h List.not_mem_nil, rfl⟩
  | cons p ps ih =>
    obtain ⟨pair, hpair, hletters, hamp, hread⟩ := encodeParameter_spec hcharset hsize p
    obtain ⟨pairs, hpairs, hlen, hall, hreads⟩ := ih
    refine ⟨pair :: pairs, ?_, ?_, ?_, ?_⟩
    · unfold encodePairs
      rw [hpair]
      simp only [hpairs]
    · rw [List.length_cons, List.length_cons, hlen]
    · intro x hx
      rcases List.mem_cons.mp hx with rfl | hx
      · exact ⟨hletters, hamp⟩
      · exact hall x hx
    · rw [List.map_cons, List.mapM_cons, hread, hreads]
      rfl

/-- **Taking a form apart gives the parameters that it was made of.** -/
theorem decode_encode (hcharset : Codec.lookupText charset = .ok codec)
    (hsize : codec.repertoire? = some size) {ps : List Parameter} (hne : ps ≠ []) :
    ∃ bytes, encode charset ps = .ok bytes ∧ (∀ x ∈ bytes, x ∈ alphabet) ∧
      decode charset bytes = .ok (ps.map (replaced size)) := by
  obtain ⟨pairs, hpairs, hlen, hall, hreads⟩ := encodePairs_spec hcharset hsize ps
  -- no pieces and one empty piece are joined to the same bytes
  have hsome : pairs ≠ [] := by
    intro h
    rw [h] at hlen
    exact hne (List.length_eq_zero_iff.mp hlen.symm)
  refine ⟨Text.joinWith 38 pairs, ?_, ?_, ?_⟩
  · unfold encode
    rw [hpairs]
    rfl
  · intro x hx
    rcases Text.mem_joinWith hx with rfl | ⟨pair, hpair, hx⟩
    · exact marks_mem_alphabet 38 (by decide)
    · exact (hall pair hpair).1 x hx
  · rw [decode_eq, pairsOf, Text.splitOn_joinWith hsome fun pair hpair => (hall pair hpair).2]
    exact hreads

omit [Platform] in
theorem replaced_whole (p : Parameter) : replaced 0x110000 p = p := by
  unfold replaced
  rw [replaceText_whole]
  cases p with
  | mk name value => cases value with
    | none => rfl
    | some value => rw [Option.map_some, replaceText_whole]

/-- `decodeText` depends on the codec of a name alone, as far as it can be looked up. -/
theorem decodeText_utf8 {charset' : String} (h : Codec.lookupText charset = .ok .utf8)
    (h' : Codec.lookupText charset' = .ok .utf8) : decodeText charset = decodeText charset' := by
  funext bytes
  unfold decodeText
  rw [no_nul_of_lookupText h, no_nul_of_lookupText h', h, h']
  rfl

/-- **In UTF-8 no two lists of parameters have the same form.** -/
theorem encode_injective {charset' : String} (h : Codec.lookupText charset = .ok .utf8)
    (h' : Codec.lookupText charset' = .ok .utf8) {ps qs : List Parameter} (hps : ps ≠ [])
    (hqs : qs ≠ []) {bytes : Bytes} (hp : encode charset ps = .ok bytes)
    (hq : encode charset' qs = .ok bytes) : ps = qs := by
  obtain ⟨body, hbody, -, hread⟩ := decode_encode h rfl hps
  obtain ⟨body', hbody', -, hread'⟩ := decode_encode h' rfl hqs
  cases hp.symm.trans hbody
  cases hq.symm.trans hbody'
  -- both read the same bytes, each under its own name of the charset
  have hsame : decode charset bytes = decode charset' bytes := by
    unfold decode decodeField
    rw [decodeText_utf8 h h']
  rw [hread, hread', Except.ok.injEq] at hsame
  rw [List.map_congr_left fun p _ => replaced_whole p, List.map_id'] at hsame
  rw [List.map_congr_left fun p _ => replaced_whole p, List.map_id'] at hsame
  exact hsame

end Courier.Form

namespace Courier.Builder

/-! ## The form of a builder -/

section

variable [Platform]

/-- A builder that has parameters only makes a form. -/
def MakesForm (b : Builder) : Prop := b.files = [] ∧ b.parameters ≠ []

/-- A builder with parameters alone builds what `Form.encode` gives, and keeps its state. -/
theorem build_of_encode {b : Builder} {m : Machine} {bytes : Bytes} (hform : b.MakesForm)
    (hbytes : Form.encode b.charset b.parameters = .ok bytes) :
    ∃ e, b.build m = .ok (some e, b) m ∧ e.kind = .form ∧ e.content = .held bytes := by
  rw [build_form hform.1 hform.2]
  unfold formEntity
  rw [hbytes]
  exact ⟨_, rfl, rfl, rfl⟩

/-- **A form is built without a failure, consists of the bytes of forms, and is read as the parameters
it was built of; in UTF-8 builders with different parameters build different forms.** -/
theorem form_round_trip :
    (∀ (b : Builder) (codec : Codec) (size : Nat) (m : Machine), b.MakesForm →
      Codec.lookupText b.charset = .ok codec → codec.repertoire? = some size →
      ∃ e bytes, b.build m = .ok (some e, b) m ∧ e.kind = .form ∧ e.content = .held bytes ∧
        (∀ x ∈ bytes, x ∈ Form.alphabet) ∧
        Form.decode b.charset bytes = .ok (b.parameters.map (Form.replaced size))) ∧
    (∀ (b b' b₁ b₁' : Builder) (m m' m₁ m₁' : Machine) (e e' : Entity),
      b.MakesForm → b'.MakesForm →
      Codec.lookupText b.charset = .ok .utf8 → Codec.lookupText b'.charset = .ok .utf8 →
      b.build m = .ok (some e, b₁) m₁ → b'.build m' = .ok (some e', b₁') m₁' →
      e.content = e'.content → b.parameters = b'.parameters) := by
  constructor
  · intro b codec size m hform hcharset hsize
    obtain ⟨bytes, hbytes, hletters, hread⟩ := Form.decode_encode hcharset hsize hform.2
    obtain ⟨e, hbuild, hkind, hcontent⟩ := build_of_encode (m := m) hform hbytes
    exact ⟨e, bytes, hbuild, hkind, hcontent, hletters, hread⟩
  · intro b b' b₁ b₁' m m' m₁ m₁' e e' hform hform' hcharset hcharset' hrun hrun' hcontent
    obtain ⟨bytes, hbytes, -, -⟩ := Form.decode_encode hcharset rfl hform.2
    obtain ⟨bytes', hbytes', -, -⟩ := Form.decode_encode hcharset' rfl hform'.2
    -- both builds are of the forms encoded above, so equal contents are equal encodings
    obtain ⟨f, hbuild, -, hheld⟩ := build_of_encode (m := m) hform hbytes
    obtain ⟨f', hbuild', -, hheld'⟩ := build_of_encode (m := m') hform' hbytes'
    cases hrun.symm.trans hbuild
    cases hrun'.symm.trans hbuild'
    rw [hheld, hheld', Content.held.injEq] at hcontent
    subst hcontent
    exact Form.encode_injective hcharset hcharset' hform.2 hform'.2 hbytes hbytes'

end

/-- Separators in the data, a character that Latin-1 lacks, and a missing next to an empty value. -/
def mixedForm (charset : String) : Builder :=
  { charset, parameters := [⟨"é€&", none⟩, ⟨"é€&", some ""⟩, ⟨"a", some "= +%"⟩] }

/-- `form_round_trip` at both charsets: Latin-1 replaces one character of the form and keeps the rest apart;
two names of UTF-8 make one form. -/
theorem form_round_trip_mixed :
    (∃ e bytes, (mixedForm "ISO-8859-1").build {} = .ok (some e, mixedForm "ISO-8859-1") {} ∧
      e.content = .held bytes ∧
      Form.decode "ISO-8859-1" bytes =
        .ok [⟨"é?&", none⟩, ⟨"é?&", some ""⟩, ⟨"a", some "= +%"⟩]) ∧
    (∃ e e', (mixedForm "UTF-8").build {} = .ok (some e, mixedForm "UTF-8") {} ∧
      (mixedForm "u8").build {} = .ok (some e', mixedForm "u8") {} ∧ e.content = e'.content ∧
      (mixedForm "UTF-8").parameters = (mixedForm "u8").parameters) := by
  have hform : ∀ charset, (mixedForm charset).MakesForm :=
    fun charset => ⟨rfl, List.cons_ne_nil _ _⟩
  constructor
  · obtain ⟨e, bytes, hbuild, -, hcontent, -, hread⟩ :=
      form_round_trip.1 (mixedForm "ISO-8859-1") .latin1 0x100 {} (hform _) rfl rfl
    exact ⟨e, bytes, hbuild, hcontent, hread⟩
  · obtain ⟨e, hbuild, -, hcontent⟩ := build_of_encode (m := {}) (hform "UTF-8") rfl
    obtain ⟨e', hbuild', -, hcontent'⟩ := build_of_encode (m := {}) (hform "u8") rfl
    have hsame : e.content = e'.content := hcontent.trans hcontent'.symm
    exact ⟨e, e', hbuild, hbuild', hsame,
      form_round_trip.2 _ _ _ _ _ _ _ _ e e' (hform _) (hform _) rfl rfl hbuild hbuild' hsame⟩

end Courier.Builder
