import Courier.Platform.Plain
import Courier.Proofs.Builder.Multipart
import Courier.Proofs.Charset.HeaderLine
import Courier.Proofs.Mime.Parameter
import Courier.Proofs.Multipart.Body
import Courier.Proofs.Multipart.Parse

/-!
# A multipart form is read back as it was written

What a builder sends as a multipart form is the rendering of a list of parts: one for each attached file
that was there, one for each parameter. Each header is written in the codec of the headers, line by line
(`Draft.header_eq`); each file is read to its end while the form is sent (`Draft.files_drain`). So a
receiver that takes the boundary out of the content type gets exactly these parts (`parseForm_render`).
-/

namespace Courier

open Charset

theorem ascii_append (s t : String) : ascii (s ++ t) = ascii s ++ ascii t := by
  unfold ascii
  rw [String.toList_append, List.map_append]

/-- The bytes of a header line in a codec: what stands before its line break. -/
def Codec.line (codec : Codec) (line : String) : Bytes :=
  lineBytes codec.write line.toList

/-- The bytes of header lines that stand one after the other. -/
def Codec.lines (codec : Codec) (lines : List String) : List Bytes :=
  linesBytes codec.write (lines.map String.toList)

/-- **In a described codec each header line is written as if it stood alone.** -/
theorem Codec.lines_eq {codec : Codec} (h : MarkCodec codec.write) {lines : List String}
    (hlines : ∀ line ∈ lines, '\r' ∉ line.toList) : codec.lines lines = lines.map codec.line := by
  have hsame : linesBytes codec.write (lines.map String.toList) =
      (lines.map String.toList).map (lineBytes codec.write) :=
    h.linesBytes_eq (List.forall_mem_map.mpr hlines)
  unfold Codec.lines
  rw [hsame, List.map_map]
  rfl

namespace Multipart

/-! ## The parts that are meant -/

/-- A value with what cannot stand between quotes escaped. -/
def escaped (value : String) : String :=
  String.ofList (escape value.toList)

/-- The part in which a file of a given type and content is received. -/
def receivedFile (codec : Codec) (a : Attachment) (type : String) (content : Bytes) : ReceivedPart :=
  ⟨codec.lines ["Content-Disposition: form-data; name=\"" ++ escaped a.partName ++
      "\"; filename=\"" ++ escaped a.fileName ++ "\"",
    "Content-Type: " ++ type], content⟩

/-- The part in which a parameter is received whose text has the given bytes. -/
def receivedText (codec : Codec) (p : Parameter) (text : Bytes) : ReceivedPart :=
  ⟨codec.lines ["Content-Disposition: form-data; name=\"" ++ escaped p.name ++ "\""], text⟩

/-- The contents of files, each read to its end, one after the other. -/
def contentsOf [Platform] (found : List (Attachment × String)) : Act (List Bytes) :=
  found.mapM fun f => f.1.source.content

/-- A form that is taken apart at the boundary that its content type names. -/
def parseForm (contentType : String) (body : Bytes) : Option (List ReceivedPart) :=
  match Mime.parameter? contentType "boundary" with
  | .ok (some (.plain boundary)) => parse (ascii (String.ofList boundary)) body
  | _ => none

/-! ## Headers -/

/-- A text that holds no carriage return. -/
def OneLine (line : String) : Prop := '\r' ∉ line.toList

instance (line : String) : Decidable (OneLine line) :=
  inferInstanceAs (Decidable (_ ∉ _))

theorem OneLine.append {s t : String} (hs : OneLine s) (ht : OneLine t) : OneLine (s ++ t) := by
  unfold OneLine at *
  rw [String.toList_append, List.mem_append, not_or]
  exact ⟨hs, ht⟩

/-- A text that can be a line of a header: it holds no carriage return, and begins with a character that is
written as in ASCII beside any charset. -/
structure IsHeaderLine (line : String) : Prop where
  oneLine : OneLine line
  start : ∃ c, line.toList.head? = some c ∧ headerDirect c = true

/-- `escaped` leaves no carriage return, for that is one of the marks. -/
theorem oneLine_escaped (value : String) : OneLine (escaped value) := by
  unfold OneLine escaped
  rw [String.toList_ofList]
  exact not_mem_escape (.inr (.inl rfl))

namespace Draft

variable {d : Draft}

/-- The lines of a header are written one after the other, and the empty line behind them. Induction on the
lines, for all ways to write: what follows a line may be written in another way than the line. -/
theorem lines_written {encode : List Char → Bytes} (hcodec : LineCodec encode) {lines : List String}
    (hlines : ∀ line ∈ lines, OneLine line) :
    encode ((String.join (lines.map (· ++ "\r\n"))).toList ++ "\r\n".toList) =
      headerBlock (linesBytes encode (lines.map String.toList)) := by
  have hbreak : "\r\n".toList = '\r' :: '\n' :: [] := by decide
  induction lines generalizing encode with
  | nil =>
    -- only the empty line is left
    have hdirect : ∀ c ∈ "\r\n".toList, headerDirect c = true := Text.forall_mem_of_all (by decide)
    have hlast := hcodec.direct_append hdirect []
    rw [hcodec.nil, List.append_nil] at hlast
    exact hlast
  | cons line rest ih =>
    obtain ⟨-, hafter, hline⟩ := hcodec.line_append (hlines line List.mem_cons_self)
    rw [List.map_cons, String.join_cons, String.toList_append, String.toList_append, hbreak,
      List.append_assoc, List.append_assoc]
    show encode (line.toList ++ '\r' :: '\n' :: (_ ++ "\r\n".toList)) = _
    rw [hline, ih hafter fun l hl => hlines l (List.mem_cons_of_mem _ hl), List.map_cons, linesBytes,
      headerBlock_cons]

/-- What is written behind the boundary line of a header. -/
def headerTail (codec : Codec) (lines : List String) : Bytes :=
  codec.write ((String.join (lines.map (· ++ "\r\n"))).toList ++ "\r\n".toList)

/-- `Draft.header` begins with the boundary line in ASCII, whatever lines stand behind it. -/
theorem header_split (hcodec : LineCodec d.codec.write)
    (hboundary : ∀ c ∈ d.boundary.toList, headerDirect c = true) (lines : List String) :
    d.header lines = ascii ("--" ++ d.boundary ++ "\r\n") ++ headerTail d.codec lines := by
  have hdashes : ∀ c ∈ "--".toList, headerDirect c = true := Text.forall_mem_of_all (by decide)
  have hbreak : ∀ c ∈ "\r\n".toList, headerDirect c = true := Text.forall_mem_of_all (by decide)
  have hfirst : ∀ c ∈ ("--" ++ d.boundary ++ "\r\n").toList, headerDirect c = true := by
    intro c hc
    rw [String.toList_append, String.toList_append, List.mem_append, List.mem_append] at hc
    rcases hc with (hc | hc) | hc
    · exact hdashes c hc
    · exact hboundary c hc
    · exact hbreak c hc
  show d.codec.write (d.headerText lines).toList = _
  unfold headerText
  rw [String.toList_append, String.toList_append, List.append_assoc,
    hcodec.direct_append hfirst]
  rfl

/-- **A header is written as its boundary line and its lines, each by itself.** -/
theorem header_eq (hcodec : LineCodec d.codec.write)
    (hboundary : ∀ c ∈ d.boundary.toList, headerDirect c = true) {lines : List String}
    (hlines : ∀ line ∈ lines, OneLine line) :
    d.header lines =
      [45, 45] ++ ascii d.boundary ++ crlf ++ headerBlock (d.codec.lines lines) := by
  rw [header_split hcodec hboundary]
  unfold headerTail
  rw [lines_written hcodec hlines, ascii_append, ascii_append]
  rfl

/-! ## The lines of a part -/

theorem parameter_eq (name value : String) :
    parameter name value = name ++ "=\"" ++ escaped value ++ "\"" := rfl

theorem disposition_text (name : String) :
    disposition [("name", name)] =
      "Content-Disposition: form-data; name=\"" ++ escaped name ++ "\"" := by
  have hstart : "Content-Disposition: form-data; name=\"" =
      "Content-Disposition: form-data; " ++ "name" ++ "=\"" := rfl
  show "Content-Disposition: form-data; " ++ parameter "name" name = _
  rw [parameter_eq, hstart]
  simp only [String.append_assoc]

theorem disposition_file (name fileName : String) :
    disposition [("name", name), ("filename", fileName)] =
      "Content-Disposition: form-data; name=\"" ++ escaped name ++ "\"; filename=\"" ++
        escaped fileName ++ "\"" := by
  have hstart : "Content-Disposition: form-data; name=\"" =
      "Content-Disposition: form-data; " ++ "name" ++ "=\"" := rfl
  have hmiddle : "\"; filename=\"" = "\"" ++ "; " ++ "filename" ++ "=\"" := rfl
  show "Content-Disposition: form-data; " ++
    (parameter "name" name ++ "; " ++ parameter "filename" fileName) = _
  rw [parameter_eq, parameter_eq, hstart, hmiddle]
  simp only [String.append_assoc]

/-- Each line says what a part is in one line, whatever the name holds (`oneLine_escaped`). -/
theorem oneLine_disposition_text (name : String) : OneLine (disposition [("name", name)]) := by
  have hstart : OneLine "Content-Disposition: form-data; name=\"" := by decide
  have hend : OneLine "\"" := by decide
  rw [disposition_text]
  exact (hstart.append (oneLine_escaped name)).append hend

theorem oneLine_disposition_file (name fileName : String) :
    OneLine (disposition [("name", name), ("filename", fileName)]) := by
  have hstart : OneLine "Content-Disposition: form-data; name=\"" := by decide
  have hmiddle : OneLine "\"; filename=\"" := by decide
  have hend : OneLine "\"" := by decide
  rw [disposition_file]
  exact (((hstart.append (oneLine_escaped name)).append hmiddle).append
    (oneLine_escaped fileName)).append hend

theorem oneLine_type {type : String} (h : OneLine type) : OneLine ("Content-Type: " ++ type) := by
  have hstart : OneLine "Content-Type: " := by decide
  exact hstart.append h

/-- **What a file is sent as is the part in which it is received.** -/
theorem filePart_bytes (hcodec : LineCodec d.codec.write)
    (hboundary : ∀ c ∈ d.boundary.toList, headerDirect c = true) (a : Attachment) {type : String}
    (htype : OneLine type) (content : Bytes) :
    (d.filePart a type).header ++ content ++ crlf =
      (receivedFile d.codec a type content).bytes (ascii d.boundary) := by
  have hlines : ∀ line ∈ [disposition [("name", a.partName), ("filename", a.fileName)],
      "Content-Type: " ++ type], OneLine line := by
    intro line hline
    rcases List.mem_cons.mp hline with rfl | hline
    · exact oneLine_disposition_file _ _
    · rw [List.mem_singleton.mp hline]
      exact oneLine_type htype
  show d.header _ ++ content ++ crlf = _
  rw [header_eq hcodec hboundary hlines, disposition_file]
  rfl

/-- **What a parameter is sent as is the part in which it is received.** -/
theorem textPart_bytes (hcodec : LineCodec d.codec.write)
    (hboundary : ∀ c ∈ d.boundary.toList, headerDirect c = true) (p : Parameter) (text : Bytes) :
    (d.textPart p text).header ++ text ++ crlf =
      (receivedText d.codec p text).bytes (ascii d.boundary) := by
  have hlines : ∀ line ∈ [disposition [("name", p.name)]], OneLine line := by
    intro line hline
    rw [List.mem_singleton.mp hline]
    exact oneLine_disposition_text _
  show d.header _ ++ text ++ crlf = _
  rw [header_eq hcodec hboundary hlines, disposition_text]
  rfl

/-! ## Parts without a place to cut them -/

theorem head_append {s t : String} {c : Char} (h : s.toList.head? = some c) :
    (s ++ t).toList.head? = some c := by
  rw [String.toList_append, List.head?_append, h]
  rfl

theorem disposition_head (fields : List (String × String)) :
    (disposition fields).toList.head? = some 'C' := by
  unfold disposition
  exact head_append (by decide)

/-- Header lines are not empty and hold no carriage return as they are written. Induction on the lines, for
all ways to write. -/
theorem lines_clean {encode : List Char → Bytes} (hcodec : LineCodec encode) {lines : List String}
    (hlines : ∀ line ∈ lines, IsHeaderLine line) :
    ∀ bytes ∈ linesBytes encode (lines.map String.toList), bytes ≠ [] ∧ 13 ∉ bytes := by
  induction lines generalizing encode with
  | nil => exact List.forall_mem_nil _
  | cons line rest ih =>
    obtain ⟨hline, c, hhead, hdirect⟩ := hlines line List.mem_cons_self
    obtain ⟨hreturn, hafter, -⟩ := hcodec.line_append hline
    rw [List.map_cons, linesBytes, List.forall_mem_cons]
    refine ⟨⟨?_, hreturn⟩, ih hafter fun l hl => hlines l (List.mem_cons_of_mem _ hl)⟩
    obtain ⟨tail, htail⟩ := List.head?_eq_some_iff.mp hhead
    have hne : c ≠ '\r' := by
      rintro rfl
      exact hline (htail ▸ List.mem_cons_self)
    rw [htail]
    exact hcodec.lineBytes_ne_nil hdirect hne

theorem isHeaderLine_text (name : String) : IsHeaderLine (disposition [("name", name)]) :=
  ⟨oneLine_disposition_text name, 'C', disposition_head _, by decide⟩

theorem isHeaderLine_file (name fileName : String) :
    IsHeaderLine (disposition [("name", name), ("filename", fileName)]) :=
  ⟨oneLine_disposition_file name fileName, 'C', disposition_head _, by decide⟩

theorem isHeaderLine_type {type : String} (h : OneLine type) : IsHeaderLine ("Content-Type: " ++ type) :=
  ⟨oneLine_type h, 'C', head_append (by decide), by decide⟩

theorem not_infix_of_crlf {pattern payload : Bytes} (h : ¬ pattern <:+: crlf ++ payload) :
    ¬ pattern <:+: payload :=
  fun hheld => h (hheld.trans (List.suffix_append crlf payload).isInfix)

/-- `Clean` for a file: its two header lines are clean (`lines_clean`), and its content has no place to cut
it by assumption. -/
theorem receivedFile_clean {codec : Codec} (hcodec : LineCodec codec.write) (a : Attachment)
    {type : String} (htype : OneLine type) {boundary content : Bytes}
    (h : ¬ delimiter boundary <:+: crlf ++ content) :
    (receivedFile codec a type content).Clean boundary := by
  refine ⟨?_, not_infix_of_crlf h⟩
  unfold receivedFile Codec.lines
  rw [← disposition_file]
  refine lines_clean hcodec ?_
  rw [List.forall_mem_cons, List.forall_mem_singleton]
  exact ⟨isHeaderLine_file _ _, isHeaderLine_type htype⟩

/-- `Clean` for a text, with one header line. -/
theorem receivedText_clean {codec : Codec} (hcodec : LineCodec codec.write) (p : Parameter)
    {boundary text : Bytes} (h : ¬ delimiter boundary <:+: crlf ++ text) :
    (receivedText codec p text).Clean boundary := by
  refine ⟨?_, not_infix_of_crlf h⟩
  unfold receivedText Codec.lines
  rw [← disposition_text]
  refine lines_clean hcodec ?_
  rw [List.forall_mem_singleton]
  exact isHeaderLine_text _

/-- **No part that is received has a place to cut it**, if none of the payloads has. -/
theorem received_clean {codec : Codec} {found : List (Attachment × String)} {ps : List Parameter}
    (hcodec : found ≠ [] ∨ ps ≠ [] → LineCodec codec.write) {contents texts : List Bytes}
    {boundary : Bytes} (htypes : ∀ f ∈ found, OneLine f.2)
    (hclear : ∀ payload ∈ contents ++ texts, ¬ delimiter boundary <:+: crlf ++ payload) :
    ∀ part ∈ ((found.zip contents).map fun f => receivedFile codec f.1.1 f.1.2 f.2) ++
      (ps.zip texts).map (fun p => receivedText codec p.1 p.2), part.Clean boundary := by
  intro part hpart
  rcases List.mem_append.mp hpart with hpart | hpart
  · obtain ⟨f, hf, rfl⟩ := List.mem_map.mp hpart
    obtain ⟨hfound, hcontent⟩ := List.of_mem_zip hf
    exact receivedFile_clean (hcodec (.inl (List.ne_nil_of_mem hfound))) _ (htypes _ hfound)
      (hclear _ (List.mem_append_left _ hcontent))
  · obtain ⟨p, hp, rfl⟩ := List.mem_map.mp hpart
    obtain ⟨hparam, htext⟩ := List.of_mem_zip hp
    exact receivedText_clean (hcodec (.inr (List.ne_nil_of_mem hparam))) _ (hclear _ (List.mem_append_right _ htext))

/-! ## The whole form -/

variable [Platform] {m m' : Machine}

/-- **The files are read one after the other, each into the part in which it is received.** -/
theorem files_drain {found : List (Attachment × String)}
    (hcodec : found ≠ [] → LineCodec d.codec.write)
    (hboundary : ∀ c ∈ d.boundary.toList, headerDirect c = true) (htypes : ∀ f ∈ found, OneLine f.2) {contents : List Bytes}
    (h : contentsOf found m = .ok contents m') :
    Piece.Drains ((found.map fun f => d.filePart f.1 f.2).flatMap partPieces) m
      (((found.zip contents).map fun f => receivedFile d.codec f.1.1 f.1.2 f.2).flatMap
        (·.bytes (ascii d.boundary))) m' := by
  induction found generalizing m contents with
  | nil =>
    cases h
    exact .nil
  | cons f rest ih =>
    -- the files behind the first one are read on the machine that it leaves
    have hline := hcodec (List.cons_ne_nil _ _)
    unfold contentsOf at h
    rw [List.mapM_cons] at h
    obtain ⟨content, m₁, hcontent, h⟩ := Act.bind_eq_ok.mp h
    obtain ⟨others, m₂, hothers, h⟩ := Act.bind_eq_ok.mp h
    obtain ⟨rfl, rfl⟩ := Act.pure_eq_ok.mp h
    have hrest := ih (fun _ => hline) (fun g hg => htypes g (List.mem_cons_of_mem _ hg)) hothers
    rw [List.map_cons, List.flatMap_cons, List.zip_cons_cons, List.map_cons, List.flatMap_cons,
      ← filePart_bytes hline hboundary f.1 (htypes f List.mem_cons_self)]
    exact (file_drains _ hcontent).append hrest

/-- The parts of texts drain to the bytes of `receivedText`. Induction on the texts with `textPart_bytes`. -/
theorem texts_drain {ps : List (Parameter × Bytes)} (hcodec : ps ≠ [] → LineCodec d.codec.write)
    (hboundary : ∀ c ∈ d.boundary.toList, headerDirect c = true) :
    Piece.Drains ((ps.map fun p => d.textPart p.1 p.2).flatMap partPieces) m
      ((ps.map fun p => receivedText d.codec p.1 p.2).flatMap (·.bytes (ascii d.boundary))) m := by
  induction ps with
  | nil => exact .nil
  | cons p rest ih =>
    have hline := hcodec (List.cons_ne_nil _ _)
    rw [List.map_cons, List.flatMap_cons, List.map_cons, List.flatMap_cons,
      ← textPart_bytes hline hboundary p.1]
    exact (held_drains _ _ m).append (ih fun _ => hline)

omit [Platform] in
theorem lastLine_eq (d : Draft) :
    d.lastLine = [45, 45] ++ ascii d.boundary ++ [45, 45] ++ crlf := by
  have hend : ascii "--\r\n" = [45, 45] ++ crlf := rfl
  unfold lastLine
  rw [ascii_append, ascii_append, hend, ← List.append_assoc]
  rfl

/-- **The pieces of a form give the rendering of the parts that are meant.** -/
theorem pieces_render {found : List (Attachment × String)} {ps : List (Parameter × Bytes)}
    (hcodec : found ≠ [] ∨ ps ≠ [] → LineCodec d.codec.write)
    (hboundary : ∀ c ∈ d.boundary.toList, headerDirect c = true)
    (hparts : d.parts = (found.map fun f => d.filePart f.1 f.2) ++ ps.map fun p => d.textPart p.1 p.2)
    (htypes : ∀ f ∈ found, OneLine f.2) {contents : List Bytes}
    (h : contentsOf found m = .ok contents m') :
    Piece.Drains d.pieces m
      (render (ascii d.boundary)
        (((found.zip contents).map fun f => receivedFile d.codec f.1.1 f.1.2 f.2) ++
          ps.map fun p => receivedText d.codec p.1 p.2)) m' := by
  have hfiles := files_drain (fun hne => hcodec (.inl hne)) hboundary htypes h
  have htexts : Piece.Drains _ m' _ m' := texts_drain (fun hne => hcodec (.inr hne)) hboundary
  have hascii : ∀ c ∈ d.boundary.toList, c.toNat < 0x80 :=
    fun c hc => toNat_lt_of_headerDirect (hboundary c hc)
  have hall := hfiles.append htexts
  rw [← List.flatMap_append, ← hparts, ← List.flatMap_append] at hall
  unfold render
  rw [← lastLine_eq]
  exact pieces_drains hascii hall

end Draft

/-- A drawn boundary is hexadecimal digits (`Machine.boundary_digits`), which are header characters, plain
values, and no carriage return. -/
theorem boundary_plain (n : Nat) :
    (∀ c ∈ (Machine.boundary n).toList, headerDirect c = true) ∧
      (∀ c ∈ (Machine.boundary n).toList, Mime.IsPlainValue c) ∧
      13 ∉ ascii (Machine.boundary n) := by
  have hdirect : ∀ c ∈ Text.hexDigits, headerDirect c = true := Text.forall_mem_of_all (by decide)
  have hplain : ∀ c ∈ Text.hexDigits, Mime.IsPlainValue c := Text.forall_mem_of_all (by decide)
  have hreturn : ∀ c ∈ Text.hexDigits, c.toNat.toUInt8 ≠ 13 := Text.forall_mem_of_all (by decide)
  refine ⟨fun c hc => hdirect c (Machine.boundary_digits hc),
    fun c hc => hplain c (Machine.boundary_digits hc), fun h => ?_⟩
  obtain ⟨c, hc, hbyte⟩ := List.mem_map.mp h
  exact hreturn c (Machine.boundary_digits hc) hbyte

/-- The last line of a form can be written if its boundary was drawn, so that no piece of `Draft.pieces`
stands for a fault. -/
theorem Draft.closing_of_drawn {d : Draft} {n : Nat} (h : d.boundary = Machine.boundary n) :
    d.closing = .ok d.lastLine :=
  closing_of_ascii (h ▸ Machine.boundary_ascii n)

end Multipart

open Multipart

/-- The boundary is found in the content type (`Mime.parameter?_boundary`), and `parse_render` does the rest.
-/
theorem parseForm_render {n : Nat} {parts : List ReceivedPart}
    (h : ∀ part ∈ parts, part.Clean (ascii (Machine.boundary n))) :
    parseForm ("multipart/form-data; boundary=" ++ Machine.boundary n)
      (render (ascii (Machine.boundary n)) parts) = some parts := by
  obtain ⟨-, hplain, hreturn⟩ := boundary_plain n
  unfold parseForm
  rw [Mime.parameter?_boundary hplain]
  show parse (ascii (String.ofList (Machine.boundary n).toList)) _ = _
  rw [String.ofList_toList, parse_render hreturn h]

namespace Builder

section

variable [Platform] {b b' : Builder} {m m₁ m₂ m₃ : Machine} {e : Entity}

/-- **A multipart form is read as the files that were there and the parameters, in their order, whatever
the files hold and in whatever portions they are read**, unless what ends a part stands in one. -/
theorem multipart_round_trip (hbuild : b.build m = .ok (some e, b') m₁)
    (hkind : e.kind = .multipart) :
    ∃ codec found texts m₀,
      headerCodec b.charset = .ok codec ∧
      b.found b.files { m with drawn := m.drawn + 1 } = .ok found m₀ ∧
      textsOf b.charset b.parameters = .ok texts ∧
      e.contentType = "multipart/form-data; boundary=" ++ Machine.boundary (m.drawn + 1) ∧
      ∀ (m₂ m₃ : Machine) (contents : List Bytes),
        contentsOf found m₂ = .ok contents m₃ →
        (∀ payload ∈ contents ++ texts,
          ¬ delimiter (ascii (Machine.boundary (m.drawn + 1))) <:+: crlf ++ payload) →
        (∀ f ∈ found, '\r' ∉ f.2.toList) →
        ∃ body, e.Gives m₂ body m₃ ∧
          parseForm e.contentType body =
            some (((found.zip contents).map fun f => receivedFile codec f.1.1 f.1.2 f.2) ++
              (b.parameters.zip texts).map fun p => receivedText codec p.1 p.2) := by
  obtain ⟨d, found, texts, length, m₀, hcodec, hboundary, hfound, htexts, hparts, hwrites, -, rfl⟩ :=
    multipartEntity_of_ok (multipartEntity_of_build hbuild hkind)
  have hline := fun hne => lineCodec_of_headerCodec hcodec (hwrites hne)
  have htype : d.contentType = "multipart/form-data; boundary=" ++ Machine.boundary (m.drawn + 1) := by
    unfold Draft.contentType
    rw [hboundary]
  refine ⟨d.codec, found, texts, m₀, hcodec, hfound, htexts, htype, ?_⟩
  intro m₂ m₃ contents hcontents hclear htypes
  have hdirect : ∀ c ∈ d.boundary.toList, headerDirect c = true := by
    rw [hboundary]
    exact (boundary_plain _).1
  have hpairs : b.parameters.zip texts ≠ [] → b.parameters ≠ [] :=
    fun hne hnone => hne (List.zip_eq_nil_iff.mpr (.inl hnone))
  -- what is sent is the rendering of the parts; what is parsed is that rendering
  refine ⟨_, Entity.gives_streamed rfl rfl
    (Draft.pieces_render (fun hne => hline (hne.imp_right hpairs)) hdirect hparts htypes hcontents), ?_⟩
  show parseForm d.contentType _ = _
  rw [htype, hboundary]
  exact parseForm_render (Draft.received_clean hline htypes hclear)

end

/-- A file whose content looks like the end of a part. -/
def lookalike : Attachment :=
  ⟨some "field", "one\r\n.txt", .inMemory (ascii "\r\n--\r\n\r\n--0") "one" (some "text/plain"), none⟩

/-- The file, a file that is gone, and texts with what has to be escaped or replaced. -/
def pairForm : Builder :=
  { charset := "ISO-8859-1"
    parameters := [⟨"a\"b", some "€\r\n--"⟩, ⟨"nothing", none⟩]
    files := [lookalike, ⟨none, "gone", .onDisk (.ofText "/gone"), none⟩] }

/-- `multipart_round_trip` at a file and two texts, which hold all that looks like the end of a part but the
boundary. -/
theorem multipart_round_trip_pair :
    ∃ e m₁ body m₃, pairForm.build {} = .ok (some e, pairForm) m₁ ∧ e.Gives m₁ body m₃ ∧
      parseForm e.contentType body = some [
        ⟨[ascii "Content-Disposition: form-data; name=\"field\"; filename=\"one%0D%0A.txt\"",
          ascii "Content-Type: text/plain"], ascii "\r\n--\r\n\r\n--0"⟩,
        ⟨[ascii "Content-Disposition: form-data; name=\"a%22b\""], ascii "?\r\n--"⟩,
        ⟨[ascii "Content-Disposition: form-data; name=\"nothing\""], []⟩] := by
  obtain ⟨e, m₁, hbuild, hkind⟩ :
      ∃ e m₁, pairForm.build {} = .ok (some e, pairForm) m₁ ∧ e.kind = .multipart := ⟨_, _, rfl, rfl⟩
  obtain ⟨codec, found, texts, m₀, hcodec, hfound, htexts, -, hround⟩ :=
    multipart_round_trip hbuild hkind
  cases hcodec
  cases hfound
  cases htexts
  have hcontent : lookalike.source.content m₁ = .ok (ascii "\r\n--\r\n\r\n--0") m₁ :=
    Handle.content_of_opening (s := ⟨.memory, ascii "\r\n--\r\n\r\n--0", 0⟩) rfl trivial
  have hcontents : contentsOf [(lookalike, "text/plain")] m₁ =
      .ok [ascii "\r\n--\r\n\r\n--0"] m₁ := by
    unfold contentsOf
    rw [List.mapM_cons, Act.bind_run_ok hcontent]
    rfl
  -- the payloads look like delimiters and are none
  have hclear : ∀ payload ∈ [ascii "\r\n--\r\n\r\n--0", ascii "?\r\n--", []],
      ¬ delimiter (ascii (Machine.boundary 1)) <:+: crlf ++ payload := by decide +kernel
  have htypes : ∀ type ∈ ["text/plain"], '\r' ∉ type.toList := by decide +kernel
  obtain ⟨body, hgives, hparse⟩ := hround m₁ m₁ _ hcontents hclear
    fun f hf => htypes f.2 (List.mem_map_of_mem hf)
  have hparts : [receivedFile .latin1 lookalike "text/plain" (ascii "\r\n--\r\n\r\n--0"),
        receivedText .latin1 ⟨"a\"b", some "€\r\n--"⟩ (ascii "?\r\n--"),
        receivedText .latin1 ⟨"nothing", none⟩ []] = [
      ⟨[ascii "Content-Disposition: form-data; name=\"field\"; filename=\"one%0D%0A.txt\"",
        ascii "Content-Type: text/plain"], ascii "\r\n--\r\n\r\n--0"⟩,
      ⟨[ascii "Content-Disposition: form-data; name=\"a%22b\""], ascii "?\r\n--"⟩,
      ⟨[ascii "Content-Disposition: form-data; name=\"nothing\""], []⟩] := by decide +kernel
  exact ⟨e, m₁, body, m₁, hbuild, hgives, hparse.trans (congrArg some hparts)⟩

end Builder

end Courier
