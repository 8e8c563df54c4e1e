import Courier.Proofs.Mime.LineBreak
import Courier.Proofs.Multipart.RoundTrip

/-!
# What a part header consists of

A receiver reads the header of a part line by line behind the boundary line (`Multipart.headerLines`). In
every charset the header of a text is the one line that says what it is (`Draft.IsTextHeader`), and that of a
file has the line of its type beside it (`Draft.IsFileHeader`), whatever the names say. Where the charset
writes every mark as it is (`Charset.MarkCodec`, which the described ones do), an escaped name does not end
its quotes either (`Multipart.line_value`).

The type of a file is written as it is. It is on one line unless it was declared or reported with a line
break, or told by a name that holds one (`Attachment.OnOneLine`); a line break in it is a line break of the
header (`Draft.filePart_lineBreak`), so that what follows is read as a line of its own. Main statement:
`Builder.part_headers`.
-/

namespace Courier

open Charset Text

/-- What a codec writes between the quotes of a value in a header. -/
def Codec.quoted (codec : Codec) (value : String) : Bytes :=
  (codec.line (Multipart.escaped value ++ "\"")).dropLast

/-- `Codec.lines` of two: the first is `Codec.line`, and the second is written in the way that `afterLine`
goes on. -/
theorem Codec.lines_pair (codec : Codec) (first second : String) :
    codec.lines [first, second] =
      [codec.line first, lineBytes (afterLine codec.write first.toList) second.toList] := rfl

namespace Multipart

/-- The lines of a header behind its boundary line, as a receiver reads them; none unless the header
ends with the first empty line. -/
def headerLines (header : Bytes) : Option (List Bytes) :=
  match cutAt crlf header with
  | none => none
  | some (_, rest) =>
    match readHeaders rest with
    | some (lines, []) => some lines
    | _ => none

/-- Bytes that end neither a quoted value nor a line. -/
def Unmarked (bytes : Bytes) : Prop := 34 ∉ bytes ∧ 13 ∉ bytes ∧ 10 ∉ bytes

theorem unmarked_of_marks {bytes : Bytes} (h : ∀ x ∈ marks, x.toNat.toUInt8 ∉ bytes) :
    Unmarked bytes :=
  ⟨h '"' (by decide), h '\r' (by decide), h '\n' (by decide)⟩

/-! ## Values within a line -/

section Line

variable {codec : Codec}

/-- A line that begins in ASCII, by `LineCodec.lineBytes_append`. -/
theorem line_ascii (h : LineCodec codec.write) {start : String}
    (hstart : ∀ c ∈ start.toList, headerDirect c = true) (hline : OneLine start) (rest : String) :
    codec.line (start ++ rest) = ascii start ++ codec.line rest := by
  unfold Codec.line
  rw [String.toList_append, h.lineBytes_append hstart hline]
  rfl

theorem line_empty (h : LineCodec codec.write) : codec.line "" = [] := by
  have hbreak : ∀ c ∈ ['\r', '\n'], headerDirect c = true := forall_mem_of_all (by decide)
  have hwritten := h.direct_append hbreak []
  rw [List.append_nil, h.nil, List.append_nil] at hwritten
  unfold Codec.line lineBytes
  show (codec.write ['\r', '\n']).takeWhile _ = _
  rw [hwritten]
  rfl

/-- A mark that is not in a line is not in `Codec.line`, by the field `mark` of `MarkCodec`. -/
theorem not_mem_line (h : MarkCodec codec.write) {x : Char} (hx : x ∈ marks) {line : String}
    (hone : OneLine line) (hline : x ∉ line.toList) : x.toNat.toUInt8 ∉ codec.line line := by
  obtain ⟨bytes, hbytes, hmark⟩ := h.mark '\r' (by decide) line.toList
  have hwritten : ∀ rest, codec.write (line.toList ++ '\r' :: '\n' :: rest) =
      bytes ++ crlf ++ codec.write rest := by
    intro rest
    rw [hmark, h.direct '\n' rest (by decide), List.append_assoc]
    rfl
  obtain ⟨hsame, -⟩ := line_eq (hbytes '\r' (by decide) hone) hwritten
  show _ ∉ lineBytes codec.write line.toList
  rw [hsame]
  exact hbytes x hx hline

/-- **An escaped value is written without a mark, up to the quote behind it**, whatever follows: the escape
leaves no mark in it (`not_mem_escape`), and a mark codec adds none. -/
theorem line_value (h : MarkCodec codec.write) (value : String) :
    Unmarked (codec.quoted value) ∧
      ∀ rest, codec.line (escaped value ++ "\"" ++ rest) =
        codec.quoted value ++ [34] ++ codec.line rest := by
  obtain ⟨bytes, hbytes, hquote⟩ := h.mark '"' (by decide) (escaped value).toList
  -- no mark is left in the escaped value, and the codec writes none of their bytes for anything else
  have hclear : ∀ x ∈ marks, x.toNat.toUInt8 ∉ bytes := by
    refine fun x hx => hbytes x hx ?_
    unfold escaped
    rw [String.toList_ofList]
    refine not_mem_escape ?_
    simpa [marks] using hx
  have hreturn : ∀ b ∈ bytes, decide (b ≠ 13) = true := by
    intro b hb
    rw [decide_eq_true_eq]
    rintro rfl
    exact hclear '\r' (by decide) hb
  have hline : ∀ rest, codec.line (escaped value ++ "\"" ++ rest) = bytes ++ [34] ++ codec.line rest := by
    intro rest
    have hquoted : (escaped value ++ "\"" ++ rest).toList ++ ['\r', '\n'] =
        (escaped value).toList ++ '"' :: (rest.toList ++ ['\r', '\n']) := by
      rw [String.toList_append, String.toList_append]
      simp
    unfold Codec.line lineBytes
    rw [hquoted, hquote, List.takeWhile_append_of_pos hreturn,
      List.takeWhile_cons_of_pos (by decide), List.append_assoc]
    rfl
  -- `quoted` is what stands before the closing quote, which `hline` gives for an empty rest
  have hsame : codec.quoted value = bytes := by
    have hvalue := hline ""
    rw [line_empty h.lineCodec, List.append_nil, String.append_empty] at hvalue
    unfold Codec.quoted
    rw [hvalue, List.dropLast_concat]
  rw [hsame]
  exact ⟨unmarked_of_marks hclear, hline⟩

end Line

/-! ## The lines of a header -/

namespace Draft

variable {d : Draft} {n : Nat}

/-- **The lines of a header are read as they were written**, behind any boundary that is drawn. -/
theorem headerLines_header (h : LineCodec d.codec.write) (hboundary : d.boundary = Machine.boundary n)
    {lines : List String} (hlines : ∀ line ∈ lines, IsHeaderLine line) :
    headerLines (d.header lines) = some (d.codec.lines lines) := by
  obtain ⟨hdirect, -, hreturn⟩ := boundary_plain n
  have hfirst : 13 ∉ [45, 45] ++ ascii d.boundary := by
    rw [hboundary, List.mem_append, not_or]
    exact ⟨by decide, hreturn⟩
  unfold headerLines
  rw [header_eq h (hboundary ▸ hdirect) fun line hmem => (hlines line hmem).oneLine, cutAt_crlf hfirst]
  have hclean : ∀ line ∈ d.codec.lines lines, line ≠ [] ∧ 13 ∉ line := lines_clean h hlines
  have hread := readHeaders_headerBlock hclean []
  rw [List.append_nil] at hread
  simp only [hread]

/-- The header of a text: one line, which says what the text is. -/
structure IsTextHeader (codec : Codec) (p : Parameter) (header : Bytes) : Prop where
  lines : headerLines header = some (codec.lines [disposition [("name", p.name)]])
  start : ∃ name, codec.lines [disposition [("name", p.name)]] =
    [ascii "Content-Disposition: form-data; name=\"" ++ name]
  quoted : MarkCodec codec.write → Unmarked (codec.quoted p.name) ∧
    codec.lines [disposition [("name", p.name)]] =
      [ascii "Content-Disposition: form-data; name=\"" ++ codec.quoted p.name ++ [34]]

/-- The lines that stand in the header of a file. -/
def fileLines (a : Attachment) (type : String) : List String :=
  [disposition [("name", a.partName), ("filename", a.fileName)], "Content-Type: " ++ type]

/-- The header of a file: two lines, one which says what the file is and one with its type. -/
structure IsFileHeader (codec : Codec) (a : Attachment) (type : String) (header : Bytes) : Prop where
  lines : headerLines header = some (codec.lines (fileLines a type))
  start : ∃ names own, codec.lines (fileLines a type) =
    [ascii "Content-Disposition: form-data; name=\"" ++ names, ascii "Content-Type: " ++ own]
  quoted : MarkCodec codec.write →
    Unmarked (codec.quoted a.partName) ∧ Unmarked (codec.quoted a.fileName) ∧
      13 ∉ codec.line type ∧ 10 ∉ codec.line type ∧
      codec.lines (fileLines a type) =
        [ascii "Content-Disposition: form-data; name=\"" ++ codec.quoted a.partName ++ [34] ++
          ascii "; filename=\"" ++ codec.quoted a.fileName ++ [34], ascii "Content-Type: " ++ codec.line type]

theorem direct_disposition :
    (∀ c ∈ "Content-Disposition: form-data; name=\"".toList, headerDirect c = true) ∧
      OneLine "Content-Disposition: form-data; name=\"" :=
  ⟨forall_mem_of_all (by decide), by decide⟩

theorem direct_type :
    (∀ c ∈ "Content-Type: ".toList, headerDirect c = true) ∧ OneLine "Content-Type: " :=
  ⟨forall_mem_of_all (by decide), by decide⟩

/-- The line of a text: what stands before its name is ASCII, and the name is `Codec.quoted` up to its
closing quote (`line_value`). -/
theorem line_disposition_text {codec : Codec} (h : MarkCodec codec.write) (name : String) :
    codec.line (disposition [("name", name)]) =
      ascii "Content-Disposition: form-data; name=\"" ++ codec.quoted name ++ [34] := by
  obtain ⟨hstart, hone⟩ := direct_disposition
  obtain ⟨-, hvalue⟩ := line_value h name
  have hsplit : disposition [("name", name)] =
      "Content-Disposition: form-data; name=\"" ++ (escaped name ++ "\"" ++ "") := by
    rw [disposition_text, String.append_empty, String.append_assoc]
  rw [hsplit, line_ascii h.lineCodec hstart hone, hvalue, line_empty h.lineCodec, List.append_nil,
    List.append_assoc]

/-- The line of a file, with two values in quotes: `line_value` twice. -/
theorem line_disposition_file {codec : Codec} (h : MarkCodec codec.write) (name fileName : String) :
    codec.line (disposition [("name", name), ("filename", fileName)]) =
      ascii "Content-Disposition: form-data; name=\"" ++ codec.quoted name ++ [34] ++
        ascii "; filename=\"" ++ codec.quoted fileName ++ [34] := by
  obtain ⟨hstart, hone⟩ := direct_disposition
  have hmiddle : ∀ c ∈ "; filename=\"".toList, headerDirect c = true := forall_mem_of_all (by decide)
  have hquote : "\"; filename=\"" = "\"" ++ "; filename=\"" := rfl
  obtain ⟨-, hvalue⟩ := line_value h name
  obtain ⟨-, hvalue'⟩ := line_value h fileName
  -- each value ends at the quote behind it, and what follows is a line again
  have hsplit : disposition [("name", name), ("filename", fileName)] =
      "Content-Disposition: form-data; name=\"" ++ (escaped name ++ "\"" ++
        ("; filename=\"" ++ (escaped fileName ++ "\"" ++ ""))) := by
    rw [disposition_file, hquote, String.append_empty]
    simp only [String.append_assoc]
  rw [hsplit, line_ascii h.lineCodec hstart hone, hvalue,
    line_ascii h.lineCodec hmiddle (by decide), hvalue', line_empty h.lineCodec, List.append_nil]
  simp only [List.append_assoc]

/-- **The header of a text**, by `headerLines_header` for its one line. -/
theorem textPart_header (h : LineCodec d.codec.write) (hboundary : d.boundary = Machine.boundary n)
    (p : Parameter) (text : Bytes) : IsTextHeader d.codec p (d.textPart p text).header where
  lines := headerLines_header h hboundary (List.forall_mem_singleton.mpr (isHeaderLine_text p.name))
  start := by
    obtain ⟨hstart, hone⟩ := direct_disposition
    refine ⟨d.codec.line (escaped p.name ++ "\""), ?_⟩
    show [d.codec.line (disposition [("name", p.name)])] = _
    rw [disposition_text, String.append_assoc, line_ascii h hstart hone]
  quoted hmark := by
    refine ⟨(line_value hmark p.name).1, ?_⟩
    show [d.codec.line (disposition [("name", p.name)])] = _
    rw [line_disposition_text hmark]

/-- `fileLines` are header lines if the type holds no carriage return. -/
theorem isHeaderLine_fileLines (a : Attachment) {type : String} (htype : OneLine type) :
    ∀ line ∈ fileLines a type, IsHeaderLine line := by
  unfold fileLines
  rw [List.forall_mem_cons, List.forall_mem_singleton]
  exact ⟨isHeaderLine_file _ _, isHeaderLine_type htype⟩

/-- **The header of a file whose type is on one line.** The line of the type is written behind the other, and
a line codec begins it in ASCII all the same. -/
theorem filePart_header (h : LineCodec d.codec.write) (hboundary : d.boundary = Machine.boundary n)
    (a : Attachment) {type : String} (htype : Unbroken type) :
    IsFileHeader d.codec a type (d.filePart a type).header where
  lines := headerLines_header h hboundary (isHeaderLine_fileLines a htype.1)
  start := by
    obtain ⟨hstart, hone⟩ := direct_disposition
    obtain ⟨hstart', hone'⟩ := direct_type
    -- the second line is written in the state the codec is in after the first
    obtain ⟨-, hafter, -⟩ := h.line_append (oneLine_disposition_file a.partName a.fileName)
    refine ⟨d.codec.line (escaped a.partName ++ "\"; filename=\"" ++ escaped a.fileName ++ "\""), ?_, ?_⟩
    · exact lineBytes (afterLine d.codec.write
        (disposition [("name", a.partName), ("filename", a.fileName)]).toList) type.toList
    · unfold fileLines
      rw [Codec.lines_pair, String.toList_append, hafter.lineBytes_append hstart' hone']
      refine congrArg₂ _ ?_ rfl
      rw [disposition_file]
      simp only [String.append_assoc]
      exact line_ascii h hstart hone _
  quoted hmark := by
    obtain ⟨hstart', hone'⟩ := direct_type
    refine ⟨(line_value hmark a.partName).1, (line_value hmark a.fileName).1,
      not_mem_line hmark (x := '\r') (by decide) htype.1 htype.1,
      not_mem_line hmark (x := '\n') (by decide) htype.1 htype.2, ?_⟩
    rw [Codec.lines_eq hmark fun line hmem => (isHeaderLine_fileLines a htype.1 line hmem).oneLine]
    unfold fileLines
    rw [List.map_cons, List.map_singleton, line_disposition_file hmark,
      line_ascii h hstart' hone']

/-! ## A line break in a type -/

/-- **A line break in the type of a file is a line break of the header**: what follows it is read as a
line of its own. -/
theorem filePart_lineBreak (h : LineCodec d.codec.write) (hboundary : d.boundary = Machine.boundary n)
    (a : Attachment) (before after : String) (hbefore : OneLine before) (hafter : IsHeaderLine after) :
    headerLines (d.filePart a (before ++ "\r\n" ++ after)).header =
      some (d.codec.lines (fileLines a before ++ [after])) := by
  have hsame : (d.filePart a (before ++ "\r\n" ++ after)).header =
      d.header (fileLines a before ++ [after]) := by
    show d.header _ = _
    unfold header headerText fileLines
    simp only [List.map_cons, List.map_nil, List.cons_append, List.nil_append,
      String.join_cons, String.append_assoc]
  rw [hsame]
  refine headerLines_header h hboundary ?_
  rw [List.forall_mem_append, List.forall_mem_singleton]
  exact ⟨isHeaderLine_fileLines a hbefore, hafter⟩

end Draft

end Multipart

open Multipart

/-- A file that was given no line break with its type: neither in one that is declared or reported, nor, where
there is none, in a name that tells one. -/
structure Attachment.OnOneLine (a : Attachment) : Prop where
  declared : ∀ usage type, a.declared usage = .ok (some type) → Unbroken type
  named : ∀ usage, a.declared usage = .ok none → Mime.IsDataAddress a.fileName → Unbroken a.fileName

namespace Builder

section

variable [Platform] {b b' : Builder} {m m' : Machine} {e : Entity}

/-! ## The headers of a form -/

/-- By the cases of `resolveType_run`: the type is declared or reported, or sniffed, and then
`Mime.sniff_unbroken`. -/
theorem resolveType_unbroken {a : Attachment} {type : String} (ha : a.OnOneLine)
    (h : b.resolveType a m = .ok type m') : Unbroken type := by
  -- declared, sniffed or the default: the three origins of a type
  have hdefault : Unbroken defaultFileType := by decide
  rw [resolveType_run] at h
  cases hdeclared : a.declared m.usage with
  | error failure =>
    rw [hdeclared] at h
    cases h
  | ok known =>
    rw [hdeclared] at h
    cases known with
    | some type =>
      cases h
      exact ha.declared _ _ hdeclared
    | none =>
      obtain ⟨start, m₁, -, h⟩ := Act.bind_eq_ok.mp h
      obtain ⟨rfl, -⟩ := Act.pure_eq_ok.mp h
      cases hsniff : Mime.sniff start (some a.fileName) with
      | none => exact hdefault
      | some type => exact Mime.sniff_unbroken (ha.named _ hdeclared) hsniff

/-- What `Builder.found` lists has a type that `resolveType` gave. Induction on the attachments, with
`resolveType_unbroken` for one. -/
theorem found_unbroken {files : List Attachment} {fs : List (Attachment × String)}
    (h : b.found files m = .ok fs m') : ∀ f ∈ fs, f.1.OnOneLine → Unbroken f.2 := by
  induction files generalizing fs m with
  | nil =>
    cases h
    exact List.forall_mem_nil _
  | cons a rest ih =>
    rw [found_cons] at h
    obtain ⟨there, m₁, -, h⟩ := Act.bind_eq_ok.mp h
    cases there with
    | false => exact ih h
    | true =>
      obtain ⟨type, m₂, htype, h⟩ := Act.bind_eq_ok.mp h
      obtain ⟨others, m₃, hothers, h⟩ := Act.bind_eq_ok.mp h
      obtain ⟨rfl, rfl⟩ := Act.pure_eq_ok.mp h
      rw [List.forall_mem_cons]
      exact ⟨fun ha => resolveType_unbroken ha htype, ih hothers⟩

/-- **The header of each part is the one line of a text or the two of a file.** A multipart form has a part
for each file that was found, with its source behind its header, and then one for each parameter, with its
text (`multipartEntity_of_ok`). In every charset the header of a text is one line, and that of a file two, if
it was given no line break with its type; and where the charset writes every mark as it is, no name closes
its quotes. -/
theorem part_headers (hbuild : b.build m = .ok (some e, b') m') (hkind : e.kind = .multipart) :
    ∃ (codec : Codec) (found : List (Attachment × String)) (texts : List Bytes) (m₀ : Machine) (d : Draft),
      headerCodec b.charset = .ok codec ∧ (¬ codec.IsPlatform → MarkCodec codec.write) ∧
      b.found b.files { m with drawn := m.drawn + 1 } = .ok found m₀ ∧
      textsOf b.charset b.parameters = .ok texts ∧
      e.content = .streamed d.pieces ∧
      d.parts = (found.map fun f => d.filePart f.1 f.2) ++
        (b.parameters.zip texts).map (fun p => d.textPart p.1 p.2) ∧
      (∀ f ∈ found, f.1 ∈ b.files ∧
        (f.1.OnOneLine → Draft.IsFileHeader codec f.1 f.2 (d.filePart f.1 f.2).header)) ∧
      ∀ p ∈ b.parameters.zip texts, Draft.IsTextHeader codec p.1 (d.textPart p.1 p.2).header := by
  obtain ⟨d, found, texts, length, m₀, hcodec, hboundary, hfound, htexts, hparts, hwrites, -, rfl⟩ :=
    multipartEntity_of_ok (multipartEntity_of_build hbuild hkind)
  refine ⟨d.codec, found, texts, m₀, d, hcodec, ?_, hfound, htexts, rfl, hparts, ?_, ?_⟩
  · exact Codec.markCodec_of_keeps (keeps_of_headerCodec hcodec)
  · intro f hf
    -- a header was written, so its codec is one that writes
    have hline := lineCodec_of_headerCodec hcodec (hwrites (.inl (List.ne_nil_of_mem hf)))
    exact ⟨((found_of_ok hfound).2 f hf).1,
      fun ha => Draft.filePart_header hline hboundary f.1 (found_unbroken hfound f hf ha)⟩
  · intro p hp
    have hparam : b.parameters ≠ [] := List.ne_nil_of_mem (List.of_mem_zip hp).1
    have hline := lineCodec_of_headerCodec hcodec (hwrites (.inr hparam))
    exact Draft.textPart_header hline hboundary p.1 p.2

end

/-- A file with a line break in its name and in that of its field, of a declared type. -/
def markedFile : Attachment :=
  ⟨some "field\"; x=\"\r\n", "one\".txt\r\n", .inMemory (ascii "content") "one" none, some "text/plain"⟩

/-- A form with a name of each sort. -/
def markedForm : Builder :=
  { charset := "ISO-8859-1", parameters := [⟨"a\"b\r\nc", some "€"⟩], files := [markedFile] }

/-- `part_headers` at a form with a quote and a line break in each name: the headers of one file and one text
all the same. -/
theorem part_headers_marked :
    ∃ e m₁, markedForm.build {} = .ok (some e, markedForm) m₁ ∧ e.kind = .multipart ∧
      ∃ d : Draft, e.content = .streamed d.pieces ∧
        d.parts.map (fun part => headerLines part.header) = [
          some [ascii "Content-Disposition: form-data; name=\"field%22; x=%22%0D%0A\"; " ++
            ascii "filename=\"one%22.txt%0D%0A\"", ascii "Content-Type: text/plain"],
          some [ascii "Content-Disposition: form-data; name=\"a%22b%0D%0Ac\""]] := by
  obtain ⟨e, m₁, hbuild, hkind⟩ :
      ∃ e m₁, markedForm.build {} = .ok (some e, markedForm) m₁ ∧ e.kind = .multipart :=
    ⟨_, _, rfl, rfl⟩
  obtain ⟨codec, found, texts, m₀, d, hcodec, -, hfound, htexts, hcontent, hparts, hfiles, hparams⟩ :=
    part_headers hbuild hkind
  cases hcodec
  cases hfound
  cases htexts
  -- the names hold quotes and line breaks; the type holds none
  have hplain : markedFile.OnOneLine := by
    refine ⟨fun usage type htype => ?_, fun usage hnone => ?_⟩
    · cases htype
      decide
    · cases hnone
  have hfile := ((hfiles _ List.mem_cons_self).2 hplain).lines
  have htext := (hparams _ List.mem_cons_self).lines
  have hlines : Codec.lines .latin1 (Draft.fileLines markedFile "text/plain") =
      [ascii "Content-Disposition: form-data; name=\"field%22; x=%22%0D%0A\"; " ++
        ascii "filename=\"one%22.txt%0D%0A\"", ascii "Content-Type: text/plain"] := by decide +kernel
  have hline : Codec.lines .latin1 [Draft.disposition [("name", "a\"b\r\nc")]] =
      [ascii "Content-Disposition: form-data; name=\"a%22b%0D%0Ac\""] := by decide +kernel
  refine ⟨e, m₁, hbuild, hkind, d, hcontent, ?_⟩
  rw [hparts]
  exact congrArg₂ (fun x y => [x, y]) (hfile.trans (congrArg some hlines))
    (htext.trans (congrArg some hline))

/-- A file whose declared type goes on behind a line break. -/
def brokenFile : Attachment :=
  ⟨some "upload", "a.txt", .inMemory (ascii "x") "a.txt" none, some "text/plain\r\nX-Injected: 1"⟩

/-- The form that is begun for it. -/
def brokenDraft : Draft :=
  { charset := "UTF-8", codec := .utf8, boundary := Machine.boundary 1 }

/-- What stands behind the line break in the type is read as a header of its own. -/
theorem part_headers_broken :
    ∃ e m₁, ({ parameters := [⟨"a", some "1"⟩], files := [brokenFile] } : Builder).build {} =
        .ok (some e, { parameters := [⟨"a", some "1"⟩], files := [brokenFile] }) m₁ ∧
      ∃ d : Draft, e.content = .streamed d.pieces ∧ ∃ part ∈ d.parts,
        part.payload = .file brokenFile.source ∧
        headerLines part.header = some
          [ascii "Content-Disposition: form-data; name=\"upload\"; filename=\"a.txt\"",
            ascii "Content-Type: text/plain", ascii "X-Injected: 1"] ∧
        ¬ ∃ disposition type, headerLines part.header = some [disposition, type] := by
  have hline : LineCodec brokenDraft.codec.write := markCodec_utf8.lineCodec
  have hbehind : IsHeaderLine "X-Injected: 1" := ⟨by decide, 'X', by decide, by decide⟩
  -- a reader finds what stands behind the line break as a third header line
  have hread := Draft.filePart_lineBreak (d := brokenDraft) (n := 1) hline rfl brokenFile
    "text/plain" "X-Injected: 1" (by decide) hbehind
  have hlines : brokenDraft.codec.lines (Draft.fileLines brokenFile "text/plain" ++ ["X-Injected: 1"]) =
      [ascii "Content-Disposition: form-data; name=\"upload\"; filename=\"a.txt\"",
        ascii "Content-Type: text/plain", ascii "X-Injected: 1"] := by decide +kernel
  have htype : "text/plain" ++ "\r\n" ++ "X-Injected: 1" = "text/plain\r\nX-Injected: 1" := rfl
  rw [htype, hlines] at hread
  refine ⟨_, _, rfl, { brokenDraft with parts := [brokenDraft.filePart brokenFile
    "text/plain\r\nX-Injected: 1", brokenDraft.textPart ⟨"a", some "1"⟩ [49]] }, rfl, _,
    List.mem_cons_self, rfl, hread, ?_⟩
  rintro ⟨disposition, type, htwo⟩
  rw [hread] at htwo
  have hlength : some 3 = some 2 := congrArg (Option.map List.length) htwo
  cases hlength

end Builder

end Courier
