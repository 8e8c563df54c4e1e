import Courier.Proofs.Builder.Stable
import Courier.Proofs.Entity.Fetch

/-!
# What a build fixes

Files are read long after the build, but what they give then is settled by it: the entity that a builder makes
on a machine, and its bytes, where the content of each source is known (`Builder.Makes`). What is left to be
read are chunks, and sources of files that were attached and found (`Builder.Among`). Main statement:
`Builder.makes_of_build`.
-/

namespace Courier

namespace Builder

open Multipart

variable [Platform]

/-- What a build makes of a builder on a machine, and the bytes that this gives, where the content of each
source is known. -/
inductive Makes (content : Handle → Option Bytes) (b : Builder) (m : Machine) : Entity → Bytes → Prop where
  | text {text : String} {bytes : Bytes} (htext : b.text = some text)
      (hbytes : encodeText b.charset text = .ok bytes) :
      Makes content b m
        (.ofBytes .text (b.textType ++ "; charset=" ++ b.charset) (some b.charset) bytes) bytes
  | form {bytes : Bytes} (hbytes : Form.encode b.charset b.parameters = .ok bytes) :
      Makes content b m
        (.ofBytes .form ("application/x-www-form-urlencoded; charset=" ++ b.charset) (some b.charset)
          bytes) bytes
  | file {a : Attachment} {type : String} {length : Int} {bytes : Bytes} {m₁ m₂ m₃ : Machine}
      (hfiles : b.files = [a]) (hm₁ : m₁.files = m.files) (htype : b.resolveType a m₁ = .ok type m₂)
      (hlength : a.source.length m₂ = .ok length m₃) (hcontent : content a.source = some bytes) :
      Makes content b m (.ofPieces .file type none (some length) [.file a.source]) bytes
  | multipart {d : Draft} {found : List (Attachment × String)} {texts : List Bytes} {length : Int}
      {m₁ m₂ : Machine} (hcodec : headerCodec b.charset = .ok d.codec)
      (hboundary : d.boundary = Machine.boundary (m.drawn + 1))
      (hfound : b.found b.files { m with drawn := m.drawn + 1 } = .ok found m₁)
      (htexts : textsOf b.charset b.parameters = .ok texts)
      (hparts : d.parts = (found.map fun f => d.filePart f.1 f.2) ++
        (b.parameters.zip texts).map (fun p => d.textPart p.1 p.2))
      (hlength : d.length m₁ = .ok length m₂) :
      Makes content b m (.ofPieces .multipart d.contentType (some b.charset) (some length) d.pieces)
        ((found.flatMap fun f =>
            (d.filePart f.1 f.2).header ++ (content f.1.source).getD [] ++ crlf) ++
          ((b.parameters.zip texts).flatMap fun p => (d.textPart p.1 p.2).header ++ p.2 ++ crlf) ++
          d.lastLine)

/-- A piece that can be read while its source stays the same, which is that of an attached file. -/
def Among (content : Handle → Option Bytes) (files : List Attachment) : Piece → Prop
  | .chunk _ => True
  | .file source => (content source).isSome ∧ ∃ a ∈ files, a.source = source
  | .fault _ => False

variable {content : Handle → Option Bytes} {b b' : Builder} {m m' : Machine} {e : Entity}

omit [Platform] in
/-- More files allow the same pieces. -/
theorem Among.mono {xs ys : List Attachment} (hsub : xs ⊆ ys) {p : Piece} (h : Among content xs p) :
    Among content ys p := by
  cases p with
  | chunk bytes => exact trivial
  | fault failure => exact h
  | file source =>
    obtain ⟨hsome, a, ha, hsource⟩ := h
    exact ⟨hsome, a, hsub ha, hsource⟩

omit [Platform] in
/-- A piece of an attached file is `Piece.Ready` while the sources of the files stay the same. -/
theorem ready_of_among {as : List Attachment} {files : FileSystem}
    (hstays : ∀ a ∈ as, a.source.Stays files (content a.source)) {p : Piece} (h : Among content as p) :
    p.Ready content files := by
  cases p with
  | chunk bytes => exact trivial
  | fault failure => exact h
  | file source =>
    obtain ⟨hsome, a, ha, rfl⟩ := h
    obtain ⟨bytes, hbytes⟩ := Option.isSome_iff_exists.mp hsome
    exact ⟨bytes, hbytes, hbytes ▸ hstays a ha⟩

omit [Platform] in
/-- A file that was found has content. -/
theorem isSome_of_there {h : Handle} {files : FileSystem} (hstays : h.Stays files (content h))
    (hthere : h.There files) : (content h).isSome = true := by
  obtain ⟨m, hm, hpresence⟩ := hthere
  cases hcontent : content h with
  | some bytes => rfl
  | none => exact absurd hpresence (hstays.gone hcontent m hm)

/-- The case of one file. It was found, so its content is known, and the entity is a stream of that source
alone. -/
theorem fileEntity_makes {a : Attachment} (hfiles : b.files = [a])
    (he : b.fileEntity a m = .ok (some e) m') (hstays : a.source.Stays m.files (content a.source)) :
    Makes content b m e (e.content.bytes content) ∧
      ∀ p ∈ e.content.cursor.pieces, Among content b.files p := by
  unfold fileEntity at he
  obtain ⟨there, m₁, hthere, he⟩ := Act.bind_eq_ok.mp he
  obtain ⟨hpresence, hm₁⟩ := isAvailable_of_ok hthere
  cases there with
  | false => cases he
  | true =>
    obtain ⟨type, m₂, htype, he⟩ := Act.bind_eq_ok.mp he
    obtain ⟨length, m₃, hlength, he⟩ := Act.bind_eq_ok.mp he
    cases he
    -- it is there, so it is not one of those that never are
    have hsome := isSome_of_there hstays ⟨m, rfl, hpresence⟩
    obtain ⟨bytes, hbytes⟩ := Option.isSome_iff_exists.mp hsome
    have hcontent : content a.source = some (Piece.allBytes content [.file a.source]) := by
      show _ = some ((content a.source).getD [] ++ [])
      rw [hbytes, List.append_nil]
      rfl
    refine ⟨.file hfiles hm₁ htype hlength hcontent, fun p hp => ?_⟩
    rw [List.mem_singleton.mp hp]
    exact ⟨hsome, a, by rw [hfiles]; exact List.mem_singleton_self a, rfl⟩

omit [Platform] in
/-- What the pieces of a part give. -/
theorem allBytes_partPieces (content : Handle → Option Bytes) (header : Bytes) :
    (∀ source, Piece.allBytes content (Draft.partPieces ⟨header, .file source⟩) =
      header ++ (content source).getD [] ++ crlf) ∧
    ∀ data, Piece.allBytes content (Draft.partPieces ⟨header, .held data⟩) = header ++ data ++ crlf := by
  constructor
  · intro source
    show header ++ ((content source).getD [] ++ (crlf ++ [])) = _
    rw [List.append_nil, List.append_assoc]
  · intro data
    cases data with
    | nil =>
      show header ++ (crlf ++ []) = _
      rw [List.append_nil, List.append_nil]
    | cons x rest =>
      show header ++ ((x :: rest) ++ (crlf ++ [])) = _
      rw [List.append_nil, List.append_assoc]

omit [Platform] in
/-- A piece of a part is a chunk, unless the payload of the part is a file. -/
theorem mem_partPieces {part : Part} {p : Piece} (h : p ∈ Draft.partPieces part) :
    (∃ bytes, p = .chunk bytes) ∨ ∃ source, part.payload = .file source ∧ p = .file source := by
  unfold Draft.partPieces at h
  rcases List.mem_cons.mp h with rfl | h
  · exact .inl ⟨_, rfl⟩
  · rcases List.mem_append.mp h with h | h
    · split at h
      · cases h
      · exact .inl ⟨_, List.mem_singleton.mp h⟩
      · next source hsource => exact .inr ⟨source, hsource, List.mem_singleton.mp h⟩
    · exact .inl ⟨_, List.mem_singleton.mp h⟩

/-- The case of several parts, from `multipartEntity_of_ok`: the bytes are summed up part by part
(`allBytes_partPieces`), and only the parts of files have a source. -/
theorem multipartEntity_makes (he : b.multipartEntity m = .ok e m')
    (hstays : ∀ a ∈ b.files, a.source.Stays m.files (content a.source)) :
    Makes content b m e (e.content.bytes content) ∧
      ∀ p ∈ e.content.cursor.pieces, Among content b.files p := by
  obtain ⟨d, found, texts, length, m₁, hcodec, hboundary, hfound, htexts, hparts, -, hlength,
      rfl⟩ := multipartEntity_of_ok he
  obtain ⟨-, hthere⟩ := found_of_ok hfound
  -- a boundary that was drawn can be written, so no piece stands for a fault
  have hpieces : d.pieces = d.parts.flatMap Draft.partPieces ++ [.chunk d.lastLine] := by
    unfold Draft.pieces
    rw [Draft.closing_of_drawn hboundary]
  constructor
  · -- section by section: the files that were found, the texts, and the line that closes the form
    have hbytes : Piece.allBytes content d.pieces =
        (found.flatMap fun f =>
          (d.filePart f.1 f.2).header ++ (content f.1.source).getD [] ++ crlf) ++
        ((b.parameters.zip texts).flatMap fun p => (d.textPart p.1 p.2).header ++ p.2 ++ crlf) ++
        d.lastLine := by
      unfold Piece.allBytes
      rw [hpieces, hparts, List.flatMap_append, List.flatMap_append, List.flatMap_append,
        List.flatMap_map, List.flatMap_map, List.flatMap_assoc, List.flatMap_assoc,
        List.flatMap_singleton]
      refine congrArg₂ _ (congrArg₂ _ ?_ ?_) rfl
      · exact List.flatMap_congr fun f _ => (allBytes_partPieces content _).1 _
      · exact List.flatMap_congr fun p _ => (allBytes_partPieces content _).2 _
    show Makes content b m _ (Piece.allBytes content d.pieces)
    rw [hbytes]
    exact .multipart hcodec hboundary hfound htexts hparts hlength
  · intro p hp
    replace hp : p ∈ d.pieces := hp
    rw [hpieces, List.mem_append] at hp
    rcases hp with hp | hp
    · obtain ⟨part, hpart, hp⟩ := List.mem_flatMap.mp hp
      obtain ⟨bytes, rfl⟩ | ⟨source, hsource, rfl⟩ := mem_partPieces hp
      · exact trivial
      · -- only the parts of files have a source, and those were found
        rw [hparts, List.mem_append, List.mem_map, List.mem_map] at hpart
        obtain ⟨f, hf, rfl⟩ | ⟨q, -, rfl⟩ := hpart
        · cases hsource
          obtain ⟨hmem, hf⟩ := hthere f hf
          exact ⟨isSome_of_there (hstays f.1 hmem) hf, f.1, hmem, rfl⟩
        · cases hsource
    · rw [List.mem_singleton.mp hp]
      exact trivial

/-- **A build fixes the entity and its bytes**, and reads no sources but those of attached files. By cases of
`Builds`; only the last two have sources at all. -/
theorem makes_of_build (hbuild : b.build m = .ok (some e, b') m')
    (hstays : ∀ a ∈ b.files, a.source.Stays m.files (content a.source)) :
    Makes content b m e (e.content.bytes content) ∧
      ∀ p ∈ e.content.cursor.pieces, Among content b.files p := by
  have hchunk : ∀ (bytes : Bytes), ∀ p ∈ (Content.held bytes).cursor.pieces, Among content b.files p := by
    intro bytes p hp
    rw [List.mem_singleton.mp hp]
    exact trivial
  cases builds_of_build hbuild with
  | text text e hfiles hparams htext hne he =>
    obtain ⟨bytes, hbytes, rfl⟩ := textEntity_of_ok he
    exact ⟨.text htext hbytes, hchunk bytes⟩
  | form e hfiles hparams he =>
    obtain ⟨bytes, hbytes, rfl⟩ := formEntity_of_ok he
    exact ⟨.form hbytes, hchunk bytes⟩
  | file a e m' hfiles hparams he =>
    exact fileEntity_makes hfiles he (hstays a (by rw [hfiles]; exact List.mem_singleton_self a))
  | multipart e m' hfiles hmany he => exact multipartEntity_makes he hstays

end Builder

end Courier
