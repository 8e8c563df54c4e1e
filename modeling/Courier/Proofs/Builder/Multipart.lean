import Courier.Proofs.Builder.Outcome
import Courier.Proofs.Charset.HeaderLine
import Courier.Proofs.Multipart.Boundary

/-!
# The multipart form of a builder

Which parts a multipart form has: one for each attached file that was there when the builder was asked
(`Builder.found`), then one for each parameter, both in the order in which they were added
(`Builder.multipartEntity_of_ok`). A part is made only if the codec of the part headers writes at all
(`Codec.writes`); with one that does not, a form without parts is all that can be built.
-/

namespace Courier

namespace Multipart.Draft

/-- The part of an attached file of a given type. -/
def filePart (d : Draft) (a : Attachment) (type : String) : Part :=
  ⟨d.header [disposition [("name", a.partName), ("filename", a.fileName)],
    "Content-Type: " ++ type], .file a.source⟩

/-- The part of a parameter whose text has the given bytes. -/
def textPart (d : Draft) (p : Parameter) (bytes : Bytes) : Part :=
  ⟨d.header [disposition [("name", p.name)]], .held bytes⟩

/-- A form with further parts. -/
def addParts (d : Draft) (parts : List Part) : Draft :=
  { d with parts := d.parts ++ parts }

theorem addParts_nil (d : Draft) : d.addParts [] = d := by
  unfold addParts
  rw [List.append_nil]

/-- Parts that are added one after the other are added together. -/
theorem addParts_addParts (d : Draft) (xs ys : List Part) :
    (d.addParts xs).addParts ys = d.addParts (xs ++ ys) := by
  unfold addParts
  rw [List.append_assoc]

/-- What is told of a header that cannot be written. -/
def refusal (d : Draft) : Failure :=
  .charset (.refuses d.charset true d.codec.writeRefusal)

/-- Where the codec writes, adding a part is `addParts` of the one with the header of the given lines, unless
its payload fails. -/
theorem addPart_of_writes {d : Draft} (h : d.codec.writes = true) (lines : List String)
    (payload : Except Failure Payload) :
    d.addPart lines payload = payload.map fun payload => d.addParts [⟨d.header lines, payload⟩] := by
  unfold addPart
  rw [Codec.encode?_isNone, h]
  rfl

/-- Where it does not, the header comes first and fails whatever the payload is. -/
theorem addPart_of_refuses {d : Draft} (h : d.codec.writes = false) (lines : List String)
    (payload : Except Failure Payload) : d.addPart lines payload = .error d.refusal := by
  unfold addPart
  rw [Codec.encode?_isNone, h]
  rfl

/-- A part that is added has a header that could be written, and the payload that was asked for. -/
theorem addPart_of_ok {d d' : Draft} {lines : List String} {payload : Except Failure Payload}
    (h : d.addPart lines payload = .ok d') :
    ∃ own, payload = .ok own ∧ d' = d.addParts [⟨d.header lines, own⟩] ∧ d.codec.writes = true := by
  cases hwrites : d.codec.writes with
  | false =>
    rw [addPart_of_refuses hwrites] at h
    cases h
  | true =>
    rw [addPart_of_writes hwrites] at h
    cases payload with
    | error failure => cases h
    | ok own =>
      cases h
      exact ⟨own, rfl, rfl, rfl⟩

/-- The part that `Draft.addFile` adds for an attached file is its `filePart`. -/
theorem addFile_of_writes {d : Draft} (h : d.codec.writes = true) (a : Attachment) (type : String) :
    d.addFile a.partName a.fileName a.source type = .ok (d.addParts [d.filePart a type]) := by
  unfold addFile
  rw [addPart_of_writes h]
  rfl

theorem addFile_of_refuses {d : Draft} (h : d.codec.writes = false) (a : Attachment) (type : String) :
    d.addFile a.partName a.fileName a.source type = .error d.refusal :=
  addPart_of_refuses h _ _

variable [Platform]

/-- A form begins without parts, with the boundary that was given, or with one that is drawn. -/
theorem begin_of_ok {charset : String} {boundary : Option String} {d : Draft} {m m' : Machine}
    (h : begin charset boundary m = .ok d m') :
    ∃ codec, headerCodec charset = .ok codec ∧
      ((∃ text, boundary = some text ∧ d = { charset, codec, boundary := text } ∧ m' = m) ∨
        (d = { charset, codec, boundary := Machine.boundary (m.drawn + 1) } ∧
          m' = { m with drawn := m.drawn + 1 })) := by
  unfold begin at h
  cases hcodec : headerCodec charset with
  | error fault =>
    rw [hcodec] at h
    cases h
  | ok codec =>
    rw [hcodec] at h
    refine ⟨codec, rfl, ?_⟩
    cases boundary with
    | none =>
      cases h
      exact .inr ⟨rfl, rfl⟩
    | some text =>
      -- an empty boundary counts as none given
      by_cases hempty : text = ""
      · simp only [if_pos hempty] at h
        cases h
        exact .inr ⟨rfl, rfl⟩
      · simp only [if_neg hempty] at h
        cases h
        exact .inl ⟨text, rfl, rfl, rfl⟩

end Multipart.Draft

/-- The type that a file was attached with, or else the one that its source reports after the given uses. -/
def Attachment.declared (a : Attachment) (usage : Nat → Usage) : Except Failure (Option String) :=
  match Builder.given? a.mimeType with
  | some type => .ok (some type)
  | none => (a.source.mimeType usage).map Builder.given?

/-- The source can be found while the files are these. -/
def Handle.There (h : Handle) (files : FileSystem) : Prop :=
  ∃ m : Machine, m.files = files ∧ h.presence m = .ok true

namespace Builder

open Multipart

variable [Platform] {b : Builder} {m m' : Machine} {d : Draft}

/-! ## Types of files -/

/-- The type that the name and the first bytes of a file tell. -/
def sniffType (b : Builder) (a : Attachment) : Act String := do
  let start ← a.source.readOnce b.sniffBytes
  return (Mime.sniff start (some a.fileName)).getD defaultFileType

/-- **A declared type is taken, and only where there is none the file is opened.** -/
theorem resolveType_run (b : Builder) (a : Attachment) (m : Machine) :
    b.resolveType a m =
      match a.declared m.usage with
      | .error failure => .error failure m
      | .ok (some type) => .ok type m
      | .ok none => b.sniffType a m := by
  unfold resolveType Attachment.declared
  cases given? a.mimeType with
  | some type => rfl
  | none =>
    show (Act.ofExcept (a.source.mimeType m.usage) >>= _) m = _
    cases a.source.mimeType m.usage with
    | error failure => rfl
    | ok own =>
      show (match given? own with
        | some type => pure type
        | none => b.sniffType a) m = _
      simp only [Except.map]
      cases given? own <;> rfl

/-! ## Files -/

/-- The files that are still there, each with its type. -/
def found (b : Builder) (files : List Attachment) : Act (List (Attachment × String)) :=
  files.filterMapM fun a => do
    if ← isAvailable a then return some (a, ← b.resolveType a) else return none

/-- The files are asked one after the other: the type of one is told before the next is asked whether it is
there. -/
theorem found_cons (b : Builder) (a : Attachment) (rest : List Attachment) :
    b.found (a :: rest) = (do
      if ← isAvailable a then
        let type ← b.resolveType a
        let others ← b.found rest
        return (a, type) :: others
      else b.found rest) := by
  unfold found
  rw [List.filterMapM_cons, bind_assoc]
  refine bind_congr fun there => ?_
  cases there with
  | true =>
    simp only [if_true, bind_assoc, pure_bind]
  | false => simp only [Bool.false_eq_true, if_false, pure_bind]

omit [Platform] in
/-- Asking for a file leaves the files as they are. -/
theorem isAvailable_of_ok {a : Attachment} {there : Bool} (h : isAvailable a m = .ok there m') :
    a.source.presence m = .ok there ∧ m'.files = m.files := by
  obtain ⟨answer, m₁, hrun, h⟩ := Act.bind_eq_ok.mp h
  rw [Handle.exists?_run] at hrun
  obtain ⟨hpresence, rfl⟩ := Act.ofExcept_eq_ok.mp hrun
  cases answer with
  | true =>
    obtain ⟨rfl, rfl⟩ := Act.pure_eq_ok.mp h
    exact ⟨hpresence, Handle.used_files _ _ _⟩
  | false =>
    cases h
    exact ⟨hpresence, Handle.used_files _ _ _⟩

/-- So does looking for the type of one: by `resolveType_run` it is declared, or its source is opened and
read once. -/
theorem resolveType_of_ok {a : Attachment} {type : String} (h : b.resolveType a m = .ok type m') :
    m'.files = m.files := by
  rw [resolveType_run] at h
  split at h
  · cases h
  · cases h
    rfl
  · obtain ⟨start, m₁, hread, h⟩ := Act.bind_eq_ok.mp h
    obtain ⟨-, rfl⟩ := Act.pure_eq_ok.mp h
    obtain ⟨stream, m₂, hopen, hread⟩ := Act.bind_eq_ok.mp hread
    rw [Handle.openRead_run] at hopen
    obtain ⟨-, rfl⟩ := Act.ofExcept_eq_ok.mp hopen
    obtain ⟨pair, m₃, hfirst, hread⟩ := Act.bind_eq_ok.mp hread
    obtain ⟨-, rfl⟩ := Act.ofExcept_eq_ok.mp hfirst
    obtain ⟨-, rfl⟩ := Act.pure_eq_ok.mp hread
    exact Handle.used_files _ _ _

/-- **Each file that was found answered that it is there**, and the files are as they were. Induction on the
files, with the machine general. -/
theorem found_of_ok {files : List Attachment} {fs : List (Attachment × String)}
    (h : b.found files m = .ok fs m') :
    m'.files = m.files ∧ ∀ f ∈ fs, f.1 ∈ files ∧ f.1.source.There m.files := by
  induction files generalizing fs m with
  | nil =>
    cases h
    exact ⟨rfl, fun f hf => absurd hf List.not_mem_nil⟩
  | cons a rest ih =>
    -- the others are asked on a later machine, but its files are those of the first
    rw [found_cons] at h
    obtain ⟨there, m₁, hthere, h⟩ := Act.bind_eq_ok.mp h
    obtain ⟨hpresence, hfiles⟩ := isAvailable_of_ok hthere
    cases there with
    | false =>
      obtain ⟨hfiles', hall⟩ := ih h
      refine ⟨hfiles'.trans hfiles, fun f hf => ?_⟩
      obtain ⟨hmem, hthere⟩ := hall f hf
      exact ⟨List.mem_cons_of_mem _ hmem, hfiles ▸ hthere⟩
    | true =>
      obtain ⟨type, m₂, htype, h⟩ := Act.bind_eq_ok.mp h
      obtain ⟨others, m₃, hothers, h⟩ := Act.bind_eq_ok.mp h
      obtain ⟨rfl, rfl⟩ := Act.pure_eq_ok.mp h
      have hfiles₂ := (resolveType_of_ok htype).trans hfiles
      obtain ⟨hfiles', hall⟩ := ih hothers
      refine ⟨hfiles'.trans hfiles₂, fun f hf => ?_⟩
      rcases List.mem_cons.mp hf with rfl | hf
      · exact ⟨List.mem_cons_self, m, rfl, hpresence⟩
      · obtain ⟨hmem, hthere⟩ := hall f hf
        exact ⟨List.mem_cons_of_mem _ hmem, hfiles₂ ▸ hthere⟩

/-- **The files that are still there become parts, in their order**, where headers can be written: `addFiles`
is `found`, and then `addParts` of what that gives. Induction on the files, with the form general, which
grows by a part for each file. -/
theorem addFiles_eq (b : Builder) {d : Draft} (h : d.codec.writes = true) (files : List Attachment) :
    b.addFiles d files = do
      let found ← b.found files
      return d.addParts (found.map fun f => d.filePart f.1 f.2) := by
  induction files generalizing d with
  | nil =>
    show pure d = pure (d.addParts [])
    rw [Draft.addParts_nil]
  | cons a rest ih =>
    rw [found_cons, addFiles, bind_assoc]
    refine bind_congr fun there => ?_
    cases there with
    | true =>
      simp only [if_true, bind_assoc]
      refine bind_congr fun type => ?_
      rw [Draft.addFile_of_writes h]
      show b.addFiles (d.addParts [d.filePart a type]) rest = _
      -- the parts added before stay in front of those of the rest
      rw [ih (d := d.addParts _) h]
      simp only [pure_bind, Draft.addParts_addParts]
      rfl
    | false => simp only [Bool.false_eq_true, if_false, ih h]

/-- Where they cannot, no file is found if the form goes on. -/
theorem addFiles_of_refuses {d d' : Draft} (h : d.codec.writes = false) {files : List Attachment}
    (hadd : b.addFiles d files m = .ok d' m') : d' = d ∧ b.found files m = .ok [] m' := by
  induction files generalizing m with
  | nil =>
    cases hadd
    exact ⟨rfl, rfl⟩
  | cons a rest ih =>
    rw [found_cons]
    rw [addFiles] at hadd
    obtain ⟨there, m₁, hthere, hadd⟩ := Act.bind_eq_ok.mp hadd
    rw [Act.bind_run_ok hthere]
    cases there with
    | false => exact ih hadd
    | true =>
      obtain ⟨type, m₂, htype, hadd⟩ := Act.bind_eq_ok.mp hadd
      -- its part is refused, so the form would not have gone on
      obtain ⟨next, m₃, hnext, -⟩ := Act.bind_eq_ok.mp hadd
      rw [Draft.addFile_of_refuses h] at hnext
      cases hnext

/-- A form goes on as it is where no file is found. -/
theorem addFiles_of_none {files : List Attachment} (h : b.found files m = .ok [] m') :
    b.addFiles d files m = .ok d m' := by
  induction files generalizing m with
  | nil =>
    cases h
    rfl
  | cons a rest ih =>
    rw [found_cons] at h
    obtain ⟨there, m₁, hthere, h⟩ := Act.bind_eq_ok.mp h
    rw [addFiles, Act.bind_run_ok hthere]
    cases there with
    | false => exact ih h
    | true =>
      obtain ⟨type, m₂, -, h⟩ := Act.bind_eq_ok.mp h
      obtain ⟨others, m₃, -, h⟩ := Act.bind_eq_ok.mp h
      cases h

/-- Where headers cannot be written, the first file that is found has its part refused. -/
theorem addFiles_refused (hwrites : d.codec.writes = false) {files : List Attachment}
    {found : List (Attachment × String)} (h : b.found files m = .ok found m') (hne : found ≠ []) :
    ∃ m₁, b.addFiles d files m = .error d.refusal m₁ := by
  induction files generalizing m with
  | nil =>
    cases h
    exact absurd rfl hne
  | cons a rest ih =>
    rw [found_cons] at h
    obtain ⟨there, m₁, hthere, h⟩ := Act.bind_eq_ok.mp h
    rw [addFiles, Act.bind_run_ok hthere]
    cases there with
    | false => exact ih h
    | true =>
      obtain ⟨type, m₂, htype, -⟩ := Act.bind_eq_ok.mp h
      rw [if_pos rfl, Act.bind_run_ok htype, Draft.addFile_of_refuses hwrites]
      exact ⟨m₂, rfl⟩

/-- A form on which `addFiles` goes on has a part for each file that `Builder.found` lists, whether headers
can be written or not. -/
theorem addFiles_of_ok {d d' : Draft} {files : List Attachment}
    (h : b.addFiles d files m = .ok d' m') :
    ∃ found, b.found files m = .ok found m' ∧
      d' = d.addParts (found.map fun f => d.filePart f.1 f.2) ∧ (found ≠ [] → d.codec.writes = true) := by
  cases hwrites : d.codec.writes with
  | true =>
    rw [addFiles_eq b hwrites] at h
    obtain ⟨found, m₁, hfound, h⟩ := Act.bind_eq_ok.mp h
    obtain ⟨rfl, rfl⟩ := Act.pure_eq_ok.mp h
    exact ⟨found, hfound, rfl, fun _ => rfl⟩
  | false =>
    obtain ⟨rfl, hfound⟩ := addFiles_of_refuses hwrites h
    exact ⟨[], hfound, (Draft.addParts_nil _).symm, fun hne => absurd rfl hne⟩

/-! ## Parameters -/

/-- The bytes of the texts of parameters; a missing value is an empty text. -/
def textsOf (charset : String) (ps : List Parameter) : Except CharsetFault (List Bytes) :=
  ps.mapM fun p => encodeText charset (p.value.getD "")

/-- The part that `Draft.addText` adds for a parameter is its `textPart`, unless the charset refuses the
text. -/
theorem addText_of_writes {d : Draft} (h : d.codec.writes = true) (p : Parameter) :
    d.addText p.name p.value =
      match encodeText d.charset (p.value.getD "") with
      | .error fault => .error (.charset fault)
      | .ok bytes => .ok (d.addParts [d.textPart p bytes]) := by
  unfold Draft.addText
  rw [Draft.addPart_of_writes h]
  unfold Draft.textPayload
  cases encodeText d.charset (p.value.getD "") <;> rfl

/-- **The parameters become parts, in their order**, unless the charset refuses one of their texts. -/
theorem addTexts_eq {d : Draft} (h : d.codec.writes = true) (ps : List Parameter) :
    addTexts d ps =
      match textsOf d.charset ps with
      | .error fault => .error (.charset fault)
      | .ok texts => .ok (d.addParts ((ps.zip texts).map fun p => d.textPart p.1 p.2)) := by
  induction ps generalizing d with
  | nil =>
    show _ = Except.ok (d.addParts [])
    rw [Draft.addParts_nil]
    rfl
  | cons p rest ih =>
    unfold addTexts textsOf
    rw [addText_of_writes h, List.mapM_cons]
    cases hbytes : encodeText d.charset (p.value.getD "") with
    | error fault => rfl
    | ok bytes =>
      simp only
      rw [ih (d := d.addParts _) h]
      show (match textsOf d.charset rest with
        | .error fault => _
        | .ok texts => _) = _
      unfold textsOf
      cases hrest : rest.mapM fun p => encodeText d.charset (p.value.getD "") with
      | error fault => rfl
      | ok texts =>
        -- the part of the first parameter stands before those of the rest
        show Except.ok ((d.addParts [d.textPart p bytes]).addParts _) = Except.ok (d.addParts _)
        rw [Draft.addParts_addParts]
        rfl

/-- `addTexts_eq` where the charset writes all texts. -/
theorem addTexts_written {d : Draft} (h : d.codec.writes = true) {ps : List Parameter} {texts : List Bytes}
    (htexts : textsOf d.charset ps = .ok texts) :
    addTexts d ps = .ok (d.addParts ((ps.zip texts).map fun p => d.textPart p.1 p.2)) := by
  rw [addTexts_eq h, htexts]

/-- `addTexts_eq` where the charset refuses one. -/
theorem addTexts_refused {d : Draft} (h : d.codec.writes = true) {ps : List Parameter}
    {fault : CharsetFault} (htexts : textsOf d.charset ps = .error fault) :
    addTexts d ps = .error (.charset fault) := by
  rw [addTexts_eq h, htexts]

/-- Where headers cannot be written, `addTexts` goes on only without a parameter. -/
theorem addTexts_of_refuses {d d' : Draft} (h : d.codec.writes = false) {ps : List Parameter}
    (hadd : addTexts d ps = .ok d') : d' = d ∧ ps = [] := by
  cases ps with
  | nil =>
    cases hadd
    exact ⟨rfl, rfl⟩
  | cons p rest =>
    unfold addTexts Draft.addText at hadd
    rw [Draft.addPart_of_refuses h] at hadd
    cases hadd

/-- Where headers cannot be written, the first parameter is refused. -/
theorem addTexts_unwritten {d : Draft} (h : d.codec.writes = false) {ps : List Parameter} (hne : ps ≠ []) :
    addTexts d ps = .error d.refusal := by
  cases ps with
  | nil => exact absurd rfl hne
  | cons p rest =>
    unfold addTexts Draft.addText
    rw [Draft.addPart_of_refuses h]

/-- A form on which `addTexts` goes on has a part for each parameter, whether headers can be written or not.
-/
theorem addTexts_of_ok {d d' : Draft} {ps : List Parameter} (h : addTexts d ps = .ok d') :
    ∃ texts, textsOf d.charset ps = .ok texts ∧
      d' = d.addParts ((ps.zip texts).map fun p => d.textPart p.1 p.2) ∧
      (ps ≠ [] → d.codec.writes = true) := by
  cases hwrites : d.codec.writes with
  | true =>
    rw [addTexts_eq hwrites] at h
    cases htexts : textsOf d.charset ps with
    | error fault =>
      rw [htexts] at h
      cases h
    | ok texts =>
      rw [htexts] at h
      cases h
      exact ⟨texts, rfl, rfl, fun _ => rfl⟩
  | false =>
    obtain ⟨rfl, rfl⟩ := addTexts_of_refuses hwrites h
    exact ⟨[], rfl, (Draft.addParts_nil _).symm, fun hne => absurd rfl hne⟩

/-! ## The form -/

/-- **A multipart form has a part for each file that was there, then one for each parameter.** The steps of
`multipartEntity` one after the other: the form is begun, the files are added (`addFiles_of_ok`), then the
texts (`addTexts_of_ok`), and the whole is measured. -/
theorem multipartEntity_of_ok {e : Entity} (h : b.multipartEntity m = .ok e m') :
    ∃ (d : Draft) (found : List (Attachment × String)) (texts : List Bytes) (length : Int)
      (m₁ : Machine),
      headerCodec b.charset = .ok d.codec ∧ d.boundary = Machine.boundary (m.drawn + 1) ∧
      b.found b.files { m with drawn := m.drawn + 1 } = .ok found m₁ ∧
      textsOf b.charset b.parameters = .ok texts ∧
      d.parts = (found.map fun f => d.filePart f.1 f.2) ++
        (b.parameters.zip texts).map (fun p => d.textPart p.1 p.2) ∧
      (found ≠ [] ∨ b.parameters ≠ [] → d.codec.writes = true) ∧
      d.length m₁ = .ok length m' ∧
      e = .ofPieces .multipart d.contentType (some b.charset) (some length) d.pieces := by
  unfold multipartEntity at h
  obtain ⟨d, m₁, hbegin, h⟩ := Act.bind_eq_ok.mp h
  -- no boundary is given, so one is drawn
  obtain ⟨codec, hcodec, ⟨text, hnone, -, -⟩ | ⟨rfl, rfl⟩⟩ := Draft.begin_of_ok hbegin
  · cases hnone
  obtain ⟨d, m₁, hfiles, h⟩ := Act.bind_eq_ok.mp h
  obtain ⟨found, hfound, rfl, hwrites⟩ := addFiles_of_ok hfiles
  obtain ⟨d, m₃, hadd, h⟩ := Act.bind_eq_ok.mp h
  obtain ⟨hadded, rfl⟩ := Act.ofExcept_eq_ok.mp hadd
  obtain ⟨texts, htexts, rfl, hwrites'⟩ := addTexts_of_ok hadded
  obtain ⟨length, m₄, hlength, h⟩ := Act.bind_eq_ok.mp h
  obtain ⟨rfl, rfl⟩ := Act.pure_eq_ok.mp h
  exact ⟨_, found, texts, length, _, hcodec, rfl, hfound, htexts, rfl, Or.rec hwrites hwrites',
    hlength, rfl⟩

end Builder

end Courier
