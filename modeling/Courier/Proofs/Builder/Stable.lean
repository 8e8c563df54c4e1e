import Courier.Proofs.Multipart.RoundTrip
import Mathlib.Algebra.Ring.Int.Defs

/-!
# Builds that come out the same

Parameters and files make an entity each time. Where the sources of the files answer the same each time
(`Attachment.Stable`), whatever else the machine went through in between, each build comes out the same
up to the boundary that is drawn for it: `Load` is what a build gives with the boundary left open, and
`Builder.load_of_stable` says that there is one load for all builds. An action that gives the same
whenever the files are the same (`Always`) is put together from such actions.
-/

namespace Courier

open Charset

/-! ## Sources that answer the same each time -/

/-- What a source answers each time: how large it is, what it gives when it is opened, and what is read
first to tell its type. -/
structure Answer where
  size : Int
  content : Bytes
  start : Bytes
  /-- The type that it reports. -/
  reported : Option String := none

/-- A source answers in this way whenever the files are these. How much it gives in one reading is left
open. -/
structure Handle.Known (h : Handle) (files : FileSystem) (answer : Answer) : Prop where
  size : ∀ m : Machine, m.files = files → h.size m = .ok answer.size
  opening : ∀ m : Machine, m.files = files →
    ∃ s : Stream, h.opening m = .ok s ∧ s.Steady ∧ s.rest = answer.content
  reported : ∀ m : Machine, m.files = files → h.mimeType m.usage = .ok answer.reported

/-- The type of a file that need not be told from its name and first bytes, if the source reports one. -/
def Attachment.typeWith (a : Attachment) (reported : Option String) : Option String :=
  (Builder.given? a.mimeType).or (Builder.given? reported)

/-- `declared` asks the source only where the attachment names no type; what the source reports is then
`typeWith`. -/
theorem Attachment.declared_of_reported {a : Attachment} {usage : Nat → Usage} {reported : Option String}
    (h : a.source.mimeType usage = .ok reported) : a.declared usage = .ok (a.typeWith reported) := by
  unfold Attachment.declared Attachment.typeWith
  cases Builder.given? a.mimeType with
  | some type => rfl
  | none =>
    rw [h]
    rfl

section

variable [Platform]

/-- **A stable file**: whenever the files are these, its source is there or not as it always is, and if it
is, answers as it always does. No reading of it fails. -/
structure Attachment.Stable (a : Attachment) (sniffBytes : Int) (files : FileSystem)
    (answer : Option Answer) : Prop where
  presence : ∀ m : Machine, m.files = files → a.source.presence m = .ok answer.isSome
  known : ∀ known, answer = some known → a.source.Known files known
  start : ∀ known, answer = some known → a.typeWith known.reported = none → ∀ m : Machine, m.files = files →
    ∃ s s' : Stream, a.source.opening m = .ok s ∧ s.read sniffBytes = .ok (known.start, s')

theorem Attachment.stable_inMemory {a : Attachment} {data : Bytes} {name : String}
    {type : Option String} (hsource : a.source = .inMemory data name type)
    (hgiven : a.typeWith type ≠ none) (sniffBytes : Int) (files : FileSystem) (start : Bytes) :
    a.Stable sniffBytes files (some ⟨data.length, data, start, type⟩) where
  presence := fun m _ => by rw [hsource]; rfl
  known := by
    rintro known ⟨⟩
    rw [hsource]
    exact { size := fun m _ => rfl, opening := fun m _ => ⟨_, rfl, trivial, rfl⟩, reported := fun m _ => rfl }
  start := by
    rintro known ⟨⟩ hnone
    exact absurd hnone hgiven

/-! ## Actions that give the same each time -/

/-- Whenever the files are these an action gives this, and leaves the files as they are. -/
def Always {α : Type} (files : FileSystem) (x : Act α) (a : α) : Prop :=
  ∀ m : Machine, m.files = files → ∃ m', x m = .ok a m' ∧ m'.files = files

namespace Always

variable {α β : Type} {files : FileSystem}

omit [Platform] in
/-- `Always` holds of `pure`, which does nothing to the files. -/
theorem pure (a : α) : Always files (pure a) a := fun m hm => ⟨m, rfl, hm⟩

omit [Platform] in
/-- `Always` composes along `>>=`, because the first action leaves the files as they were. -/
theorem bind {x : Act α} {a : α} {f : α → Act β} {b : β} (hx : Always files x a)
    (hf : Always files (f a) b) : Always files (x >>= f) b := by
  intro m hm
  obtain ⟨m₁, hrun, hm₁⟩ := hx m hm
  obtain ⟨m₂, hrun', hm₂⟩ := hf m₁ hm₁
  exact ⟨m₂, (Act.bind_run_ok hrun).trans hrun', hm₂⟩

omit [Platform] in
theorem ofExcept (a : α) : Always files (Act.ofExcept (.ok a)) a := fun m hm => ⟨m, rfl, hm⟩

omit [Platform] in
theorem log (level : Level) (text : String) : Always files (Machine.log level text) () :=
  fun _ hm => ⟨_, rfl, hm⟩

omit [Platform] in
/-- A use of a source is an answer and a count (`Handle.used`); where the answer is always the same, so is
the use. -/
theorem of_run {x : Act α} {a : α} {h : Handle} {count : Usage → Usage}
    {answer : Machine → Except Failure α}
    (hrun : ∀ m, x m = Act.ofExcept (answer m) (h.used count m))
    (hanswer : ∀ m : Machine, m.files = files → answer m = .ok a) : Always files x a := by
  intro m hm
  refine ⟨h.used count m, ?_, (Handle.used_files h count m).trans hm⟩
  rw [hrun m, hanswer m hm]
  rfl

end Always

namespace Builder

variable {b : Builder} {files : FileSystem}

/-- The type of a file whose source answers in a known way. -/
def typeOf (a : Attachment) (known : Answer) : String :=
  (a.typeWith known.reported).getD ((Mime.sniff known.start (some a.fileName)).getD defaultFileType)

/-- The `available` field of `Stable`, as an action that always gives one Boolean. -/
theorem isAvailable_always {a : Attachment} {answer : Option Answer} {sniffBytes : Int}
    (h : a.Stable sniffBytes files answer) : Always files (isAvailable a) answer.isSome := by
  refine (Always.of_run a.source.exists?_run h.presence).bind ?_
  cases answer.isSome with
  | true => exact .pure true
  | false => exact (Always.log _ _).bind (.pure false)

/-- By `resolveType_run`: the type is declared each time, or sniffed each time. -/
theorem resolveType_always {a : Attachment} {known : Answer}
    (h : a.Stable b.sniffBytes files (some known)) : Always files (b.resolveType a) (typeOf a known) := by
  intro m hm
  have hdeclared := a.declared_of_reported ((h.known known rfl).reported m hm)
  rw [resolveType_run, hdeclared]
  unfold typeOf
  cases hgiven : a.typeWith known.reported with
  | some type => exact ⟨m, rfl, hm⟩
  | none =>
    -- no type is given: the type is sniffed, from the same start at every machine with these files
    have hread : Always files (a.source.readOnce b.sniffBytes) known.start := by
      intro m hm
      obtain ⟨s, s', hopen, hread⟩ := h.start known rfl hgiven m hm
      have hrun := a.source.openRead_run m
      rw [hopen] at hrun
      refine ⟨a.source.used (fun u => { u with opened := u.opened + 1 }) m, ?_,
        (Handle.used_files a.source _ m).trans hm⟩
      unfold Handle.readOnce
      rw [Act.bind_run_ok hrun, hread]
      rfl
    have hsniff : Always files (b.sniffType a)
        ((Mime.sniff known.start (some a.fileName)).getD defaultFileType) := hread.bind (.pure _)
    exact hsniff m hm

/-- **A single file makes the same entity each time**, or none each time. -/
theorem fileEntity_always {a : Attachment} {answer : Option Answer}
    (h : a.Stable b.sniffBytes files answer) :
    Always files (b.fileEntity a) (answer.map fun known =>
      .ofPieces .file (typeOf a known) none (some known.size) [.file a.source]) := by
  refine (isAvailable_always h).bind ?_
  cases answer with
  | none => exact .pure none
  | some known =>
    have hsize := (h.known known rfl).size
    exact (resolveType_always h).bind
      ((Always.of_run a.source.length_run hsize).bind (.pure _))

/-- The files that are there, with their types, as known answers tell. -/
def foundAmong (answers : Handle → Option Answer) (as : List Attachment) :
    List (Attachment × String) :=
  as.filterMap fun a => (answers a.source).map fun known => (a, typeOf a known)

/-- `Builder.found` gives `foundAmong`. Induction on the attachments: one that is missing is passed over, one
that is there is typed by `resolveType_always`. -/
theorem found_always {answers : Handle → Option Answer} {as : List Attachment}
    (h : ∀ a ∈ as, a.Stable b.sniffBytes files (answers a.source)) :
    Always files (b.found as) (foundAmong answers as) := by
  induction as with
  | nil => exact .pure []
  | cons a rest ih =>
    have ha := h a List.mem_cons_self
    have hrest := ih fun a' ha' => h a' (List.mem_cons_of_mem _ ha')
    rw [found_cons]
    refine (isAvailable_always ha).bind ?_
    unfold foundAmong
    cases hanswer : answers a.source with
    | none =>
      rw [List.filterMap_cons_none (by rw [hanswer]; rfl)]
      exact hrest
    | some known =>
      rw [List.filterMap_cons_some (b := (a, typeOf a known)) (by rw [hanswer]; rfl)]
      rw [hanswer] at ha
      exact (resolveType_always ha).bind (hrest.bind (.pure _))

end Builder

/-! ## Forms without their boundary -/

namespace Multipart

/-- What the payload of a part is measured to have, and what it gives, by known answers. -/
def Payload.size (answers : Handle → Option Answer) : Payload → Int
  | held data => data.length
  | file source => ((answers source).map Answer.size).getD 0

def Payload.bytes (answers : Handle → Option Answer) : Payload → Bytes
  | held data => data
  | file source => ((answers source).map Answer.content).getD []

/-- The answers are known of the source of a payload, if it has one. -/
def Payload.Known (answers : Handle → Option Answer) (files : FileSystem) : Payload → Prop
  | held _ => True
  | file source => ∃ known, answers source = some known ∧ source.Known files known

/-- A part without its boundary line. -/
structure Section where
  header : Bytes
  payload : Payload

namespace Section

variable {answers : Handle → Option Answer} {files : FileSystem} {boundary : String}

/-- The part behind a boundary line. -/
def part (boundary : String) (x : Section) : Part :=
  ⟨ascii ("--" ++ boundary ++ "\r\n") ++ x.header, x.payload⟩

/-- The bytes of a part behind its boundary line, with the line break after it. -/
def bytes (answers : Handle → Option Answer) (x : Section) : Bytes :=
  x.header ++ x.payload.bytes answers ++ crlf

/-- How much a part takes behind a boundary line of 36 bytes, with the line break after it. -/
def weight (answers : Handle → Option Answer) (x : Section) : Int :=
  ((36 + x.header.length : Nat) : Int) + x.payload.size answers + 2

omit [Platform] in
/-- A boundary line has its 32 hexadecimal digits, two hyphens and a line break: 36 bytes. -/
theorem length_boundaryLine (hboundary : boundary.toList.length = 32) :
    (ascii ("--" ++ boundary ++ "\r\n")).length = 36 := by
  have hdashes : "--".toList.length = 2 := by decide
  have hbreak : "\r\n".toList.length = 2 := by decide
  unfold ascii
  rw [List.length_map, String.toList_append, String.toList_append, List.length_append,
    List.length_append, hdashes, hbreak, hboundary]

omit [Platform] in
/-- `Draft.partLength` always gives 36 for the boundary line, the header and the size of the payload. By
cases on the payload: only a file asks its source. -/
theorem partLength_always {x : Section} (hboundary : boundary.toList.length = 32)
    (h : x.payload.Known answers files) :
    Always files (Draft.partLength (x.part boundary))
      (((36 + x.header.length : Nat) : Int) + x.payload.size answers) := by
  have hheader : (x.part boundary).header.length = 36 + x.header.length := by
    show (ascii _ ++ x.header).length = _
    rw [List.length_append, length_boundaryLine hboundary]
  rw [← hheader]
  obtain ⟨header, payload⟩ := x
  cases payload with
  | held data => exact .pure _
  | file source =>
    obtain ⟨known, hanswer, hknown⟩ := h
    have hsize : Always files source.length known.size := .of_run source.length_run hknown.size
    show Always files _ (_ + ((answers source).map Answer.size).getD 0)
    rw [hanswer]
    exact hsize.bind (.pure _)

omit [Platform] in
/-- `Draft.partsLength` sums `Section.weight`. Induction on the sections with `partLength_always`. -/
theorem partsLength_always {xs : List Section} (hboundary : boundary.toList.length = 32)
    (h : ∀ x ∈ xs, x.payload.Known answers files) :
    Always files (Draft.partsLength (xs.map (part boundary))) ((xs.map (weight answers)).sum) := by
  induction xs with
  | nil => exact .pure 0
  | cons x rest ih =>
    have hfirst := partLength_always hboundary (h x List.mem_cons_self)
    have hrest := ih fun y hy => h y (List.mem_cons_of_mem _ hy)
    rw [List.map_cons, List.map_cons, List.sum_cons]
    show Always files (Draft.partLength (x.part boundary) >>= fun first =>
      Draft.partsLength (rest.map (part boundary)) >>= fun others => pure (first + 2 + others)) _
    exact hfirst.bind (hrest.bind (.pure _))

/-- A part drains to its boundary line, its header and its payload. By cases on the payload. -/
theorem part_drains (boundary : String) {x : Section} (h : x.payload.Known answers files) {m : Machine}
    (hm : m.files = files) :
    ∃ m', Piece.Drains (Draft.partPieces (x.part boundary)) m
        (ascii ("--" ++ boundary ++ "\r\n") ++ x.bytes answers) m' ∧ m'.files = files := by
  obtain ⟨header, payload⟩ := x
  -- as the pieces hold it: delimiter and header in one, then the data, then the line break
  have hsplit : ∀ data : Bytes, ascii ("--" ++ boundary ++ "\r\n") ++ (header ++ data ++ crlf) =
      (ascii ("--" ++ boundary ++ "\r\n") ++ header) ++ data ++ crlf := by
    intro data
    simp only [List.append_assoc]
  cases payload with
  | held data =>
    refine ⟨m, ?_, hm⟩
    show Piece.Drains _ m (_ ++ (header ++ data ++ crlf)) m
    rw [hsplit]
    exact Draft.held_drains _ data m
  | file source =>
    obtain ⟨known, hanswer, hknown⟩ := h
    obtain ⟨s, hopen, hsteady, hrest⟩ := hknown.opening m hm
    have hcontent := Handle.content_of_opening hopen hsteady
    refine ⟨_, ?_, (Handle.used_files source (fun u => { u with opened := u.opened + 1 }) m).trans hm⟩
    show Piece.Drains _ m (_ ++ (header ++ ((answers source).map Answer.content).getD [] ++ crlf)) _
    rw [hanswer, hsplit]
    rw [hrest] at hcontent
    exact Draft.file_drains _ hcontent

/-- The pieces of all sections drain to their bytes one after the other. Induction on the sections with
`part_drains` and `Piece.Drains.append`. -/
theorem parts_drains (boundary : String) {xs : List Section} (h : ∀ x ∈ xs, x.payload.Known answers files) {m : Machine}
    (hm : m.files = files) :
    ∃ m', Piece.Drains ((xs.map (part boundary)).flatMap Draft.partPieces) m
        (xs.flatMap fun x => ascii ("--" ++ boundary ++ "\r\n") ++ x.bytes answers) m' ∧
      m'.files = files := by
  induction xs generalizing m with
  | nil => exact ⟨m, .nil, hm⟩
  | cons x rest ih =>
    obtain ⟨m₁, hfirst, hm₁⟩ := part_drains boundary (h x List.mem_cons_self) hm
    obtain ⟨m₂, hrest, hm₂⟩ := ih (fun y hy => h y (List.mem_cons_of_mem _ hy)) hm₁
    rw [List.map_cons, List.flatMap_cons, List.flatMap_cons]
    exact ⟨m₂, hfirst.append hrest, hm₂⟩

end Section

end Multipart

/-! ## Builds -/

open Multipart

/-- What a build gives, with the boundary left open. -/
inductive Load where
  /-- The charset refuses a text. -/
  | refused (fault : CharsetFault)
  | nothing
  | plain (kind : EntityKind) (type : String) (charset : Option String) (length : Int) (bytes : Bytes)
  /-- A multipart form: what stands behind each of its boundary lines. -/
  | form (charset : String) (length : Int) (sections : List Bytes)

/-- The bytes of a form with a boundary. -/
def Load.formBytes (boundary : String) (sections : List Bytes) : Bytes :=
  sections.flatMap (fun bytes => ascii ("--" ++ boundary ++ "\r\n") ++ bytes) ++
    ascii ("--" ++ boundary ++ "--\r\n")

/-- The entity is of this kind, type, charset and length, and was not read; whenever it is read while
the files are these, it gives these bytes. -/
structure Entity.Is (e : Entity) (files : FileSystem) (kind : EntityKind) (type : String)
    (charset : Option String) (length : Int) (bytes : Bytes) : Prop where
  kind : e.kind = kind
  type : e.contentType = type
  charset : e.charset = charset
  length : e.length = some length
  gives : ∀ m : Machine, m.files = files → ∃ m', e.Gives m bytes m'

/-- The result of a build on a machine is this, with the boundary that is drawn there, and the builder
stays as it is. -/
def Load.Of (b : Builder) (m : Machine) : Load → Prop
  | refused fault => ∃ m', b.build m = .error (.charset fault) m'
  | nothing => ∃ m', b.build m = .ok (none, b) m'
  | plain kind type charset length bytes =>
    ∃ e m', b.build m = .ok (some e, b) m' ∧ e.Is m.files kind type charset length bytes
  | form charset length sections =>
    ∃ e m', b.build m = .ok (some e, b) m' ∧
      e.Is m.files .multipart ("multipart/form-data; boundary=" ++ Machine.boundary (m.drawn + 1))
        (some charset) length (formBytes (Machine.boundary (m.drawn + 1)) sections)

namespace Builder

variable {b : Builder} {m : Machine} {answers : Handle → Option Answer}

/-! ### One file -/

/-- `Entity.Is` for the stream of one file, from what is `Known` of its source. -/
theorem file_is {source : Handle} {files : FileSystem} {known : Answer} (type : String)
    (h : source.Known files known) :
    (Entity.ofPieces .file type none (some known.size) [.file source]).Is files .file type none
      known.size known.content := by
  refine ⟨rfl, rfl, rfl, rfl, fun m hm => ?_⟩
  obtain ⟨s, hopen, hsteady, hrest⟩ := h.opening m hm
  have hcontent := Handle.content_of_opening hopen hsteady
  rw [hrest] at hcontent
  exact ⟨_, Entity.gives_streamed rfl rfl (.file hcontent)⟩

/-- A builder with one stable file loads `nothing` or one plain `file`, as the answer of its source tells
(`fileEntity_always`). -/
theorem file_stable {a : Attachment} (hfiles : b.files = [a]) (hparams : b.parameters = [])
    (h : a.Stable b.sniffBytes m.files (answers a.source)) :
    match answers a.source with
    | none => Load.nothing.Of b m
    | some known => (Load.plain .file (typeOf a known) none known.size known.content).Of b m := by
  obtain ⟨m', hrun, -⟩ := fileEntity_always h m rfl
  have hbuild : b.build m = .ok ((answers a.source).map fun known =>
      .ofPieces .file (typeOf a known) none (some known.size) [.file a.source], b) m' := by
    rw [build_file hfiles hparams, Act.bind_run_ok hrun]
    rfl
  cases hanswer : answers a.source with
  | none =>
    rw [hanswer] at hbuild
    exact ⟨m', hbuild⟩
  | some known =>
    rw [hanswer] at hbuild h
    exact ⟨_, m', hbuild, file_is _ (h.known known rfl)⟩

/-! ### Parameters alone -/

/-- `Form.encode` needs nothing of the machine: parameters alone are encoded to the same bytes on each, or
refused. -/
theorem form_stable (hfiles : b.files = []) (hparams : b.parameters ≠ []) :
    match Form.encode b.charset b.parameters with
    | .error fault => (Load.refused fault).Of b m
    | .ok bytes => (Load.plain .form ("application/x-www-form-urlencoded; charset=" ++ b.charset)
        (some b.charset) bytes.length bytes).Of b m := by
  have hbuild := build_form (m := m) hfiles hparams
  unfold formEntity at hbuild
  cases hbytes : Form.encode b.charset b.parameters with
  | error fault =>
    rw [hbytes] at hbuild
    exact ⟨m, hbuild⟩
  | ok bytes =>
    rw [hbytes] at hbuild
    exact ⟨_, m, hbuild, rfl, rfl, rfl, rfl, fun m₁ _ => ⟨m₁, Entity.gives_held rfl rfl⟩⟩

/-! ### Multipart forms -/

/-- The parts of a form without their boundary. -/
def sections (codec : Codec) (found : List (Attachment × String)) (texts : List (Parameter × Bytes)) :
    List Section :=
  found.map (fun f => ⟨Draft.headerTail codec [Draft.disposition
    [("name", f.1.partName), ("filename", f.1.fileName)], "Content-Type: " ++ f.2],
      .file f.1.source⟩) ++
  texts.map fun p => ⟨Draft.headerTail codec [Draft.disposition [("name", p.1.name)]], .held p.2⟩

omit [Platform] in
/-- A form of files and texts has the parts that `sections` lists, each behind the line of its boundary: a
line codec writes what follows a line in the same way as at first. -/
theorem parts_sections (d : Draft) (found : List (Attachment × String))
    (texts : List (Parameter × Bytes)) (hcodec : found ≠ [] ∨ texts ≠ [] → LineCodec d.codec.write)
    (hboundary : ∀ c ∈ d.boundary.toList, headerDirect c = true) :
    (found.map fun f => d.filePart f.1 f.2) ++ texts.map (fun p => d.textPart p.1 p.2) =
      (sections d.codec found texts).map (Section.part d.boundary) := by
  unfold sections
  rw [List.map_append, List.map_map, List.map_map]
  refine congrArg₂ _ (List.map_congr_left fun f hf => ?_) (List.map_congr_left fun p hp => ?_)
  · show (⟨d.header _, _⟩ : Part) = ⟨_, _⟩
    rw [Draft.header_split (hcodec (.inl (List.ne_nil_of_mem hf))) hboundary]
  · show (⟨d.header _, _⟩ : Part) = ⟨_, _⟩
    rw [Draft.header_split (hcodec (.inr (List.ne_nil_of_mem hp))) hboundary]

/-- The form with no part yet, with the boundary that the machine draws next. -/
def emptyForm (b : Builder) (codec : Codec) (m : Machine) : Draft :=
  { charset := b.charset, codec, boundary := Machine.boundary (m.drawn + 1) }

/-- `Draft.begin` draws one boundary. -/
theorem begin_run {codec : Codec} (hcodec : headerCodec b.charset = .ok codec) :
    Draft.begin b.charset none m = .ok (b.emptyForm codec m) { m with drawn := m.drawn + 1 } := by
  unfold Draft.begin
  rw [hcodec]
  rfl

/-- Where `headerCodec` fails, so does the build of a form. Nothing is done on the machine. -/
theorem build_refused_begin {fault : CharsetFault} (hfiles : b.files ≠ [])
    (hmany : b.files.length = 1 → b.parameters ≠ []) (h : headerCodec b.charset = .error fault) :
    b.build m = .error (.charset fault) m := by
  have hbegin : Draft.begin b.charset none m = .error (.charset fault) m := by
    unfold Draft.begin
    rw [h]
    rfl
  rw [build_multipart hfiles hmany]
  exact Act.bind_run_error (Act.bind_run_error hbegin)

/-- `Draft.begin` and `addFiles` together: the empty form gets the parts of the files that are found. -/
theorem begin_files {codec : Codec} {found : List (Attachment × String)} {m₁ : Machine}
    (hcodec : headerCodec b.charset = .ok codec) (hwrites : found ≠ [] → codec.writes = true)
    (hfound : b.found b.files { m with drawn := m.drawn + 1 } = .ok found m₁) :
    (Draft.begin b.charset none >>= fun d => b.addFiles d b.files) m =
      .ok ((b.emptyForm codec m).addParts (found.map fun f => (b.emptyForm codec m).filePart f.1 f.2)) m₁ := by
  rw [Act.bind_run_ok (begin_run hcodec)]
  by_cases hnone : found = []
  · rw [hnone] at hfound ⊢
    rw [addFiles_of_none hfound, List.map_nil, Draft.addParts_nil]
  · rw [addFiles_eq b (d := b.emptyForm codec m) (hwrites hnone), Act.bind_run_ok hfound]
    rfl

/-- The form of files that were found and of the texts of the parameters. -/
def filledForm (b : Builder) (codec : Codec) (m : Machine) (found : List (Attachment × String))
    (texts : List Bytes) : Draft :=
  ((b.emptyForm codec m).addParts (found.map fun f => (b.emptyForm codec m).filePart f.1 f.2)).addParts
    ((b.parameters.zip texts).map fun p => (b.emptyForm codec m).textPart p.1 p.2)

/-- Once the files are found, `multipartEntity` adds the texts and measures `filledForm`. -/
theorem multipartEntity_of_found {codec : Codec} {found : List (Attachment × String)}
    {texts : List Bytes} {m₁ : Machine} (hcodec : headerCodec b.charset = .ok codec)
    (hwrites : found ≠ [] ∨ b.parameters ≠ [] → codec.writes = true)
    (htexts : textsOf b.charset b.parameters = .ok texts)
    (hfound : b.found b.files { m with drawn := m.drawn + 1 } = .ok found m₁) :
    b.multipartEntity m = ((b.filledForm codec m found texts).length >>= fun length =>
      pure (.ofPieces .multipart (b.filledForm codec m found texts).contentType (some b.charset)
        (some length) (b.filledForm codec m found texts).pieces)) m₁ := by
  -- the texts were already encoded in `texts`, so adding them to the form cannot fail
  have hadded : Act.ofExcept (addTexts ((b.emptyForm codec m).addParts (found.map fun f =>
      (b.emptyForm codec m).filePart f.1 f.2)) b.parameters) m₁ =
        .ok (b.filledForm codec m found texts) m₁ := by
    by_cases hnone : b.parameters = []
    · unfold filledForm
      rw [hnone, List.zip_nil_left, List.map_nil, Draft.addParts_nil]
      rfl
    · rw [addTexts_written (d := (b.emptyForm codec m).addParts _) (hwrites (.inr hnone)) htexts]
      rfl
  unfold multipartEntity
  rw [← bind_assoc, Act.bind_run_ok (begin_files hcodec (fun hne => hwrites (.inl hne)) hfound),
    Act.bind_run_ok hadded]

/-- `multipartEntity` fails if the charset refuses one of its texts (`addTexts_refused`). -/
theorem multipartEntity_refused {codec : Codec} {fault : CharsetFault}
    {found : List (Attachment × String)} {m₁ : Machine} (hcodec : headerCodec b.charset = .ok codec)
    (hwrites : codec.writes = true) (htexts : textsOf b.charset b.parameters = .error fault)
    (hfound : b.found b.files { m with drawn := m.drawn + 1 } = .ok found m₁) :
    b.multipartEntity m = .error (.charset fault) m₁ := by
  have hrefused : Act.ofExcept (addTexts ((b.emptyForm codec m).addParts (found.map fun f =>
      (b.emptyForm codec m).filePart f.1 f.2)) b.parameters) m₁ = .error (.charset fault) m₁ := by
    rw [addTexts_refused (d := (b.emptyForm codec m).addParts _) hwrites htexts]
    rfl
  unfold multipartEntity
  rw [← bind_assoc, Act.bind_run_ok (begin_files hcodec (fun _ => hwrites) hfound),
    Act.bind_run_error hrefused]

/-- `multipartEntity` fails if no header can be written and there is a part to be: at the first file, or else
at the first text. -/
theorem multipartEntity_unwritten {codec : Codec} {found : List (Attachment × String)} {m₁ : Machine}
    (hcodec : headerCodec b.charset = .ok codec) (hwrites : codec.writes = false)
    (hparts : found ≠ [] ∨ b.parameters ≠ [])
    (hfound : b.found b.files { m with drawn := m.drawn + 1 } = .ok found m₁) :
    ∃ m₂, b.multipartEntity m = .error (.charset (.refuses b.charset true codec.writeRefusal)) m₂ := by
  unfold multipartEntity
  rw [Act.bind_run_ok (begin_run hcodec)]
  by_cases hnone : found = []
  · -- no file is found, so it is the first text
    rw [hnone] at hfound
    have hparams : b.parameters ≠ [] := hparts.resolve_left fun h => h hnone
    have hrefused : Act.ofExcept (addTexts (b.emptyForm codec m) b.parameters) m₁ =
        .error (.charset (.refuses b.charset true codec.writeRefusal)) m₁ := by
      rw [addTexts_unwritten (d := b.emptyForm codec m) hwrites hparams]
      rfl
    rw [Act.bind_run_ok (addFiles_of_none hfound), Act.bind_run_error hrefused]
    exact ⟨m₁, rfl⟩
  · obtain ⟨m₂, hrefused⟩ := addFiles_refused (d := b.emptyForm codec m) hwrites hfound hnone
    rw [Act.bind_run_error hrefused]
    exact ⟨m₂, rfl⟩

/-- A build whose charset refuses a text has the load `refused` (`multipartEntity_refused`). -/
theorem multipart_refused_of_found {codec : Codec} {fault : CharsetFault}
    {found : List (Attachment × String)} {m₁ : Machine} (hfiles : b.files ≠ [])
    (hmany : b.files.length = 1 → b.parameters ≠ []) (hcodec : headerCodec b.charset = .ok codec)
    (hwrites : codec.writes = true) (htexts : textsOf b.charset b.parameters = .error fault)
    (hfound : b.found b.files { m with drawn := m.drawn + 1 } = .ok found m₁) :
    (Load.refused fault).Of b m := by
  refine ⟨m₁, ?_⟩
  rw [build_multipart hfiles hmany,
    Act.bind_run_error (multipartEntity_refused hcodec hwrites htexts hfound)]

/-- A build whose part headers cannot be written has that load too (`multipartEntity_unwritten`). -/
theorem multipart_unwritten_of_found {codec : Codec} {found : List (Attachment × String)}
    {m₁ : Machine} (hfiles : b.files ≠ []) (hmany : b.files.length = 1 → b.parameters ≠ [])
    (hcodec : headerCodec b.charset = .ok codec) (hwrites : codec.writes = false)
    (hparts : found ≠ [] ∨ b.parameters ≠ [])
    (hfound : b.found b.files { m with drawn := m.drawn + 1 } = .ok found m₁) :
    (Load.refused (.refuses b.charset true codec.writeRefusal)).Of b m := by
  obtain ⟨m₂, hrefused⟩ := multipartEntity_unwritten hcodec hwrites hparts hfound
  refine ⟨m₂, ?_⟩
  rw [build_multipart hfiles hmany, Act.bind_run_error hrefused]

/-- Each source that was found answers in a known way. -/
def FoundKnown (answers : Handle → Option Answer) (files : FileSystem)
    (found : List (Attachment × String)) : Prop :=
  ∀ f ∈ found, ∃ known, answers f.1.source = some known ∧ f.1.source.Known files known

/-- `Stable` files are `Known` if they are among those found. -/
theorem foundKnown_among {files : FileSystem}
    (h : ∀ a ∈ b.files, a.Stable b.sniffBytes files (answers a.source)) :
    FoundKnown answers files (foundAmong answers b.files) := by
  intro f hf
  obtain ⟨a, ha, hfound⟩ := List.mem_filterMap.mp hf
  obtain ⟨known, hanswer, rfl⟩ := Option.map_eq_some_iff.mp hfound
  exact ⟨known, hanswer, (h a ha).known known hanswer⟩

omit [Platform] in
/-- Every payload of `sections` is `Known`: that of a file by assumption, and a text needs no answer. -/
theorem sections_known {files : FileSystem} {codec : Codec} {found : List (Attachment × String)}
    {texts : List (Parameter × Bytes)} (h : FoundKnown answers files found) :
    ∀ x ∈ sections codec found texts, x.payload.Known answers files := by
  intro x hx
  rcases List.mem_append.mp hx with hx | hx
  · obtain ⟨f, hf, rfl⟩ := List.mem_map.mp hx
    exact h f hf
  · obtain ⟨p, -, rfl⟩ := List.mem_map.mp hx
    exact trivial

omit [Platform] in
/-- `Draft.length` of known parts is the same each time, by `partsLength_always`: every boundary has 32
digits. -/
theorem length_always {files : FileSystem} {d : Draft} {xs : List Section}
    (hparts : d.parts = xs.map (Section.part d.boundary)) (hboundary : d.boundary.toList.length = 32)
    (hascii : ∀ c ∈ d.boundary.toList, c.toNat < 0x80)
    (h : ∀ x ∈ xs, x.payload.Known answers files) :
    Always files d.length ((xs.map (Section.weight answers)).sum + 38) := by
  have hlast : d.lastLine.length = 38 := by
    have hdashes : "--".toList.length = 2 := by decide
    have hend : "--\r\n".toList.length = 4 := by decide
    unfold Draft.lastLine ascii
    rw [List.length_map, String.toList_append, String.toList_append, List.length_append,
      List.length_append, hdashes, hend, hboundary]
  have hsum := Section.partsLength_always hboundary h
  unfold Draft.length
  rw [hparts, Draft.closing_of_ascii hascii]
  refine hsum.bind ((Always.ofExcept d.lastLine).bind ?_)
  rw [hlast]
  exact .pure _

/-- **A multipart form is made of what was found**, and of the boundary that is drawn. Its length is known
from `length_always`, its bytes from `Section.parts_drains`. -/
theorem multipart_of_found {codec : Codec} {texts : List Bytes} {found : List (Attachment × String)}
    {m₁ : Machine} (hfiles : b.files ≠ []) (hmany : b.files.length = 1 → b.parameters ≠ [])
    (hcodec : headerCodec b.charset = .ok codec)
    (hwrites : found ≠ [] ∨ b.parameters ≠ [] → codec.writes = true)
    (htexts : textsOf b.charset b.parameters = .ok texts)
    (hfound : b.found b.files { m with drawn := m.drawn + 1 } = .ok found m₁)
    (h : FoundKnown answers m.files found) :
    (Load.form b.charset
      (((sections codec found (b.parameters.zip texts)).map (Section.weight answers)).sum + 38)
      ((sections codec found (b.parameters.zip texts)).map (Section.bytes answers))).Of b m := by
  generalize hxs : sections codec found (b.parameters.zip texts) = xs
  have hknown : ∀ x ∈ xs, x.payload.Known answers m.files := hxs ▸ sections_known h
  obtain ⟨hdirect, -, -⟩ := boundary_plain (m.drawn + 1)
  have hm₁ : m₁.files = m.files := (found_of_ok hfound).1
  have hentity := multipartEntity_of_found hcodec hwrites htexts hfound
  have hpairs : b.parameters.zip texts ≠ [] → b.parameters ≠ [] :=
    fun hne hnone => hne (List.zip_eq_nil_iff.mpr (.inl hnone))
  -- the form with all its parts
  have hsections := parts_sections (b.emptyForm codec m) found (b.parameters.zip texts)
    (fun hne => lineCodec_of_headerCodec hcodec (hwrites (hne.imp_right hpairs))) hdirect
  rw [show (b.emptyForm codec m).codec = codec from rfl, hxs] at hsections
  have hboundary : (b.filledForm codec m found texts).boundary = Machine.boundary (m.drawn + 1) := rfl
  have hparts : (b.filledForm codec m found texts).parts =
      xs.map (Section.part (b.filledForm codec m found texts).boundary) := hsections
  generalize b.filledForm codec m found texts = d at hentity hboundary hparts
  have hlength : d.boundary.toList.length = 32 := by
    rw [hboundary]
    exact Machine.length_boundary _
  have hplain : ∀ c ∈ d.boundary.toList, c.toNat < 0x80 := hboundary ▸ Machine.boundary_ascii (m.drawn + 1)
  -- its length, which needs that every boundary has as many digits
  obtain ⟨m₂, hmeasured, -⟩ := length_always hparts hlength hplain hknown m₁ hm₁
  rw [Act.bind_run_ok hmeasured] at hentity
  have hbuild : b.build m = .ok (some (.ofPieces .multipart d.contentType (some b.charset)
      (some ((xs.map (Section.weight answers)).sum + 38)) d.pieces), b) m₂ := by
    rw [build_multipart hfiles hmany, Act.bind_run_ok hentity]
    rfl
  refine ⟨_, m₂, hbuild, rfl, ?_, rfl, rfl, fun m₃ hm₃ => ?_⟩
  · show d.contentType = _
    unfold Draft.contentType
    rw [hboundary]
  · -- its bytes, whenever they are read
    obtain ⟨m₄, hdrains, -⟩ := Section.parts_drains d.boundary hknown hm₃
    refine ⟨m₄, Entity.gives_streamed rfl rfl ?_⟩
    rw [← hparts] at hdrains
    have hall := Draft.pieces_drains hplain hdrains
    unfold Load.formBytes
    rw [List.flatMap_map, ← hboundary]
    exact hall

/-- **A multipart form is the same each time up to its boundary**: stable files are always found
(`found_always`). -/
theorem multipart_stable {codec : Codec} {texts : List Bytes} (hfiles : b.files ≠ [])
    (hmany : b.files.length = 1 → b.parameters ≠ []) (hcodec : headerCodec b.charset = .ok codec)
    (hwrites : foundAmong answers b.files ≠ [] ∨ b.parameters ≠ [] → codec.writes = true)
    (htexts : textsOf b.charset b.parameters = .ok texts)
    (h : ∀ a ∈ b.files, a.Stable b.sniffBytes m.files (answers a.source)) :
    (Load.form b.charset
      (((sections codec (foundAmong answers b.files) (b.parameters.zip texts)).map
        (Section.weight answers)).sum + 38)
      ((sections codec (foundAmong answers b.files) (b.parameters.zip texts)).map
        (Section.bytes answers))).Of b m := by
  obtain ⟨m₁, hfound, -⟩ := found_always h { m with drawn := m.drawn + 1 } rfl
  exact multipart_of_found hfiles hmany hcodec hwrites htexts hfound (foundKnown_among h)

/-! ### What a charset refuses -/

/-- A charset that keeps a form from being begun refuses every text. Each refusal of a build is in fact one
of a text: -/
theorem encodeText_of_headerCodec {charset : String} {fault : CharsetFault}
    (h : headerCodec charset = .error fault) : encodeText charset "" = .error fault := by
  unfold headerCodec at h
  unfold encodeText
  split at h
  · cases h
  · next hlookup =>
    cases h
    rw [hlookup]
  · cases h

/-- A codec of headers that writes no text is the one of the charset, so that `encodeText` refuses every
text. -/
theorem encodeText_of_refuses {charset : String} {codec : Codec} (h : headerCodec charset = .ok codec)
    (hwrites : codec.writes = false) (text : String) :
    encodeText charset text = .error (.refuses charset true codec.writeRefusal) := by
  unfold headerCodec at h
  unfold encodeText
  split at h
  · next own hlookup =>
    split at h
    · cases h
      -- a codec that writes nothing gives no bytes for any text
      have hnone : codec.encode? text.toList = none := by
        rw [← Option.isNone_iff_eq_none, Codec.encode?_isNone, hwrites]
        rfl
      rw [hlookup]
      simp only [hnone]
    · cases h
      cases hwrites
  · cases h
  · cases h
    cases hwrites

/-- Where `textsOf` refuses, one of the values is refused. Induction on the parameters. -/
theorem encodeText_of_textsOf {charset : String} {ps : List Parameter} {fault : CharsetFault}
    (h : textsOf charset ps = .error fault) : ∃ text, encodeText charset text = .error fault := by
  induction ps with
  | nil => cases h
  | cons p rest ih =>
    unfold textsOf at h
    rw [List.mapM_cons] at h
    cases hbytes : encodeText charset (p.value.getD "") with
    | error own =>
      rw [hbytes] at h
      cases h
      exact ⟨_, hbytes⟩
    | ok bytes =>
      rw [hbytes] at h
      refine ih ?_
      unfold textsOf
      cases hrest : rest.mapM fun p => encodeText charset (p.value.getD "") with
      | error own =>
        simp only [hrest] at h
        cases h
        rfl
      | ok texts =>
        simp only [hrest] at h
        cases h

/-- Where a field is refused, so is its text; the empty one never is. -/
theorem encodeText_of_encodeField {charset text : String} {fault : CharsetFault}
    (h : Form.encodeField charset text = .error fault) : encodeText charset text = .error fault := by
  unfold Form.encodeField at h
  split at h
  · cases h
  · cases hbytes : encodeText charset text with
    | error own =>
      rw [hbytes] at h
      cases h
      rfl
    | ok bytes =>
      rw [hbytes] at h
      cases h

/-- The refusal of a parameter is that of its name or of its value. -/
theorem encodeText_of_encodeParameter {charset : String} {p : Parameter} {fault : CharsetFault}
    (h : Form.encodeParameter charset p = .error fault) :
    ∃ text, encodeText charset text = .error fault := by
  unfold Form.encodeParameter at h
  split at h
  · next hname =>
    cases h
    exact ⟨_, encodeText_of_encodeField hname⟩
  · split at h
    · cases h
    · split at h
      · next hvalue =>
        cases h
        exact ⟨_, encodeText_of_encodeField hvalue⟩
      · cases h

/-- The refusal of a form is that of one of its parameters. Induction on these. -/
theorem encodeText_of_encode {charset : String} {ps : List Parameter} {fault : CharsetFault}
    (h : Form.encode charset ps = .error fault) : ∃ text, encodeText charset text = .error fault := by
  -- joining the pairs cannot fail, so the fault is one of the pairs
  have hpairs : Form.encodePairs charset ps = .error fault := by
    unfold Form.encode at h
    cases hpairs : Form.encodePairs charset ps with
    | error own =>
      rw [hpairs] at h
      cases h
      rfl
    | ok pairs =>
      rw [hpairs] at h
      cases h
  induction ps with
  | nil => cases hpairs
  | cons p rest ih =>
    unfold Form.encodePairs at hpairs
    split at hpairs
    · next hp =>
      cases hpairs
      exact encodeText_of_encodeParameter hp
    · split at hpairs
      · next hrest =>
        cases hpairs
        refine ih ?_ hrest
        unfold Form.encode
        rw [hrest]
        rfl
      · cases hpairs

/-! ### All builds -/

/-- **Parameters and stable files make the same each time**, up to the boundary of a form: an entity; or
nothing, if the single file is gone; or no build comes to an end, because the charset refuses a text. -/
theorem load_of_stable (b : Builder) (hfull : b.files ≠ [] ∨ b.parameters ≠ [])
    (answers : Handle → Option Answer) :
    ∃ load : Load,
      (load = .nothing ↔ ∃ a, b.files = [a] ∧ b.parameters = [] ∧ answers a.source = none) ∧
      (∀ fault, load = .refused fault → ∃ text, encodeText b.charset text = .error fault) ∧
      ∀ m : Machine, (∀ a ∈ b.files, a.Stable b.sniffBytes m.files (answers a.source)) →
        load.Of b m := by
  cases b.way with
  | nothing hfiles hparams htext => exact (hfull.elim (fun h => h hfiles) fun h => h hparams).elim
  | text text hfiles hparams htext hne => exact (hfull.elim (fun h => h hfiles) fun h => h hparams).elim
  | form hfiles hparams =>
    -- parameters alone, which no source has a part in
    have hsome : ¬ ∃ a, b.files = [a] ∧ b.parameters = [] ∧ answers a.source = none := by
      rintro ⟨a, -, hnone, -⟩
      exact hparams hnone
    have hform := fun m : Machine => form_stable (m := m) hfiles hparams
    cases hbytes : Form.encode b.charset b.parameters with
    | error fault =>
      simp only [hbytes] at hform
      exact ⟨.refused fault, iff_of_false nofun hsome,
        fun own hown => by cases hown; exact encodeText_of_encode hbytes, fun m _ => hform m⟩
    | ok bytes =>
      simp only [hbytes] at hform
      exact ⟨.plain .form _ _ _ _, iff_of_false nofun hsome, nofun, fun m _ => hform m⟩
  | file a hfiles hparams =>
    -- one file by itself, which may be gone
    have hmem : a ∈ b.files := hfiles ▸ List.mem_singleton_self a
    have hstable := fun (m : Machine)
        (h : a.Stable b.sniffBytes m.files (answers a.source)) => file_stable hfiles hparams h
    cases hanswer : answers a.source with
    | none =>
      simp only [hanswer] at hstable
      exact ⟨.nothing, iff_of_true rfl ⟨a, hfiles, hparams, hanswer⟩, nofun,
        fun m h => hstable m (hanswer ▸ h a hmem)⟩
    | some known =>
      simp only [hanswer] at hstable
      refine ⟨.plain .file _ _ _ _, iff_of_false nofun ?_, nofun,
        fun m h => hstable m (hanswer ▸ h a hmem)⟩
      rintro ⟨a', hfile', -, hnone⟩
      rw [hfiles, List.singleton_inj] at hfile'
      rw [← hfile', hanswer] at hnone
      cases hnone
  | multipart hfiles hmany =>
    -- a form, which is made even if no file is left for it
    have hsome : ¬ ∃ a, b.files = [a] ∧ b.parameters = [] ∧ answers a.source = none := by
      rintro ⟨a, hfile, hnone, -⟩
      exact hmany (by rw [hfile]; rfl) hnone
    cases hcodec : headerCodec b.charset with
    | error fault =>
      exact ⟨.refused fault, iff_of_false nofun hsome,
        fun own hown => by cases hown; exact ⟨_, encodeText_of_headerCodec hcodec⟩,
        fun m _ => ⟨m, build_refused_begin hfiles hmany hcodec⟩⟩
    | ok codec =>
      by_cases hparts : (foundAmong answers b.files ≠ [] ∨ b.parameters ≠ []) ∧ codec.writes = false
      · -- there is a part, and its header cannot be written
        refine ⟨.refused _, iff_of_false nofun hsome, fun own hown => by
          cases hown; exact ⟨"", encodeText_of_refuses hcodec hparts.2 ""⟩, fun m h => ?_⟩
        obtain ⟨m₁, hfound, -⟩ := found_always h { m with drawn := m.drawn + 1 } rfl
        exact multipart_unwritten_of_found hfiles hmany hcodec hparts.2 hparts.1 hfound
      · have hwrites : foundAmong answers b.files ≠ [] ∨ b.parameters ≠ [] → codec.writes = true :=
          fun hne => eq_true_of_ne_false fun hno => hparts ⟨hne, hno⟩
        cases htexts : textsOf b.charset b.parameters with
        | error fault =>
          have hparams : b.parameters ≠ [] := by
            intro hnone
            rw [hnone] at htexts
            cases htexts
          refine ⟨.refused fault, iff_of_false nofun hsome,
            fun own hown => by cases hown; exact encodeText_of_textsOf htexts, fun m h => ?_⟩
          obtain ⟨m₁, hfound, -⟩ := found_always h { m with drawn := m.drawn + 1 } rfl
          exact multipart_refused_of_found hfiles hmany hcodec (hwrites (.inr hparams)) htexts hfound
        | ok texts =>
          exact ⟨.form _ _ _, iff_of_false nofun hsome, nofun, fun m h =>
            multipart_stable hfiles hmany hcodec hwrites htexts h⟩

end Builder

end

end Courier
