import Courier.Platform.Plain
import Courier.Proofs.Builder.Multipart
import Courier.Proofs.Multipart.Body
import Courier.Request
import Mathlib.Algebra.GroupWithZero.Nat

/-!
# The declared length

An entity states how many bytes it has before any of them is read: the length of a file is asked of its
source, that of a multipart form is added up from the headers, the sizes of the sources and the line
breaks between the parts. If each source gives as many bytes as it was measured to have, what is stated
is what is sent (`Builder.build_length`). The step is one part of a form (`Part.length_spec`), the run
a list of them (`Draft.length_spec`).
-/

namespace Courier

/-- Nothing was opened between two machines, and the files are the same. -/
def Machine.Undisturbed (m m' : Machine) : Prop :=
  m'.files = m.files ∧ ∀ id, (m'.usage id).opened = (m.usage id).opened

namespace Machine.Undisturbed

theorem refl (m : Machine) : m.Undisturbed m := ⟨rfl, fun _ => rfl⟩

theorem trans {m m₁ m₂ : Machine} (h : m.Undisturbed m₁) (h' : m₁.Undisturbed m₂) :
    m.Undisturbed m₂ :=
  ⟨h'.1.trans h.1, fun id => (h'.2 id).trans (h.2 id)⟩

end Machine.Undisturbed

/-- `Handle.length` uses a source without opening it. -/
theorem Handle.Measures.length_run {h : Handle} {m : Machine} {n : Nat} (hn : h.Measures m.files n) :
    ∃ m', h.length m = .ok n m' ∧ m.Undisturbed m' := by
  refine ⟨h.used (fun u => { u with measured := u.measured + 1 }) m, ?_, used_files _ _ _,
    used_opened fun _ => rfl⟩
  rw [Handle.length_run, hn m rfl]
  rfl

namespace Multipart

variable [Platform] {before after : FileSystem}

/-! ## Parts -/

/-- A part whose source, if it has one, gives as many bytes as it was measured to have. -/
def Part.Faithful (before after : FileSystem) (part : Part) : Prop :=
  match part.payload with
  | .held _ => True
  | .file source => source.Faithful before after

/-- **What a part is measured to have is what it gives, up to the line break after it.** -/
theorem Part.length_spec {part : Part} (h : part.Faithful before after) :
    ∃ n : Nat,
      (∀ m : Machine, m.files = before →
        ∃ m', Draft.partLength part m = .ok n m' ∧ m.Undisturbed m') ∧
      ∀ m : Machine, m.files = after →
        ∃ bytes m', Piece.Drains (Draft.partPieces part) m bytes m' ∧ bytes.length = n + 2 ∧
          m'.files = after := by
  obtain ⟨header, payload⟩ := part
  cases payload with
  | held data =>
    refine ⟨header.length + data.length, fun m _ => ⟨m, ?_, .refl m⟩, fun m hm => ?_⟩
    · show EStateM.Result.ok ((header.length : Int) + data.length) m = _
      rw [Int.natCast_add]
    · refine ⟨_, m, Draft.held_drains header data m, ?_, hm⟩
      rw [List.length_append, List.length_append]
      rfl
  | file source =>
    -- one `n` is measured on the machine before and yielded on the one after
    obtain ⟨n, hmeasures, hyields⟩ := h
    refine ⟨header.length + n, ?_, ?_⟩
    · rintro m rfl
      obtain ⟨m', hlength, hundisturbed⟩ := hmeasures.length_run
      refine ⟨m', ?_, hundisturbed⟩
      show (source.length >>= fun size => pure ((header.length : Int) + size)) m = _
      rw [Act.bind_run_ok hlength, Int.natCast_add]
      rfl
    · rintro m rfl
      obtain ⟨bytes, m', hcontent, hfiles, hlen⟩ := hyields.content
      refine ⟨_, m', Draft.file_drains header hcontent, ?_, hfiles⟩
      rw [List.length_append, List.length_append, hlen]
      rfl

/-- **So it is with all parts together, the line breaks between them counted.** -/
theorem partsLength_spec {parts : List Part} (h : ∀ part ∈ parts, part.Faithful before after) :
    ∃ n : Nat,
      (∀ m : Machine, m.files = before →
        ∃ m', Draft.partsLength parts m = .ok n m' ∧ m.Undisturbed m') ∧
      ∀ m : Machine, m.files = after →
        ∃ bytes m', Piece.Drains (parts.flatMap Draft.partPieces) m bytes m' ∧ bytes.length = n ∧
          m'.files = after := by
  induction parts with
  | nil => exact ⟨0, fun m _ => ⟨m, rfl, .refl m⟩, fun m hm => ⟨[], m, .nil, rfl, hm⟩⟩
  | cons part rest ih =>
    obtain ⟨first, hfirst, hgives⟩ := Part.length_spec (h part List.mem_cons_self)
    obtain ⟨others, hothers, hgives'⟩ := ih fun p hp => h p (List.mem_cons_of_mem _ hp)
    -- the line break behind the first part belongs to what it gives, not to its measured length
    refine ⟨first + 2 + others, ?_, ?_⟩
    · intro m hm
      obtain ⟨m₁, hlength, hundisturbed⟩ := hfirst m hm
      obtain ⟨m₂, hlength', hundisturbed'⟩ := hothers m₁ (hundisturbed.1.trans hm)
      refine ⟨m₂, ?_, hundisturbed.trans hundisturbed'⟩
      unfold Draft.partsLength
      rw [Act.bind_run_ok hlength, Act.bind_run_ok hlength']
      simp only [Int.natCast_add]
      rfl
    · intro m hm
      obtain ⟨bytes, m₁, hdrains, hlen, hm₁⟩ := hgives m hm
      obtain ⟨bytes', m₂, hdrains', hlen', hm₂⟩ := hgives' m₁ hm₁
      refine ⟨bytes ++ bytes', m₂, ?_, ?_, hm₂⟩
      · rw [List.flatMap_cons]
        exact hdrains.append hdrains'
      · rw [List.length_append, hlen, hlen']

namespace Draft

/-- **The length of a form is found without opening a file, and is what its pieces give.** -/
theorem length_spec {d : Draft} (hascii : ∀ c ∈ d.boundary.toList, c.toNat < 0x80)
    (h : ∀ part ∈ d.parts, part.Faithful before after) :
    ∃ n : Nat,
      (∀ m : Machine, m.files = before → ∃ m', d.length m = .ok n m' ∧ m.Undisturbed m') ∧
      ∀ m : Machine, m.files = after →
        ∃ bytes m', Piece.Drains d.pieces m bytes m' ∧ bytes.length = n := by
  obtain ⟨n, hlength, hgives⟩ := partsLength_spec h
  refine ⟨n + d.lastLine.length, ?_, ?_⟩
  · intro m hm
    obtain ⟨m', hrun, hundisturbed⟩ := hlength m hm
    refine ⟨m', ?_, hundisturbed⟩
    unfold length
    rw [Act.bind_run_ok hrun, closing_of_ascii hascii, Int.natCast_add]
    rfl
  · intro m hm
    obtain ⟨bytes, m', hdrains, hlen, -⟩ := hgives m hm
    refine ⟨_, m', pieces_drains hascii hdrains, ?_⟩
    rw [List.length_append, hlen]

/-! ## Forms that are put together step by step -/

/-- A step of putting a form together. -/
inductive Addition where
  | text (name : String) (value : Option String)
  | file (name fileName : String) (source : Handle) (contentType : String)

/-- The form after a step that does not fail. -/
def added (d : Draft) : Addition → Except Failure Draft
  | .text name value => d.addText name value
  | .file name fileName source contentType => d.addFile name fileName source contentType

/-- Takes a step. One that fails adds nothing. -/
def perform (d : Draft) (step : Addition) : Draft :=
  match d.added step with
  | .ok d => d
  | .error _ => d

/-- `Draft.perform` keeps the boundary, and adds no part but that of its own source. By cases on the step;
one that fails adds nothing. -/
theorem perform_spec {d : Draft} {step : Addition} (h : ∀ part ∈ d.parts, part.Faithful before after)
    (hstep : ∀ name fileName source type, step = .file name fileName source type →
      source.Faithful before after) :
    (d.perform step).boundary = d.boundary ∧
      ∀ part ∈ (d.perform step).parts, part.Faithful before after := by
  unfold perform
  cases hadded : d.added step with
  | error failure => exact ⟨rfl, h⟩
  | ok next =>
    -- either sort of step adds one part, whose payload is faithful
    obtain ⟨part, hpart, rfl⟩ : ∃ part : Part, part.Faithful before after ∧ next = d.addParts [part] := by
      cases step with
      | text name value =>
        obtain ⟨payload, hpayload, hnext, -⟩ := addPart_of_ok hadded
        refine ⟨_, ?_, hnext⟩
        unfold textPayload at hpayload
        split at hpayload
        · cases hpayload
        · cases hpayload
          trivial
      | file name fileName source type =>
        obtain ⟨payload, hpayload, hnext, -⟩ := addPart_of_ok hadded
        cases hpayload
        refine ⟨_, ?_, hnext⟩
        exact hstep _ _ _ _ rfl
    refine ⟨rfl, fun p hp => ?_⟩
    rcases List.mem_append.mp hp with hp | hp
    · exact h p hp
    · rw [List.mem_singleton.mp hp]
      exact hpart

/-- **So do any number of steps.** -/
theorem performAll_spec {d : Draft} {steps : List Addition}
    (h : ∀ part ∈ d.parts, part.Faithful before after)
    (hsteps : ∀ name fileName source type, .file name fileName source type ∈ steps →
      source.Faithful before after) :
    (steps.foldl perform d).boundary = d.boundary ∧
      ∀ part ∈ (steps.foldl perform d).parts, part.Faithful before after := by
  induction steps generalizing d with
  | nil => exact ⟨rfl, h⟩
  | cons step rest ih =>
    obtain ⟨hboundary, hparts⟩ := perform_spec h fun name fileName source type heq =>
      hsteps name fileName source type (heq ▸ List.mem_cons_self)
    obtain ⟨hboundary', hparts'⟩ := ih hparts fun name fileName source type hmem =>
      hsteps name fileName source type (List.mem_cons_of_mem _ hmem)
    exact ⟨hboundary'.trans hboundary, hparts'⟩

/-- `Draft.begin` draws an ASCII boundary (`Machine.boundary_ascii`), unless it is given another one. -/
theorem begin_ascii {charset : String} {boundary : Option String} {d : Draft} {m m' : Machine}
    (hbegin : begin charset boundary m = .ok d m')
    (hascii : ∀ text, boundary = some text → ∀ c ∈ text.toList, c.toNat < 0x80) :
    d.parts = [] ∧ ∀ c ∈ d.boundary.toList, c.toNat < 0x80 := by
  obtain ⟨codec, -, ⟨text, hgiven, rfl, -⟩ | ⟨rfl, -⟩⟩ := begin_of_ok hbegin
  · exact ⟨rfl, hascii text hgiven⟩
  · exact ⟨rfl, Machine.boundary_ascii _⟩

end Draft

end Multipart

open Multipart

namespace Builder

variable [Platform] {b : Builder} {m m' m₂ : Machine}

/-! ## Entities of builders -/

/-- What `fileEntity` states is the length that its source is measured to have, and the source gives as many
bytes. -/
theorem fileEntity_length {a : Attachment} {e : Entity} (h : b.fileEntity a m = .ok (some e) m')
    (hsource : a.source.There m.files → a.source.Faithful m.files m₂.files) :
    ∃ (n : Nat) (bytes : Bytes) (m₃ : Machine),
      e.length = some (n : Int) ∧ bytes.length = n ∧ e.Gives m₂ bytes m₃ := by
  unfold fileEntity at h
  obtain ⟨there, m₃, hthere, h⟩ := Act.bind_eq_ok.mp h
  obtain ⟨hpresence, hfiles⟩ := isAvailable_of_ok hthere
  cases there with
  | false => cases h
  | true =>
    obtain ⟨type, m₄, htype, h⟩ := Act.bind_eq_ok.mp h
    have hfiles₄ := (resolveType_of_ok htype).trans hfiles
    obtain ⟨length, m₅, hlength, h⟩ := Act.bind_eq_ok.mp h
    cases h
    -- the source is measured after it was asked for its type, with the files as they were
    obtain ⟨n, hmeasures, hyields⟩ := hsource ⟨m, rfl, hpresence⟩
    obtain ⟨m₆, hrun, -⟩ := Handle.Measures.length_run (m := m₄) (hfiles₄.symm ▸ hmeasures)
    cases hlength.symm.trans hrun
    obtain ⟨bytes, m₇, hcontent, -, hlen⟩ := hyields.content
    exact ⟨n, bytes, m₇, rfl, hlen, Entity.gives_streamed rfl rfl (.file hcontent)⟩

/-- By `multipartEntity_of_ok` the entity is a draft with a drawn boundary, and what it states is its length
(`length_spec`). -/
theorem multipartEntity_length {e : Entity} (h : b.multipartEntity m = .ok e m')
    (hsources : ∀ a ∈ b.files, a.source.There m.files → a.source.Faithful m.files m₂.files) :
    ∃ (n : Nat) (bytes : Bytes) (m₃ : Machine),
      e.length = some (n : Int) ∧ bytes.length = n ∧ e.Gives m₂ bytes m₃ := by
  obtain ⟨d, found, texts, length, m₃, -, hboundary, hfound, -, hparts, -, hlength, rfl⟩ :=
    multipartEntity_of_ok h
  obtain ⟨hfiles, hall⟩ := found_of_ok hfound
  have hascii : ∀ c ∈ d.boundary.toList, c.toNat < 0x80 := by
    rw [hboundary]
    exact Machine.boundary_ascii _
  -- the parts of files are of those found there; the parts of texts hold their bytes
  have hfaithful : ∀ part ∈ d.parts, part.Faithful m.files m₂.files := by
    intro part hpart
    rw [hparts] at hpart
    rcases List.mem_append.mp hpart with hpart | hpart
    · obtain ⟨f, hf, rfl⟩ := List.mem_map.mp hpart
      obtain ⟨hmem, hthere⟩ := hall f hf
      exact hsources f.1 hmem hthere
    · obtain ⟨p, -, rfl⟩ := List.mem_map.mp hpart
      trivial
  obtain ⟨n, hruns, hgives⟩ := Draft.length_spec hascii hfaithful
  obtain ⟨m₄, hrun, -⟩ := hruns m₃ hfiles
  cases hlength.symm.trans hrun
  obtain ⟨bytes, m₅, hdrains, hlen⟩ := hgives m₂ rfl
  exact ⟨n, bytes, m₅, rfl, hlen, Entity.gives_streamed rfl rfl hdrains⟩

/-- By cases of `Builds`: texts and forms of parameters are held, and the two others are `fileEntity_length`
and `multipartEntity_length`. -/
theorem build_length {b' : Builder} {e : Entity} (h : b.build m = .ok (some e, b') m')
    (hsources : ∀ a ∈ b.files, a.source.There m.files → a.source.Faithful m.files m₂.files) :
    ∃ (n : Nat) (bytes : Bytes) (m₃ : Machine),
      e.length = some (n : Int) ∧ bytes.length = n ∧ e.Gives m₂ bytes m₃ := by
  cases builds_of_build h with
  -- a held body declares the length of the very bytes it holds
  | text text e hfiles hparams htext hne he =>
    unfold textEntity at he
    split at he
    · cases he
    · next bytes hbytes =>
      cases he
      exact ⟨_, bytes, m₂, rfl, rfl, Entity.gives_held rfl rfl⟩
  | form e hfiles hparams he =>
    unfold formEntity at he
    split at he
    · cases he
    · next bytes hbytes =>
      cases he
      exact ⟨_, bytes, m₂, rfl, rfl, Entity.gives_held rfl rfl⟩
  | file a e m' hfiles hparams he =>
    refine fileEntity_length he (hsources a ?_)
    rw [hfiles]
    exact List.mem_singleton_self a
  | multipart e m' hfiles hmany he => exact multipartEntity_length he hsources

end Builder

/-! ## The header that states the length -/

/-- **An attempt has one header that states the length, and it states the length of the entity.** -/
theorem Request.attempt_contentLength (r : Request) {e : Entity} {n : Nat} (h : e.length = some (n : Int)) :
    (r.attempt (some e)).headers.filter (fun header => Text.lower header.1 = "content-length") =
      [("Content-Length", n.repr)] := by
  -- a length among the headers of the caller has been dropped
  have hown : (r.headers.filter fun header => !speaksOfEntity header.1).filter
      (fun header => Text.lower header.1 = "content-length") = [] := by
    rw [List.filter_filter, List.filter_eq_nil_iff]
    intro header _ hboth
    rw [Bool.and_eq_true, decide_eq_true_eq] at hboth
    unfold speaksOfEntity at hboth
    rw [hboth.1] at hboth
    cases hboth.2
  have hentity : (entityHeaders e).filter (fun header => Text.lower header.1 = "content-length") =
      [("Content-Length", n.repr)] := by
    have htype : Text.lower "Content-Type" ≠ "content-length" := by decide +kernel
    have hlength : Text.lower "Content-Length" = "content-length" := rfl
    unfold entityHeaders
    rw [h, List.filter_cons_of_neg (by simpa using htype),
      List.filter_cons_of_pos (by simpa using hlength)]
    rfl
  show List.filter _ (r.headers.filter _ ++ entityHeaders e) = _
  rw [List.filter_append, hown, hentity, List.nil_append]

open Multipart in
/-- **The declared length is the length that is sent**, for the entities of builders and, however they
were put together, for multipart forms with an ASCII boundary, whose length is found without opening a
file. -/
theorem Builder.declared_length [Platform] :
    (∀ (b b' : Builder) (m m₁ m₂ : Machine) (e : Entity), b.build m = .ok (some e, b') m₁ →
      (∀ a ∈ b.files, a.source.There m.files → a.source.Faithful m.files m₂.files) →
      ∃ (n : Nat) (bytes : Bytes) (m₃ : Machine),
        e.length = some (n : Int) ∧ bytes.length = n ∧ e.Gives m₂ bytes m₃ ∧
        ∀ r : Request, (r.attempt (some e)).headers.filter
          (fun header => Text.lower header.1 = "content-length") = [("Content-Length", n.repr)]) ∧
    (∀ (charset : String) (boundary : Option String) (d : Draft) (steps : List Draft.Addition)
      (m m₁ m₂ m₃ : Machine), Draft.begin charset boundary m = .ok d m₁ →
      (∀ text, boundary = some text → ∀ c ∈ text.toList, c.toNat < 0x80) →
      (∀ name fileName source type, .file name fileName source type ∈ steps →
        source.Faithful m₂.files m₃.files) →
      ∃ (n : Nat) (chunks : List Bytes) (m₂' m₃' : Machine),
        (steps.foldl Draft.perform d).length m₂ = .ok n m₂' ∧
        (∀ id, (m₂'.usage id).opened = (m₂.usage id).opened) ∧
        Piece.drain (steps.foldl Draft.perform d).pieces m₃ = (⟨chunks, none⟩, m₃') ∧
        (chunks.map List.length).sum = n) := by
  constructor
  · intro b b' m m₁ m₂ e hbuild hsources
    obtain ⟨n, bytes, m₃, hlength, hbytes, hgives⟩ := build_length hbuild hsources
    exact ⟨n, bytes, m₃, hlength, hbytes, hgives, fun r => r.attempt_contentLength hlength⟩
  · intro charset boundary d steps m m₁ m₂ m₃ hbegin hascii hsources
    obtain ⟨hparts, hboundary⟩ := Draft.begin_ascii hbegin hascii
    have hempty : ∀ part ∈ d.parts, part.Faithful m₂.files m₃.files := by
      rw [hparts]
      exact fun part hpart => absurd hpart List.not_mem_nil
    -- every addition keeps the boundary and adds a part that is faithful
    obtain ⟨hsame, hfaithful⟩ := Draft.performAll_spec hempty hsources
    obtain ⟨n, hruns, hgives⟩ := Draft.length_spec (hsame ▸ hboundary) hfaithful
    obtain ⟨m₂', hrun, -, hopened⟩ := hruns m₂ rfl
    obtain ⟨bytes, m₃', ⟨chunks, hdrain, rfl⟩, hlen⟩ := hgives m₃ rfl
    refine ⟨n, chunks, m₂', m₃', hrun, hopened, hdrain, ?_⟩
    rw [← List.length_flatten, hlen]

/-- A source of three bytes that gives one of them in each reading. -/
def trickle : Handle :=
  .custom 0
    { label := "Trickle"
      name := fun _ => .ok "data.bin"
      mimeType := fun _ => .ok (some "application/x-data")
      size := fun _ => .ok 3
      opening := fun _ => .ok { content := [1, 2, 3], most := fun _ => some 1 } }

/-- `Faithful` for that source: it is measured as three bytes and gives three, one in each reading. -/
theorem trickle_faithful (before after : FileSystem) : trickle.Faithful before after :=
  ⟨3, fun _ _ => rfl, fun _ _ => ⟨_, rfl, fun _ => ⟨by simp, rfl⟩, rfl⟩⟩

/-- The source beside a text that the charset cannot write and a missing one. -/
def trickleForm : Builder :=
  { charset := "ISO-8859-1"
    parameters := [⟨"é", some "€"⟩, ⟨"nothing", none⟩]
    files := [⟨none, "data.bin", trickle, none⟩] }

open Multipart in
/-- The form of that source and a text, built as an entity and put together by hand: both state the length
that they give. -/
theorem Builder.declared_length_trickle :
    (∃ e m₁, trickleForm.build {} = .ok (some e, trickleForm) m₁ ∧
      ∃ (n : Nat) (bytes : Bytes) (m₃ : Machine),
        e.length = some (n : Int) ∧ bytes.length = n ∧ e.Gives m₁ bytes m₃) ∧
    (∃ d m₁, Draft.begin "UTF-8" (some "edge") {} = .ok d m₁ ∧
      ∃ (n : Nat) (chunks : List Bytes) (m₂ m₃ : Machine),
        ([.file "a" "b" trickle "c", .text "d" none].foldl Draft.perform d).length {} = .ok n m₂ ∧
        Piece.drain ([.file "a" "b" trickle "c", .text "d" none].foldl Draft.perform d).pieces {} =
          (⟨chunks, none⟩, m₃) ∧
        (chunks.map List.length).sum = n) := by
  constructor
  · obtain ⟨e, m₁, hbuild⟩ : ∃ e m₁, trickleForm.build {} = .ok (some e, trickleForm) m₁ :=
      ⟨_, _, rfl⟩
    have hsources : ∀ a ∈ trickleForm.files, a.source.There FileSystem.bare →
        a.source.Faithful FileSystem.bare m₁.files := by
      intro a ha _
      rw [List.mem_singleton.mp ha]
      exact trickle_faithful _ _
    obtain ⟨n, bytes, m₃, hlength, hbytes, hgives, -⟩ :=
      declared_length.1 trickleForm trickleForm {} m₁ m₁ e hbuild hsources
    exact ⟨e, m₁, hbuild, n, bytes, m₃, hlength, hbytes, hgives⟩
  · obtain ⟨d, m₁, hbegin⟩ : ∃ d m₁, Draft.begin "UTF-8" (some "edge") {} = .ok d m₁ := ⟨_, _, rfl⟩
    have hascii : ∀ text, some "edge" = some text → ∀ c ∈ text.toList, c.toNat < 0x80 := by
      intro text h
      cases h
      exact Text.forall_mem_of_all (by decide)
    obtain ⟨n, chunks, m₂, m₃, hlength, -, hdrain, hsum⟩ :=
      declared_length.2 "UTF-8" (some "edge") d [.file "a" "b" trickle "c", .text "d" none] {} m₁ {} {}
        hbegin hascii (by
          intro name fileName source type h
          rcases List.mem_cons.mp h with h | h
          · cases h
            exact trickle_faithful _ _
          · cases List.mem_singleton.mp h)
    exact ⟨d, m₁, hbegin, n, chunks, m₂, m₃, hlength, hdrain, hsum⟩

end Courier
