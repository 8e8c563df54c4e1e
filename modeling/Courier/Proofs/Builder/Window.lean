import Courier.Proofs.Builder.Multipart
import Courier.Proofs.Mime.Window
import Courier.Proofs.Source.Reading
import Courier.Platform.Plain
import Mathlib.Data.List.Forall2

/-!
# Looking at more of a file

A builder looks at so many bytes of a file to tell its type. Two builds that differ in this number alone ask
the same sources the same questions, and leave the same machine. What they can differ in is followed through
the actions of a build by `Widens`, which says of a narrower and a wider look how their results are related.

From twelve bytes on a wider look changes no type that is told; it can only tell the type of a text where the
narrower one told none (`Raised`). Main statement: `Builder.build_widened`.
-/

namespace Courier

section

variable [Platform]

/-! ## Results of a narrower and a wider look -/

/-- Where the narrower look gives something, the wider one gives something related to it and leaves the same
machine; unless it looks at more than any machine has room for. -/
def Widens {α β : Type} (size : Int) (R : α → β → Prop) (x : Act α) (y : Act β) : Prop :=
  ∀ m a m', x m = .ok a m' →
    (∃ b, y m = .ok b m' ∧ R a b) ∨
      greatestBlock < size ∧ ∃ failure m'', y m = .error failure m''

namespace Widens

variable {α β γ δ : Type} {size : Int} {R : α → β → Prop} {S : γ → δ → Prop}

theorem pure {a : α} {b : β} (h : R a b) : Widens size R (pure a) (pure b) := by
  rintro m _ _ ⟨⟩
  exact .inl ⟨b, rfl, h⟩

/-- `Widens` for an action that has nothing to do with the look. -/
theorem same (x : Act α) : Widens size Eq x x := fun _ a _ h => .inl ⟨a, h, rfl⟩

/-- `Widens` is closed under sequences. -/
theorem bind {x : Act α} {y : Act β} {f : α → Act γ} {g : β → Act δ} (hx : Widens size R x y)
    (hf : ∀ a b, R a b → Widens size S (f a) (g b)) : Widens size S (x >>= f) (y >>= g) := by
  intro m c m' h
  obtain ⟨a, m₁, hfirst, hthen⟩ := Act.bind_eq_ok.mp h
  obtain ⟨b, hrun, hR⟩ | ⟨hlarge, failure, m₂, hrun⟩ := hx m a m₁ hfirst
  · rw [Act.bind_run_ok hrun]
    exact hf a b hR m₁ c m' hthen
  · exact .inr ⟨hlarge, failure, m₂, Act.bind_run_error hrun⟩

/-- `Widens.bind` where the first action has nothing to do with the look. -/
theorem bind_same (x : Act α) {f : α → Act γ} {g : α → Act δ}
    (hf : ∀ a, Widens size S (f a) (g a)) : Widens size S (x >>= f) (x >>= g) := by
  refine (same x).bind ?_
  rintro a _ rfl
  exact hf a

end Widens

/-! ## Types -/

/-- The type that is told after a wider look: the same as before, or that of a text where none was told. -/
def Raised (before after : String) : Prop :=
  after = before ∨ before = defaultFileType ∧ after ∈ Mime.textTypes

/-- **More bytes of a content raise its type.** -/
theorem Raised.of_take {k k' : Nat} (hk : 12 ≤ k) (hle : k ≤ k') (content : Bytes)
    (name : Option String) :
    Raised ((Mime.sniff (content.take k) name).getD defaultFileType)
      ((Mime.sniff (content.take k') name).getD defaultFileType) := by
  cases htold : Mime.sniff (content.take k) name with
  | some type =>
    rw [Mime.sniff_take hk hle htold]
    exact .inl rfl
  | none =>
    obtain hnone | ⟨mark, hmem, hmark, -, -⟩ := Mime.sniff_take_none hk hle htold
    · rw [hnone]
      exact .inl rfl
    · rw [hmark]
      exact .inr ⟨rfl, Mime.textMarks_type mark hmem⟩

/-- The front of a content, and what a wider look sees of it. -/
def Wider (narrow wide : Bytes) : Prop :=
  ∃ (content : Bytes) (k k' : Nat), narrow = content.take k ∧ wide = content.take k' ∧
    (k' = k ∨ 12 ≤ k ∧ k ≤ k')

/-- Two readings of one stream, the second of more bytes: both are fronts of the same content, or the second
is more than there is room for (`Stream.read_wider`). -/
theorem Handle.readOnce_widens {size size' : Int} (hsize : 12 ≤ size) (hle : size ≤ size')
    (h : Handle) : Widens size' Wider (h.readOnce size) (h.readOnce size') := by
  refine Widens.bind_same h.openRead fun stream => ?_
  intro m bytes m' hrun
  obtain ⟨⟨start, s'⟩, m₁, hfirst, hrest⟩ := Act.bind_eq_ok.mp hrun
  obtain ⟨hread, rfl⟩ := Act.ofExcept_eq_ok.mp hfirst
  obtain ⟨rfl, rfl⟩ := Act.pure_eq_ok.mp hrest
  obtain ⟨k, k', s'', hbytes, hwide, hk⟩ | ⟨hlarge, failure, hwide⟩ :=
    Stream.read_wider (by omega) hle hread
  · refine .inl ⟨_, ?_, stream.rest, k, k', hbytes, rfl, ?_⟩
    · rw [hwide]
      rfl
    · omega
  · refine .inr ⟨hlarge, failure, m, ?_⟩
    rw [hwide]
    rfl

/-! ## Forms -/

namespace Multipart.Draft

/-- Two forms of the same texts and files, whose types the second one raises. -/
def Widened (d d' : Draft) : Prop :=
  ∃ (bare : Draft) (found found' : List (Attachment × String)) (texts : List Part),
    List.Forall₂ (fun f f' => f'.1 = f.1 ∧ Raised f.2 f'.2) found found' ∧
    d = bare.addParts ((found.map fun f => bare.filePart f.1 f.2) ++ texts) ∧
    d' = bare.addParts ((found'.map fun f => bare.filePart f.1 f.2) ++ texts)

variable {d d' : Draft} {size : Int}

omit [Platform] in
/-- `Widened` forms have parts with the same payloads: a type stands in the header. -/
theorem Widened.payloads (h : Widened d d') :
    List.Forall₂ (fun x y : Part => y.payload = x.payload) d.parts d'.parts := by
  obtain ⟨bare, found, found', texts, hfound, rfl, rfl⟩ := h
  have hsame : ∀ parts : List Part,
      List.Forall₂ (fun x y : Part => y.payload = x.payload) parts parts :=
    fun parts => List.forall₂_same.mpr fun _ _ => rfl
  have hfiles : List.Forall₂ (fun x y : Part => y.payload = x.payload)
      (found.map fun f => bare.filePart f.1 f.2) (found'.map fun f => bare.filePart f.1 f.2) := by
    rw [List.forall₂_map_left_iff, List.forall₂_map_right_iff]
    refine hfound.imp fun f f' hf => ?_
    show Payload.file f'.1.source = .file f.1.source
    rw [hf.1]
  exact List.rel_append (hsame bare.parts) (List.rel_append hfiles (hsame texts))

/-- `addTexts` puts the same texts behind the files of either form, or refuses them for both. -/
theorem Widened.addTexts {bare : Draft} (hwrites : bare.codec.writes = true) {found found' : List (Attachment × String)}
    (hfound : List.Forall₂ (fun f f' => f'.1 = f.1 ∧ Raised f.2 f'.2) found found')
    (ps : List Parameter) :
    Widens size Widened
      (Act.ofExcept
        (Builder.addTexts (bare.addParts (found.map fun f => bare.filePart f.1 f.2)) ps))
      (Act.ofExcept
        (Builder.addTexts (bare.addParts (found'.map fun f => bare.filePart f.1 f.2)) ps)) := by
  have hcharset : ∀ parts, (bare.addParts parts).charset = bare.charset := fun _ => rfl
  rw [Builder.addTexts_eq (d := bare.addParts _) hwrites,
    Builder.addTexts_eq (d := bare.addParts _) hwrites, hcharset, hcharset]
  cases Builder.textsOf bare.charset ps with
  | error fault =>
    intro m d m' h
    cases h
  | ok texts =>
    refine .pure ⟨bare, found, found', (ps.zip texts).map fun p => bare.textPart p.1 p.2, hfound, ?_, ?_⟩
    · exact addParts_addParts ..
    · exact addParts_addParts ..

/-- Parts are measured by their payloads. Induction on the two lists. -/
theorem partsLength_widens {xs ys : List Part}
    (h : List.Forall₂ (fun x y => y.payload = x.payload) xs ys) :
    Widens size (fun _ _ => True) (partsLength xs) (partsLength ys) := by
  induction h with
  | nil => exact .pure trivial
  | @cons x y xs ys hpayload _ ih =>
    have hpart : Widens size (fun _ _ => True) (partLength x) (partLength y) := by
      unfold partLength
      rw [hpayload]
      split
      · exact .pure trivial
      · next source _ => exact Widens.bind_same source.length fun _ => .pure trivial
    exact hpart.bind fun _ _ _ => ih.bind fun _ _ _ => .pure trivial

/-- `Draft.length` of `Widened` forms fails alike: their payloads and their boundary are the same. -/
theorem Widened.length (h : Widened d d') : Widens size (fun _ _ => True) d.length d'.length := by
  refine (partsLength_widens h.payloads).bind fun _ _ _ => ?_
  -- the closing lines are the same, as they are made of the boundary
  obtain ⟨bare, found, found', texts, -, rfl, rfl⟩ := h
  exact Widens.bind_same (Act.ofExcept bare.closing) fun _ => .pure trivial

end Multipart.Draft

/-! ## Entities -/

open Multipart

/-- What a wider look makes of an entity: a file or the parts of a form have their types raised, and nothing
else is touched but the length of the form. -/
inductive Entity.Widened : Entity → Entity → Prop where
  | same (e : Entity) : Widened e e
  | file {type type' : String} {length : Int} {source : Handle} (htype : Raised type type') :
      Widened (.ofPieces .file type none (some length) [.file source])
        (.ofPieces .file type' none (some length) [.file source])
  | form {d d' : Draft} {charset : String} {length length' : Int} (hform : d.Widened d') :
      Widened (.ofPieces .multipart d.contentType (some charset) (some length) d.pieces)
        (.ofPieces .multipart d'.contentType (some charset) (some length') d'.pieces)

namespace Builder

variable {size size' : Int}

/-- The builder when it looks at so many bytes of a file. -/
def looking (b : Builder) (size : Int) : Builder := { b with sniffBytes := size }

/-- A wider look raises the type of a file that is not declared (`Raised.of_take`), and asks its source the
same questions. -/
theorem resolveType_widens (hsize : 12 ≤ size) (hle : size ≤ size') (b : Builder) (a : Attachment) :
    Widens size' Raised ((b.looking size).resolveType a) ((b.looking size').resolveType a) := by
  unfold resolveType
  split
  · exact .pure (.inl rfl)
  · refine Widens.bind_same get fun m => ?_
    refine Widens.bind_same (Act.ofExcept (a.source.mimeType m.usage)) fun own => ?_
    split
    · exact .pure (.inl rfl)
    · refine (a.source.readOnce_widens hsize hle).bind ?_
      rintro _ _ ⟨content, k, k', rfl, rfl, rfl | ⟨hk, hwider⟩⟩
      · exact .pure (.inl rfl)
      · exact .pure (.of_take hk hwider content _)

/-- The entity of one file has its type raised, by `resolveType_widens`. -/
theorem fileEntity_widens (hsize : 12 ≤ size) (hle : size ≤ size') (b : Builder) (a : Attachment) :
    Widens size' (Option.Rel Entity.Widened) ((b.looking size).fileEntity a)
      ((b.looking size').fileEntity a) := by
  refine Widens.bind_same (isAvailable a) fun there => ?_
  cases there with
  | false => exact .pure .none
  | true =>
    refine (b.resolveType_widens hsize hle a).bind fun type type' htype => ?_
    exact Widens.bind_same a.source.length fun length => .pure (.some (.file htype))

/-- The same files are found, with their types raised. Induction on the files. -/
theorem found_widens (hsize : 12 ≤ size) (hle : size ≤ size') (b : Builder)
    (files : List Attachment) :
    Widens size' (List.Forall₂ fun f f' => f'.1 = f.1 ∧ Raised f.2 f'.2)
      ((b.looking size).found files) ((b.looking size').found files) := by
  induction files with
  | nil => exact .pure .nil
  | cons a rest ih =>
    rw [found_cons, found_cons]
    refine Widens.bind_same (isAvailable a) fun there => ?_
    cases there with
    | false => exact ih
    | true =>
      refine (b.resolveType_widens hsize hle a).bind fun type type' htype => ?_
      refine ih.bind fun others others' hothers => ?_
      exact .pure (.cons ⟨rfl, htype⟩ hothers)

/-- Where headers cannot be written, a form that goes on found no file, in either look
(`addFiles_of_refuses`). -/
theorem addFiles_widens_refused (hsize : 12 ≤ size) (hle : size ≤ size') (b : Builder) {bare : Draft}
    (hwrites : bare.codec.writes = false) (files : List Attachment) :
    Widens size' (fun d d' => d = bare ∧ d' = bare) ((b.looking size).addFiles bare files)
      ((b.looking size').addFiles bare files) := by
  induction files with
  | nil => exact .pure ⟨rfl, rfl⟩
  | cons a rest ih =>
    unfold addFiles
    refine Widens.bind_same (isAvailable a) fun there => ?_
    cases there with
    | false => exact ih
    | true =>
      -- a file that is there has its part refused, whatever its type
      refine (b.resolveType_widens hsize hle a).bind fun type type' _ => ?_
      rw [Draft.addFile_of_refuses hwrites]
      intro m d m' h
      cases h

/-- Files and texts are added to a form with raised types. Where headers cannot be written, a form that goes
on has no part at all. -/
theorem addedFiles_widens (hsize : 12 ≤ size) (hle : size ≤ size') (b : Builder) (bare : Draft) :
    Widens size' Draft.Widened
      ((b.looking size).addFiles bare b.files >>= fun d => Act.ofExcept (addTexts d b.parameters))
      ((b.looking size').addFiles bare b.files >>= fun d => Act.ofExcept (addTexts d b.parameters)) := by
  cases hwrites : bare.codec.writes with
  -- a codec that writes: both windows find the same files, with types that widen
  | true =>
    rw [addFiles_eq _ hwrites, addFiles_eq _ hwrites, bind_assoc, bind_assoc]
    refine (b.found_widens hsize hle b.files).bind fun found found' hfound => ?_
    rw [pure_bind, pure_bind]
    exact Draft.Widened.addTexts hwrites hfound b.parameters
  | false =>
    -- a codec that writes nothing: the run that succeeds added no part at all
    have hempty : Draft.Widened bare bare := ⟨bare, [], [], [], .nil, (Draft.addParts_nil bare).symm,
      (Draft.addParts_nil bare).symm⟩
    refine (b.addFiles_widens_refused hsize hle hwrites b.files).bind ?_
    rintro _ _ ⟨rfl, rfl⟩
    intro m d m' h
    obtain ⟨hadd, rfl⟩ := Act.ofExcept_eq_ok.mp h
    obtain ⟨rfl, -⟩ := addTexts_of_refuses hwrites hadd
    exact .inl ⟨d, h, hempty⟩

/-- A multipart form has the types of its parts raised: `addedFiles_widens` puts the files and the texts in,
and `Widened.length` measures. -/
theorem multipartEntity_widens (hsize : 12 ≤ size) (hle : size ≤ size') (b : Builder) :
    Widens size' Entity.Widened (b.looking size).multipartEntity
      (b.looking size').multipartEntity := by
  refine Widens.bind_same (Draft.begin b.charset none) fun bare => ?_
  rw [← bind_assoc ((b.looking size).addFiles bare _),
    ← bind_assoc ((b.looking size').addFiles bare _)]
  refine (b.addedFiles_widens hsize hle bare).bind fun d d' hform => ?_
  exact hform.length.bind fun _ _ _ => .pure (.form hform)

/-- **A build that looks at more makes the same with raised types.** By the ways of a build; texts and forms
of parameters have nothing to look at. -/
theorem build_widens (hsize : 12 ≤ size) (hle : size ≤ size') (b : Builder) :
    Widens size' (fun made made' => Option.Rel Entity.Widened made.1 made'.1 ∧
        made'.2 = made.2.looking size')
      (b.looking size).build (b.looking size').build := by
  -- what decides over the kind of the entity is the same for both, and so are texts and forms
  have hfiles : ∀ n, (b.looking n).files = b.files := fun _ => rfl
  have hparams : ∀ n, (b.looking n).parameters = b.parameters := fun _ => rfl
  have htext : ∀ n, (b.looking n).text = b.text := fun _ => rfl
  have htextEntity : ∀ n text, (b.looking n).textEntity text = b.textEntity text := fun _ _ => rfl
  have hformEntity : ∀ n, (b.looking n).formEntity = b.formEntity := fun _ => rfl
  unfold build
  simp only [hfiles, hparams, htext, htextEntity, hformEntity]
  split
  · split
    · exact .pure ⟨.none, rfl⟩
    · exact .pure ⟨.none, rfl⟩
    · next text _ _ =>
      exact Widens.bind_same (Act.ofExcept (b.textEntity text)) fun e => .pure ⟨.some (.same e), rfl⟩
  · exact Widens.bind_same (Act.ofExcept b.formEntity) fun e => .pure ⟨.some (.same e), rfl⟩
  · next a _ _ =>
    exact (b.fileEntity_widens hsize hle a).bind fun e e' he => .pure ⟨he, rfl⟩
  · exact (b.multipartEntity_widens hsize hle).bind fun e e' he => .pure ⟨.some he, rfl⟩

/-- **Looking at more changes no type that is told.** From twelve bytes on, what the front of a content proves
is what the whole content proves, and a type that is told for the front, by its bytes, its name or its looks,
is told for every longer front. Where none is told, a longer front can only show one of the marks of texts,
of which the shorter one cut off the end. So a builder that looks at more of its files makes the same on the
same machine, with no type changed but from the one that stands for none to that of a text; unless it asks
for more than any machine has room for, and fails by that. -/
theorem build_widened :
    (∀ (content : Bytes) (name : Option String) (n n' : Nat), 12 ≤ n → n ≤ n' →
      Mime.typeOfSignature (content.take n) = Mime.typeOfSignature content ∧
      (∀ type, Mime.sniff (content.take n) name = some type →
        Mime.sniff (content.take n') name = some type) ∧
      (Mime.sniff (content.take n) name = none →
        Mime.sniff (content.take n') name = none ∨
        ∃ mark ∈ Mime.textMarks, Mime.sniff (content.take n') name = some mark.2 ∧
          mark.2 ∈ Mime.textTypes ∧
          (Mime.textLooks (content.take n)).isPrefixOf mark.1 = true ∧
          Mime.textLooks (content.take n) ≠ mark.1)) ∧
    ∀ (b b' : Builder) (m m' : Machine) (n n' : Int) (e : Option Entity), 12 ≤ n → n ≤ n' →
      (b.looking n).build m = .ok (e, b') m' →
      (∃ e', (b.looking n').build m = .ok (e', b'.looking n') m' ∧ Option.Rel Entity.Widened e e') ∨
        greatestBlock < n' ∧ ∃ failure m'', (b.looking n').build m = .error failure m'' := by
  constructor
  · intro content name n n' hn hle
    refine ⟨Mime.typeOfSignature_take hn, fun type => Mime.sniff_take hn hle, fun hnone => ?_⟩
    obtain hnone' | ⟨mark, hmem, htold, hfront, hne⟩ := Mime.sniff_take_none hn hle hnone
    · exact .inl hnone'
    · exact .inr ⟨mark, hmem, htold, Mime.textMarks_type mark hmem, hfront, hne⟩
  · intro b b' m m' n n' e hn hle hbuild
    obtain ⟨⟨e', after⟩, hwide, hwidened, rfl⟩ | hlarge := b.build_widens hn hle m _ m' hbuild
    · exact .inl ⟨e', hwide, hwidened⟩
    · exact .inr hlarge

end Builder

end

namespace Builder

/-- A page behind eleven blanks. -/
def page : Bytes := ascii "           <html>"

/-- A builder of a file of which nothing is known but its content. -/
def pageFile : Builder := { files := [⟨none, "page", .inMemory page "page" none, none⟩] }

/-- A look at twelve bytes cuts the mark of the page off, and one at the usual number shows it. -/
theorem build_widened_page :
    (∃ mark ∈ Mime.textMarks, Mime.sniff (page.take 32) none = some mark.2 ∧
      (Mime.textLooks (page.take 12)).isPrefixOf mark.1 = true) ∧
    ∃ e e' m', (pageFile.looking 12).build {} = .ok (some e, pageFile.looking 12) m' ∧
      (pageFile.looking 32).build {} = .ok (some e', pageFile.looking 32) m' ∧ e.Widened e' ∧
      e.contentType = "application/octet-stream" ∧ e'.contentType = "text/html" := by
  constructor
  · obtain ⟨-, -, hcut⟩ := build_widened.1 page none 12 32 (by decide) (by decide)
    obtain hnone | ⟨mark, hmem, htold, -, hfront, -⟩ := hcut (by decide +kernel)
    · have htype : Mime.sniff (page.take 32) none = some "text/html" := by decide +kernel
      rw [htype] at hnone
      cases hnone
    · exact ⟨mark, hmem, htold, hfront⟩
  · obtain ⟨e, m', hbuild, htype⟩ : ∃ e m', (pageFile.looking 12).build {} =
        .ok (some e, pageFile.looking 12) m' ∧ e.contentType = "application/octet-stream" :=
      ⟨_, _, rfl, by decide +kernel⟩
    obtain ⟨e', m'', hbuild', htype'⟩ : ∃ e' m'', (pageFile.looking 32).build {} =
        .ok (some e', pageFile.looking 32) m'' ∧ e'.contentType = "text/html" :=
      ⟨_, _, rfl, by decide +kernel⟩
    obtain ⟨_, hwide, hwidened⟩ | ⟨hlarge, -⟩ :=
      build_widened.2 pageFile _ {} m' 12 32 (some e) (by decide) (by decide) hbuild
    · cases hwide.symm.trans hbuild'
      cases hwidened with
      | some hwidened => exact ⟨e, e', m', hbuild, hbuild', hwidened, htype, htype'⟩
    · exact absurd hlarge (by decide)

end Builder

end Courier
