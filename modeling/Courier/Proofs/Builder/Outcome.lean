import Courier.Builder
import Courier.Proofs.Action

/-!
# What a build gives

A builder picks one of four encodings by what was put into it. `Builder.Builds` lists the ways in
which a build comes to an end without a failure, each with the conditions under which it is taken and
with the builder and the machine that it leaves; `Builder.builds_of_build` says that these are all.
-/

namespace Courier.Builder

variable [Platform]

/-- The ways in which a build gives an entity, or finds nothing to make one of. -/
inductive Builds (b : Builder) (m : Machine) : Option Entity → Builder → Machine → Prop where
  | nothing (hfiles : b.files = []) (hparams : b.parameters = [])
      (htext : b.text.getD "" = "") :
      Builds b m none b m
  | text (text : String) (e : Entity) (hfiles : b.files = []) (hparams : b.parameters = [])
      (htext : b.text = some text) (hne : text ≠ "") (he : b.textEntity text = .ok e) :
      Builds b m (some e) { b with text := none } m
  | form (e : Entity) (hfiles : b.files = []) (hparams : b.parameters ≠ [])
      (he : b.formEntity = .ok e) :
      Builds b m (some e) b m
  | file (a : Attachment) (e : Option Entity) (m' : Machine) (hfiles : b.files = [a])
      (hparams : b.parameters = []) (he : b.fileEntity a m = .ok e m') :
      Builds b m e b m'
  | multipart (e : Entity) (m' : Machine) (hfiles : b.files ≠ [])
      (hmany : b.files.length = 1 → b.parameters ≠ []) (he : b.multipartEntity m = .ok e m') :
      Builds b m (some e) b m'

variable {b b' : Builder} {m m' : Machine} {e : Option Entity}

/-- The way that a build goes, which is decided by what is in the builder alone. -/
inductive Way (b : Builder) : Prop where
  | nothing (hfiles : b.files = []) (hparams : b.parameters = []) (htext : b.text.getD "" = "")
  | text (text : String) (hfiles : b.files = []) (hparams : b.parameters = [])
      (htext : b.text = some text) (hne : text ≠ "")
  | form (hfiles : b.files = []) (hparams : b.parameters ≠ [])
  | file (a : Attachment) (hfiles : b.files = [a]) (hparams : b.parameters = [])
  | multipart (hfiles : b.files ≠ []) (hmany : b.files.length = 1 → b.parameters ≠ [])

omit [Platform] in
/-- **Every build goes one of the five ways.** Whoever has to do with all builds splits the cases by this. -/
theorem way (b : Builder) : b.Way := by
  by_cases hfiles : b.files = []
  · -- without files: the parameters if there are any, else the text
    by_cases hparams : b.parameters = []
    · cases htext : b.text with
      | none => exact .nothing hfiles hparams (by rw [htext]; rfl)
      | some text =>
        by_cases hempty : text = ""
        · exact .nothing hfiles hparams (by rw [htext, Option.getD_some, hempty])
        · exact .text text hfiles hparams htext hempty
    · exact .form hfiles hparams
  · -- with files: a single one is sent by itself, unless parameters go with it
    by_cases hone : b.files.length = 1 ∧ b.parameters = []
    · obtain ⟨a, hfile⟩ := List.length_eq_one_iff.mp hone.1
      exact .file a hfile hone.2
    · exact .multipart hfiles fun hlength hparams => hone ⟨hlength, hparams⟩

/-! ## One equation for each way

Which way is taken depends on what is in the builder alone, so each is an equation. -/

/-- No files, no parameters and no text, or an empty one: `build` gives no entity. -/
theorem build_nothing (hfiles : b.files = []) (hparams : b.parameters = [])
    (htext : b.text.getD "" = "") : b.build m = .ok (none, b) m := by
  unfold build
  rw [hfiles, hparams]
  cases ht : b.text with
  | none => rfl
  | some text =>
    rw [ht, Option.getD_some] at htext
    subst htext
    rfl

/-- A text alone. It is used up only if the charset can write it, for `textEntity` comes first. -/
theorem build_text {text : String} (hfiles : b.files = []) (hparams : b.parameters = [])
    (htext : b.text = some text) (hne : text ≠ "") :
    b.build m = (Act.ofExcept (b.textEntity text) >>= fun entity =>
      pure (some entity, { b with text := none })) m := by
  unfold build
  rw [hfiles, hparams, htext]
  simp only

/-- Parameters without files are `formEntity`, whatever the text is. -/
theorem build_form (hfiles : b.files = []) (hparams : b.parameters ≠ []) :
    b.build m = (Act.ofExcept b.formEntity >>= fun entity => pure (some entity, b)) m := by
  unfold build
  rw [hfiles]
  cases hp : b.parameters with
  | nil => exact absurd hp hparams
  | cons p ps => rfl

/-- One file alone is `fileEntity`, which gives none if the file is gone. -/
theorem build_file {a : Attachment} (hfiles : b.files = [a]) (hparams : b.parameters = []) :
    b.build m = (b.fileEntity a >>= fun entity => pure (entity, b)) m := by
  unfold build
  rw [hfiles, hparams]

/-- Several files, or one that goes with parameters, are `multipartEntity`. -/
theorem build_multipart (hfiles : b.files ≠ []) (hmany : b.files.length = 1 → b.parameters ≠ []) :
    b.build m = (b.multipartEntity >>= fun entity => pure (some entity, b)) m := by
  unfold build
  cases hf : b.files with
  | nil => exact absurd hf hfiles
  | cons a as =>
    cases as with
    | nil =>
      cases hp : b.parameters with
      | nil => exact absurd hp (hmany (by rw [hf]; rfl))
      | cons p ps => rfl
    | cons a' as => rfl

/-! ## All ways -/

/-- **A build that does not fail ends in one of the five ways.** In each (`Builder.way`) its equation above
gives the run, and `Act.bind_eq_ok` takes that apart. -/
theorem builds_of_build (h : b.build m = .ok (e, b') m') : b.Builds m e b' m' := by
  -- `build` is one run for each way, and the run that succeeds is taken apart bind by bind
  cases b.way with
  | nothing hfiles hparams htext =>
    rw [build_nothing hfiles hparams htext] at h
    cases h
    exact .nothing hfiles hparams htext
  | text text hfiles hparams htext hne =>
    rw [build_text hfiles hparams htext hne] at h
    obtain ⟨entity, m₁, hrun, h⟩ := Act.bind_eq_ok.mp h
    obtain ⟨he, rfl⟩ := Act.ofExcept_eq_ok.mp hrun
    obtain ⟨heq, rfl⟩ := Act.pure_eq_ok.mp h
    cases heq
    exact .text text _ hfiles hparams htext hne he
  | form hfiles hparams =>
    rw [build_form hfiles hparams] at h
    obtain ⟨entity, m₁, hrun, h⟩ := Act.bind_eq_ok.mp h
    obtain ⟨he, rfl⟩ := Act.ofExcept_eq_ok.mp hrun
    obtain ⟨heq, rfl⟩ := Act.pure_eq_ok.mp h
    cases heq
    exact .form _ hfiles hparams he
  | file a hfiles hparams =>
    rw [build_file hfiles hparams] at h
    obtain ⟨entity, m₁, he, h⟩ := Act.bind_eq_ok.mp h
    obtain ⟨heq, rfl⟩ := Act.pure_eq_ok.mp h
    cases heq
    exact .file a _ _ hfiles hparams he
  | multipart hfiles hmany =>
    rw [build_multipart hfiles hmany] at h
    obtain ⟨entity, m₁, he, h⟩ := Act.bind_eq_ok.mp h
    obtain ⟨heq, rfl⟩ := Act.pure_eq_ok.mp h
    cases heq
    exact .multipart _ _ hfiles hmany he

/-! ## The entity of each way -/

/-- A text entity holds what `encodeText` writes, behind a type with the charset as its parameter. -/
theorem textEntity_of_ok {text : String} {e : Entity} (h : b.textEntity text = .ok e) :
    ∃ bytes, encodeText b.charset text = .ok bytes ∧
      e = .ofBytes .text (b.textType ++ "; charset=" ++ b.charset) (some b.charset) bytes := by
  unfold textEntity at h
  cases hbytes : encodeText b.charset text with
  | error fault =>
    rw [hbytes] at h
    cases h
  | ok bytes =>
    rw [hbytes] at h
    cases h
    exact ⟨bytes, rfl, rfl⟩

/-- A form entity holds what `Form.encode` writes. -/
theorem formEntity_of_ok {e : Entity} (h : b.formEntity = .ok e) :
    ∃ bytes, Form.encode b.charset b.parameters = .ok bytes ∧
      e = .ofBytes .form ("application/x-www-form-urlencoded; charset=" ++ b.charset)
        (some b.charset) bytes := by
  unfold formEntity at h
  cases hbytes : Form.encode b.charset b.parameters with
  | error fault =>
    rw [hbytes] at h
    cases h
  | ok bytes =>
    rw [hbytes] at h
    cases h
    exact ⟨bytes, rfl, rfl⟩

/-- What `fileEntity` gives is a stream with the source as its only piece. -/
theorem fileEntity_of_ok {a : Attachment} {e : Entity} (h : b.fileEntity a m = .ok (some e) m') :
    ∃ type length, e = .ofPieces .file type none (some length) [.file a.source] := by
  unfold fileEntity at h
  obtain ⟨there, m₁, -, h⟩ := Act.bind_eq_ok.mp h
  cases there with
  | false => cases h
  | true =>
    obtain ⟨type, m₂, -, h⟩ := Act.bind_eq_ok.mp h
    obtain ⟨length, m₃, -, h⟩ := Act.bind_eq_ok.mp h
    cases h
    exact ⟨type, length, rfl⟩

/-- An entity of several parts is a stream of the pieces of a `Draft`, with the type that names its boundary.
-/
theorem multipartEntity_streamed {e : Entity} (h : b.multipartEntity m = .ok e m') :
    ∃ (d : Multipart.Draft) (length : Int),
      e = .ofPieces .multipart d.contentType (some b.charset) (some length) d.pieces := by
  unfold multipartEntity at h
  obtain ⟨d₁, m₁, -, h⟩ := Act.bind_eq_ok.mp h
  obtain ⟨d₂, m₂, -, h⟩ := Act.bind_eq_ok.mp h
  obtain ⟨d, m₃, -, h⟩ := Act.bind_eq_ok.mp h
  obtain ⟨length, m₄, -, h⟩ := Act.bind_eq_ok.mp h
  cases h
  exact ⟨d, length, rfl⟩

/-! ## The kind of the entity -/

theorem textEntity_kind {text : String} {e : Entity} (h : b.textEntity text = .ok e) :
    e.kind = .text := by
  obtain ⟨bytes, -, rfl⟩ := textEntity_of_ok h
  rfl

theorem formEntity_kind {e : Entity} (h : b.formEntity = .ok e) : e.kind = .form := by
  obtain ⟨bytes, -, rfl⟩ := formEntity_of_ok h
  rfl

theorem fileEntity_kind {a : Attachment} {e : Entity} (h : b.fileEntity a m = .ok (some e) m') :
    e.kind = .file := by
  obtain ⟨type, length, rfl⟩ := fileEntity_of_ok h
  rfl

theorem multipartEntity_kind {e : Entity} (h : b.multipartEntity m = .ok e m') :
    e.kind = .multipart := by
  obtain ⟨d, length, rfl⟩ := multipartEntity_streamed h
  rfl

/-- **The content of an entity that was just built was not taken yet.** By cases of `Builds`. -/
theorem build_unconsumed {e : Entity} (h : b.build m = .ok (some e, b') m') :
    e.consumed = false := by
  cases builds_of_build h with
  | text text e hfiles hparams htext hne he =>
    obtain ⟨bytes, -, rfl⟩ := textEntity_of_ok he
    rfl
  | form e hfiles hparams he =>
    obtain ⟨bytes, -, rfl⟩ := formEntity_of_ok he
    rfl
  | file a e m' hfiles hparams he =>
    obtain ⟨type, length, rfl⟩ := fileEntity_of_ok he
    rfl
  | multipart e m' hfiles hmany he =>
    obtain ⟨d, length, rfl⟩ := multipartEntity_streamed he
    rfl

/-- An entity that is a multipart form was made as one: in the other cases of `Builds` the kind is another.
-/
theorem multipartEntity_of_build {e : Entity} (h : b.build m = .ok (some e, b') m')
    (hkind : e.kind = .multipart) : b.multipartEntity m = .ok e m' := by
  cases builds_of_build h with
  | text text e hfiles hparams htext hne he =>
    rw [textEntity_kind he] at hkind
    cases hkind
  | form e hfiles hparams he =>
    rw [formEntity_kind he] at hkind
    cases hkind
  | file a e m' hfiles hparams he =>
    rw [fileEntity_kind he] at hkind
    cases hkind
  | multipart e m' hfiles hmany he => exact he

end Courier.Builder
