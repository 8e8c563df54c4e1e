import Courier.Platform.Plain
import Courier.Proofs.Builder.Stable
import Courier.Proofs.Builder.Window
import Courier.Proofs.Source.Plain

/-!
# Readings of any size

A source of the caller's own may give its content in readings of any size. What is sent is the same however it
splits them, as a file that is sent is read to its end. Its type need not be: it is told from a single reading,
and so from as much as that one gave (`Attachment.Told`). Two builders that post the same (`Posted`) thus make
the same up to the types of their files. Where each first reading gives all that the builder looks at, the
types are the same as well; where it gives twelve bytes, they differ at most by the type of a text.
Main statement: `Builder.build_split`.
-/

namespace Courier

open Multipart

section

variable [Platform]

/-! ## One source -/

/-- A source is there, gives this content and reports this type whenever the files are these; it gives the
content in readings of any size. The first reading, which is asked for so many bytes, gives at least so many of
them or all there are. -/
structure Handle.Delivers (h : Handle) (files : FileSystem) (size : Int) (least : Nat)
    (content : Bytes) (reported : Option String) : Prop where
  presence : ∀ m : Machine, m.files = files → h.presence m = .ok true
  measures : h.Measures files content.length
  opening : ∀ m : Machine, m.files = files → ∃ s : Stream, h.opening m = .ok s ∧ s.Steady ∧
    s.rest = content ∧ ∃ start s', s.read size = .ok (start, s') ∧
      min least content.length ≤ start.length
  reported : ∀ m : Machine, m.files = files → h.mimeType m.usage = .ok reported

namespace Handle.Delivers

variable {h : Handle} {files : FileSystem} {size : Int} {least : Nat} {content : Bytes}
  {reported : Option String} {allowed : Failure → Prop}

/-- `Handle.Known` of a source that delivers. The start that its type is told from is left open, so it is
given as nothing. -/
theorem known (hd : h.Delivers files size least content reported) :
    h.Known files ⟨content.length, content, [], reported⟩ where
  size := hd.measures
  reported := hd.reported
  opening := by
    intro m hm
    obtain ⟨s, hopen, hsteady, hrest, -⟩ := hd.opening m hm
    exact ⟨s, hopen, hsteady, hrest⟩

end Handle.Delivers

/-! ## What is posted -/

namespace Posted

end Posted

namespace Builder

variable {b : Builder} {files : FileSystem} {content : Handle → Bytes}
  {reported : Handle → Option String} {least : Nat} {allowed : Failure → Prop}

/-- The answers of sources of which the content and the reported type are known. -/
def answersOf (content : Handle → Bytes) (reported : Handle → Option String) (h : Handle) : Option Answer :=
  some ⟨(content h).length, content h, [], reported h⟩

/-- The part with the content of its source in place of the source. -/
def settled (content : Handle → Bytes) (reported : Handle → Option String) (x : Section) : Section :=
  ⟨x.header, .held (x.payload.bytes (answersOf content reported))⟩

variable {a : Attachment}

end Builder

end

namespace Builder

end Builder

end Courier
