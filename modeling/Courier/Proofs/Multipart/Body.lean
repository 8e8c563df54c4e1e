import Courier.Multipart.Draft
import Courier.Proofs.Entity.Drain
import Courier.Proofs.Text.Digit
import Mathlib.Data.List.TakeDrop
import Mathlib.Data.List.TakeWhile

/-!
# The bytes of a multipart form

Each part gives its header, its payload and a line break (`Draft.held_drains`, `Draft.file_drains`), and
behind the parts stands the line that ends the form, which an ASCII boundary always has
(`Draft.closing_of_ascii`).
-/

namespace Courier

/-- `asciiBytes` looks for the first character beyond ASCII, and there is none. -/
theorem asciiBytes_of_ascii {s : String} (h : ∀ c ∈ s.toList, c.toNat < 0x80) :
    asciiBytes s = .ok (ascii s) := by
  have hall : ∀ c ∈ s.toList, decide (c.toNat < 0x80) = true :=
    fun c hc => decide_eq_true (h c hc)
  have hspan : s.toList.span (fun c => decide (c.toNat < 0x80)) = (s.toList, []) := by
    rw [List.span_eq_takeWhile_dropWhile, List.takeWhile_eq_self_iff.mpr hall,
      List.dropWhile_eq_nil_iff.mpr hall]
  unfold asciiBytes
  simp only [hspan]

namespace Multipart.Draft

variable [Platform] {m m' : Machine}

/-- `Draft.partPieces` of a part in memory is three chunks. -/
theorem held_drains (header data : Bytes) (m : Machine) :
    Piece.Drains (partPieces ⟨header, .held data⟩) m (header ++ data ++ crlf) m := by
  have hheader : Piece.Drains [.chunk header] m header m := .chunk header
  -- a payload without bytes has no piece of its own
  cases data with
  | nil => exact (hheader.append .nil).append (.chunk crlf)
  | cons b rest => exact (hheader.append (.chunk (b :: rest))).append (.chunk crlf)

/-- `Draft.partPieces` of a part with a file is its header, what the file gives, and a line break. -/
theorem file_drains (header : Bytes) {source : Handle} {bytes : Bytes}
    (h : source.content m = .ok bytes m') :
    Piece.Drains (partPieces ⟨header, .file source⟩) m (header ++ bytes ++ crlf) m' := by
  have hheader : Piece.Drains [.chunk header] m header m := .chunk header
  exact (hheader.append (.file h)).append (.chunk crlf)

/-- The line that ends the form. -/
def lastLine (d : Draft) : Bytes := ascii ("--" ++ d.boundary ++ "--\r\n")

omit [Platform] in
/-- `Draft.closing` holds the boundary and hyphens, so it can be written if the boundary is ASCII
(`asciiBytes_of_ascii`). -/
theorem closing_of_ascii {d : Draft} (h : ∀ c ∈ d.boundary.toList, c.toNat < 0x80) :
    d.closing = .ok d.lastLine := by
  have hdashes : ∀ c ∈ "--".toList, c.toNat < 0x80 := Text.forall_mem_of_all (by decide)
  have hlast : ∀ c ∈ "--\r\n".toList, c.toNat < 0x80 := Text.forall_mem_of_all (by decide)
  refine asciiBytes_of_ascii fun c hc => ?_
  rw [String.toList_append, String.toList_append, List.mem_append, List.mem_append] at hc
  rcases hc with (hc | hc) | hc
  · exact hdashes c hc
  · exact h c hc
  · exact hlast c hc

/-- `Draft.pieces` are those of the parts and the last line behind them. -/
theorem pieces_drains {d : Draft} {bytes : Bytes} (hascii : ∀ c ∈ d.boundary.toList, c.toNat < 0x80)
    (h : Piece.Drains (d.parts.flatMap partPieces) m bytes m') :
    Piece.Drains d.pieces m (bytes ++ d.lastLine) m' := by
  unfold pieces
  rw [closing_of_ascii hascii]
  exact h.append (.chunk _)

end Multipart.Draft

end Courier
