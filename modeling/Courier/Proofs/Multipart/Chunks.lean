import Courier.Multipart.Draft
import Courier.Platform.Plain
import Courier.Proofs.Entity.Drain
import Courier.Proofs.Source.Chunks

/-!
# A file among other pieces

A file is sent alone or as a part of a form. Either way its chunks come one after the other between what stands
before it and what stands behind it, and if a reading of it fails, nothing comes after the chunks read before
(`Piece.drain_around`). Therefore all that is known of the loop over its stream (`Stream.drain_chunked`) is known
of the bodies that have it. Main statement: `Piece.file_chunked`.
-/

namespace Courier

section

variable [Platform]

namespace Piece

variable {xs ys : List Piece} {m₀ m m' : Machine} {source : Handle} {s : Stream} {front : List Bytes}
  {failure : Failure}

/-- `Piece.drain` of a list with a file in it: what is before the file, and `drainFrom` its stream
(`drain_append`). -/
theorem drain_around (hfront : drain xs m₀ = (⟨front, none⟩, m)) (hopen : source.openRead m = .ok s m') :
    drain (xs ++ .file source :: ys) m₀ =
      (⟨front ++ (drainFrom s ys m').1.chunks, (drainFrom s ys m').1.failure⟩, (drainFrom s ys m').2) := by
  refine drain_append hfront ?_
  rw [drain_file, hopen]

/-- `drainFrom` reads nothing behind a file that fails. -/
theorem drainFrom_of_failure (h : s.drain.failure = some failure) : drainFrom s ys m = (s.drain, m) := by
  unfold drainFrom
  rw [h]

/-- `drainFrom` goes on with the pieces behind a file that ends. -/
theorem drainFrom_of_end (h : s.drain.failure = none) :
    drainFrom s ys m = (⟨s.drain.chunks ++ (drain ys m).1.chunks, (drain ys m).1.failure⟩, (drain ys m).2) := by
  unfold drainFrom
  rw [h]

/-- `Piece.drain` of one file is `Stream.drain`. -/
theorem drain_alone (hopen : source.openRead m = .ok s m') : drain [.file source] m = (s.drain, m') := by
  rw [drain_file, hopen]
  show drainFrom s [] m' = (s.drain, m')
  cases hfailure : s.drain.failure with
  | some failure => exact drainFrom_of_failure hfailure
  | none =>
    rw [drainFrom_of_end hfailure]
    show (⟨s.drain.chunks ++ [], none⟩, m') = (s.drain, m')
    rw [List.append_nil, ← hfailure]

end Piece

namespace Multipart.Draft

omit [Platform] in
/-- `Draft.pieces` around the part of a file: its header stands before it, and a line break behind it. -/
theorem pieces_around {d : Draft} {before after : List Part} {header : Bytes} {source : Handle}
    (h : d.parts = before ++ ⟨header, .file source⟩ :: after) :
    ∃ behind, d.pieces =
      (before.flatMap partPieces ++ [.chunk header]) ++ .file source :: .chunk crlf :: behind := by
  obtain ⟨last, hlast⟩ : ∃ last, d.pieces = d.parts.flatMap partPieces ++ last := ⟨_, rfl⟩
  refine ⟨after.flatMap partPieces ++ last, ?_⟩
  rw [hlast, h, List.flatMap_append, List.flatMap_cons]
  simp only [partPieces, List.append_assoc, List.cons_append, List.nil_append]

end Multipart.Draft

open Multipart in
/-- **A file is sent without loss, chunk by chunk**, alone and as a part of a form. Whatever the sizes of its
readings, as long as none gives nothing before the end, the loop over an open file passes on what is read
(`Stream.Chunked`). In a form the chunks come between the header of the part and the line break behind it; if a
reading fails, nothing comes after the chunks read before. -/
theorem Piece.file_chunked {source : Handle} {m m' : Machine} {s : Stream}
    (hopen : source.openRead m = .ok s m') (hproductive : s.Productive) :
    s.Chunked s.drain ∧
      Piece.drain [.file source] m = (s.drain, m') ∧
      ∀ (form : Draft) (before after : List Part) (header : Bytes) (front : List Bytes) (m₀ : Machine),
        form.parts = before ++ ⟨header, .file source⟩ :: after →
        Piece.drain (before.flatMap Draft.partPieces) m₀ = (⟨front, none⟩, m) →
        (∀ failure, s.drain.failure = some failure →
          Piece.drain form.pieces m₀ = (⟨front ++ header :: s.drain.chunks, some failure⟩, m')) ∧
        (s.drain.failure = none → ∃ (behind : List Bytes) (failure : Option Failure) (m'' : Machine),
          Piece.drain form.pieces m₀ =
            (⟨front ++ header :: s.drain.chunks ++ crlf :: behind, failure⟩, m'')) := by
  refine ⟨Stream.drain_chunked hproductive, Piece.drain_alone hopen, ?_⟩
  intro form before after header front m₀ hparts hbefore
  obtain ⟨behind, hpieces⟩ := Draft.pieces_around hparts
  have hheader : Piece.drain (before.flatMap Draft.partPieces ++ [.chunk header]) m₀ =
      (⟨front ++ [header], none⟩, m) := Piece.drain_append hbefore rfl
  rw [hpieces, Piece.drain_around hheader hopen]
  refine ⟨fun failure hfailure => ?_, fun hnone => ?_⟩
  · rw [Piece.drainFrom_of_failure hfailure, hfailure, List.append_assoc]
    rfl
  · rw [Piece.drainFrom_of_end hnone]
    refine ⟨(Piece.drain behind m').1.chunks, (Piece.drain behind m').1.failure, (Piece.drain behind m').2, ?_⟩
    simp only [List.append_assoc]
    rfl

end

/-- What becomes of a source that cannot be read any further. -/
def brokenDisk : Failure := .system (.numbered 5 "Input/output error" none)

/-- A source that gives two chunks and then fails. -/
def stutter : Handle :=
  .custom 0
    { label := "Stutter"
      name := fun _ => .ok "data.bin"
      mimeType := fun _ => .ok (some "application/x-data")
      size := fun _ => .ok 4
      opening := fun _ => .ok (.pattern [[1], [2, 3]] (some brokenDisk)) }

open Multipart in
/-- A form with a text before the source and another behind it. -/
def stutterForm : Draft :=
  { charset := "UTF-8", codec := .utf8, boundary := "edge",
    parts := [⟨[0x61], .held [0x62]⟩, ⟨[0x63], .file stutter⟩, ⟨[0x64], .held [0x65]⟩] }

/-- `Piece.file_chunked` at the source in the form, and at one in memory whose readings are full. -/
theorem Piece.file_chunked_stutter :
    (∃ s m', stutter.openRead {} = .ok s m' ∧ s.Productive ∧
      s.drain = ⟨[[1], [2, 3]], some brokenDisk⟩ ∧
      Piece.drain stutterForm.pieces {} =
        (⟨[[0x61], [0x62], crlf, [0x63], [1], [2, 3]], some brokenDisk⟩, m')) ∧
    ∃ s m', (Handle.inMemory [1, 2, 3] "data.bin" none).openRead {} = .ok s m' ∧ s.Productive ∧
      s.Unfailing ∧ s.Full ∧ s.drain.bytes = [1, 2, 3] ∧ s.drain.chunks.length = 1 := by
  constructor
  · have hsizes : ∀ chunk ∈ ([[1], [2, 3]] : List Bytes), 1 ≤ chunk.length ∧ chunk.length ≤ 65536 := by decide
    -- two short readings and then a failure: the chunks before it are still given
    have hgiving : (Delivery.patternStream [] [[1], [2, 3]] (some brokenDisk)).Giving :=
      Delivery.pattern_giving fun chunk hmem => (hsizes chunk hmem).1
    have hproductive := hgiving.productive
    obtain ⟨m', hopen⟩ : ∃ m', stutter.openRead {} =
        .ok (Delivery.patternStream [] [[1], [2, 3]] (some brokenDisk)) m' := ⟨_, rfl⟩
    obtain ⟨hchunked, -, hform⟩ := Piece.file_chunked hopen hproductive
    have hdrain := hchunked.fails 2 _ _ brokenDisk (Delivery.pattern_reads hsizes) rfl rfl
    have hfailure := congrArg Drained.failure hdrain
    have hbody := (hform stutterForm [_] [_] [0x63] [[0x61], [0x62], crlf] {} rfl rfl).1 brokenDisk hfailure
    rw [hdrain] at hbody
    exact ⟨_, m', hopen, hproductive, hdrain, hbody⟩
  · obtain ⟨s, m', hopen, rfl⟩ : ∃ s m', (Handle.inMemory [1, 2, 3] "data.bin" none).openRead {} = .ok s m' ∧
        s = ⟨.memory, [1, 2, 3], 0⟩ := ⟨_, _, rfl, rfl⟩
    have hfull : Stream.Full ⟨.memory, [1, 2, 3], 0⟩ :=
      Stream.full_of_uncut fun _ hcustom => by cases hcustom
    have hunfailing : Stream.Unfailing ⟨.memory, [1, 2, 3], 0⟩ := Stream.Steady.unfailing trivial
    obtain ⟨hchunked, -⟩ := Piece.file_chunked hopen hfull.productive
    exact ⟨_, m', hopen, hfull.productive, hunfailing, hfull, (hchunked.whole hunfailing).2,
      hchunked.count hunfailing hfull⟩

end Courier
