import Courier.Proofs.Source.Reading

/-!
# Reading chunk by chunk

The loop that sends a file reads chunks until a reading gives nothing or fails. Its run is followed by
`Stream.Reads`: readings one after the other, each of which gives something. What such a run gave is the front of
what the stream held (`Reads.append`), the loop passes it on as it is (`Reads.drain`), and the loop makes such a run
and one reading more, which ends it (`drain_reads`). All that is known of a stream is said of its readings: whether
one that gives nothing comes at the end alone (`Productive`), whether each gives as much as it was asked for
(`Full`), and whether one fails (`Unfailing`). Main statement: `Stream.drain_chunked`.
-/

namespace Courier

variable [Platform]

namespace Stream

/-- Readings one after the other, each of which gives a chunk that is not empty. -/
inductive Reads : Stream → List Bytes → Stream → Prop
  | refl (s : Stream) : Reads s [] s
  | step {s next last : Stream} {chunk : Bytes} {chunks : List Bytes}
      (hread : s.read chunkSize = .ok (chunk, next)) (hchunk : chunk ≠ []) (hrest : Reads next chunks last) :
      Reads s (chunk :: chunks) last

/-- No reading gives nothing before the end. -/
def Productive (s : Stream) : Prop :=
  ∀ chunks last next, s.Reads chunks last → last.read chunkSize = .ok ([], next) → last.rest = []

/-- Each reading gives as much as it was asked for, as long as so much is left. -/
def Full (s : Stream) : Prop :=
  ∀ chunks last chunk next, s.Reads chunks last → last.read chunkSize = .ok (chunk, next) →
    chunk.length = min 65536 last.rest.length

/-- No reading fails. -/
def Unfailing (s : Stream) : Prop :=
  ∀ chunks last failure, s.Reads chunks last → last.read chunkSize ≠ .error failure

variable {s next last : Stream} {chunk : Bytes} {chunks : List Bytes} {failure : Failure}

/-! ## One reading -/

theorem read_chunk_length (h : s.read chunkSize = .ok (chunk, next)) : chunk.length ≤ 65536 := by
  have hchunk : (0 : Int) ≤ chunkSize := by decide
  obtain ⟨hlo, hhi⟩ := s.askedSize_le hchunk
  rw [read_take hchunk h, List.length_take]
  have hsize : chunkSize = 65536 := rfl
  omega

/-- `Stream.drain` ends with the failure of a reading. -/
theorem drain_of_error (h : s.read chunkSize = .error failure) : s.drain = ⟨[], some failure⟩ := by
  rw [drain_eq, h]

/-- `Stream.drain` ends where a reading gives nothing. -/
theorem drain_of_end (h : s.read chunkSize = .ok ([], next)) : s.drain = ⟨[], none⟩ := by
  rw [drain_eq, h]
  rfl

/-- `Stream.drain` passes a chunk on and goes on with what the reading left. -/
theorem drain_of_chunk (h : s.read chunkSize = .ok (chunk, next)) (hchunk : chunk ≠ []) :
    s.drain = next.drain.cons chunk := by
  rw [drain_eq, h]
  exact if_neg hchunk

/-! ## Readings one after the other -/

namespace Reads

/-- `Reads` after `Reads`. Induction on the first ones. -/
theorem trans {mid : Stream} {more : List Bytes} (h : s.Reads chunks mid) (h' : mid.Reads more last) :
    s.Reads (chunks ++ more) last := by
  induction h with
  | refl s => exact h'
  | step hread hchunk _ ih => exact .step hread hchunk (ih h')

theorem one (h : s.read chunkSize = .ok (chunk, next)) (hchunk : chunk ≠ []) : s.Reads [chunk] next :=
  .step h hchunk (.refl next)

/-- **What was read is the front of what there was.** -/
theorem append (h : s.Reads chunks last) : chunks.flatten ++ last.rest = s.rest := by
  induction h with
  | refl s => rfl
  | step hread _ _ ih => rw [List.flatten_cons, List.append_assoc, ih, read_append hread]

/-- `Reads` changes nothing about what lies behind a stream. Induction on the readings. -/
theorem medium (h : s.Reads chunks last) : last.medium = s.medium := by
  induction h with
  | refl s => rfl
  | step hread _ _ ih => rw [ih, read_next hread]

/-- Each chunk of `Reads` has a byte at least, and no more than were asked for. Induction on the readings. -/
theorem sizes (h : s.Reads chunks last) : ∀ chunk ∈ chunks, 1 ≤ chunk.length ∧ chunk.length ≤ 65536 := by
  induction h with
  | refl s => exact fun _ hmem => absurd hmem List.not_mem_nil
  | step hread hchunk _ ih =>
    exact List.forall_mem_cons.mpr ⟨⟨List.length_pos_iff.mpr hchunk, read_chunk_length hread⟩, ih⟩

/-- `Reads` makes no more readings than there are bytes. Induction on the readings. -/
theorem length_le (h : s.Reads chunks last) : chunks.length + last.rest.length ≤ s.rest.length := by
  induction h with
  | refl s => exact Nat.le_of_eq (Nat.zero_add _)
  | step hread hchunk _ ih =>
    have hshorter := read_shorter hread hchunk
    rw [List.length_cons]
    omega

/-- **The loop passes on what is read**, chunk by chunk. -/
theorem drain (h : s.Reads chunks last) : s.drain = ⟨chunks ++ last.drain.chunks, last.drain.failure⟩ := by
  induction h with
  | refl s => rfl
  | step hread hchunk _ ih =>
    rw [drain_of_chunk hread hchunk, ih]
    rfl

end Reads

theorem Full.of_reads (h : s.Full) (hreads : s.Reads chunks last) : last.Full :=
  fun _ _ _ _ hmore => h _ _ _ _ (hreads.trans hmore)

/-- A `Full` reading that gives nothing is at the end. -/
theorem Full.productive (h : s.Full) : s.Productive := by
  intro chunks last next hreads hread
  have hlength := h chunks last [] next hreads hread
  rw [List.length_nil] at hlength
  exact List.length_eq_zero_iff.mp (by omega)

/-- **Full readings are as few as possible.** -/
theorem Reads.count (h : s.Full) (hreads : s.Reads chunks last) (hend : last.rest = []) :
    chunks.length = (s.rest.length + 65535) / 65536 := by
  induction hreads with
  | refl s =>
    rw [hend]
    rfl
  | @step s next last chunk chunks hread hchunk hrest ih =>
    have hfirst : chunk.length = min 65536 s.rest.length := h [] s chunk next (.refl s) hread
    have hcount := ih (h.of_reads (.one hread hchunk)) hend
    have hwhole : chunk.length + next.rest.length = s.rest.length := by
      rw [← List.length_append, read_append hread]
    have hpos : 1 ≤ chunk.length := List.length_pos_iff.mpr hchunk
    rw [List.length_cons]
    omega

/-! ## The loop -/

/-- **The loop makes readings that give something, and one more, which ends it.** -/
theorem drain_reads (s : Stream) :
    ∃ last, s.Reads s.drain.chunks last ∧
      ((∃ next, last.read chunkSize = .ok ([], next) ∧ s.drain.failure = none) ∨
        ∃ failure, last.read chunkSize = .error failure ∧ s.drain.failure = some failure) := by
  -- by induction on how much is left
  generalize hleft : s.rest.length = left
  induction left using Nat.strongRecOn generalizing s with
  | _ left ih =>
    cases hread : s.read chunkSize with
    | error failure =>
      rw [drain_of_error hread]
      exact ⟨s, .refl s, .inr ⟨failure, hread, rfl⟩⟩
    | ok pair =>
      obtain ⟨chunk, next⟩ := pair
      by_cases hchunk : chunk = []
      · subst hchunk
        rw [drain_of_end hread]
        exact ⟨s, .refl s, .inl ⟨next, hread, rfl⟩⟩
      · have hshorter : next.rest.length < left := hleft ▸ read_shorter hread hchunk
        obtain ⟨last, hreads, hend⟩ := ih _ hshorter next rfl
        rw [drain_of_chunk hread hchunk]
        exact ⟨last, .step hread hchunk hreads, hend⟩

/-- What a loop over a stream passes on, and how it ends. -/
structure Chunked (s : Stream) (d : Drained) : Prop where
  /-- No chunk is empty, and none is larger than 64 KiB. -/
  sizes : ∀ chunk ∈ d.chunks, 1 ≤ chunk.length ∧ chunk.length ≤ 65536
  /-- The loop ends with the first reading that gives nothing or fails; the chunks are those of the readings
  before it. -/
  ends : ∃ last, s.Reads d.chunks last ∧ d.chunks.length ≤ s.rest.length ∧ d.bytes ++ last.rest = s.rest ∧
    ((∃ next, last.read chunkSize = .ok ([], next) ∧ d.failure = none) ∨
      ∃ failure, last.read chunkSize = .error failure ∧ d.failure = some failure)
  /-- If no reading fails, the chunks make up the content. -/
  whole : s.Unfailing → d.failure = none ∧ d.bytes = s.rest
  /-- If moreover each reading gives what it can, there are as few chunks as possible. -/
  count : s.Unfailing → s.Full → d.chunks.length = (s.rest.length + 65535) / 65536
  /-- If a reading fails, the chunks read before it are passed on, and then the failure. -/
  fails : ∀ k chunks last failure, s.Reads chunks last → chunks.length = k →
    last.read chunkSize = .error failure → d = ⟨chunks, some failure⟩

/-- **The loop loses nothing and ends.** -/
theorem drain_chunked (h : s.Productive) : s.Chunked s.drain := by
  obtain ⟨last, hreads, hend⟩ := s.drain_reads
  -- without a failure the last reading found the end
  have hquiet : s.Unfailing → s.drain.failure = none ∧ last.rest = [] := by
    intro hunfailing
    obtain ⟨next, hread, hnone⟩ | ⟨failure, hread, -⟩ := hend
    · exact ⟨hnone, h _ _ _ hreads hread⟩
    · exact absurd hread (hunfailing _ _ _ hreads)
  refine ⟨hreads.sizes, ⟨last, hreads, Nat.le_of_add_right_le hreads.length_le, hreads.append, hend⟩, ?_, ?_, ?_⟩
  · intro hunfailing
    obtain ⟨hnone, hrest⟩ := hquiet hunfailing
    have happend := hreads.append
    rw [hrest, List.append_nil] at happend
    exact ⟨hnone, happend⟩
  · intro hunfailing hfull
    exact hreads.count hfull (hquiet hunfailing).2
  · intro k chunks last failure hreads _ hread
    rw [hreads.drain, drain_of_error hread, List.append_nil]

/-! ## What a source makes of its stream -/

/-- A stream whose source does not cut a reading down to nothing. -/
def Giving (s : Stream) : Prop :=
  ∀ delivery, s.medium = .custom delivery → ∀ reading, delivery.most reading ≠ some 0

theorem chunk_not_refused (medium : Medium) (left : Nat) {size : Int} (hlo : 0 ≤ size)
    (hhi : size ≤ chunkSize) : medium.refusal? left size = none := by
  cases hrefused : medium.refusal? left size with
  | none => rfl
  | some failure =>
    have hlarge := Medium.refusal?_large hlo hrefused
    have hsmall := chunkSize_le_greatestBlock
    omega

/-- `Stream.failure?` of a chunk is that of the source, for no medium refuses its size (`chunk_not_refused`).
-/
theorem failure?_custom {delivery : Delivery} (h : s.medium = .custom delivery) :
    s.failure? chunkSize = delivery.fault s.readings := by
  obtain ⟨hlo, hhi⟩ := s.askedSize_le (show (0 : Int) ≤ chunkSize by decide)
  unfold failure?
  rw [chunk_not_refused _ _ hlo hhi, h]
  exact Option.or_none

omit [Platform] in
/-- `Stream.askedSize` is positive for a stream that gives something. By cases on the medium. -/
theorem askedSize_pos {size : Int} (h : s.Giving) (hpos : 0 < size) : 0 < s.askedSize size := by
  cases hm : s.medium with
  | disk => simpa only [askedSize, hm] using hpos
  | memory => simpa only [askedSize, hm] using hpos
  | custom delivery =>
    have hmost := h delivery hm s.readings
    simp only [askedSize, hm, Delivery.cutSize]
    cases hlimit : delivery.most s.readings with
    | none => exact hpos
    | some most =>
      rw [hlimit] at hmost
      have hmostPos : most ≠ 0 := fun h => hmost (by rw [h])
      simp only [if_neg (Int.not_lt.mpr (Int.le_of_lt hpos))]
      omega

omit [Platform] in
/-- `askedSize_pos` and `askedSize_le` for a chunk. -/
theorem askedSize_bounds (h : s.Giving) :
    0 < s.askedSize chunkSize ∧ s.askedSize chunkSize ≤ chunkSize :=
  ⟨askedSize_pos h (by decide), (s.askedSize_le (by decide)).2⟩

/-- **A reading gives nothing only at the end.** -/
theorem rest_of_read_nil {next : Stream} (h : s.Giving) (hread : s.read chunkSize = .ok ([], next)) :
    s.rest = [] := by
  have hpos := (askedSize_bounds h).1
  have hnone := read_take (by decide) hread
  rw [eq_comm, List.take_eq_nil_iff] at hnone
  obtain hzero | hend := hnone
  · omega
  · exact hend

/-- A source whose readings give something is productive, with `askedSize_pos` for the size. -/
theorem Giving.productive (h : s.Giving) : s.Productive := by
  intro chunks last next hreads hread
  have hgiving : last.Giving := fun delivery hmedium => h delivery (hreads.medium ▸ hmedium)
  exact rest_of_read_nil hgiving hread

/-- A stream is `Full` if its source cuts no reading short. -/
theorem full_of_uncut (h : ∀ delivery, s.medium = .custom delivery →
    ∀ reading most, delivery.most reading = some most → 65536 ≤ most) : s.Full := by
  intro chunks last chunk next hreads hread
  -- a reading is as large as asked for wherever nothing cuts it below 65536 bytes
  have hasked : last.askedSize chunkSize = chunkSize := by
    have hchunk : chunkSize = 65536 := rfl
    unfold askedSize
    cases hmedium : last.medium with
    | disk => rfl
    | memory => rfl
    | custom delivery =>
      simp only [Delivery.cutSize]
      cases hmost : delivery.most last.readings with
      | none => rfl
      | some most =>
        have hlarge := h delivery (hreads.medium ▸ hmedium) _ _ hmost
        simp only [if_neg (show ¬ chunkSize < 0 by decide)]
        omega
  rw [read_take (by decide) hread, hasked, List.length_take]
  rfl

end Stream

/-! ## A source of chunks of any sizes -/

namespace Delivery

/-- A source that gives these chunks, one in each reading, and then fails if it is to. -/
def pattern (chunks : List Bytes) (failure : Option Failure) : Delivery where
  content := chunks.flatten
  most reading := chunks[reading]?.map List.length
  fault reading := if reading = chunks.length then failure else none

/-- The stream of such a source when some chunks were read. -/
def patternStream (front back : List Bytes) (failure : Option Failure) : Stream :=
  ⟨.custom (pattern (front ++ back) failure), back.flatten, front.length⟩

variable {front back : List Bytes} {chunk : Bytes} {failure : Option Failure}

/-- One reading of a `patternStream` gives the next chunk, if that is within the bounds. -/
theorem pattern_read (hpos : 1 ≤ chunk.length) (hmost : chunk.length ≤ 65536) :
    (patternStream front (chunk :: back) failure).read chunkSize =
      .ok (chunk, patternStream (front ++ [chunk]) back failure) := by
  have hchunk : chunkSize = 65536 := rfl
  have hlimit : (pattern (front ++ chunk :: back) failure).most front.length = some chunk.length := by
    simp [pattern]
  have hready : (patternStream front (chunk :: back) failure).failure? chunkSize = none := by
    rw [Stream.failure?_custom rfl]
    simp [patternStream, pattern]
  obtain ⟨next, hread⟩ := Stream.read_of_ready hready
  have hasked : (patternStream front (chunk :: back) failure).askedSize chunkSize = chunk.length := by
    simp only [patternStream, Stream.askedSize, cutSize, hlimit, if_neg (show ¬ chunkSize < 0 by decide)]
    omega
  rw [Stream.takeMost_limit (by decide), hasked] at hread
  rw [hread, Stream.read_next hread]
  simp [patternStream]

/-- **Reading after reading gives the chunks**, one each. -/
theorem pattern_reads (h : ∀ chunk ∈ back, 1 ≤ chunk.length ∧ chunk.length ≤ 65536) :
    (patternStream front back failure).Reads back (patternStream (front ++ back) [] failure) := by
  induction back generalizing front with
  | nil =>
    rw [List.append_nil]
    exact .refl _
  | cons chunk rest ih =>
    obtain ⟨⟨hpos, hmost⟩, hrest⟩ := List.forall_mem_cons.mp h
    have hmore : (patternStream (front ++ [chunk]) rest failure).Reads rest
        (patternStream (front ++ [chunk] ++ rest) [] failure) := ih hrest
    rw [List.append_assoc] at hmore
    exact .step (pattern_read hpos hmost) (List.length_pos_iff.mp hpos) hmore

omit [Platform] in
theorem pattern_giving {chunks : List Bytes} (h : ∀ chunk ∈ chunks, 1 ≤ chunk.length) :
    (patternStream [] chunks failure).Giving := by
  intro delivery hmedium reading hzero
  cases hmedium
  obtain ⟨chunk, hchunk, hlength⟩ := Option.map_eq_some_iff.mp hzero
  have hpos := h chunk (List.mem_of_getElem? hchunk)
  omega

end Delivery

end Courier
