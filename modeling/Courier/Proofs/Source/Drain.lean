import Courier.Proofs.Source.Chunks

/-!
# Sources that give all they hold

A stream is steady if none of its readings fails and none gives nothing before the end; how much one
reading gives is left open. Whatever the sizes of its readings, a steady stream is read to its end
(`Stream.drain_of_steady`), so that the whole content of a source is what it was opened with
(`Handle.content_of_opening`).
-/

namespace Courier

/-- A delivery that gives one byte at least in each reading, and fails in none. -/
def Delivery.Steady (d : Delivery) : Prop :=
  ∀ reading, d.most reading ≠ some 0 ∧ d.fault reading = none

/-- A stream each of whose readings gives one byte at least until its end. -/
def Stream.Steady (s : Stream) : Prop :=
  match s.medium with
  | .disk | .memory => True
  | .custom delivery => delivery.Steady

namespace Stream

variable [Platform] {s : Stream}

/-! ## One reading -/

omit [Platform] in
theorem Steady.giving (h : s.Steady) : s.Giving := by
  intro delivery hmedium reading
  unfold Steady at h
  rw [hmedium] at h
  exact (h reading).1

/-- `Stream.failure?` of a steady stream is none. -/
theorem failure?_of_steady (h : s.Steady) : s.failure? chunkSize = none := by
  obtain ⟨hlo, hhi⟩ := askedSize_bounds h.giving
  have hrefusal := chunk_not_refused s.medium s.rest.length (Int.le_of_lt hlo) hhi
  unfold Steady at h
  cases hm : s.medium with
  | disk =>
    unfold failure?
    rw [hrefusal, hm]
  | memory =>
    unfold failure?
    rw [hrefusal, hm]
  | custom delivery =>
    rw [hm] at h
    rw [failure?_custom hm, (h s.readings).2]

/-- **A reading of a steady stream gives something, unless nothing is left.** -/
theorem read_of_steady (h : s.Steady) :
    ∃ bytes s', s.read chunkSize = .ok (bytes, s') ∧ s'.Steady ∧ bytes ++ s'.rest = s.rest ∧
      (bytes = [] → s.rest = []) := by
  obtain ⟨s', hread, hsteady⟩ :
      ∃ s', s.read chunkSize = .ok (takeMost (s.limit chunkSize) s.rest, s') ∧ s'.Steady := by
    unfold read
    rw [failure?_of_steady h]
    exact ⟨_, rfl, h⟩
  refine ⟨_, s', hread, hsteady, read_append hread, fun hnone => ?_⟩
  rw [hnone] at hread
  exact rest_of_read_nil h.giving hread

/-! ## All readings -/

/-- A steady stream is `Unfailing`: what is left of it is steady again. -/
theorem Steady.unfailing (h : s.Steady) : s.Unfailing := by
  intro chunks last failure hreads hread
  have hsteady : last.Steady := by
    unfold Steady at h ⊢
    rw [hreads.medium]
    exact h
  obtain ⟨bytes, next, hok, -⟩ := read_of_steady hsteady
  rw [hread] at hok
  cases hok

/-- **A steady stream is read to its end, whatever the sizes of its readings.** -/
theorem drain_of_steady (h : s.Steady) : s.drain.failure = none ∧ s.drain.bytes = s.rest :=
  (drain_chunked h.giving.productive).whole h.unfailing

end Stream

namespace Handle

/-! ## The whole content of a source -/

variable [Platform]

/-- Opens a source and reads it to its end. -/
def content (h : Handle) : Act Bytes := do
  let stream ← h.openRead
  Act.ofExcept stream.drain.toExcept

/-- The source is measured as so many bytes while the files are these. -/
def Measures (h : Handle) (files : FileSystem) (n : Nat) : Prop :=
  ∀ m : Machine, m.files = files → h.size m = .ok n

/-- The source gives so many bytes whenever it is opened while the files are these. -/
def Yields (h : Handle) (files : FileSystem) (n : Nat) : Prop :=
  ∀ m : Machine, m.files = files →
    ∃ s : Stream, h.opening m = .ok s ∧ s.Steady ∧ s.rest.length = n

/-- The source gives exactly as many bytes after some time as it was measured to have before. -/
def Faithful (h : Handle) (before after : FileSystem) : Prop :=
  ∃ n, h.Measures before n ∧ h.Yields after n

/-- Opening and reading through, where the stream is known (`Stream.drain_of_steady`). -/
theorem content_of_opening {h : Handle} {m : Machine} {s : Stream} (hs : h.opening m = .ok s)
    (hsteady : s.Steady) :
    h.content m = .ok s.rest (h.used (fun u => { u with opened := u.opened + 1 }) m) := by
  obtain ⟨hfailure, hbytes⟩ := s.drain_of_steady hsteady
  have hopen := openRead_run h m
  rw [hs] at hopen
  unfold content
  rw [Act.bind_run_ok hopen]
  unfold Drained.toExcept
  rw [hfailure, hbytes]
  rfl

theorem Yields.content {h : Handle} {m : Machine} {n : Nat} (hn : h.Yields m.files n) :
    ∃ bytes m', h.content m = .ok bytes m' ∧ m'.files = m.files ∧ bytes.length = n := by
  obtain ⟨s, hs, hsteady, hlen⟩ := hn m rfl
  exact ⟨_, _, content_of_opening hs hsteady, used_files _ _ _, hlen⟩

end Handle

end Courier
