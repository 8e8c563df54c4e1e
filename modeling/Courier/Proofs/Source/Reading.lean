import Courier.Proofs.Action

/-!
# One reading

A reading gives the front of what is left of a file: as much as was asked for, or less where the source gives
only so much at a time (`Stream.read_take`). Apart from faults of the source itself it is refused only if more
is asked for than there is room for (`Medium.refusal?_large`, with `greatestBlock`), so that a reading which
succeeded also succeeds for a larger size up to there (`Stream.read_wider`).
-/

namespace Courier

variable [Platform]

/-- The greatest size of a reading that is refused nowhere for its size. -/
def greatestBlock : Int := min Platform.room (greatestSize - 33)

/-- The law `Platform.chunk_le_room`, and a comparison of numbers. -/
theorem chunkSize_le_greatestBlock : chunkSize ≤ greatestBlock := by
  have hroom := Platform.chunk_le_room
  have hchunk : chunkSize = 65536 := rfl
  have hgreatest : greatestSize = 9223372036854775807 := rfl
  unfold greatestBlock
  omega

/-- **Only a size that there is no room for is refused**, unless it is negative. -/
theorem Medium.refusal?_large {medium : Medium} {left : Nat} {size : Int} {failure : Failure}
    (hlo : 0 ≤ size) (h : medium.refusal? left size = some failure) : greatestBlock < size := by
  have hgreatest : greatestSize = 9223372036854775807 := rfl
  -- a size is refused as a number, or by the disk for want of room; `greatestBlock` is below both
  have hroom : greatestBlock = min Platform.room (greatestSize - 33) := rfl
  unfold refusal? at h
  split at h
  · next hword =>
    simp only [Bool.or_eq_true, decide_eq_true_eq] at hword
    omega
  · cases medium with
    | memory => cases h
    | custom delivery => cases h
    | disk =>
      simp only at h
      rw [if_neg (Int.not_lt.mpr hlo)] at h
      split at h
      · omega
      · split at h
        · omega
        · split at h
          · omega
          · cases h

namespace Stream

variable {s s' : Stream} {size wider : Int} {bytes : Bytes}

omit [Platform] in
/-- `Stream.askedSize` is what is asked for, or less. -/
theorem askedSize_le (s : Stream) (hlo : 0 ≤ size) :
    0 ≤ s.askedSize size ∧ s.askedSize size ≤ size := by
  unfold askedSize
  cases s.medium with
  | disk => exact ⟨hlo, Int.le_refl _⟩
  | memory => exact ⟨hlo, Int.le_refl _⟩
  | custom delivery =>
    simp only [Delivery.cutSize]
    cases delivery.most s.readings with
    | none => exact ⟨hlo, Int.le_refl _⟩
    | some most =>
      simp only [if_neg (Int.not_lt.mpr hlo)]
      omega

omit [Platform] in
/-- Asked for more, it asks for as much as before or more; and for more only where the source gave all
that it was asked for. -/
theorem askedSize_wider (s : Stream) (hlo : 0 ≤ size) (hle : size ≤ wider) :
    s.askedSize wider = s.askedSize size ∨
      s.askedSize size = size ∧ size ≤ s.askedSize wider := by
  unfold askedSize
  cases s.medium with
  | disk => exact .inr ⟨rfl, hle⟩
  | memory => exact .inr ⟨rfl, hle⟩
  | custom delivery =>
    simp only [Delivery.cutSize]
    cases delivery.most s.readings with
    | none => exact .inr ⟨rfl, hle⟩
    | some most =>
      simp only [if_neg (Int.not_lt.mpr hlo), if_neg (Int.not_lt.mpr (Int.le_trans hlo hle))]
      omega

/-- `Stream.read` gives `takeMost` of what is left, if nothing speaks against it. -/
theorem read_eq_ok (h : s.read size = .ok (bytes, s')) :
    s.failure? size = none ∧ bytes = takeMost (s.limit size) s.rest := by
  unfold read at h
  split at h
  · cases h
  · next hnone =>
    cases h
    exact ⟨hnone, rfl⟩

/-- A reading takes what it gives off the front, and counts. -/
theorem read_next (h : s.read size = .ok (bytes, s')) :
    s' = { s with rest := s.rest.drop bytes.length, readings := s.readings + 1 } := by
  unfold read at h
  split at h
  · cases h
  · cases h
    rfl

/-- A reading that nothing refuses gives `takeMost` of what is left. -/
theorem read_of_ready (h : s.failure? size = none) :
    ∃ s', s.read size = .ok (takeMost (s.limit size) s.rest, s') := by
  unfold read
  rw [h]
  exact ⟨_, rfl⟩

omit [Platform] in
/-- `takeMost` under the limit of a reading is `List.take` of the size that is asked for. -/
theorem takeMost_limit (hlo : 0 ≤ size) :
    takeMost (s.limit size) s.rest = s.rest.take (s.askedSize size).toNat := by
  obtain ⟨hasked, -⟩ := s.askedSize_le hlo
  unfold limit askedFor
  rw [if_neg (Int.not_lt.mpr hasked)]
  rfl

/-- **A reading gives the front of what is left.** -/
theorem read_take (hlo : 0 ≤ size) (h : s.read size = .ok (bytes, s')) :
    bytes = s.rest.take (s.askedSize size).toNat := by
  rw [(read_eq_ok h).2, takeMost_limit hlo]

/-- `Stream.failure?` of a larger size is that of a smaller one, unless the medium refuses the size
(`Medium.refusal?_large`). -/
theorem failure?_wider {failure : Failure} (hlo : 0 ≤ wider) (h : s.failure? size = none)
    (hwider : s.failure? wider = some failure) : greatestBlock < wider := by
  obtain ⟨hasked, hle⟩ := s.askedSize_le hlo
  have hrefused : ∃ own, s.medium.refusal? s.rest.length (s.askedSize wider) = some own := by
    unfold failure? at h hwider
    cases hmedium : s.medium with
    | disk =>
      rw [hmedium] at hwider
      exact ⟨_, hwider⟩
    | memory =>
      rw [hmedium] at hwider
      exact ⟨_, hwider⟩
    | custom delivery =>
      -- a fault of the source would have been one for the smaller size, too
      simp only [hmedium, Option.or_eq_none_iff] at h
      simp only [hmedium, h.1, Option.none_or] at hwider
      exact ⟨_, hwider⟩
  obtain ⟨own, hown⟩ := hrefused
  exact Int.lt_of_lt_of_le (Medium.refusal?_large hasked hown) hle

/-- **A reading that is asked for more gives more of the same**, or as much as before where the source gives
only so much; unless the size itself is refused. -/
theorem read_wider (hlo : 0 ≤ size) (hle : size ≤ wider) (h : s.read size = .ok (bytes, s')) :
    (∃ (k k' : Nat) (s'' : Stream), bytes = s.rest.take k ∧
      s.read wider = .ok (s.rest.take k', s'') ∧ (k' = k ∨ size = k ∧ k ≤ k')) ∨
    greatestBlock < wider ∧ ∃ failure, s.read wider = .error failure := by
  have hwide := Int.le_trans hlo hle
  obtain ⟨hready, -⟩ := read_eq_ok h
  cases hwider : s.failure? wider with
  | none =>
    obtain ⟨s'', hread⟩ := read_of_ready hwider
    rw [takeMost_limit hwide] at hread
    refine .inl ⟨_, _, s'', read_take hlo h, hread, ?_⟩
    -- both readings are cut to the same size, or the narrower one is not cut at all
    obtain hsame | ⟨hall, hmore⟩ := s.askedSize_wider hlo hle
    · rw [hsame]
      exact .inl rfl
    · exact .inr (by omega)
  | some failure =>
    refine .inr ⟨failure?_wider hwide hready hwider, failure, ?_⟩
    unfold read
    rw [hwider]

end Stream

end Courier
