import Courier.Entity
import Courier.Proofs.Source.Drain

/-!
# What an entity gives

The pieces of a streamed body are read one after the other, so that what a list of pieces gives is put
together from what its parts give (`Piece.Drains.append`). Fetching the chunks one by one comes to the
same as reading the pieces through, with every failure in the same place (`Cursor.drain_eq`); those who
wait for the chunks learn of it as of something that was fetched (`Content.drainStepwise_eq`). Therefore the three ways
to consume an entity give the same bytes and leave the same machine (`Entity.Gives`).
-/

namespace Courier

namespace Piece

variable [Platform]

/-- Pieces are read to their end without a failure: these bytes come out, and this machine is left. -/
def Drains (pieces : List Piece) (m : Machine) (bytes : Bytes) (m' : Machine) : Prop :=
  ∃ chunks, drain pieces m = (⟨chunks, none⟩, m') ∧ chunks.flatten = bytes

variable {xs ys : List Piece} {m m₁ m₂ : Machine} {a b : Bytes}

/-- `Piece.drain` of two lists is that of the second on the machine that the first leaves. Induction on the
first, with one case for what its front piece gives. -/
theorem drain_append {chunks chunks' : List Bytes} {failure : Option Failure}
    (h : drain xs m = (⟨chunks, none⟩, m₁)) (h' : drain ys m₁ = (⟨chunks', failure⟩, m₂)) :
    drain (xs ++ ys) m = (⟨chunks ++ chunks', failure⟩, m₂) := by
  induction xs generalizing chunks m with
  | nil =>
    cases h
    exact h'
  | cons piece rest ih =>
    cases piece with
    | fault failure => cases h
    | chunk bytes =>
      simp only [drain, List.cons_append] at h ⊢
      cases hrest : drain rest m with
      | mk d m₃ =>
        cases d with
        | mk inner failure' =>
          rw [hrest] at h
          cases h
          rw [ih hrest]
          rfl
    | file source =>
      simp only [drain, List.cons_append] at h ⊢
      cases hopen : source.openRead m with
      | error failure m₃ =>
        rw [hopen] at h
        cases h
      | ok stream m₃ =>
        simp only [hopen] at h ⊢
        cases hfirst : stream.drain.failure with
        | some failure =>
          -- the failure of the file would be that of the whole
          simp only [hfirst] at h
          have hd := congrArg (fun r => Drained.failure r.1) h
          rw [hfirst] at hd
          cases hd
        | none =>
          simp only [hfirst] at h ⊢
          cases hrest : drain rest m₃ with
          | mk d m₄ =>
            cases d with
            | mk inner failure' =>
              rw [hrest] at h
              cases h
              rw [ih hrest, List.append_assoc]

namespace Drains

theorem nil : Drains [] m [] m := ⟨[], rfl, rfl⟩

theorem chunk (bytes : Bytes) : Drains [.chunk bytes] m bytes m :=
  ⟨[bytes], rfl, List.append_nil bytes⟩

/-- A file drains to `Handle.content`. -/
theorem file {source : Handle} (h : source.content m = .ok a m₁) :
    Drains [.file source] m a m₁ := by
  obtain ⟨stream, m₂, hopen, hdrain⟩ := Act.bind_eq_ok.mp h
  obtain ⟨hbytes, rfl⟩ := Act.ofExcept_eq_ok.mp hdrain
  unfold Drained.toExcept at hbytes
  cases hfailure : stream.drain.failure with
  | some failure =>
    rw [hfailure] at hbytes
    cases hbytes
  | none =>
    rw [hfailure] at hbytes
    cases hbytes
    refine ⟨stream.drain.chunks, ?_, rfl⟩
    simp only [drain, hopen, hfailure, List.append_nil]

/-- Pieces one after the other, by `drain_append`. -/
theorem append (h : Drains xs m a m₁) (h' : Drains ys m₁ b m₂) : Drains (xs ++ ys) m (a ++ b) m₂ := by
  obtain ⟨chunks, hdrain, rfl⟩ := h
  obtain ⟨chunks', hdrain', rfl⟩ := h'
  exact ⟨chunks ++ chunks', drain_append hdrain hdrain', List.flatten_append⟩

end Drains

/-- An open stream and the pieces after it, read to the end. -/
def drainFrom (stream : Stream) (rest : List Piece) (m : Machine) : Drained × Machine :=
  match stream.drain.failure with
  | some _ => (stream.drain, m)
  | none =>
    let (d, m) := drain rest m
    (⟨stream.drain.chunks ++ d.chunks, d.failure⟩, m)

/-- `Piece.drain` opens a file, and then it is `drainFrom`. -/
theorem drain_file (source : Handle) (rest : List Piece) (m : Machine) :
    drain (.file source :: rest) m =
      match source.openRead m with
      | .error failure m => (⟨[], some failure⟩, m)
      | .ok stream m => drainFrom stream rest m := rfl

/-- `drainFrom` unfolded once: a reading that fails, that ends the file, or that gives a chunk. -/
theorem drainFrom_eq (stream : Stream) (rest : List Piece) (m : Machine) :
    drainFrom stream rest m =
      match stream.read chunkSize with
      | .error failure => (⟨[], some failure⟩, m)
      | .ok (bytes, stream') =>
        if bytes = [] then drain rest m
        else ((drainFrom stream' rest m).1.cons bytes, (drainFrom stream' rest m).2) := by
  unfold drainFrom
  rw [Stream.drain_eq]
  cases stream.read chunkSize with
  | error failure => rfl
  | ok pair =>
    obtain ⟨bytes, stream'⟩ := pair
    by_cases hb : bytes = []
    · simp only [if_pos hb, List.nil_append]
    · simp only [if_neg hb]
      cases hfailure : stream'.drain.failure with
      | some failure => simp only [Drained.cons, hfailure]
      | none => simp only [Drained.cons, hfailure, List.cons_append]

end Piece

/-! ## Chunk by chunk -/

namespace Cursor

variable [Platform]

/-- What is left to read, read through. -/
def drainRest (c : Cursor) (m : Machine) : Drained × Machine :=
  match c.current with
  | none => Piece.drain c.pieces m
  | some stream => Piece.drainFrom stream c.pieces m

/-- A fetch of a chunk, and what is left to read after it. -/
def Follows (fetched : EStateM.Result Failure Machine (Option (Bytes × Cursor)))
    (whole : Drained × Machine) : Prop :=
  whole =
    match fetched with
    | .error failure m => (⟨[], some failure⟩, m)
    | .ok none m => (⟨[], none⟩, m)
    | .ok (some (bytes, c)) m => ((c.drainRest m).1.cons bytes, (c.drainRest m).2)

/-- Beginning with a list of pieces follows reading them through. Induction on the pieces, as `Cursor.start`
goes on where a file gives nothing. -/
theorem start_follows (pieces : List Piece) (m : Machine) :
    Follows (start pieces m) (Piece.drain pieces m) := by
  induction pieces generalizing m with
  | nil => rfl
  | cons piece rest ih =>
    cases piece with
    | chunk bytes => rfl
    | fault failure => rfl
    | file source =>
      rw [Piece.drain_file]
      unfold start
      cases hopen : source.openRead m with
      | error failure m₁ =>
        rw [Act.bind_run_error hopen]
        rfl
      | ok stream m₁ =>
        -- a file that gives nothing at first is over, and the next piece is begun
        rw [Act.bind_run_ok hopen]
        simp only
        rw [Piece.drainFrom_eq]
        cases hread : stream.read chunkSize with
        | error failure => rfl
        | ok pair =>
          obtain ⟨bytes, stream'⟩ := pair
          show Follows ((if bytes = [] then start rest
            else pure (some (bytes, ⟨some stream', rest⟩)) : Act _) m₁) _
          by_cases hb : bytes = []
          · simp only [if_pos hb]
            exact ih m₁
          · simp only [if_neg hb]
            rfl

/-- So does going on with a file that is open: it is read once more (`Piece.drainFrom_eq`), and
`start_follows` takes over at its end. -/
theorem next_follows (c : Cursor) (m : Machine) : Follows (c.next m) (c.drainRest m) := by
  obtain ⟨current, pieces⟩ := c
  cases current with
  | none => exact start_follows pieces m
  | some stream =>
    show Follows _ (Piece.drainFrom stream pieces m)
    rw [Piece.drainFrom_eq]
    simp only [next]
    cases stream.read chunkSize with
    | error failure => rfl
    | ok pair =>
      obtain ⟨bytes, stream'⟩ := pair
      -- an empty read ends this stream, and the cursor goes on with the next piece
      by_cases hb : bytes = []
      · simp only [if_pos hb]
        exact start_follows pieces m
      · simp only [if_neg hb]
        rfl

/-- **Fetching chunk after chunk is reading through**, failures included. -/
theorem drain_eq (c : Cursor) (m : Machine) : c.drain m = c.drainRest m := by
  have hnext := next_follows c m
  unfold Follows at hnext
  rw [drain, hnext]
  split
  · next h => rw [h]
  · next h => rw [h]
  · next bytes c' m' h =>
    rw [h, drain_eq c' m']
termination_by (c.pieces.length, c.left)
decreasing_by exact next_shorter (by assumption)

/-- `next_follows` and `drain_eq` together: one fetch, and then reading through. -/
theorem drain_follows (c : Cursor) (m : Machine) : Follows (c.next m) (c.drain m) :=
  c.drain_eq m ▸ c.next_follows m

end Cursor

/-! ## Entities -/

/-- **Those who wait for the chunks get the same ones**, and learn of a failure after them as one that was
fetched (`Failure.fetched`). -/
theorem Content.drainStepwise_eq [Platform] (content : Content) (m : Machine) :
    content.drainStepwise m = ((content.drain m).1.told Failure.fetched, (content.drain m).2) := by
  cases content with
  | held bytes => rfl
  | streamed pieces =>
    show (((Cursor.drain ⟨none, pieces⟩ m).1.told Failure.leavingLoop).told Failure.fetched,
      (Cursor.drain ⟨none, pieces⟩ m).2) = _
    rw [Cursor.drain_eq]
    rfl

/-- Consuming the entity gives these bytes and leaves this machine, in each of the three ways. -/
structure Entity.Gives [Platform] (e : Entity) (m : Machine) (bytes : Bytes) (m' : Machine) : Prop where
  read : e.read m = (.ok bytes, { e with consumed := true }, m')
  chunks : ∃ cs, e.chunks m = (.ok cs, { e with consumed := true }, m') ∧ cs.flatten = bytes
  stepwise :
    ∃ cs, e.chunksStepwise m = (.ok cs, { e with consumed := true }, m') ∧ cs.flatten = bytes

namespace Entity

/-- `Entity.take` gives the content of an entity that was not consumed, and marks it. -/
theorem take_fresh {e : Entity} (hfresh : e.consumed = false) :
    e.take = (.ok e.content, { e with consumed := true }) := by
  unfold take
  rw [hfresh]
  rfl

/-- `Entity.take` refuses an entity that was consumed. -/
theorem take_consumed {e : Entity} (hconsumed : e.consumed = true) :
    e.take = (.error (.entityConsumed consumedText), e) := by
  unfold take
  rw [if_pos hconsumed]

variable [Platform] {e : Entity} {m m' : Machine} {bytes : Bytes}

/-- All three ways to consume an entity are told by `Content.drain`: the bytes are joined, the chunks are
given as they are, and those who wait get them too (`Content.drainStepwise_eq`). -/
theorem gives_of_drain {cs : List Bytes} (hfresh : e.consumed = false)
    (h : e.content.drain m = (⟨cs, none⟩, m')) : e.Gives m cs.flatten m' := by
  have htake := take_fresh hfresh
  have hstepwise : e.content.drainStepwise m = (⟨cs, none⟩, m') := by
    rw [Content.drainStepwise_eq, h]
    rfl
  constructor
  · simp only [Entity.read, consume, htake, h]
    rfl
  · refine ⟨cs, ?_, rfl⟩
    simp only [Entity.chunks, consume, htake, h]
    rfl
  · refine ⟨cs, ?_, rfl⟩
    simp only [Entity.chunksStepwise, consume, htake, hstepwise]
    rfl

/-- `Entity.Gives` can be read back as `Content.drain`. -/
theorem Gives.drain (h : e.Gives m bytes m') :
    ∃ cs, e.content.drain m = (⟨cs, none⟩, m') ∧ cs.flatten = bytes := by
  obtain ⟨cs, hchunks, hflat⟩ := h.chunks
  refine ⟨cs, ?_, hflat⟩
  unfold Entity.chunks consume at hchunks
  -- an entity that gives its bytes was fresh, and its draining did not fail
  cases hconsumed : e.consumed with
  | true =>
    rw [take_consumed hconsumed] at hchunks
    cases hchunks
  | false =>
    rw [take_fresh hconsumed] at hchunks
    simp only at hchunks
    generalize e.content.drain m = drained at hchunks ⊢
    obtain ⟨⟨own, failure⟩, m₁⟩ := drained
    cases failure with
    | none =>
      cases hchunks
      rfl
    | some failure => cases hchunks

/-- `Entity.Gives` for content in memory, which drains to one chunk. -/
theorem gives_held (hfresh : e.consumed = false) (h : e.content = .held bytes) :
    e.Gives m bytes m := by
  have hdrain : e.content.drain m = (⟨[bytes], none⟩, m) := by
    rw [h]
    rfl
  have hgives := gives_of_drain hfresh hdrain
  rwa [List.flatten_singleton] at hgives

/-- `Entity.Gives` for a stream, from `Piece.Drains`. -/
theorem gives_streamed {pieces : List Piece} (hfresh : e.consumed = false)
    (h : e.content = .streamed pieces) (hdrains : Piece.Drains pieces m bytes m') :
    e.Gives m bytes m' := by
  obtain ⟨cs, hdrain, rfl⟩ := hdrains
  refine gives_of_drain hfresh ?_
  rw [h]
  simp only [Content.drain, hdrain]
  rfl

end Entity

end Courier
