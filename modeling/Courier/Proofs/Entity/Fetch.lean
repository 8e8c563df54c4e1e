import Courier.Proofs.Entity.Drain

/-!
# Fetching from sources that stay the same

A source stays the same if it is opened with the same bytes each time, or never found. What a piece of an
entity gives is then known before it is read (`Piece.bytes`), and what is left of a body that is being read
is known too, whatever became of its files in between (`Cursor.bytes`). Fetching a chunk takes it off the
front of what is left (`Cursor.next_accounts`), so that the chunks of a whole body are its bytes
(`Cursor.drain_accounts`).
-/

namespace Courier

/-- **A source that stays the same**: each time it is opened while the files are these, it gives the same
bytes and no reading of it fails; or it is never there. -/
structure Handle.Stays (h : Handle) (files : FileSystem) (content : Option Bytes) : Prop where
  opens : ∀ bytes, content = some bytes → ∀ m : Machine, m.files = files →
    ∃ s : Stream, h.opening m = .ok s ∧ s.Steady ∧ s.rest = bytes
  gone : content = none → ∀ m : Machine, m.files = files → h.presence m ≠ .ok true

/-! ## What is to come -/

/-- What a piece gives, where the content of each source is known. -/
def Piece.bytes (content : Handle → Option Bytes) : Piece → Bytes
  | chunk bytes => bytes
  | file source => (content source).getD []
  | fault _ => []

/-- What pieces give together. -/
def Piece.allBytes (content : Handle → Option Bytes) (pieces : List Piece) : Bytes :=
  pieces.flatMap (bytes content)

/-- What an entity gives. -/
def Content.bytes (content : Handle → Option Bytes) : Content → Bytes
  | held bytes => bytes
  | streamed pieces => Piece.allBytes content pieces

/-- What is left of a body that is being read. -/
def Cursor.bytes (content : Handle → Option Bytes) (c : Cursor) : Bytes :=
  ((c.current.map Stream.rest).getD []) ++ Piece.allBytes content c.pieces

/-- A piece that can be read while the files are these. -/
def Piece.Ready (content : Handle → Option Bytes) (files : FileSystem) : Piece → Prop
  | chunk _ => True
  | file source => ∃ bytes, content source = some bytes ∧ source.Stays files (some bytes)
  | fault _ => False

/-- The file that is open is one of which no reading fails. -/
def Cursor.Steady (c : Cursor) : Prop :=
  ∀ s, c.current = some s → s.Steady

namespace Cursor

variable [Platform] {content : Handle → Option Bytes} {files : FileSystem} {m : Machine}

/-! ## One chunk -/

/-- A fetch comes to an end without a failure: nothing is left, or a chunk comes off the front of what is
left. The pieces after it are some of those that were there. -/
def Accounts (content : Handle → Option Bytes) (files : FileSystem) (left : Bytes)
    (pieces : List Piece) (fetched : EStateM.Result Failure Machine (Option (Bytes × Cursor))) : Prop :=
  match fetched with
  | .error _ _ => False
  | .ok none m => m.files = files ∧ left = []
  | .ok (some (chunk, c)) m =>
    m.files = files ∧ chunk ++ c.bytes content = left ∧ c.Steady ∧ c.pieces ⊆ pieces

omit [Platform] in
/-- `Accounts` allows more pieces to be left. -/
theorem Accounts.mono {left : Bytes} {xs ys : List Piece} (hsub : xs ⊆ ys)
    {fetched : EStateM.Result Failure Machine (Option (Bytes × Cursor))}
    (h : Accounts content files left xs fetched) : Accounts content files left ys fetched := by
  unfold Accounts at h ⊢
  split
  · exact h
  · exact h
  · exact ⟨h.1, h.2.1, h.2.2.1, List.Subset.trans h.2.2.2 hsub⟩

/-- `Accounts` for the first reading of a steady stream; if nothing came, the next piece is begun. -/
theorem accounts_of_read {s : Stream} (hsteady : s.Steady) {rest : List Piece} (hm : m.files = files)
    (hrest : Accounts content files (Piece.allBytes content rest) rest (start rest m)) :
    Accounts content files (s.rest ++ Piece.allBytes content rest) rest
      (match s.read chunkSize with
        | .error failure => (throw failure : Act _) m
        | .ok (bytes, s') =>
          (if bytes = [] then start rest else pure (some (bytes, ⟨some s', rest⟩)) : Act _) m) := by
  obtain ⟨bytes, s', hread, hsteady', happend, hend⟩ := Stream.read_of_steady hsteady
  rw [hread]
  by_cases hbytes : bytes = []
  · simp only [if_pos hbytes]
    rw [hend hbytes, List.nil_append]
    exact hrest
  · simp only [if_neg hbytes]
    refine ⟨hm, ?_, ?_, List.Subset.refl _⟩
    · show bytes ++ (s'.rest ++ Piece.allBytes content rest) = _
      rw [← List.append_assoc, happend]
    · rintro _ ⟨⟩
      exact hsteady'

/-- Induction on the pieces; a file that gives nothing is passed over. -/
theorem start_accounts {pieces : List Piece} (h : ∀ p ∈ pieces, p.Ready content files)
    (hm : m.files = files) :
    Accounts content files (Piece.allBytes content pieces) pieces (start pieces m) := by
  induction pieces generalizing m with
  | nil => exact ⟨hm, rfl⟩
  | cons piece rest ih =>
    have hrest := fun p hp => h p (List.mem_cons_of_mem _ hp)
    cases piece with
    | fault failure => exact (h _ List.mem_cons_self).elim
    | chunk bytes => exact ⟨hm, rfl, nofun, List.subset_cons_self _ _⟩
    | file source =>
      obtain ⟨bytes, hcontent, hstays⟩ := h _ List.mem_cons_self
      obtain ⟨s, hopening, hsteady, rfl⟩ := hstays.opens bytes rfl m hm
      have hopen := source.openRead_run m
      rw [hopening] at hopen
      have hfiles := (Handle.used_files source (fun u => { u with opened := u.opened + 1 }) m).trans hm
      have hleft : Piece.allBytes content (.file source :: rest) =
          s.rest ++ Piece.allBytes content rest := by
        show (content source).getD [] ++ _ = _
        rw [hcontent]
        rfl
      -- opening is noted on the machine but leaves the files, so that the rest is as ready as before
      have hread := accounts_of_read hsteady hfiles (ih hrest hfiles)
      rw [hleft]
      unfold start
      rw [Act.bind_run_ok hopen]
      cases hfirst : s.read chunkSize with
      | error failure =>
        rw [hfirst] at hread
        exact hread.elim
      | ok pair =>
        rw [hfirst] at hread
        exact hread.mono (List.subset_cons_self _ _)

/-- **A fetch takes a chunk off the front of what is left**, whatever was done in between. -/
theorem next_accounts {c : Cursor} (hsteady : c.Steady) (h : ∀ p ∈ c.pieces, p.Ready content files)
    (hm : m.files = files) : Accounts content files (c.bytes content) c.pieces (c.next m) := by
  have hstart := start_accounts h hm
  obtain ⟨current, pieces⟩ := c
  cases current with
  | none => exact hstart
  | some s =>
    have hread := accounts_of_read (hsteady s rfl) hm hstart
    cases hfirst : s.read chunkSize with
    | error failure =>
      rw [hfirst] at hread
      exact hread.elim
    | ok pair =>
      rw [hfirst] at hread
      simp only [next, hfirst]
      exact hread

/-! ## All chunks -/

/-- **The chunks of a body are what is left of it.** -/
theorem drain_accounts {c : Cursor} {m : Machine} (hsteady : c.Steady)
    (h : ∀ p ∈ c.pieces, p.Ready content files) (hm : m.files = files) :
    ∃ chunks m', c.drain m = (⟨chunks, none⟩, m') ∧ chunks.flatten = c.bytes content ∧
      m'.files = files := by
  -- by the measure of the draining itself: each chunk leaves less to be fetched
  have hnext := next_accounts hsteady h hm
  rw [drain]
  split
  · next hrun =>
    rw [hrun] at hnext
    exact hnext.elim
  · next m₁ hrun =>
    rw [hrun] at hnext
    exact ⟨[], m₁, rfl, hnext.2.symm, hnext.1⟩
  · next chunk c' m₁ hrun =>
    rw [hrun] at hnext
    obtain ⟨hm₁, hleft, hsteady', hsub⟩ := hnext
    obtain ⟨chunks, m', hdrain, hflat, hm'⟩ :=
      drain_accounts hsteady' (fun p hp => h p (hsub hp)) hm₁
    rw [hdrain]
    refine ⟨chunk :: chunks, m', rfl, ?_, hm'⟩
    rw [List.flatten_cons, hflat, hleft]
termination_by (c.pieces.length, c.left)
decreasing_by exact next_shorter (by assumption)

end Cursor

/-! ## Whole entities -/

/-- The reading of an entity before its first chunk. What is held in memory is one chunk. -/
def Content.cursor : Content → Cursor
  | held bytes => ⟨none, [.chunk bytes]⟩
  | streamed pieces => ⟨none, pieces⟩

theorem Content.bytes_cursor (content : Handle → Option Bytes) (c : Content) :
    c.cursor.bytes content = c.bytes content := by
  cases c with
  | held bytes => exact List.append_nil bytes
  | streamed pieces => rfl

/-- **Reading an entity at one go is fetching its chunks**, with the failure as it leaves the loop. -/
theorem Content.drain_cursor [Platform] (c : Content) (m : Machine) :
    c.drain m = ((c.cursor.drain m).1.told Failure.leavingLoop, (c.cursor.drain m).2) := by
  rw [Cursor.drain_eq]
  cases c <;> rfl

theorem Content.steady_cursor (c : Content) : c.cursor.Steady := by
  cases c <;> exact nofun

end Courier
