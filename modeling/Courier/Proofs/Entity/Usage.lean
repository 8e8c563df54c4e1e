import Courier.Proofs.Builder.Multipart
import Courier.Proofs.Entity.Consume

/-!
# Which sources are used

A source of the caller's own counts how often it was asked whether it is there, and how often it was opened.
What happens between two machines is told by two lists: the sources that were asked and those that were opened,
as often as that was done (`Machine.Uses`). Measuring a source does neither.

Sources that do not raise (`Handle.Calm`) are opened when an entity is consumed, in the order of its pieces:
each once if it is consumed as a whole (`Entity.consume_uses`), and otherwise those in front
(`Reading.run_uses`).
-/

namespace Courier

/-! ## Counting -/

/-- The number of a source of the caller's own. -/
def Handle.number? : Handle → Option Nat
  | custom id _ => some id
  | _ => none

/-- The numbers of those sources that count how they are used. -/
def numbers (sources : List Handle) : List Nat :=
  sources.filterMap Handle.number?

theorem numbers_append (xs ys : List Handle) : numbers (xs ++ ys) = numbers xs ++ numbers ys :=
  List.filterMap_append

/-- From one machine to another the files stay as they are, these sources are asked whether they are there, and
these are opened; each as often as it is listed. -/
structure Machine.Uses (asked opened : List Handle) (m m' : Machine) : Prop where
  files : m'.files = m.files
  asked : ∀ id, (m'.usage id).asked = (m.usage id).asked + (numbers asked).count id
  opened : ∀ id, (m'.usage id).opened = (m.usage id).opened + (numbers opened).count id

namespace Machine.Uses

variable {m m₁ m₂ : Machine} {asked asked' opened opened' : List Handle}

theorem refl (m : Machine) : Uses [] [] m m := ⟨rfl, fun _ => rfl, fun _ => rfl⟩

/-- `Uses` of nothing, where files and counts are the same. -/
theorem of_same (hfiles : m₁.files = m.files) (husage : m₁.usage = m.usage) : Uses [] [] m m₁ := by
  refine ⟨hfiles, fun id => ?_, fun id => ?_⟩
  · rw [husage]
    rfl
  · rw [husage]
    rfl

theorem trans (h : Uses asked opened m m₁) (h' : Uses asked' opened' m₁ m₂) :
    Uses (asked ++ asked') (opened ++ opened') m m₂ := by
  refine ⟨h'.files.trans h.files, fun id => ?_, fun id => ?_⟩
  · rw [h'.asked, h.asked, numbers_append, List.count_append, Nat.add_assoc]
  · rw [h'.opened, h.opened, numbers_append, List.count_append, Nat.add_assoc]

end Machine.Uses

namespace Handle

open Machine

variable {h : Handle} {m m' : Machine}

/-- `Handle.used` counts for the number of the source alone. -/
theorem used_count (h : Handle) (count : Usage → Usage) (m : Machine) (id : Nat) :
    (h.used count m).usage id = if h.number? = some id then count (m.usage id) else m.usage id := by
  cases h with
  | onDisk path => rfl
  | inMemory data name type => rfl
  | custom key conduct =>
    show (if id = key then count (m.usage key) else m.usage id) = _
    by_cases hid : id = key
    · rw [if_pos hid, hid]
      exact (if_pos rfl).symm
    · rw [if_neg hid]
      exact (if_neg fun heq => hid (Option.some.inj heq).symm).symm

/-- `numbers` of one source holds its number, if it has one. -/
theorem count_numbers_single (h : Handle) (id : Nat) :
    (numbers [h]).count id = if h.number? = some id then 1 else 0 := by
  unfold numbers
  cases hnumber : h.number? with
  | none =>
    rw [List.filterMap_cons_none hnumber]
    rfl
  | some key =>
    rw [List.filterMap_cons_some hnumber, List.filterMap_nil, List.count_singleton]
    simp only [beq_iff_eq, Option.some.injEq]

theorem asked_uses (h : Handle) (m : Machine) :
    Uses [h] [] m (h.used (fun u => { u with asked := u.asked + 1 }) m) := by
  refine ⟨used_files h _ m, fun id => ?_, fun id => ?_⟩
  · rw [used_count, count_numbers_single]
    split <;> rfl
  · rw [used_count]
    split <;> rfl

theorem measured_uses (h : Handle) (m : Machine) :
    Uses [] [] m (h.used (fun u => { u with measured := u.measured + 1 }) m) := by
  refine ⟨used_files h _ m, fun id => ?_, fun id => ?_⟩
  · rw [used_count]
    split <;> rfl
  · rw [used_count]
    split <;> rfl

theorem opened_uses (h : Handle) (m : Machine) :
    Uses [] [h] m (h.used (fun u => { u with opened := u.opened + 1 }) m) := by
  refine ⟨used_files h _ m, fun id => ?_, fun id => ?_⟩
  · rw [used_count]
    split <;> rfl
  · rw [used_count, count_numbers_single]
    split <;> rfl

/-! ### What other sources leave alone -/

/-- Two machines are alike for a source: they have the same files, and it was used alike on both. -/
structure Alike (h : Handle) (m m' : Machine) : Prop where
  files : m'.files = m.files
  usage : ∀ id, h.number? = some id → m'.usage id = m.usage id

namespace Alike

theorem of_same (hfiles : m'.files = m.files) (husage : m'.usage = m.usage) : h.Alike m m' :=
  ⟨hfiles, fun id _ => congrFun husage id⟩

theorem trans {m'' : Machine} (hfirst : h.Alike m m') (hnext : h.Alike m' m'') : h.Alike m m'' :=
  ⟨hnext.files.trans hfirst.files, fun id hid => (hnext.usage id hid).trans (hfirst.usage id hid)⟩

/-- `Alike` for a source while another one is used. -/
theorem used {g : Handle} (hother : ∀ id, h.number? = some id → g.number? ≠ some id)
    (count : Usage → Usage) (m : Machine) : h.Alike m (g.used count m) := by
  refine ⟨used_files g count m, fun id hid => ?_⟩
  rw [used_count, if_neg (hother id hid)]

/-- `Alike` is kept where the source itself is asked on both machines. -/
theorem asked (halike : h.Alike m m') : h.Alike (h.asked m) (h.asked m') := by
  refine ⟨?_, fun id hid => ?_⟩
  · simp only [Handle.asked, used_files]
    exact halike.files
  · simp only [Handle.asked, used_count, if_pos hid, halike.usage id hid]

theorem presence (halike : h.Alike m m') : h.presence m' = h.presence m := by
  cases h with
  | onDisk path => exact congrArg (FileSystem.isFile · path) halike.files
  | inMemory data name type => rfl
  | custom id conduct => exact congrArg (fun u => conduct.present (u.asked + 1)) (halike.usage id rfl)

theorem opening (halike : h.Alike m m') : h.opening m' = h.opening m := by
  cases h with
  | onDisk path => simp only [Handle.opening, halike.files]
  | inMemory data name type => rfl
  | custom id conduct => simp only [Handle.opening, halike.usage id rfl]

theorem mimeType (halike : h.Alike m m') : h.mimeType m'.usage = h.mimeType m.usage := by
  cases h with
  | onDisk path => rfl
  | inMemory data name type => rfl
  | custom id conduct => exact congrArg conduct.mimeType (halike.usage id rfl)

end Alike

/-! ## Sources that do not raise -/

variable [Platform]

/-- Each time the source is opened it can be read to its end, and so many bytes can be asked for at first. -/
def Opens (h : Handle) (files : FileSystem) (size : Int) : Prop :=
  ∀ m : Machine, m.files = files →
    ∃ s : Stream, h.opening m = .ok s ∧ s.drain.failure = none ∧ ∃ read, s.read size = .ok read

/-- A source that does not raise while the files are these: it can be asked, and if it was ever there, it can
be measured and opened; and it can say of what type it is. -/
structure Calm (h : Handle) (files : FileSystem) (size : Int) : Prop where
  asked : ∀ m : Machine, m.files = files → ∃ there, h.presence m = .ok there
  measured : h.There files → ∀ m : Machine, m.files = files → ∃ n, h.size m = .ok n
  opens : h.There files → h.Opens files size
  reported : ∀ usage, ∃ type, h.mimeType usage = .ok type

end Handle

/-! ## Fetching from an entity -/

/-- The source of a piece, if it is one that is read from a source. -/
def Piece.source? : Piece → Option Handle
  | file source => some source
  | _ => none

/-- The sources of pieces, in their order. -/
def Piece.sources (pieces : List Piece) : List Handle :=
  pieces.filterMap source?

variable [Platform]

/-- A piece that can be read while the files are these. -/
def Piece.Calm (files : FileSystem) (size : Int) : Piece → Prop
  | chunk _ => True
  | file source => source.Opens files size
  | fault _ => False

namespace Cursor

open Machine

variable {files : FileSystem} {size : Int} {m : Machine}

/-- What is left can be read. -/
structure Calm (files : FileSystem) (size : Int) (c : Cursor) : Prop where
  current : ∀ s, c.current = some s → s.drain.failure = none
  pieces : ∀ p ∈ c.pieces, p.Calm files size

/-- A fetch comes to an end without a failure, and opens sources from the front of those that are left: all of
them if nothing is left to be had. -/
def Opened (files : FileSystem) (size : Int) (pieces : List Piece) (m : Machine)
    (fetched : EStateM.Result Failure Machine (Option (Bytes × Cursor))) : Prop :=
  match fetched with
  | .error _ _ => False
  | .ok none m' => Uses [] (Piece.sources pieces) m m'
  | .ok (some (_, c)) m' => c.Calm files size ∧
      ∃ opened, Piece.sources pieces = opened ++ Piece.sources c.pieces ∧ Uses [] opened m m'

/-- `Opened` with one more source in front of those that were opened. -/
theorem Opened.after_opening {source : Handle} {rest : List Piece} {m₁ : Machine}
    {fetched : EStateM.Result Failure Machine (Option (Bytes × Cursor))}
    (h : Opened files size rest m₁ fetched) (huses : Uses [] [source] m m₁) :
    Opened files size (.file source :: rest) m fetched := by
  unfold Opened at h ⊢
  split at h
  · exact h
  · exact huses.trans h
  · obtain ⟨hcalm, opened, hsources, huses'⟩ := h
    refine ⟨hcalm, source :: opened, ?_, huses.trans huses'⟩
    show source :: Piece.sources rest = _
    rw [hsources]
    rfl

/-- `Opened` for the first reading of a stream that is read to its end; if nothing came, the next piece is
begun. -/
theorem opened_of_read {s : Stream} (hs : s.drain.failure = none) {rest : List Piece}
    (hrest : ∀ p ∈ rest, p.Calm files size) (hstart : Opened files size rest m (start rest m)) :
    Opened files size rest m (next ⟨some s, rest⟩ m) := by
  rw [Stream.drain_eq] at hs
  simp only [next]
  cases hread : s.read chunkSize with
  | error failure =>
    rw [hread] at hs
    cases hs
  | ok pair =>
    obtain ⟨bytes, s'⟩ := pair
    simp only [hread] at hs ⊢
    -- at the end of this stream the next source is opened; before it nothing is
    by_cases hbytes : bytes = []
    · simp only [if_pos hbytes]
      exact hstart
    · simp only [if_neg hbytes] at hs ⊢
      refine ⟨⟨?_, hrest⟩, [], rfl, .refl m⟩
      rintro _ ⟨⟩
      exact hs

/-- Induction on the pieces; a file that gives nothing is opened and passed over. -/
theorem start_opened {pieces : List Piece} (h : ∀ p ∈ pieces, p.Calm files size)
    (hm : m.files = files) : Opened files size pieces m (start pieces m) := by
  induction pieces generalizing m with
  | nil => exact .refl m
  | cons piece rest ih =>
    have hrest := fun p hp => h p (List.mem_cons_of_mem _ hp)
    cases piece with
    | fault failure => exact (h _ List.mem_cons_self).elim
    | chunk bytes => exact ⟨⟨nofun, hrest⟩, [], rfl, .refl m⟩
    | file source =>
      obtain ⟨s, hopening, hs, -⟩ := h _ List.mem_cons_self m hm
      have hopen := source.openRead_run m
      rw [hopening] at hopen
      have huses := source.opened_uses m
      have hnext := opened_of_read hs hrest (ih hrest (huses.files.trans hm))
      -- the fetch goes on as if the source had been open before
      have hsame : start (.file source :: rest) m = next ⟨some s, rest⟩
          (source.used (fun u => { u with opened := u.opened + 1 }) m) := by
        unfold start
        rw [Act.bind_run_ok hopen]
        simp only [next]
        cases s.read chunkSize <;> rfl
      rw [hsame]
      exact hnext.after_opening huses

/-- **A fetch opens sources from the front of those that are left.** -/
theorem next_opened {c : Cursor} (h : c.Calm files size) (hm : m.files = files) :
    Opened files size c.pieces m (c.next m) := by
  have hstart := start_opened h.pieces hm
  obtain ⟨current, pieces⟩ := c
  cases current with
  | none => exact hstart
  | some s => exact opened_of_read (h.current s rfl) h.pieces hstart

/-- **Fetching to the end opens all that are left.** -/
theorem drain_opened {c : Cursor} {m : Machine} (h : c.Calm files size) (hm : m.files = files) :
    ∃ chunks m', c.drain m = (⟨chunks, none⟩, m') ∧ Uses [] (Piece.sources c.pieces) m m' := by
  -- by the measure of the draining itself: each chunk leaves less to be fetched
  have hnext := next_opened h hm
  rw [drain]
  split
  · next hrun =>
    rw [hrun] at hnext
    exact hnext.elim
  · next m₁ hrun =>
    rw [hrun] at hnext
    exact ⟨[], m₁, rfl, hnext⟩
  · next chunk c' m₁ hrun =>
    rw [hrun] at hnext
    obtain ⟨hcalm, opened, hsources, huses⟩ := hnext
    obtain ⟨chunks, m', hdrain, huses'⟩ := drain_opened hcalm (huses.files.trans hm)
    rw [hdrain, hsources]
    exact ⟨chunk :: chunks, m', rfl, huses.trans huses'⟩
termination_by (c.pieces.length, c.left)
decreasing_by exact next_shorter (by assumption)

end Cursor

/-! ## Consuming an entity -/

namespace Entity

/-- The sources that are read while the entity is sent, in their order. -/
def sources (e : Entity) : List Handle :=
  Piece.sources e.content.cursor.pieces

/-- All of the entity can be read while the files are these. -/
def Calm (e : Entity) (files : FileSystem) (size : Int) : Prop :=
  ∀ p ∈ e.content.cursor.pieces, p.Calm files size

variable {e : Entity} {files : FileSystem} {size : Int} {m : Machine}

theorem Calm.cursor (h : e.Calm files size) : e.content.cursor.Calm files size := by
  refine ⟨fun s hs => ?_, h⟩
  cases hcontent : e.content <;> (rw [hcontent] at hs; cases hs)

/-- **A full consumption opens each source once**, in whichever way it is done. -/
theorem consume_uses (h : e.Calm files size) (hfresh : e.consumed = false) (hm : m.files = files) :
    ∃ bytes m', e.Gives m bytes m' ∧ Machine.Uses [] e.sources m m' := by
  obtain ⟨chunks, m', hdrain, huses⟩ := Cursor.drain_opened h.cursor hm
  have hwhole : e.content.drain m = (⟨chunks, none⟩, m') := by
    rw [Content.drain_cursor, hdrain]
    rfl
  exact ⟨chunks.flatten, m', gives_of_drain hfresh hwhole, huses⟩

end Entity

namespace Reading

open Machine

variable {e : Entity} {files : FileSystem} {size : Int} {m : Machine} {r : Reading}

/-- Some sources of an entity were opened, from the front, and the others are left to the view. -/
structure Along (e : Entity) (m : Machine) (size : Int) (r : Reading) : Prop where
  opened : ∃ opened left, e.sources = opened ++ left ∧ Uses [] opened m r.machine ∧
    ∀ manner c, r.view = some (manner, c) → c.Calm m.files size ∧ left = Piece.sources c.pieces
  fresh : r.entity.consumed = false → r = { entity := e, machine := m }

/-- `Along` after the first call: it opens all sources at once, or leaves them to the view. -/
theorem along_call (hcalm : e.Calm m.files size) (hfresh : e.consumed = false) {s : Step}
    (hcall : s.isCall = true) :
    (({ entity := e, machine := m } : Reading).step s).2.Along e m size := by
  refine ⟨?_, fun hnot => ?_⟩
  · cases s with
    | fetch => cases hcall
    | elsewhere change => cases hcall
    | read =>
      -- `read` opens all sources at once; `iterate` has all of them still before it
      obtain ⟨bytes, m', hgives, huses⟩ := Entity.consume_uses hcalm hfresh rfl
      simp only [Reading.step, Reading.read, hgives.read]
      refine ⟨e.sources, [], (List.append_nil _).symm, huses, ?_⟩
      intro _ _ hnone
      cases hnone
    | iterate manner =>
      simp only [Reading.step, Reading.iterate, Entity.take_fresh hfresh]
      refine ⟨[], e.sources, rfl, .refl m, ?_⟩
      rintro _ _ ⟨⟩
      exact ⟨hcalm.cursor, rfl⟩
  · rw [step_first hfresh hcall] at hnot
    cases hnot

/-- `Along` is kept by a fetch, which opens the sources that it reads (`Cursor.next_opened`). -/
theorem Along.fetch (h : r.Along e m size) : (r.step .fetch).2.Along e m size := by
  obtain ⟨opened, left, hsources, huses, hview⟩ := h.opened
  obtain ⟨entity, view, machine⟩ := r
  cases view with
  | none => exact h
  | some view =>
    obtain ⟨manner, c⟩ := view
    obtain ⟨hc, rfl⟩ := hview manner c rfl
    have hnext := Cursor.next_opened hc huses.files
    refine ⟨?_, fun hnot => ?_⟩
    · simp only [Reading.step, Reading.fetch]
      cases hrun : c.next machine with
      | error failure m' =>
        rw [hrun] at hnext
        exact hnext.elim
      | ok fetched m' =>
        rw [hrun] at hnext
        cases fetched with
        | none =>
          refine ⟨e.sources, [], (List.append_nil _).symm, hsources ▸ huses.trans hnext, ?_⟩
          intro _ _ hnone
          cases hnone
        | some pair =>
          obtain ⟨hcalm', further, hleft, huses'⟩ := hnext
          refine ⟨opened ++ further, Piece.sources pair.2.pieces, ?_, huses.trans huses', ?_⟩
          · rw [hsources, hleft, List.append_assoc]
          · rintro _ _ ⟨⟩
            exact ⟨hcalm', rfl⟩
    · -- a view is open, so the entity is consumed
      rw [step_entity rfl] at hnot
      cases h.fresh hnot

/-- **A step opens sources from the front of those that are left**, unless something is done elsewhere. -/
theorem Along.step (h : r.Along e m size) (hcalm : e.Calm m.files size) {s : Step}
    (hhere : ∀ change, s ≠ .elsewhere change) : (r.step s).2.Along e m size := by
  cases hcall : s.isCall with
  | true =>
    cases hconsumed : r.entity.consumed with
    | true =>
      rw [step_later hconsumed hcall]
      exact h
    | false =>
      -- the first call on an entity of which nothing was opened
      obtain rfl := h.fresh hconsumed
      exact along_call hcalm hconsumed hcall
  | false =>
    cases s with
    | read => cases hcall
    | iterate manner => cases hcall
    | elsewhere change => exact absurd rfl (hhere change)
    | fetch => exact h.fetch

/-- `Along` is kept by a run in which nothing is done elsewhere. Induction on the steps with `Along.step`. -/
theorem Along.run (h : r.Along e m size) (hcalm : e.Calm m.files size) {steps : List Step}
    (hhere : ∀ change, .elsewhere change ∉ steps) : (r.run steps).2.Along e m size := by
  induction steps generalizing r with
  | nil => exact h
  | cons s rest ih =>
    rw [run_cons]
    refine ih (h.step hcalm ?_) fun change hmem => hhere change (List.mem_cons_of_mem _ hmem)
    rintro change rfl
    exact hhere change List.mem_cons_self

end Reading

end Courier
