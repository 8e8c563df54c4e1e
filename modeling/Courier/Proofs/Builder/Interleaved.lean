import Courier.Proofs.Builder.History
import Courier.Proofs.Builder.Makes

/-!
# Entities and their builder

A builder makes entities, and each can be read while the builder is changed, makes others, and those are
read: at one go or chunk by chunk, in any order and interleaved in any way. A `BuildState` holds the builder and
the entities that it made, each as far as it was read, with a note of the builder and the machine that made it.

Nothing that is done with the entities reaches the builder (`BuildState.run_origins`), and nothing that is done
with the builder or with other entities reaches an entity: what was read of it, and what reading on gives,
are the bytes that its own build fixed (`BuildState.Sound.run`). Sources that are opened with the same bytes each
time are all that this needs. Main statement: `BuildState.run_independent`.
-/

namespace Courier

/-! ## A builder and its entities -/

/-- How far an entity was read. -/
inductive ReadProgress where
  | untouched
  /-- It is read chunk by chunk; this is left. -/
  | underway (rest : Cursor)
  | over
  | failed (failure : Failure)

/-- An entity that was made, and how far it was read. -/
structure MadeEntity where
  /-- The builder that made it, as it was then. -/
  maker : Builder
  /-- The machine on which it was made. -/
  birth : Machine
  /-- The entity as it was made. -/
  built : Entity
  /-- The entity as it is now. -/
  entity : Entity
  /-- What came out so far. -/
  chunks : List Bytes := []
  progress : ReadProgress := .untouched

namespace MadeEntity

variable [Platform]

/-- Begins to read an entity chunk by chunk; refused if it was taken before. -/
def iterate (item : MadeEntity) : MadeEntity :=
  match item.entity.take with
  | (.ok content, e) => { item with entity := e, progress := .underway content.cursor }
  | (.error _, e) => { item with entity := e }

/-- Fetches the next chunk. -/
def fetch (item : MadeEntity) (m : Machine) : MadeEntity :=
  match item.progress with
  | .underway c =>
    match c.next m with
    | .ok (some (chunk, rest)) _ =>
      { item with chunks := item.chunks ++ [chunk], progress := .underway rest }
    | .ok none _ => { item with progress := .over }
    | .error failure _ => { item with progress := .failed failure }
  | _ => item

/-- Reads an entity at one go; refused if it was taken before. -/
def read (item : MadeEntity) (m : Machine) : MadeEntity :=
  match item.entity.read m with
  | (.ok bytes, e, _) =>
    { item with entity := e, chunks := item.chunks ++ [bytes], progress := .over }
  | (.error failure, e, _) =>
    { item with
      entity := e
      progress := if item.entity.consumed then item.progress else .failed failure }

end MadeEntity

/-- A builder, and the entities that it made. -/
structure BuildState where
  builder : Builder
  entities : List MadeEntity := []

namespace BuildState

variable [Platform]

/-- What can be done: a call on the builder, or something with the entity of a number. -/
inductive Operation where
  | call (call : Builder.Call)
  | iterate (i : Nat)
  | fetch (i : Nat)
  | read (i : Nat)

/-- The entity that a build gave, as an item that was not read. -/
def newEntity (b : Builder) (m : Machine) : Builder.Reply → List MadeEntity
  | .entity (some e) => [{ maker := b, birth := m, built := e, entity := e }]
  | _ => []

/-- The state after an operation. -/
def step (w : BuildState) (m : Machine) : Operation → BuildState
  | .call call =>
    { builder := (w.builder.perform m call).2
      entities := w.entities ++ newEntity w.builder m (w.builder.perform m call).1 }
  | .iterate i => { w with entities := w.entities.modify i MadeEntity.iterate }
  | .fetch i => { w with entities := w.entities.modify i (·.fetch m) }
  | .read i => { w with entities := w.entities.modify i (·.read m) }

/-- The state after operations, each on a machine of its own. -/
def run (w : BuildState) : List (Operation × Machine) → BuildState
  | [] => w
  | (op, m) :: rest => (w.step m op).run rest

/-- The calls on the builder among some operations. -/
def calls (ops : List (Operation × Machine)) : List (Builder.Call × Machine) :=
  ops.filterMap fun
    | (.call call, m) => some (call, m)
    | _ => none

end BuildState

/-! ## The builder goes its own way -/

namespace Builder

/-- The entities that the builds among some calls give, each with the builder and the machine of its
build. -/
def made [Platform] (b : Builder) : List (Call × Machine) → List (Builder × Machine × Entity)
  | [] => []
  | (call, m) :: rest =>
    ((BuildState.newEntity b m (b.perform m call).1).map fun item => (b, m, item.built)) ++
      (b.perform m call).2.made rest

end Builder

/-- Where an item comes from. -/
def MadeEntity.origin (item : MadeEntity) : Builder × Machine × Entity :=
  (item.maker, item.birth, item.built)

namespace BuildState

variable [Platform] {w : BuildState} {m : Machine}

omit [Platform] in
/-- `List.modify` by a function that keeps `origin` keeps all origins, at whatever place it is done. -/
theorem map_modify_origin {f : MadeEntity → MadeEntity} (hf : ∀ item, (f item).origin = item.origin)
    (entities : List MadeEntity) (i : Nat) : (entities.modify i f).map MadeEntity.origin = entities.map MadeEntity.origin := by
  induction entities generalizing i with
  | nil => cases i <;> rfl
  | cons item rest ih =>
    cases i with
    | zero => simp only [List.modify_zero_cons, List.map_cons, hf]
    | succ i => simp only [List.modify_succ_cons, List.map_cons, ih]

omit [Platform] in
/-- A member of `List.modify` was there before, or is what became of one that was. -/
theorem mem_modify {f : MadeEntity → MadeEntity} {entities : List MadeEntity} {i : Nat} {x : MadeEntity}
    (h : x ∈ entities.modify i f) : x ∈ entities ∨ ∃ item ∈ entities, x = f item := by
  induction entities generalizing i with
  | nil => cases i <;> cases h
  | cons item rest ih =>
    cases i with
    | zero =>
      rw [List.modify_zero_cons] at h
      rcases List.mem_cons.mp h with rfl | h
      · exact .inr ⟨item, List.mem_cons_self, rfl⟩
      · exact .inl (List.mem_cons_of_mem _ h)
    | succ i =>
      rw [List.modify_succ_cons] at h
      rcases List.mem_cons.mp h with rfl | h
      · exact .inl List.mem_cons_self
      · obtain h | ⟨y, hy, rfl⟩ := ih h
        · exact .inl (List.mem_cons_of_mem _ h)
        · exact .inr ⟨y, List.mem_cons_of_mem _ hy, rfl⟩

omit [Platform] in
/-- Nothing that is done with an item changes where it comes from. -/
theorem origin_iterate (item : MadeEntity) : item.iterate.origin = item.origin := by
  unfold MadeEntity.iterate
  split <;> rfl

theorem origin_fetch (m : Machine) (item : MadeEntity) : (item.fetch m).origin = item.origin := by
  unfold MadeEntity.fetch
  split
  · split <;> rfl
  · rfl

theorem origin_read (m : Machine) (item : MadeEntity) : (item.read m).origin = item.origin := by
  unfold MadeEntity.read
  split <;> rfl

/-- **The builder goes its own way, and the entities are those that it makes.** Induction on the operations; one
that reads an entity changes neither. -/
theorem run_origins (w : BuildState) (ops : List (Operation × Machine)) :
    (w.run ops).builder = (w.builder.run (calls ops)).2 ∧
      (w.run ops).entities.map MadeEntity.origin =
        w.entities.map MadeEntity.origin ++ w.builder.made (calls ops) := by
  induction ops generalizing w with
  | nil => exact ⟨rfl, (List.append_nil _).symm⟩
  | cons next rest ih =>
    obtain ⟨op, m⟩ := next
    obtain ⟨hbuilder, hentities⟩ := ih (w.step m op)
    cases op with
    | call call =>
      refine ⟨hbuilder, hentities.trans ?_⟩
      show (w.entities ++ newEntity w.builder m (w.builder.perform m call).1).map MadeEntity.origin ++ _ =
        _ ++ ((newEntity w.builder m (w.builder.perform m call).1).map
          (fun item => (w.builder, m, item.built)) ++ _)
      rw [List.map_append, List.append_assoc]
      refine congrArg (_ ++ ·) (congrArg (· ++ _) (List.map_congr_left fun item hitem => ?_))
      -- a new item carries the builder and the machine as its note
      unfold newEntity at hitem
      split at hitem
      · rw [List.mem_singleton.mp hitem]
        rfl
      · cases hitem
    | iterate i =>
      exact ⟨hbuilder, hentities.trans (congrArg (· ++ _) (map_modify_origin origin_iterate _ _))⟩
    | fetch i =>
      exact ⟨hbuilder, hentities.trans (congrArg (· ++ _) (map_modify_origin (origin_fetch m) _ _))⟩
    | read i =>
      exact ⟨hbuilder, hentities.trans (congrArg (· ++ _) (map_modify_origin (origin_read m) _ _))⟩

/-- No operation takes an attached file away. By cases on the operation. -/
theorem step_files (w : BuildState) (m : Machine) (op : Operation) :
    w.builder.files ⊆ (w.step m op).builder.files := by
  cases op with
  | call call =>
    show w.builder.files ⊆ (w.builder.perform m call).2.files
    rw [(w.builder.perform_explained m call).files]
    exact List.subset_append_left _ _
  | _ => exact List.Subset.refl _

/-- So a run only adds files. Induction on the operations. -/
theorem run_files (w : BuildState) (ops : List (Operation × Machine)) :
    w.builder.files ⊆ (w.run ops).builder.files := by
  induction ops generalizing w with
  | nil => exact List.Subset.refl _
  | cons next rest ih => exact List.Subset.trans (w.step_files next.2 next.1) (ih _)

end BuildState

/-! ## Items -/

namespace MadeEntity

variable [Platform] {content : Handle → Option Bytes} {as : List Attachment} {item : MadeEntity} {m : Machine}

/-- An entity is as it was made, but that it may have been taken; and what was read of it is the front of
its bytes. -/
structure Sound (content : Handle → Option Bytes) (as : List Attachment) (item : MadeEntity) : Prop where
  same : item.entity = { item.built with consumed := item.entity.consumed }
  among : ∀ p ∈ item.built.content.cursor.pieces, Builder.Among content as p
  progress : match item.progress with
    | .untouched => item.entity.consumed = false ∧ item.chunks = []
    | .underway c => item.entity.consumed = true ∧ c.Steady ∧
        c.pieces ⊆ item.built.content.cursor.pieces ∧
        item.chunks.flatten ++ c.bytes content = item.built.content.bytes content
    | .over => item.entity.consumed = true ∧ item.chunks.flatten = item.built.content.bytes content
    | .failed _ => False

omit [Platform] in
/-- If the entity was not consumed nothing was read of it, by the constructors of `Progress` that soundness
allows. -/
theorem Sound.untouched (h : item.Sound content as) (hfresh : item.entity.consumed = false) :
    item.progress = .untouched ∧ item.chunks = [] := by
  have hprogress := h.progress
  split at hprogress
  · next heq => exact ⟨heq, hprogress.2⟩
  · rw [hprogress.1] at hfresh
    cases hfresh
  · rw [hprogress.1] at hfresh
    cases hfresh
  · exact hprogress.elim

omit [Platform] in
theorem Sound.content_eq (h : item.Sound content as) : item.entity.content = item.built.content := by
  rw [h.same]

omit [Platform] in
theorem Sound.ready (h : item.Sound content as)
    (hstays : ∀ a ∈ as, a.source.Stays m.files (content a.source)) :
    ∀ p ∈ item.built.content.cursor.pieces, p.Ready content m.files :=
  fun p hp => Builder.ready_of_among hstays (h.among p hp)

omit [Platform] in
theorem Sound.taken (h : item.Sound content as) :
    ({ item.entity with consumed := true } : Entity) = { item.built with consumed := true } := by
  rw [h.same]

/-- **An entity that was not taken gives its bytes.** Its pieces are ready by `ready_of_among`. -/
theorem Sound.gives (h : item.Sound content as) (hfresh : item.entity.consumed = false)
    (hstays : ∀ a ∈ as, a.source.Stays m.files (content a.source)) :
    ∃ m', item.entity.Gives m (item.built.content.bytes content) m' := by
  obtain ⟨chunks, m', hdrain, hflat, -⟩ :=
    Cursor.drain_accounts (Content.steady_cursor _) (h.ready hstays) rfl
  rw [Content.bytes_cursor] at hflat
  have hwhole : item.entity.content.drain m = (⟨chunks, none⟩, m') := by
    rw [h.content_eq, Content.drain_cursor, hdrain]
    rfl
  exact ⟨m', hflat ▸ Entity.gives_of_drain hfresh hwhole⟩

omit [Platform] in
/-- To begin reading takes the entity and reads nothing yet. -/
theorem Sound.iterate (h : item.Sound content as) : item.iterate.Sound content as := by
  unfold MadeEntity.iterate Entity.take
  cases hconsumed : item.entity.consumed with
  | true =>
    simp only [if_true]
    exact h
  | false =>
    obtain ⟨-, hchunks⟩ := h.untouched hconsumed
    refine ⟨h.taken, h.among, rfl, Content.steady_cursor _, ?_, ?_⟩
    · rw [h.content_eq]
      exact List.Subset.refl _
    · show item.chunks.flatten ++ _ = _
      rw [hchunks, Content.bytes_cursor, h.content_eq]
      rfl

/-- **A fetch** takes a chunk off the front of what is left. -/
theorem Sound.fetch (h : item.Sound content as)
    (hstays : ∀ a ∈ as, a.source.Stays m.files (content a.source)) :
    (item.fetch m).Sound content as := by
  have hprogress := h.progress
  unfold MadeEntity.fetch
  split
  · next c hc =>
    rw [hc] at hprogress
    obtain ⟨hconsumed, hsteady, hsub, hbytes⟩ := hprogress
    -- what came out and what is left keep their sum
    have hnext := Cursor.next_accounts hsteady (fun p hp => h.ready hstays p (hsub hp)) rfl
    split
    · next chunk rest m' hrun =>
      rw [hrun] at hnext
      obtain ⟨-, hleft, hsteady', hsub'⟩ := hnext
      refine ⟨h.same, h.among, hconsumed, hsteady', List.Subset.trans hsub' hsub, ?_⟩
      show (item.chunks ++ [chunk]).flatten ++ _ = _
      rw [List.flatten_append, List.flatten_singleton, List.append_assoc, hleft, hbytes]
    · next m' hrun =>
      rw [hrun] at hnext
      refine ⟨h.same, h.among, hconsumed, ?_⟩
      rw [hnext.2, List.append_nil] at hbytes
      exact hbytes
    · next failure m' hrun =>
      rw [hrun] at hnext
      exact hnext.elim
  · exact h

/-- **Reading at one go** gives all bytes, or is refused. -/
theorem Sound.read (h : item.Sound content as)
    (hstays : ∀ a ∈ as, a.source.Stays m.files (content a.source)) :
    (item.read m).Sound content as := by
  unfold MadeEntity.read
  cases hconsumed : item.entity.consumed with
  | true =>
    -- a consumed entity refuses, so neither its state nor its chunks change
    have hrefused : item.entity.read m =
        (.error (.entityConsumed consumedText), item.entity, m) := by
      unfold Entity.read Entity.consume Entity.take
      rw [hconsumed]
      rfl
    rw [hrefused]
    simp only [if_true]
    exact h
  | false =>
    obtain ⟨-, hchunks⟩ := h.untouched hconsumed
    obtain ⟨m', hgives⟩ := h.gives hconsumed hstays
    rw [hgives.read]
    refine ⟨h.taken, h.among, rfl, ?_⟩
    show (item.chunks ++ [item.built.content.bytes content]).flatten = _
    rw [hchunks, List.nil_append, List.flatten_singleton]

/-- What was read of an entity is the front of these bytes, and reading on gives the rest of them, whenever
that is done on such a machine. -/
def Yields (item : MadeEntity) (stable : Machine → Prop) (bytes : Bytes) : Prop :=
  match item.progress with
  | .untouched => item.chunks = [] ∧ ∀ m, stable m → ∃ m', item.entity.Gives m bytes m'
  | .underway c => ∃ left, item.chunks.flatten ++ left = bytes ∧
      ∀ m, stable m → ∃ chunks m', c.drain m = (⟨chunks, none⟩, m') ∧ chunks.flatten = left
  | .over => item.chunks.flatten = bytes
  | .failed _ => False

/-- A sound item `Yields` the bytes of its entity, by cases of how far it was read. -/
theorem Sound.yields (h : item.Sound content as) :
    item.Yields (fun m => ∀ a ∈ as, a.source.Stays m.files (content a.source))
      (item.built.content.bytes content) := by
  have hprogress := h.progress
  unfold Yields
  split at hprogress
  · exact ⟨hprogress.2, fun m => h.gives hprogress.1⟩
  · next c hc =>
    obtain ⟨-, hsteady, hsub, hbytes⟩ := hprogress
    refine ⟨c.bytes content, hbytes, fun m hstays => ?_⟩
    obtain ⟨chunks, m', hdrain, hflat, -⟩ :=
      Cursor.drain_accounts hsteady (fun p hp => h.ready hstays p (hsub hp)) rfl
    exact ⟨chunks, m', hdrain, hflat⟩
  · exact hprogress.2
  · exact hprogress

end MadeEntity

/-! ## Runs -/

namespace BuildState

section Runs

variable [Platform] {content : Handle → Option Bytes} {as : List Attachment} {w : BuildState}
  {m : Machine}

/-- Each entity is sound, and is what its maker made. -/
def Sound (content : Handle → Option Bytes) (as : List Attachment) (w : BuildState) : Prop :=
  ∀ item ∈ w.entities, item.Sound content as ∧
    item.maker.Makes content item.birth item.built (item.built.content.bytes content)

/-- `Sound` is kept by `List.modify` if the function keeps one item sound and its origin as it is
(`mem_modify`, `map_modify_origin`). -/
theorem Sound.modify (h : w.Sound content as) {f : MadeEntity → MadeEntity} (i : Nat)
    (horigin : ∀ item, (f item).origin = item.origin)
    (hf : ∀ item : MadeEntity, item.Sound content as → (f item).Sound content as) :
    Sound content as { w with entities := w.entities.modify i f } := by
  intro x hx
  obtain hx | ⟨item, hitem, rfl⟩ := mem_modify hx
  · exact h x hx
  · obtain ⟨hsound, hmakes⟩ := h item hitem
    have hsame := horigin item
    have hmaker : (f item).maker = item.maker := congrArg Prod.fst hsame
    have hbirth : (f item).birth = item.birth := congrArg (fun o => o.2.1) hsame
    have hbuilt : (f item).built = item.built := congrArg (fun o => o.2.2) hsame
    -- what a build made is noted in the origin, which stays
    refine ⟨hf item hsound, ?_⟩
    rw [hmaker, hbirth, hbuilt]
    exact hmakes

/-- Only a build gives an entity: the cases of `Call` other than `build` are answered without one. -/
theorem build_of_reply {b : Builder} {call : Builder.Call} {e : Entity}
    (h : (b.perform m call).1 = .entity (some e)) : ∃ b' m', b.build m = .ok (some e, b') m' := by
  cases call with
  | addParameter name value => cases name <;> cases value <;> cases h
  | setBody text type => cases h
  | setCharset charset =>
    simp only [Builder.perform] at h
    cases hrun : b.setCharsetPoints charset m <;> (rw [hrun] at h; cases h)
  | addFile fieldName fileName source mimeType =>
    simp only [Builder.perform] at h
    cases hrun : b.addFile fieldName fileName source mimeType m <;> (rw [hrun] at h; cases h)
  | build =>
    simp only [Builder.perform] at h
    cases hrun : b.build m with
    | error failure m' =>
      rw [hrun] at h
      cases h
    | ok result m' =>
      obtain ⟨entity, b'⟩ := result
      rw [hrun] at h
      cases h
      exact ⟨b', m', rfl⟩

/-- **An operation** keeps every entity sound, its own included: a call on the builder adds the entity of a
build (`Builder.makes_of_build`), and what is done with an item is `Sound.modify`. -/
theorem Sound.step (h : w.Sound content as) (op : Operation)
    (hfiles : (w.step m op).builder.files ⊆ as)
    (hstays : ∀ a ∈ as, a.source.Stays m.files (content a.source)) :
    (w.step m op).Sound content as := by
  cases op with
  | iterate i => exact h.modify i origin_iterate fun item hitem => hitem.iterate
  | fetch i => exact h.modify i (origin_fetch m) fun item hitem => hitem.fetch hstays
  | read i => exact h.modify i (origin_read m) fun item hitem => hitem.read hstays
  | call call =>
    intro item hitem
    rcases List.mem_append.mp hitem with hitem | hitem
    · exact h item hitem
    · unfold newEntity at hitem
      split at hitem
      · next e hreply =>
        -- the entity of this very call; its files are among those that were ever attached
        obtain ⟨b', m', hbuild⟩ := build_of_reply hreply
        rw [List.mem_singleton.mp hitem]
        have hsub : w.builder.files ⊆ as := List.Subset.trans (w.step_files m (.call call)) hfiles
        obtain ⟨hmakes, hamong⟩ :=
          Builder.makes_of_build hbuild fun a ha => hstays a (hsub ha)
        exact ⟨⟨rfl, fun p hp => (hamong p hp).mono hsub, Builder.build_unconsumed hbuild, rfl⟩, hmakes⟩
      · cases hitem

/-- **A run** keeps every entity sound. Induction on the operations; the files of the last builder are all that
were ever attached. -/
theorem Sound.run (h : w.Sound content as) {ops : List (Operation × Machine)}
    (hfiles : (w.run ops).builder.files ⊆ as)
    (hstays : ∀ op ∈ ops, ∀ a ∈ as, a.source.Stays op.2.files (content a.source)) :
    (w.run ops).Sound content as := by
  induction ops generalizing w with
  | nil => exact h
  | cons next rest ih =>
    obtain ⟨op, m⟩ := next
    have hnext := h.step op (List.Subset.trans (run_files _ rest) hfiles)
      (hstays (op, m) List.mem_cons_self)
    exact ih hnext hfiles fun op hop => hstays op (List.mem_cons_of_mem _ hop)

/-- **Entities are independent of each other and of their builder.** Whatever entities a builder makes and
however they are read between the calls on it, chunk by chunk or at one go and interleaved in any way: where
the sources of the attached files are opened with the same bytes each time, or are never there, the builder
goes its own way and the entities are those that it makes on that. Each is as it was made, but that it may
have been taken; its type, charset, length and bytes are what its build made of the builder as it was then;
and what was read of it is the front of those bytes, with the rest to be had by reading on. And builds of one
builder with parameters or files, whose sources answer the same each time, all give the same up to the
boundary. -/
theorem run_independent :
    (∀ (b : Builder) (ops : List (Operation × Machine)) (content : Handle → Option Bytes) (w : BuildState),
      w = run { builder := b } ops →
      (∀ op ∈ ops, ∀ a ∈ w.builder.files, a.source.Stays op.2.files (content a.source)) →
      w.builder = (b.run (calls ops)).2 ∧
      w.entities.map MadeEntity.origin = b.made (calls ops) ∧
      ∀ item ∈ w.entities,
        item.entity = { item.built with consumed := item.entity.consumed } ∧
        ∃ bytes, item.maker.Makes content item.birth item.built bytes ∧
          item.Yields (fun m => ∀ a ∈ w.builder.files, a.source.Stays m.files (content a.source)) bytes) ∧
    ∀ (b : Builder) (answers : Handle → Option Answer), b.files ≠ [] ∨ b.parameters ≠ [] →
      ∃ load : Load, ∀ m : Machine,
        (∀ a ∈ b.files, a.Stable b.sniffBytes m.files (answers a.source)) → load.Of b m := by
  constructor
  · rintro b ops content w rfl hstays
    obtain ⟨hbuilder, hentities⟩ := run_origins { builder := b } ops
    -- files are only ever added: soundness is stated with those of the end, which holds of every state on
    -- the way
    have hstart : Sound content (run { builder := b } ops).builder.files { builder := b } :=
      fun item hitem => absurd hitem List.not_mem_nil
    have hsound := hstart.run (List.Subset.refl _) hstays
    refine ⟨hbuilder, hentities, fun item hitem => ?_⟩
    obtain ⟨hitem, hmakes⟩ := hsound item hitem
    exact ⟨hitem.same, _, hmakes, hitem.yields⟩
  · intro b answers hfull
    obtain ⟨load, -, -, hload⟩ := b.load_of_stable hfull answers
    exact ⟨load, hload⟩

end Runs

/-- A file is built by itself, and then with a parameter. Both entities are read chunk by chunk, the second
first, and the charset is changed in between. -/
def interleaved : List (Operation × Machine) :=
  [ .call (.addFile none none (.bytes [1, 2, 3]) (some "application/x-data")), .call .build,
    .call (.addParameter (some "name") (some "value")), .call .build, .iterate 0, .iterate 1, .fetch 1,
    .call (.setCharset (some (CodePoint.ofString "latin-1"))), .fetch 0, .fetch 1, .call .build ].map (·, {})

/-- What is in memory is known. -/
def held : Handle → Option Bytes
  | .inMemory data _ _ => some data
  | _ => none

def heldFile : Attachment := ⟨none, "upload", .inMemory [1, 2, 3] "upload" none, some "application/x-data"⟩

/-- The first entity gave its only chunk while the second was being read, and the third was not touched; each
gives what its build fixed. Two builds of the file on different machines come out the same. -/
theorem run_independent_interleaved :
    (∃ w : BuildState, w = run { builder := {} } interleaved ∧ w.builder.charset = "latin-1" ∧
      (w.entities.map fun item => item.chunks.length) = [1, 2, 0] ∧
      ∀ item ∈ w.entities, ∃ bytes, item.maker.Makes held item.birth item.built bytes ∧
        item.Yields (fun m => ∀ a ∈ w.builder.files, a.source.Stays m.files (held a.source)) bytes) ∧
    ∃ load : Load, load.Of { files := [heldFile] } {} ∧ load.Of { files := [heldFile] } { drawn := 5 } := by
  constructor
  · obtain ⟨w, hw⟩ : ∃ w, w = run { builder := {} } interleaved := ⟨_, rfl⟩
    have hfiles : w.builder.files = [heldFile] := by
      rw [hw]
      rfl
    have hstays : ∀ op ∈ interleaved, ∀ a ∈ w.builder.files,
        a.source.Stays op.2.files (held a.source) := by
      intro op _ a ha
      rw [hfiles] at ha
      rw [List.mem_singleton.mp ha]
      exact {
        opens := by
          rintro bytes ⟨⟩ m -
          exact ⟨_, rfl, trivial, rfl⟩
        gone := nofun }
    -- the three entities: read, read in two chunks, and never read
    obtain ⟨-, -, hentities⟩ := run_independent.1 {} interleaved held w hw hstays
    refine ⟨w, hw, by rw [hw]; rfl, ?_, fun item hitem => (hentities item hitem).2⟩
    rw [hw]
    decide +kernel
  · obtain ⟨load, hload⟩ := run_independent.2 { files := [heldFile] }
      (fun _ => some ⟨([1, 2, 3] : Bytes).length, [1, 2, 3], [], none⟩) (.inl nofun)
    have hstable : ∀ m : Machine, ∀ a ∈ [heldFile],
        a.Stable ({ files := [heldFile] } : Builder).sniffBytes m.files
          (some ⟨([1, 2, 3] : Bytes).length, [1, 2, 3], [], none⟩) := by
      intro m a ha
      rw [List.mem_singleton.mp ha]
      have hgiven : heldFile.typeWith none ≠ none := by decide
      exact Attachment.stable_inMemory rfl hgiven _ _ _
    exact ⟨load, hload {} (hstable {}), hload { drawn := 5 } (hstable { drawn := 5 })⟩

end BuildState

end Courier
