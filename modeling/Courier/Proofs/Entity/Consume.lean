import Courier.Net.Message
import Courier.Platform.Plain
import Courier.Proofs.Entity.Fetch

/-!
# Consuming an entity

An entity can be read at one go, or its chunks can be asked for, directly or stepwise, and fetched one
after the other from the view that is then handed out. Whoever does such things with an entity holds a
`Reading`: the entity, the view as far as it was read, and the machine, which may change in any way in
between.

What one call does to the mark of the entity (`Reading.step_consumed`) and what every call finds that is
not the first (`Reading.step_later`) is carried over to whole runs by induction on the steps. The fetches
from a view bring what draining the content brings, chunk by chunk and then the failure
(`Reading.run_fetches`), and the two sorts of view bring the same, whatever is done in between
(`Reading.run_manner`), but that a stepwise view tells the failure as one that was fetched
(`Failure.fetched`). Main statement: `Entity.consumed_once`.
-/

namespace Courier

/-- A failure to fetch a chunk as one learns of it in a manner. -/
def Net.Manner.fetched : Net.Manner → Failure → Failure
  | direct, failure => failure
  | stepwise, failure => failure.fetched

/-! ## Readings -/

/-- An entity that is being consumed. -/
structure Reading where
  entity : Entity
  /-- The view that was handed out, with its manner, as far as it was read; none if it is over. -/
  view : Option (Net.Manner × Cursor) := none
  machine : Machine

namespace Reading

/-- What can be done with an entity. -/
inductive Step where
  /-- All bytes are asked for. -/
  | read
  /-- The chunks are asked for. -/
  | iterate (manner : Net.Manner)
  /-- The next chunk is fetched. -/
  | fetch
  /-- Something is done elsewhere on the machine. -/
  | elsewhere (change : Machine → Machine)

/-- What comes of a step. -/
inductive Answer where
  | bytes (bytes : Bytes)
  /-- A view is handed out. -/
  | view
  /-- The call fails. -/
  | failed (failure : Failure)
  | chunk (bytes : Bytes)
  /-- The view breaks off. -/
  | broken (failure : Failure)
  /-- The view has no more to give. -/
  | over
  | quiet

/-- Whether a step is one of those that consume an entity. -/
def Step.isCall : Step → Bool
  | read | iterate _ => true
  | fetch | elsewhere _ => false

/-- Asks for all bytes. -/
def read [Platform] (r : Reading) : Answer × Reading :=
  match r.entity.read r.machine with
  | (.ok bytes, entity, machine) => (.bytes bytes, { r with entity, machine })
  | (.error failure, entity, machine) => (.failed failure, { r with entity, machine })

/-- Asks for the chunks. -/
def iterate (r : Reading) (manner : Net.Manner) : Answer × Reading :=
  match r.entity.take with
  | (.ok content, entity) => (.view, { r with entity, view := some (manner, content.cursor) })
  | (.error failure, entity) => (.failed failure, { r with entity })

/-- Fetches the next chunk from the view. A failure leaves the loop that hands out the chunks. -/
def fetch [Platform] (r : Reading) : Answer × Reading :=
  match r.view with
  | none => (.over, r)
  | some (manner, c) =>
    match c.next r.machine with
    | .ok (some (chunk, c)) machine => (.chunk chunk, { r with view := some (manner, c), machine })
    | .ok none machine => (.over, { r with view := none, machine })
    | .error failure machine =>
      (.broken (manner.fetched failure.leavingLoop), { r with view := none, machine })

/-- Takes a step. -/
def step [Platform] (r : Reading) : Step → Answer × Reading
  | .read => r.read
  | .iterate manner => r.iterate manner
  | .fetch => r.fetch
  | .elsewhere change => (.quiet, { r with machine := change r.machine })

/-- Takes steps, with what comes of each. -/
def run [Platform] (r : Reading) : List Step → List Answer × Reading
  | [] => ([], r)
  | s :: rest =>
    let (answer, r) := r.step s
    let (answers, r) := run r rest
    (answer :: answers, r)

variable [Platform] {r : Reading} {s : Step}

@[simp] theorem run_cons (r : Reading) (s : Step) (rest : List Step) :
    r.run (s :: rest) = ((r.step s).1 :: ((r.step s).2.run rest).1, ((r.step s).2.run rest).2) := rfl

/-! ## The first call and all others -/

/-- **Every call but the first is refused at once**: nothing is read, and a view that is open stays as it
is. -/
theorem step_later (hconsumed : r.entity.consumed = true) (hcall : s.isCall = true) :
    r.step s = (.failed (.entityConsumed consumedText), r) := by
  have htake := Entity.take_consumed hconsumed
  cases s with
  | read =>
    simp only [step, read, Entity.read, Entity.consume, htake]
  | iterate manner =>
    simp only [step, iterate, htake]
  | fetch => cases hcall
  | elsewhere change => cases hcall

/-- `Entity.take` marks the entity before anything is read, whichever call is the first. -/
theorem step_first (hfresh : r.entity.consumed = false) (hcall : s.isCall = true) :
    (r.step s).2.entity = { r.entity with consumed := true } := by
  have htake := Entity.take_fresh hfresh
  cases s with
  | read =>
    simp only [step, read, Entity.read, Entity.consume, htake]
    cases (r.entity.content.drain r.machine).1.toExcept <;> rfl
  | iterate manner =>
    simp only [step, iterate, htake]
  | fetch => cases hcall
  | elsewhere change => cases hcall

/-- `Reading.step` touches the entity in calls alone. -/
theorem step_entity (hcall : s.isCall = false) : (r.step s).2.entity = r.entity := by
  cases s with
  | read => cases hcall
  | iterate manner => cases hcall
  | elsewhere change => rfl
  | fetch =>
    simp only [step, fetch]
    split
    · rfl
    · split <;> rfl

/-- **A step leaves an entity consumed if it was so before, or if the step is a call.** -/
theorem step_consumed (r : Reading) (s : Step) :
    (r.step s).2.entity.consumed = (r.entity.consumed || s.isCall) := by
  cases hcall : s.isCall with
  | false => rw [step_entity hcall, Bool.or_false]
  | true =>
    rw [Bool.or_true]
    cases hconsumed : r.entity.consumed with
    | true => rw [step_later hconsumed hcall, hconsumed]
    | false => rw [step_first hconsumed hcall]

/-- **So it is after any steps**: consumed from the first call on. -/
theorem run_consumed (r : Reading) (steps : List Step) :
    (r.run steps).2.entity.consumed = (r.entity.consumed || steps.any Step.isCall) := by
  induction steps generalizing r with
  | nil => exact (Bool.or_false _).symm
  | cons s rest ih => rw [run_cons, ih, step_consumed, List.any_cons, Bool.or_assoc]

end Reading

/-! ## From the first fetch to the last -/

namespace Drained

variable {manner : Net.Manner}

/-- What the fetches bring of what a source gives: the chunks in order, then the failure as it is told in
the manner, if there is one. -/
def answers (manner : Net.Manner) (d : Drained) : List Reading.Answer :=
  d.chunks.map .chunk ++ (d.failure.map fun failure => .broken (manner.fetched failure)).toList

/-- What the fetch of a number brings. Nothing comes after that. -/
def heard (manner : Net.Manner) (d : Drained) (k : Nat) : Reading.Answer :=
  (d.answers manner)[k]?.getD .over

/-- `heard` without a chunk: the first fetch brings the failure or the end, and every later one is over. -/
theorem map_heard_nil (failure : Option Failure) (k : Nat) :
    (List.range (k + 1)).map (heard manner ⟨[], failure⟩) =
      heard manner ⟨[], failure⟩ 0 :: List.replicate k .over := by
  have hlater : ∀ i, heard manner ⟨[], failure⟩ (i + 1) = .over := by
    intro i
    cases failure <;> rfl
  rw [List.range_succ_eq_map, List.map_cons, List.map_map]
  refine congrArg _ ?_
  rw [List.map_congr_left (g := fun _ => .over) fun i _ => hlater i, List.map_const', List.length_range]

/-- `heard` of a chunk and then what would come without it. -/
theorem map_heard_cons (chunk : Bytes) (d : Drained) (k : Nat) :
    (List.range (k + 1)).map ((d.cons chunk).heard manner) =
      .chunk chunk :: (List.range k).map (d.heard manner) := by
  rw [List.range_succ_eq_map, List.map_cons, List.map_map]
  rfl

end Drained

namespace Reading

variable [Platform] {r : Reading} {manner : Net.Manner}

/-- A view that is over stays over. Induction on the number of fetches. -/
theorem run_fetches_over (hview : r.view = none) (k : Nat) :
    r.run (List.replicate k .fetch) = (List.replicate k .over, r) := by
  have hstep : r.step .fetch = (.over, r) := by
    simp only [step, fetch, hview]
  induction k with
  | zero => rfl
  | succ k ih => rw [List.replicate_succ, run_cons, hstep, ih, List.replicate_succ]

/-- **The fetches from a view bring what draining what is left brings**, a fetch for each chunk, and the
failure as it leaves the loop. Once they went beyond the last chunk the machine is the one that draining
leaves. Induction on the fetches, for whatever is left of the view. -/
theorem run_fetches (c : Cursor) (hview : r.view = some (manner, c)) (k : Nat) :
    (r.run (List.replicate k .fetch)).1 =
        (List.range k).map (((c.drain r.machine).1.told Failure.leavingLoop).heard manner) ∧
      ((c.drain r.machine).1.chunks.length < k →
        (r.run (List.replicate k .fetch)).2.machine = (c.drain r.machine).2) := by
  induction k generalizing r c with
  | zero => exact ⟨rfl, fun h => absurd h (Nat.not_lt_zero _)⟩
  | succ k ih =>
    have hdrain := c.drain_follows r.machine
    unfold Cursor.Follows at hdrain
    -- what the first fetch brings; the others bring what is left after it
    cases hnext : c.next r.machine with
    | error failure machine =>
      have hstep : r.step .fetch =
          (.broken (manner.fetched failure.leavingLoop), { r with view := none, machine }) := by
        simp only [step, fetch, hview, hnext]
      have hover := run_fetches_over (r := { r with view := none, machine }) rfl k
      simp only [hnext] at hdrain
      rw [List.replicate_succ, run_cons, hstep, hover, hdrain]
      exact ⟨(Drained.map_heard_nil (some failure.leavingLoop) k).symm, fun _ => rfl⟩
    | ok fetched machine =>
      cases fetched with
      | none =>
        have hstep : r.step .fetch = (.over, { r with view := none, machine }) := by
          simp only [step, fetch, hview, hnext]
        have hover := run_fetches_over (r := { r with view := none, machine }) rfl k
        simp only [hnext] at hdrain
        rw [List.replicate_succ, run_cons, hstep, hover, hdrain]
        exact ⟨(Drained.map_heard_nil none k).symm, fun _ => rfl⟩
      | some pair =>
        obtain ⟨chunk, c'⟩ := pair
        have hstep : r.step .fetch =
            (.chunk chunk, { r with view := some (manner, c'), machine }) := by
          simp only [step, fetch, hview, hnext]
        obtain ⟨hanswers, hmachine⟩ := ih (r := { r with view := some (manner, c'), machine }) c' rfl
        simp only [hnext, ← Cursor.drain_eq] at hdrain
        rw [List.replicate_succ, run_cons, hstep, hdrain, hanswers]
        refine ⟨(Drained.map_heard_cons chunk _ k).symm, fun hk => hmachine ?_⟩
        exact Nat.lt_of_succ_lt_succ hk

/-! ## The two sorts of view -/

/-- What comes of a step, as those learn of it who wait: the failure of a view is one that was fetched. -/
def Answer.fetched : Answer → Answer
  | broken failure => broken failure.fetched
  | answer => answer

/-- The same step, where chunks are asked for in a manner. -/
def Step.inManner (manner : Net.Manner) : Step → Step
  | iterate _ => iterate manner
  | s => s

/-- The same reading, where the view is one in a manner. -/
def inManner (manner : Net.Manner) (r : Reading) : Reading :=
  { r with view := r.view.map fun view => (manner, view.2) }

/-- **A step in one manner is the step in the other**, but for the words in which a failure is told. -/
theorem step_manner (r : Reading) (s : Step) :
    ∃ (answer : Answer) (r' : Reading),
      (r.inManner .direct).step (s.inManner .direct) = (answer, r'.inManner .direct) ∧
      (r.inManner .stepwise).step (s.inManner .stepwise) = (answer.fetched, r'.inManner .stepwise) := by
  obtain ⟨entity, view, machine⟩ := r
  cases s with
  | elsewhere change => exact ⟨.quiet, ⟨entity, view, change machine⟩, rfl, rfl⟩
  | read =>
    -- what is read at one go is told in one way
    simp only [step, Step.inManner, read, inManner]
    obtain ⟨result, e, m⟩ := entity.read machine
    cases result with
    | ok bytes => exact ⟨.bytes bytes, ⟨e, view, m⟩, rfl, rfl⟩
    | error failure => exact ⟨.failed failure, ⟨e, view, m⟩, rfl, rfl⟩
  | iterate manner =>
    simp only [step, Step.inManner, iterate, inManner]
    obtain ⟨result, e⟩ := entity.take
    cases result with
    | ok content => exact ⟨.view, ⟨e, some (manner, content.cursor), machine⟩, rfl, rfl⟩
    | error failure => exact ⟨.failed failure, ⟨e, view, machine⟩, rfl, rfl⟩
  | fetch =>
    cases view with
    | none => exact ⟨.over, ⟨entity, none, machine⟩, rfl, rfl⟩
    | some view =>
      obtain ⟨manner, c⟩ := view
      simp only [step, Step.inManner, fetch, inManner, Option.map_some]
      cases hnext : c.next machine with
      | error failure m => exact ⟨.broken failure.leavingLoop, ⟨entity, none, m⟩, rfl, rfl⟩
      | ok fetched m =>
        cases fetched with
        | none => exact ⟨.over, ⟨entity, none, m⟩, rfl, rfl⟩
        | some pair => exact ⟨.chunk pair.1, ⟨entity, some (manner, pair.2), m⟩, rfl, rfl⟩

/-- **So are all steps**, whatever is done elsewhere in between. -/
theorem run_manner (r : Reading) (steps : List Step) :
    ∃ (answers : List Answer) (r' : Reading),
      (r.inManner .direct).run (steps.map (Step.inManner .direct)) = (answers, r'.inManner .direct) ∧
      (r.inManner .stepwise).run (steps.map (Step.inManner .stepwise)) =
        (answers.map Answer.fetched, r'.inManner .stepwise) := by
  induction steps generalizing r with
  | nil => exact ⟨[], r, rfl, rfl⟩
  | cons s rest ih =>
    obtain ⟨answer, r₁, hdirect, hstepwise⟩ := r.step_manner s
    obtain ⟨answers, r', hdirect', hstepwise'⟩ := ih r₁
    refine ⟨answer :: answers, r', ?_, ?_⟩
    · rw [List.map_cons, run_cons, hdirect, hdirect']
    · rw [List.map_cons, run_cons, hstepwise, hstepwise']
      rfl

end Reading

/-! ## Whole entities -/

namespace Entity

section Whole

variable [Platform] {e : Entity} {m : Machine}

/-- A view of an entity brings what its content drains to. -/
theorem run_view (hfresh : e.consumed = false) (manner : Net.Manner) (k : Nat) :
    let r : Reading := { entity := e, machine := m }
    let steps := .iterate manner :: List.replicate k .fetch
    (r.run steps).1 = .view :: (List.range k).map ((e.content.drain m).1.heard manner) ∧
      ((e.content.drain m).1.chunks.length < k → (r.run steps).2.machine = (e.content.drain m).2) := by
  intro r steps
  have hstep : r.step (.iterate manner) =
      (.view, { entity := { e with consumed := true }
                view := some (manner, e.content.cursor), machine := m }) := by
    simp only [Reading.step, Reading.iterate, r, take_fresh hfresh]
  obtain ⟨hanswers, hmachine⟩ := Reading.run_fetches (r := (r.step (.iterate manner)).2)
    e.content.cursor (by rw [hstep]) k
  rw [hstep] at hanswers hmachine
  rw [Content.drain_cursor, Reading.run_cons, hstep]
  exact ⟨congrArg _ hanswers, hmachine⟩

/-- `Entity.read`, `Entity.chunks` and `Entity.chunksStepwise` of an entity that is not consumed, in terms of
`Content.drain`. -/
theorem consume_drain (hfresh : e.consumed = false) :
    e.read m = ((e.content.drain m).1.toExcept, { e with consumed := true }, (e.content.drain m).2) ∧
    e.chunks m =
      ((e.content.drain m).1.chunksOrFailure, { e with consumed := true }, (e.content.drain m).2) ∧
    e.chunksStepwise m =
      (((e.content.drain m).1.told Failure.fetched).chunksOrFailure, { e with consumed := true },
        (e.content.drain m).2) := by
  have htake := take_fresh hfresh
  refine ⟨?_, ?_, ?_⟩
  · simp only [read, consume, htake]
  · simp only [chunks, consume, htake]
  · simp only [chunksStepwise, consume, htake, Content.drainStepwise_eq]

/-- **An entity is consumed once, and all ways to consume it bring the same.** Whatever is done with an
entity that is new: it is consumed from the first call on, also if that came to nothing or was given up; each
later call is refused at once, and neither the machine nor an open view takes notice of it. Chunks that are
fetched directly and stepwise are the same, empty ones included, whatever is done in between, with the same
failure after them, though a stepwise view tells it as one that was fetched: a timeout is told anew without
its file, and the signals of cancelled work and of loops that end in other words. Where nothing is done in
between, the chunks are those of the content, and reading at one go gives all of them together or the
failure. -/
theorem consumed_once (e : Entity) (m : Machine) (hfresh : e.consumed = false) :
    let r : Reading := { entity := e, machine := m }
    (∀ steps, (r.run steps).2.entity.consumed = steps.any Reading.Step.isCall) ∧
    (∀ steps call, steps.any Reading.Step.isCall = true → call.isCall = true →
      (r.run steps).2.step call = (.failed (.entityConsumed consumedText), (r.run steps).2)) ∧
    (∀ steps : List Reading.Step, ∃ (answers : List Reading.Answer) (r' : Reading),
      r.run (steps.map (Reading.Step.inManner .direct)) = (answers, r'.inManner .direct) ∧
      r.run (steps.map (Reading.Step.inManner .stepwise)) =
        (answers.map Reading.Answer.fetched, r'.inManner .stepwise)) ∧
    ∃ d m', e.content.drain m = (d, m') ∧
      e.read m = (d.toExcept, { e with consumed := true }, m') ∧
      e.chunks m = (d.chunksOrFailure, { e with consumed := true }, m') ∧
      e.chunksStepwise m = ((d.told Failure.fetched).chunksOrFailure, { e with consumed := true }, m') ∧
      ∀ manner k,
        let fetched := r.run (Reading.Step.iterate manner :: List.replicate k .fetch)
        fetched.1 = .view :: (List.range k).map (d.heard manner) ∧
          (d.chunks.length < k → fetched.2.machine = m') := by
  -- `run_consumed` starts from any entity; this one is fresh
  intro r
  have hconsumed : ∀ steps, (r.run steps).2.entity.consumed = steps.any Reading.Step.isCall := by
    intro steps
    rw [Reading.run_consumed, hfresh, Bool.false_or]
  refine ⟨hconsumed, ?_, r.run_manner, ?_⟩
  · intro steps call hany hcall
    apply Reading.step_later ?_ hcall
    rw [hconsumed, hany]
  · obtain ⟨hread, hchunks, hstepwise⟩ := consume_drain (m := m) hfresh
    refine ⟨_, _, rfl, hread, hchunks, hstepwise, ?_⟩
    intro manner k
    exact run_view hfresh manner k

end Whole

/-- Two chunks, of which one is empty, and then a failure. -/
def brittle : Entity :=
  .ofPieces .file "application/x-data" none none
    [.chunk [1, 2], .chunk [], .fault (.foreign .badState "gone")]

/-- The failure of the brittle entity is heard after both of its chunks, and a later call is refused. -/
theorem consumed_once_brittle :
    brittle.consumed = false ∧
      ({ entity := brittle, machine := {} : Reading }.run
        [.iterate .stepwise, .fetch, .fetch, .fetch, .fetch]).1 =
          [.view, .chunk [1, 2], .chunk [], .broken (.foreign .badState "gone"), .over] ∧
      ({ entity := brittle, machine := {} : Reading }.run
        [.iterate .stepwise, .fetch]).2.step .read =
          (.failed (.entityConsumed consumedText),
            ({ entity := brittle, machine := {} : Reading }.run [.iterate .stepwise, .fetch]).2) := by
  obtain ⟨-, hlater, -, d, m', hdrain, -, -, -, hview⟩ := consumed_once brittle {} rfl
  refine ⟨rfl, ?_, hlater [.iterate .stepwise, .fetch] .read rfl rfl⟩
  cases hdrain
  exact (hview .stepwise 4).1

/-- An entity whose stream is not there in time. -/
def overdue : Entity :=
  .ofPieces .file "text/plain" none none
    [.fault (.system (.numbered 110 "Connection timed out" (some "data.bin")))]

/-- The two sorts of view need not tell the same failure: those who wait do not learn the name of the
file. -/
theorem chunks_overdue :
    overdue.consumed = false ∧
      ∃ failure failure', (overdue.chunks {}).1 = .error failure ∧
        (overdue.chunksStepwise {}).1 = .error failure' ∧
        failure.message = "[Errno 110] Connection timed out: 'data.bin'" ∧
        failure'.message = "[Errno 110] Connection timed out" := by
  obtain ⟨-, hchunks, hstepwise⟩ := consume_drain (e := overdue) (m := {}) rfl
  rw [hchunks, hstepwise]
  exact ⟨rfl, _, _, rfl, rfl, by decide +kernel, by decide +kernel⟩

end Entity

end Courier
