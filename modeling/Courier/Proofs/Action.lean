import Courier.Source

/-!
# Running actions

An action on the machine gives a value or a failure, and in both cases a machine. This module takes a
run that gave a value apart, step by step (`Act.bind_eq_ok`).

Using a source is one answer and one count (`Handle.exists?_run`, `Handle.length_run`,
`Handle.openRead_run`): what a source answers when it is asked whether it is there, measured or opened
is a function of the machine, and all that the machine keeps of it is how often it was used.
-/

namespace Courier

variable {α β σ ε : Type}

/-! ## Values and failures

Stated for any state: an action works on a machine, and the work on a request on a session. What a sequence
does is also stated for any failure, for the commands of a shell fail in their own way. -/

/-- A sequence whose first step gives a value runs on with it, on the machine that the step left. -/
theorem Act.bind_run_ok {x : EStateM ε σ α} {f : α → EStateM ε σ β} {m m₁ : σ} {a : α}
    (h : x m = .ok a m₁) : (x >>= f) m = f a m₁ := by
  show EStateM.bind x f m = f a m₁
  unfold EStateM.bind
  rw [h]

/-- A sequence whose first step fails is that failure; the second step is not run. -/
theorem Act.bind_run_error {x : EStateM ε σ α} {f : α → EStateM ε σ β} {m m₁ : σ}
    {failure : ε} (h : x m = .error failure m₁) : (x >>= f) m = .error failure m₁ := by
  show EStateM.bind x f m = .error failure m₁
  unfold EStateM.bind
  rw [h]

/-- **A sequence gives a value exactly if both of its steps do.** This is how runs of `do` blocks are taken
apart everywhere: from a run of `x >>= f` that gave a value, the value and the machine between. -/
theorem Act.bind_eq_ok {x : EStateM ε σ α} {f : α → EStateM ε σ β} {m m' : σ} {b : β} :
    (x >>= f) m = .ok b m' ↔ ∃ a m₁, x m = .ok a m₁ ∧ f a m₁ = .ok b m' := by
  cases hx : x m with
  | ok a m₁ =>
    rw [Act.bind_run_ok hx]
    constructor
    · intro h
      exact ⟨a, m₁, rfl, h⟩
    · rintro ⟨a', m₁', h, hf⟩
      cases h
      exact hf
  | error failure m₁ =>
    rw [Act.bind_run_error hx]
    constructor
    · intro h
      cases h
    · rintro ⟨a', m₁', h, -⟩
      cases h

theorem Act.pure_eq_ok {a b : α} {m m' : σ} :
    (pure a : EStateM Failure σ α) m = .ok b m' ↔ a = b ∧ m = m' := by
  show EStateM.Result.ok a m = .ok b m' ↔ _
  rw [EStateM.Result.ok.injEq]

theorem Act.ofExcept_eq_ok {x : Except Failure α} {a : α} {m m' : Machine} :
    Act.ofExcept x m = .ok a m' ↔ x = .ok a ∧ m = m' := by
  cases x with
  | ok b =>
    show EStateM.Result.ok b m = .ok a m' ↔ _
    rw [EStateM.Result.ok.injEq, Except.ok.injEq]
  | error failure =>
    show EStateM.Result.error failure m = .ok a m' ↔ _
    simp

/-! ## What a run leaves -/

/-- The state after a run, whether it gave a value or failed. -/
def stateAfter : EStateM.Result Failure σ α → σ
  | .ok _ m => m
  | .error _ m => m

/-- A part of the state is after every run what it was before, whether the run gives a value or
fails. -/
def Keeps {τ : Type} (part : σ → τ) (x : EStateM Failure σ α) : Prop :=
  ∀ m, part (stateAfter (x m)) = part m

namespace Keeps

variable {τ : Type} {part : σ → τ}

theorem pure (a : α) : Keeps part (pure a : EStateM Failure σ α) := fun _ => rfl

theorem throw (failure : Failure) : Keeps part (throw failure : EStateM Failure σ α) := fun _ => rfl

theorem ofExcept {part : Machine → τ} (x : Except Failure α) : Keeps part (Act.ofExcept x) := by
  cases x <;> exact fun _ => rfl

/-- `Keeps` is closed under sequences. The state in between is that of the value or that of the failure. -/
theorem bind {x : EStateM Failure σ α} {f : α → EStateM Failure σ β} (hx : Keeps part x)
    (hf : ∀ a, Keeps part (f a)) : Keeps part (x >>= f) := by
  intro m
  have hfirst := hx m
  cases h : x m with
  | ok a m₁ =>
    rw [h] at hfirst
    rw [Act.bind_run_ok h, hf a m₁]
    exact hfirst
  | error failure m₁ =>
    rw [h] at hfirst
    rw [Act.bind_run_error h]
    exact hfirst

end Keeps

/-! ## Using sources

A source on the disk is looked up among the files, one in memory needs nothing of the machine, and a
source of the caller's own answers by the number of the question. -/

namespace Handle

/-- The machine after a use of a source. Only sources of the caller's own are counted. -/
def used (count : Usage → Usage) (m : Machine) : Handle → Machine
  | custom id _ =>
    { m with usage := fun k => if k = id then count (m.usage id) else m.usage k }
  | _ => m

/-- What a source answers when it is asked whether it is there. -/
def presence (m : Machine) : Handle → Except Failure Bool
  | onDisk path => m.files.isFile path
  | inMemory .. => .ok true
  | custom id conduct => conduct.present ((m.usage id).asked + 1)

/-- What a source answers when it is measured. -/
def size (m : Machine) : Handle → Except Failure Int
  | onDisk path =>
    match m.files.find path with
    | .ok (.file content) => .ok content.length
    | .ok .directory => .ok directorySize
    | .error failure => .error failure
  | inMemory data _ _ => .ok data.length
  | custom id conduct => conduct.size ((m.usage id).measured + 1)

/-- What a source gives when it is opened. -/
def opening (m : Machine) : Handle → Except Failure Stream
  | onDisk path => (m.files.content path).map fun content => ⟨.disk, content, 0⟩
  | inMemory data _ _ => .ok ⟨.memory, data, 0⟩
  | custom id conduct =>
    (conduct.opening ((m.usage id).opened + 1)).map fun delivery =>
      ⟨.custom delivery, delivery.content, 0⟩

/-- The machine after a source was asked whether it is there. -/
def asked (h : Handle) (m : Machine) : Machine :=
  h.used (fun u => { u with asked := u.asked + 1 }) m

/-- Being asked whether it is there is the answer of `Handle.presence`, counted whether it is a failure or
not. -/
theorem exists?_run (h : Handle) (m : Machine) :
    h.exists? m = Act.ofExcept (h.presence m) (h.asked m) := by
  cases h <;> rfl

/-- The same for being measured, by `Handle.size`. -/
theorem length_run (h : Handle) (m : Machine) :
    h.length m =
      Act.ofExcept (h.size m) (h.used (fun u => { u with measured := u.measured + 1 }) m) := by
  cases h with
  | onDisk path =>
    show (Act.ofExcept (m.files.find path) >>= _) m = _
    simp only [size]
    cases hf : m.files.find path with
    | ok node => cases node <;> rfl
    | error failure => rfl
  | inMemory data name mimeType => rfl
  | custom id conduct => rfl

/-- The same for being opened, by `Handle.opening`; an opening that fails is counted too. -/
theorem openRead_run (h : Handle) (m : Machine) :
    h.openRead m =
      Act.ofExcept (h.opening m) (h.used (fun u => { u with opened := u.opened + 1 }) m) := by
  cases h with
  | onDisk path =>
    show (Act.ofExcept (m.files.content path) >>= _) m = _
    simp only [opening]
    cases hf : m.files.content path <;> rfl
  | inMemory data name mimeType => rfl
  | custom id conduct =>
    -- the count is raised before the source is asked, so the number of the question is the new one
    show (Act.ofExcept (conduct.opening ((m.usage id).opened + 1)) >>= _) _ = _
    simp only [opening]
    cases hc : conduct.opening ((m.usage id).opened + 1) <;> rfl

/-- `Handle.used` changes the counts of a source and never the files. -/
@[simp] theorem used_files (h : Handle) (count : Usage → Usage) (m : Machine) :
    (h.used count m).files = m.files := by
  cases h <;> rfl

/-- A count that leaves `opened` alone leaves it alone for every source. -/
theorem used_opened {h : Handle} {count : Usage → Usage} {m : Machine}
    (hc : ∀ u, (count u).opened = u.opened) (id : Nat) :
    ((h.used count m).usage id).opened = (m.usage id).opened := by
  cases h with
  | onDisk path => rfl
  | inMemory data name mimeType => rfl
  | custom key conduct =>
    show (if id = key then count (m.usage key) else m.usage id).opened = _
    by_cases hid : id = key
    · rw [if_pos hid, hc, hid]
    · rw [if_neg hid]

end Handle

/-! ## Resolving what is given for a file -/

namespace Source

/-- The source of a file on a machine: only a source of the caller's own is asked what it is, and only
something that gives a path is asked for one. -/
def resolution (m : Machine) : Source → Except Failure (Option Handle)
  | path p => .ok (some (.onDisk (.ofText p)))
  | pathLike _ answer => answer.map fun p => some (.onDisk (.ofText p))
  | bytes data => .ok (some (.inMemory data uploadName none))
  | handle h => (h.kind m.usage).map fun kind => if kind.isSupported then some h else none
  | unsupported _ => .ok none

/-- **Resolving is an answer alone**: it leaves the machine as it was. -/
theorem resolve?_run (s : Source) (m : Machine) : s.resolve? m = Act.ofExcept (s.resolution m) m := by
  cases s with
  | pathLike label answer => cases answer <;> rfl
  | handle h =>
    show (Act.ofExcept (h.kind m.usage) >>= _) m = _
    simp only [resolution]
    cases h.kind m.usage <;> rfl
  | _ => rfl

end Source

end Courier
