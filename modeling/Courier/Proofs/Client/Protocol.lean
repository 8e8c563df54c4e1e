import Courier.Platform.Plain
import Courier.Proofs.Client.Attempt

/-!
# The protocol of sending

A request is sent in attempts. The one after so many others is made in the session that those and the
pauses between them leave (`Session.atAttempt`), as long as no connection comes about in them
(`Session.Unconnected`); the run lemma (`Session.attempts_run`) says which attempt is the last
(`Session.LastFrom`). What is raised in the last attempt comes out of `Session.execute` as it was raised,
except for what `Stage.altered` lists: signals of iterators, and, where a thread is waited for, timeouts
about a file and what is told of threads (`Stage.leaving_eq_self_iff`).

Main statement: `Session.execute_protocol`.
-/

namespace Courier

/-! ## Failures on their way out -/

namespace Failure

/-- `Failure.isRetryable` holds of the failures of the network for which no connection came about. -/
theorem isRetryable_iff {failure : Failure} :
    failure.isRetryable = true ↔
      ∃ fault text, failure = .network fault text ∧
        (fault = .connectError ∨ fault = .connectTimeout) := by
  constructor
  · intro h
    cases failure with
    | network fault text =>
      cases fault with
      | connectError => exact ⟨_, text, rfl, .inl rfl⟩
      | connectTimeout => exact ⟨_, text, rfl, .inr rfl⟩
      | _ => cases h
    | _ => cases h
  · rintro ⟨fault, text, rfl, rfl | rfl⟩ <;> rfl

end Failure

namespace Stage

/-- What leaves the loop of attempts if something is raised at a stage of the last one. -/
def leaving (stage : Stage) (manner : Net.Manner) (raised : Failure) : Failure :=
  Session.leavingAttempts manner (stage.told manner raised)

/-- Whether something that is raised at a stage does not come out as it was raised: the signals of
iterators do not, and neither do, where a thread is waited for, a timeout about a file and what is told of
threads. -/
def altered (stage : Stage) (manner : Net.Manner) : Failure → Bool
  | .foreign .stopIteration _ => true
  | .foreign .stopAsyncIteration _ => manner = .stepwise
  | .foreign .cancelledFuture _ | .foreign .invalidFuture _ => manner = .stepwise && stage ≠ .sending
  | .system (.numbered code _ (some _)) =>
    manner = .stepwise && stage ≠ .sending && SystemKind.ofCode code = .timeout
  | _ => false

/-- `Stage.altered` spares a refusal of the operating system where no thread is waited for. -/
theorem altered_system {stage : Stage} {manner : Net.Manner} (h : manner = .direct ∨ stage = .sending)
    (fault : SystemFault) : stage.altered manner (.system fault) = false := by
  cases fault with
  | told kind text => rfl
  | numbered code reason file =>
    cases file with
    | none => rfl
    | some file => rcases h with rfl | rfl <;> simp [altered]

/-- A refusal of the operating system leaves as it is unless `Failure.relayed` tells it anew, which it does
for a timeout about a file. By cases on the stage, the manner and the refusal. -/
theorem system_leaving_iff (stage : Stage) (manner : Net.Manner) (fault : SystemFault) :
    stage.leaving manner (.system fault) = .system fault ↔ stage.altered manner (.system fault) = false := by
  -- the fault passes the thread unchanged unless it is the one with a file that is raised anew
  have hrelayed : fault.relayed = fault ↔ altered .building .stepwise (.system fault) = false := by
    cases fault with
    | told kind text => exact ⟨fun _ => rfl, fun _ => rfl⟩
    | numbered code reason file =>
      cases file with
      | none => simp [SystemFault.relayed, altered]
      | some file => simp [SystemFault.relayed, altered]
  have hsystem : Failure.system fault.relayed = .system fault ↔ fault.relayed = fault :=
    ⟨Failure.system.inj, congrArg Failure.system⟩
  cases manner with
  | direct =>
    rw [altered_system (.inl rfl)]
    cases stage <;> exact ⟨fun _ => rfl, fun _ => rfl⟩
  | stepwise =>
    cases stage with
    | building => exact hsystem.trans hrelayed
    | reading => exact hsystem.trans hrelayed
    | sending =>
      rw [altered_system (.inr rfl)]
      exact ⟨fun _ => rfl, fun _ => rfl⟩

/-- **All else comes out as it was raised**, whatever it goes through on the way. -/
theorem leaving_eq_self_iff (stage : Stage) (manner : Net.Manner) (raised : Failure) :
    stage.leaving manner raised = raised ↔ stage.altered manner raised = false := by
  cases raised with
  | system fault => exact stage.system_leaving_iff manner fault
  | foreign fault text =>
    cases fault <;> cases stage <;> cases manner <;>
      simp [leaving, altered, told, Net.Manner.told, Session.leavingAttempts, Failure.relayed,
        Failure.leavingLoop, Failure.leavingAwaitedLoop, Failure.fetched]
  | _ => cases stage <;> cases manner <;> exact ⟨fun _ => rfl, fun _ => rfl⟩

end Stage

section

variable [Platform]

/-! ## Between attempts -/

namespace Session

variable {manner : Net.Manner} {s t : Session}

/-- Notes that no connection was made in the attempt of a number, and waits. -/
def pause (failure : Failure) (number : Nat) : Work Unit := do
  let config := (← get).client.config
  onMachine do
    Machine.log .warning (Retry.notice failure number config.maxRetries)
    Machine.wait (Retry.wait config.retryBackoff number)

/-- `pause` takes its wait and leaves a note in the journal. -/
theorem pause_run (failure : Failure) (number : Nat) (s : Session) :
    pause failure number s = .ok () { s with
      machine := { s.machine with
        journal := s.machine.journal.add .warning
          (Retry.notice failure number s.client.config.maxRetries)
        waits := s.machine.waits ++ [Retry.wait s.client.config.retryBackoff number] } } := rfl

/-- `Session.attempts` unfolded once, where another attempt is allowed. -/
theorem attempts_succ (manner : Net.Manner) (retries number : Nat) (s : Session) :
    attempts manner (retries + 1) number s =
      match attempt manner s with
      | .ok response s => .ok response s
      | .error failure s =>
        if failure.isRetryable then
          (do pause failure number; attempts manner retries (number + 1)) s
        else .error failure s := by
  show (match attempt manner s with
    | .ok response s => _
    | .error failure s => _) = _
  cases attempt manner s with
  | ok response t => rfl
  | error failure t =>
    -- the pause is run first, since comparing the two as programs is slow
    simp only
    rw [Act.bind_run_ok (pause_run failure number t)]
    rfl

/-! ## The attempts of a run -/

/-- No connection comes about in an attempt that begins in this session. -/
def Unconnected (manner : Net.Manner) (s : Session) : Prop :=
  ∃ stage fault text, s.Raises manner stage (.network fault text) ∧
    (fault = .connectError ∨ fault = .connectTimeout)

/-- **After such an attempt, and no other, there may be another one.** By `attempt_error_iff`, as telling a
failure anew changes none of these. -/
theorem unconnected_iff :
    s.Unconnected manner ↔
      ∃ failure t, attempt manner s = .error failure t ∧ failure.isRetryable = true := by
  constructor
  · rintro ⟨stage, fault, text, hraised, hfault⟩
    obtain ⟨t, hresult⟩ := attempt_error_iff.mpr ⟨stage, _, hraised, rfl⟩
    refine ⟨_, t, hresult, ?_⟩
    rw [Stage.isRetryable_told]
    exact Failure.isRetryable_iff.mpr ⟨fault, text, rfl, hfault⟩
  · rintro ⟨failure, t, hresult, hretry⟩
    obtain ⟨stage, raised, hraised, rfl⟩ := attempt_error_iff.mp ⟨t, hresult⟩
    rw [Stage.isRetryable_told] at hretry
    obtain ⟨fault, text, rfl, hfault⟩ := Failure.isRetryable_iff.mp hretry
    exact ⟨stage, fault, text, hraised, hfault⟩

/-- The session in which the next attempt begins, after the one of a number made no connection. -/
def afterPause (manner : Net.Manner) (number : Nat) (s : Session) : Session :=
  match attempt manner s with
  | .ok _ t => t
  | .error failure t => stateAfter (pause failure number t)

/-- The session in which the attempt after so many begins, if no connection comes about in those. -/
def atAttempt (manner : Net.Manner) (s : Session) : Nat → Session
  | 0 => s
  | k + 1 => (atAttempt manner s k).afterPause manner (k + 1)

/-- What comes of the attempt after so many. -/
def outcome (manner : Net.Manner) (s : Session) (k : Nat) : EStateM.Result Failure Session Response :=
  attempt manner (atAttempt manner s k)

/-- `afterPause` is what the attempt leaves, but for the journal and the waits (`pause_run`). -/
theorem afterPause_left (manner : Net.Manner) (number : Nat) (s : Session) :
    ∃ journal waits, s.afterPause manner number =
      { stateAfter (attempt manner s) with
        machine := { (stateAfter (attempt manner s)).machine with journal, waits } } := by
  unfold afterPause
  cases attempt manner s with
  | ok response t => exact ⟨t.machine.journal, t.machine.waits, rfl⟩
  | error failure t => exact ⟨_, _, rfl⟩

/-- **The settings of the client are the same in all attempts.** -/
theorem atAttempt_config (manner : Net.Manner) (s : Session) (k : Nat) :
    (atAttempt manner s k).client.config = s.client.config := by
  induction k with
  | zero => rfl
  | succ k ih =>
    obtain ⟨journal, waits, hleft⟩ := (atAttempt manner s k).afterPause_left manner (k + 1)
    show ((atAttempt manner s k).afterPause manner (k + 1)).client.config = _
    rw [hleft]
    exact (attempt_keeps_config manner _).trans ih

/-- **Each attempt begins with the request that the build of the one before it left.** -/
theorem atAttempt_request (manner : Net.Manner) (s : Session) (k : Nat) :
    (atAttempt manner s (k + 1)).request = (atAttempt manner s k).rebuilt := by
  obtain ⟨journal, waits, hleft⟩ := (atAttempt manner s k).afterPause_left manner (k + 1)
  show ((atAttempt manner s k).afterPause manner (k + 1)).request = _
  rw [hleft]
  exact attempt_request manner _

/-- **Where the request goes is the same in all attempts.** -/
theorem atAttempt_address (manner : Net.Manner) (s : Session) (k : Nat) :
    (atAttempt manner s k).request.method = s.request.method ∧
      (atAttempt manner s k).request.url = s.request.url ∧
      (atAttempt manner s k).request.headers = s.request.headers := by
  induction k with
  | zero => exact ⟨rfl, rfl, rfl⟩
  | succ k ih =>
    obtain ⟨hmethod, hurl, hheaders⟩ := ih
    obtain ⟨hmethod', hurl', hheaders'⟩ := rebuilt_address (atAttempt manner s k)
    rw [atAttempt_request]
    exact ⟨hmethod'.trans hmethod, hurl'.trans hurl, hheaders'.trans hheaders⟩

/-- **What was sent before an attempt is what the attempts before it sent.** -/
theorem atAttempt_sent (manner : Net.Manner) (s : Session) (k : Nat) :
    (atAttempt manner s k).machine.sent =
      s.machine.sent ++ (List.range k).flatMap fun j => (atAttempt manner s j).sent manner := by
  induction k with
  | zero => exact (List.append_nil _).symm
  | succ k ih =>
    obtain ⟨journal, waits, hleft⟩ := (atAttempt manner s k).afterPause_left manner (k + 1)
    show ((atAttempt manner s k).afterPause manner (k + 1)).machine.sent = _
    rw [hleft]
    show (stateAfter (attempt manner (atAttempt manner s k))).machine.sent = _
    rw [attempt_sent, ih, List.range_succ, List.flatMap_append, List.flatMap_singleton,
      List.append_assoc]

/-- After an attempt that made no connection `Session.attempts` pauses, and the pause leads to `afterPause`
(`attempts_succ`). -/
theorem afterPause_of_unconnected (number : Nat) (h : s.Unconnected manner) :
    ∃ failure t, attempt manner s = .error failure t ∧ failure.isRetryable = true ∧
      t.client.config = s.client.config ∧ t.machine.waits = s.machine.waits ∧
      pause failure number t = .ok () (s.afterPause manner number) := by
  obtain ⟨failure, t, hresult, hretry⟩ := unconnected_iff.mp h
  have hwaits := attempt_keeps_waits manner s
  have hconfig := attempt_keeps_config manner s
  rw [hresult] at hwaits hconfig
  refine ⟨failure, t, hresult, hretry, hconfig, hwaits, ?_⟩
  unfold afterPause
  rw [hresult]
  rfl

/-- The wait of a pause is that of `Retry.wait` for its number, which `afterPause_left` has with the settings
of the client as they were before the attempt. -/
theorem afterPause_waits {number : Nat} (h : s.Unconnected manner) :
    (s.afterPause manner number).machine.waits =
      s.machine.waits ++ [Retry.wait s.client.config.retryBackoff number] := by
  obtain ⟨failure, t, -, -, hconfig, hwaits, hpause⟩ := afterPause_of_unconnected number h
  rw [pause_run, hconfig, hwaits, EStateM.Result.ok.injEq] at hpause
  rw [← hpause.2]

/-- **There is one wait between any two attempts**, and no other. -/
theorem atAttempt_waits {k : Nat} (h : ∀ j < k, (atAttempt manner s j).Unconnected manner) :
    (atAttempt manner s k).machine.waits =
      s.machine.waits ++
        (List.range k).map fun j => Retry.wait s.client.config.retryBackoff (j + 1) := by
  induction k with
  | zero => exact (List.append_nil _).symm
  | succ k ih =>
    show ((atAttempt manner s k).afterPause manner (k + 1)).machine.waits = _
    rw [afterPause_waits (h k (Nat.lt_succ_self k)), atAttempt_config,
      ih fun j hj => h j (Nat.lt_succ_of_lt hj), List.range_succ, List.map_append, List.append_assoc]
    rfl

/-! ### The last attempt -/

/-- The last attempt that is made when so many may follow the one after `k` others: it is the first
that does not fail for want of a connection, unless all may be made and all fail so. -/
structure LastFrom (manner : Net.Manner) (s : Session) (k retries more : Nat) : Prop where
  le : more ≤ retries
  before : ∀ j < more, (atAttempt manner s (k + j)).Unconnected manner
  settled : more < retries → ¬ (atAttempt manner s (k + more)).Unconnected manner

namespace LastFrom

variable {k retries more : Nat}

/-- `LastFrom` where no more attempts may follow: none does. -/
theorem exhausted : LastFrom manner s k 0 0 where
  le := Nat.le_refl 0
  before := fun j hj => absurd hj (Nat.not_lt_zero j)
  settled := fun h => absurd h (Nat.lt_irrefl 0)

/-- `LastFrom` where the attempt does not fail for want of a connection: it is the last. -/
theorem here (h : ¬ (atAttempt manner s k).Unconnected manner) : LastFrom manner s k retries 0 where
  le := Nat.zero_le retries
  before := fun j hj => absurd hj (Nat.not_lt_zero j)
  settled := fun _ => h

/-- `LastFrom` where it does: the last attempt is the last from the next one on. -/
theorem later (h : (atAttempt manner s k).Unconnected manner)
    (hlast : LastFrom manner s (k + 1) retries more) :
    LastFrom manner s k (retries + 1) (more + 1) where
  le := Nat.succ_le_succ hlast.le
  before := by
    intro j hj
    cases j with
    | zero => exact h
    | succ j =>
      have hbefore := hlast.before j (Nat.lt_of_succ_lt_succ hj)
      rwa [Nat.add_right_comm] at hbefore
  settled := by
    intro hless
    have hsettled := hlast.settled (Nat.lt_of_succ_lt_succ hless)
    rwa [Nat.add_right_comm] at hsettled

variable {last p : Nat}

/-- **So many attempts are made as are allowed, or as it takes to come to one that does not fail for
want of a connection**, whichever is less. -/
theorem count (h : LastFrom manner s 0 retries last)
    (hbefore : ∀ k < p, (atAttempt manner s k).Unconnected manner) (hp : ¬ (atAttempt manner s p).Unconnected manner) :
    last + 1 = min (retries + 1) (p + 1) := by
  have hle := h.le
  have hnotlater : ¬ p < last := by
    intro hlater
    have hun := h.before p hlater
    rw [Nat.zero_add] at hun
    exact hp hun
  by_cases hless : last < p
  · -- it was not settled yet, so no more were allowed
    have hall : ¬ last < retries := by
      intro hmore
      have hsettled := h.settled hmore
      rw [Nat.zero_add] at hsettled
      exact hsettled (hbefore last hless)
    omega
  · omega

/-- `LastFrom.count` where no attempt makes a connection: all that are allowed are made. -/
theorem count_all (h : LastFrom manner s 0 retries last)
    (hall : ∀ k, (atAttempt manner s k).Unconnected manner) : last = retries := by
  have hle := h.le
  have hnot : ¬ last < retries := fun hmore => h.settled hmore (hall _)
  omega

/-- The field `before` of `LastFrom`, from the first attempt on. -/
theorem unconnected (h : LastFrom manner s 0 retries last) :
    ∀ j < last, (atAttempt manner s j).Unconnected manner := by
  intro j hj
  have hun := h.before j hj
  rwa [Nat.zero_add] at hun

/-- **There is one wait between any two attempts up to the last, and none after it.** -/
theorem waits (h : LastFrom manner s 0 retries last) :
    (stateAfter (outcome manner s last)).machine.waits =
      s.machine.waits ++
        (List.range last).map fun k => Retry.wait s.client.config.retryBackoff (k + 1) := by
  rw [← atAttempt_waits h.unconnected]
  exact attempt_keeps_waits manner (atAttempt manner s last)

end LastFrom

/-- After an attempt without a connection there is a pause, and then the loop goes on
(`afterPause_of_unconnected`). -/
theorem attempts_again {retries number : Nat} (h : s.Unconnected manner) :
    attempts manner (retries + 1) number s =
      attempts manner retries (number + 1) (s.afterPause manner number) := by
  obtain ⟨failure, t, hresult, hretry, -, -, hpause⟩ := afterPause_of_unconnected number h
  rw [attempts_succ, hresult]
  simp only [hretry, if_true]
  exact Act.bind_run_ok hpause

/-- `Session.attempts` makes no other attempt after one that does not fail for want of a connection. -/
theorem attempts_settled {retries number : Nat} (h : ¬ s.Unconnected manner) :
    attempts manner (retries + 1) number s = attempt manner s := by
  rw [attempts_succ]
  cases hresult : attempt manner s with
  | ok response t => rfl
  | error failure t =>
    have hfinal : ¬ failure.isRetryable = true := fun hretry =>
      h (unconnected_iff.mpr ⟨failure, t, hresult, hretry⟩)
    simp only [if_neg hfinal]

/-- **The attempts that are made**, from the one after `k` others on: they come to what the last one comes
to. Induction on the number of attempts that are allowed. -/
theorem attempts_run (manner : Net.Manner) (s : Session) (retries k : Nat) :
    ∃ more, LastFrom manner s k retries more ∧
      attempts manner retries (k + 1) (atAttempt manner s k) = outcome manner s (k + more) := by
  induction retries generalizing k with
  | zero => exact ⟨0, .exhausted, rfl⟩
  | succ retries ih =>
    by_cases hun : (atAttempt manner s k).Unconnected manner
    · obtain ⟨more, hlast, hrun⟩ := ih (k + 1)
      have hnumber : k + 1 + more = k + (more + 1) := by omega
      rw [hnumber] at hrun
      exact ⟨more + 1, .later hun hlast, (attempts_again hun).trans hrun⟩
    · exact ⟨0, .here hun, attempts_settled hun⟩

/-! ## The protocol -/

/-- A failure of the last attempt is explained with the method and the address of the request that is
left. -/
def concluded (manner : Net.Manner) :
    EStateM.Result Failure Session Response → EStateM.Result Failure Session Response
  | .ok response t => .ok response t
  | .error failure t =>
    .error (explain t.request.method t.request.url (leavingAttempts manner failure)) t

theorem stateAfter_concluded (manner : Net.Manner) (result : EStateM.Result Failure Session Response) :
    stateAfter (concluded manner result) = stateAfter result := by
  cases result <;> rfl

/-- **What sending a request gives** is what is concluded from the last attempt. -/
theorem execute_run (manner : Net.Manner) (s : Session) :
    ∃ last, LastFrom manner s 0 s.client.config.maxRetries last ∧
      execute manner s = concluded manner (outcome manner s last) := by
  obtain ⟨last, hlast, hrun⟩ := attempts_run manner s s.client.config.maxRetries 0
  rw [Nat.zero_add last] at hrun
  refine ⟨last, hlast, ?_⟩
  show concluded manner (attempts manner s.client.config.maxRetries (0 + 1) (atAttempt manner s 0)) = _
  rw [hrun]

/-- The session after an attempt has the method and the address from the beginning (`atAttempt_address`,
`rebuilt_address`). -/
theorem outcome_address (manner : Net.Manner) (s : Session) (k : Nat) :
    (stateAfter (outcome manner s k)).request.method = s.request.method ∧
      (stateAfter (outcome manner s k)).request.url = s.request.url := by
  have hrequest : (stateAfter (outcome manner s k)).request = (atAttempt manner s (k + 1)).request :=
    (attempt_request manner _).trans (atAttempt_request manner s k).symm
  obtain ⟨hmethod, hurl, -⟩ := atAttempt_address manner s (k + 1)
  rw [hrequest]
  exact ⟨hmethod, hurl⟩

/-- What an attempt does: the entity is built once, and what is made of it is handed over once, or nothing
is if it cannot be built; and all that the attempt adds to the wire is the chain of at most one message. -/
structure MadeOnce (manner : Net.Manner) (t : Session) : Prop where
  unbuilt : ∀ failure m, t.request.build t.machine = .error failure m →
    attempt manner t = .error (manner.told failure) { t with machine := m } ∧ t.sent manner = []
  built : ∀ entity r m, t.request.build t.machine = .ok (entity, r) m →
    attempt manner t =
      handOver manner (t.request.attempt entity) (entity.map Entity.content) (t.readied entity r m)
  sent : t.sent manner = [] ∨ ∃ message body, t.transmitted manner = some message ∧
    Net.Chain t.client.config.timeout t.client.config.followRedirects message body (t.sent manner)

/-- **Every attempt does no more than that.** By `attempt_of_error` and `attempt_of_ok`; what is sent is
`sent_of_transmitted`, or nothing. -/
theorem madeOnce (manner : Net.Manner) (t : Session) : MadeOnce manner t where
  unbuilt := by
    intro failure m hbuild
    refine ⟨attempt_of_error hbuild, sent_of_untransmitted ?_⟩
    unfold transmitted
    rw [hbuild]
  built := fun _ _ _ hbuild => attempt_of_ok hbuild
  sent := by
    cases h : t.transmitted manner with
    | none => exact .inl (sent_of_untransmitted h)
    | some message =>
      obtain ⟨entity, r, m, -, hchain⟩ := sent_of_transmitted h
      exact .inr ⟨message, _, rfl, hchain⟩

/-- What the one who sends a request gets, as the attempt after `k` others decides it. -/
structure Decided (manner : Net.Manner) (s : Session) (k : Nat) : Prop where
  /-- The attempt gives a response, or something is raised in it. -/
  cases : (∃ response t, outcome manner s k = .ok response t) ∨
    ∃ stage raised, (atAttempt manner s k).Raises manner stage raised
  response : ∀ response t, outcome manner s k = .ok response t → execute manner s = .ok response t
  raised : ∀ stage raised, (atAttempt manner s k).Raises manner stage raised →
    ∃ t, execute manner s =
      .error (explain s.request.method s.request.url (stage.leaving manner raised)) t
  /-- A file that cannot be read. -/
  system : ∀ stage fault, (atAttempt manner s k).Raises manner stage (.system fault) →
    stage.altered manner (.system fault) = false →
    ∃ t, execute manner s = .error (.requestFailed ("could not read request content: " ++ fault.message)
      (some s.request.method.name) (some s.request.url) (some (.system fault))) t
  network : ∀ stage fault text, (atAttempt manner s k).Raises manner stage (.network fault text) →
    ∃ t, execute manner s = .error (.requestFailed (fault.name ++ ": " ++ text)
      (some s.request.method.name) (some s.request.url) (some (.network fault text))) t
  other : ∀ stage raised, (atAttempt manner s k).Raises manner stage raised →
    (∀ fault, raised ≠ .system fault) → (∀ fault text, raised ≠ .network fault text) →
    stage.altered manner raised = false → ∃ t, execute manner s = .error raised t

/-- `Decided` for the attempt that all is concluded from. By cases on its outcome; what is not altered is
explained as it was raised (`leaving_eq_self_iff`). -/
theorem decided_of_concluded {k : Nat} (h : execute manner s = concluded manner (outcome manner s k)) :
    Decided manner s k := by
  obtain ⟨hmethod, hurl⟩ := outcome_address manner s k
  -- the last attempt fails with what `stage.leaving` makes of the exception, and `explain` is put on top
  have hraised : ∀ stage raised, (atAttempt manner s k).Raises manner stage raised →
      ∃ t, execute manner s =
        .error (explain s.request.method s.request.url (stage.leaving manner raised)) t := by
    intro stage raised hraised
    obtain ⟨t, hresult⟩ := attempt_error_iff.mpr ⟨stage, raised, hraised, rfl⟩
    have houtcome : outcome manner s k = .error (stage.told manner raised) t := hresult
    rw [houtcome] at hmethod hurl
    refine ⟨t, ?_⟩
    rw [h, houtcome, ← hmethod, ← hurl]
    rfl
  -- where the stage does not alter the exception, it is the exception itself that is explained
  have hkept : ∀ stage raised, (atAttempt manner s k).Raises manner stage raised →
      stage.altered manner raised = false →
      ∃ t, execute manner s = .error (explain s.request.method s.request.url raised) t := by
    intro stage raised hat haltered
    have hrun := hraised stage raised hat
    rwa [(Stage.leaving_eq_self_iff stage manner raised).mpr haltered] at hrun
  refine ⟨?_, ?_, hraised, ?_, ?_, ?_⟩
  · cases hresult : outcome manner s k with
    | ok response t => exact .inl ⟨response, t, rfl⟩
    | error failure t =>
      obtain ⟨stage, raised, hat, -⟩ := attempt_error_iff.mp ⟨t, hresult⟩
      exact .inr ⟨stage, raised, hat⟩
  · intro response t hresult
    rw [h, hresult]
    rfl
  · intro stage fault hat haltered
    exact hkept stage _ hat haltered
  · intro stage fault text hat
    exact hkept stage _ hat rfl
  · intro stage raised hat hsystem hnetwork haltered
    obtain ⟨t, hrun⟩ := hkept stage raised hat haltered
    refine ⟨t, ?_⟩
    rw [hrun]
    cases raised with
    | system fault => exact absurd rfl (hsystem fault)
    | network fault text => exact absurd rfl (hnetwork fault text)
    | _ => rfl

/-- **The protocol of sending.** So many attempts are made as are allowed, or as it takes to come to one
that does not fail for want of a connection, whichever is less. In each the entity is built once, and what
is made of it is handed to the client once; nothing is if there was no entity to be had. What is sent is
what these attempts send, one after the other. There is one wait between any two attempts and none after the
last. What the one who sends the request gets is decided by the last attempt alone: its response, or what
was raised in it, as the cause of a failure of the request if it is one of a file or of the network, and else
as it is; only what `Stage.altered` lists comes out as something else. A file that cannot be read is never
tried again. -/
theorem execute_protocol (manner : Net.Manner) (s : Session) :
    ∃ last,
      ((∀ p, (∀ k < p, (atAttempt manner s k).Unconnected manner) →
          ¬ (atAttempt manner s p).Unconnected manner →
          last + 1 = min (s.client.config.maxRetries + 1) (p + 1)) ∧
        ((∀ k, (atAttempt manner s k).Unconnected manner) →
          last + 1 = s.client.config.maxRetries + 1)) ∧
      (∀ k ≤ last, MadeOnce manner (atAttempt manner s k)) ∧
      (stateAfter (execute manner s)).machine.sent =
        s.machine.sent ++
          (List.range (last + 1)).flatMap (fun k => (atAttempt manner s k).sent manner) ∧
      (stateAfter (execute manner s)).machine.waits =
        s.machine.waits ++
          (List.range last).map (fun k => Retry.wait s.client.config.retryBackoff (k + 1)) ∧
      Decided manner s last ∧
      ∀ k ≤ last, ∀ stage fault, (atAttempt manner s k).Raises manner stage (.system fault) →
        k = last := by
  obtain ⟨last, hlast, hexecute⟩ := execute_run manner s
  have hleft : stateAfter (execute manner s) = stateAfter (outcome manner s last) := by
    rw [hexecute, stateAfter_concluded]
  refine ⟨last, ⟨fun p hp hsettled => hlast.count hp hsettled, fun hall => ?_⟩,
    fun k _ => madeOnce manner _, ?_, ?_, decided_of_concluded hexecute, ?_⟩
  · rw [hlast.count_all hall]
  · -- the attempts before the last, and then the last
    rw [hleft, List.range_succ, List.flatMap_append, List.flatMap_singleton, ← List.append_assoc,
      ← atAttempt_sent]
    exact attempt_sent manner _
  · rw [hleft, hlast.waits]
  · intro k hk stage fault hsystem
    rcases Nat.lt_or_eq_of_le hk with hless | heq
    · -- another attempt would have been made for want of a connection only
      obtain ⟨failure, t, hresult, hretry⟩ := unconnected_iff.mp (hlast.unconnected k hless)
      obtain ⟨t', hfails⟩ := attempt_error_iff.mpr ⟨stage, _, hsystem, rfl⟩
      rw [hresult] at hfails
      cases hfails
      rw [Stage.isRetryable_told] at hretry
      cases hretry
    · exact heq

end Session

end

namespace Session

/-- A form for a server that cannot be reached at first. -/
def retriedForm : Session :=
  { client := { config := {} }
    request :=
      { method := .post
        url := "http://example.test/upload"
        body := some { parameters := [⟨"a", some "1"⟩] } }
    machine :=
      { script := [.fails (.network .connectError "refused"), .reply { status := 503 }] } }

/-- The second attempt decides: its response is the answer, whatever the status. Both attempts are on the
wire, the first without a body, with one wait between them. -/
example :
    (match execute .stepwise retriedForm with
      | .ok response _ => some response.status
      | .error _ _ => none) = some 503 ∧
      (stateAfter (execute .stepwise retriedForm)).machine.sent.map Net.Exchange.body =
        [none, some (ascii "a=1")] ∧
      (stateAfter (execute .stepwise retriedForm)).machine.waits.length = 1 :=
  ⟨by decide +kernel, by decide +kernel, by decide +kernel⟩

/-- A timeout that tells which file it is about. -/
def overdueFault : Failure := .system (.numbered 110 "Connection timed out" (some "data.bin"))

/-- A source that cannot be opened in time. -/
def overdue : Handle :=
  .custom 0
    { label := "Overdue"
      name := fun _ => .ok "data.bin"
      size := fun _ => .ok 3
      opening := fun _ => .error overdueFault }

/-- The source is sent by itself. -/
def overdueUpload : Session :=
  { client := { config := {} }
    request :=
      { method := .post
        url := "http://example.test/upload"
        body := some { files := [⟨none, "data.bin", overdue, none⟩] } }
    machine := {} }

/-- What was raised need not be the cause of what comes out: sent stepwise, the only attempt raises a timeout
about a file while the entity is built, and the cause is another one. -/
theorem execute_protocol_overdue :
    overdueUpload.Raises .stepwise .building overdueFault ∧
      ∃ text cause t, execute .stepwise overdueUpload =
          .error (.requestFailed text (some "POST") (some "http://example.test/upload") (some cause)) t ∧
        cause ≠ overdueFault := by
  refine ⟨⟨rfl, rfl⟩, _, _, _, rfl, ?_⟩
  intro h
  cases h

end Session

end Courier
