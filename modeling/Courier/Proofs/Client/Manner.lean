import Courier.Proofs.Client.Protocol

/-!
# Two manners of sending

A request is sent directly or stepwise, on a connection of its own each. The two differ in how the body
is read, and reading it chunk by chunk comes to the same as reading it through
(`Net.Body.read_manner`). But what is done stepwise is done by a thread that is waited for, so that the
same thing that is raised is told in two ways (`Failure.Echoed`, by `Stage.told`). But for that, and as long
as both connections were told the same cookies, nothing depends on the manner.

Two sessions in step (`Session.InStep`) have the same request, machine, settings and cookies, and both
connections can be used. An attempt keeps two sessions in step (`Session.attempt_manner`), and so do all of
them (`Session.attempts_manner`), by induction on how many may follow. Main statement:
`Session.execute_manner`.
-/

namespace Courier

variable {α β σ τ : Type}

/-! ## Echoes of failures -/

/-- The same thing was raised, at the same stage of an attempt that is made directly and of one that is made
stepwise. -/
def Failure.Echoed (failure failure' : Failure) : Prop :=
  ∃ (stage : Stage) (raised : Failure),
    failure = stage.told .direct raised ∧ failure' = stage.told .stepwise raised

namespace Failure.Echoed

/-- Every failure is heard as itself, at `Stage.sending`, where neither manner alters anything. -/
theorem same (failure : Failure) : failure.Echoed failure := ⟨.sending, failure, rfl, rfl⟩

variable {failure failure' : Failure}

/-- An echo may be mended by another attempt if the failure may (`Stage.isRetryable_told`). -/
theorem isRetryable_eq (h : failure.Echoed failure') : failure'.isRetryable = failure.isRetryable := by
  obtain ⟨stage, raised, rfl, rfl⟩ := h
  rw [Stage.isRetryable_told, Stage.isRetryable_told]

/-- A failure of the network is told as it is, so it is its own echo. -/
theorem eq_of_retryable (h : failure.Echoed failure') (hretry : failure.isRetryable = true) :
    failure' = failure := by
  obtain ⟨stage, raised, rfl, rfl⟩ := h
  rw [Stage.isRetryable_told] at hretry
  -- no failure of the network is told anew
  obtain ⟨fault, text, rfl, -⟩ := Failure.isRetryable_iff.mp hretry
  cases stage <;> rfl

end Failure.Echoed

/-- Two results agree: the same value, or two failures of which one is heard as the other, with what is left
of each related. -/
inductive Agree (Heard : Failure → Failure → Prop) (Related : σ → τ → Prop) :
    EStateM.Result Failure σ α → EStateM.Result Failure τ α → Prop where
  | ok {s : σ} {t : τ} (a : α) (h : Related s t) : Agree Heard Related (.ok a s) (.ok a t)
  | error {s : σ} {t : τ} {failure failure' : Failure} (hheard : Heard failure failure')
      (h : Related s t) : Agree Heard Related (.error failure s) (.error failure' t)

namespace Agree

variable {Heard : Failure → Failure → Prop} {Related : σ → τ → Prop}

/-- The two constructors of `Agree` as equations of the results. -/
theorem cases {x : EStateM.Result Failure σ α} {y : EStateM.Result Failure τ α}
    (h : Agree Heard Related x y) :
    (∃ a s t, x = .ok a s ∧ y = .ok a t ∧ Related s t) ∨
      ∃ failure failure' s t, x = .error failure s ∧ y = .error failure' t ∧
        Heard failure failure' ∧ Related s t := by
  cases h with
  | ok a h => exact .inl ⟨a, _, _, rfl, rfl, h⟩
  | error hheard h => exact .inr ⟨_, _, _, _, rfl, rfl, hheard, h⟩

end Agree

section

variable [Platform]

/-! ## Sending a message -/

namespace Net

/-- **A body is read to the same end in both manners**, up to the echo of a failure. -/
theorem Body.read_manner (body : Body) (w : Machine) :
    Agree Failure.Echoed Eq (body.read .direct w) (body.read .stepwise w) := by
  cases body with
  | held bytes => exact .ok _ rfl
  | streamed pieces spent =>
    cases spent with
    | true => exact .error (.same _) rfl
    | false =>
      rw [read_streamed, read_streamed]
      cases (Piece.drain pieces w).1.failure with
      | none => exact .ok _ rfl
      | some raised => exact .error ⟨.reading, raised, rfl, rfl⟩ rfl

/-- `exchange_run` in both manners: the body is read alike (`Body.read_manner`), and what the wire makes of
it is told as it is. -/
theorem exchange_manner (m : Message) (timeout : Float) (w : Machine) :
    Agree Failure.Echoed Eq (exchange m .direct timeout w) (exchange m .stepwise timeout w) := by
  rw [exchange_run, exchange_run]
  cases checkScheme m.url with
  | error failure => exact .error (.same _) rfl
  | ok _ =>
    simp only
    cases w.upcoming.unconnected? with
    | some failure => exact .error (.same _) rfl
    | none =>
      -- the manners part only in the reading of the body
      obtain ⟨⟨bytes, body⟩, w₁, _, hdirect, hstepwise, rfl⟩ |
        ⟨failure, failure', w₁, _, hdirect, hstepwise, hechoed, rfl⟩ :=
        (m.body.read_manner w.advanced).cases
      · simp only [hdirect, hstepwise]
        cases w.upcoming with
        | reply reply => exact .ok _ rfl
        | fails failure => exact .error (.same _) rfl
      · simp only [hdirect, hstepwise]
        exact .error hechoed rfl

/-- `Net.sendOn` agrees in both manners. Induction on the number of exchanges that are allowed, with
`exchange_manner` for one. -/
theorem sendOn_manner (timeout : Float) (follow : Bool) (left : Nat) (m : Message) (l : Link) :
    Agree Failure.Echoed Eq (sendOn .direct timeout follow left m l)
      (sendOn .stepwise timeout follow left m l) := by
  induction left generalizing m l with
  | zero => exact .error (.same _) rfl
  | succ left ih =>
    rw [sendOn_succ, sendOn_succ]
    obtain ⟨⟨reply, m'⟩, w, _, hdirect, hstepwise, rfl⟩ |
      ⟨failure, failure', w, _, hdirect, hstepwise, hechoed, rfl⟩ :=
      (exchange_manner m timeout l.machine).cases
    · simp only [hdirect, hstepwise]
      -- the same reply and the same cookies lead to the same next message
      cases redirect? (l.answered w m' reply).cookies m' reply with
      | error failure => exact .error (.same _) rfl
      | ok next =>
        cases next with
        | none => exact .ok _ rfl
        | some next =>
          cases follow with
          | true => exact ih next _
          | false => exact .ok _ rfl
    · simp only [hdirect, hstepwise]
      exact .error hechoed rfl

end Net

namespace Session

/-! ## Sessions in step -/

/-- A session in which requests are sent directly and one in which they are sent stepwise are in step:
both work on the same request with the same machine and settings, and can use their connections, which were
told the same cookies. The stepwise connection need not have come about. -/
structure InStep (s t : Session) : Prop where
  request : s.request = t.request
  machine : s.machine = t.machine
  config : s.client.config = t.client.config
  cookies : s.client.directCookies = t.client.stepwiseCookies
  direct : s.client.directOpen = true
  stepwise : t.client.stepwiseOpen ≠ some false

variable {s t : Session}

omit [Platform] in
/-- `Client.connect` finds or opens a stepwise connection that was not closed. -/
theorem connect_stepwise [Platform] {c : Client} (h : c.stepwiseOpen ≠ some false) :
    c.connect .stepwise = (true, { c with stepwiseOpen := some true }) := by
  obtain ⟨config, directOpen, stepwiseOpen⟩ := c
  cases stepwiseOpen with
  | none => rfl
  | some isOpen =>
    cases isOpen with
    | true => rfl
    | false => exact absurd rfl h

/-- The message of an attempt is made of settings and cookies, which are the same in both sessions. -/
theorem InStep.messageOf (h : s.InStep t) :
    s.client.messageOf .direct = t.client.messageOf .stepwise := by
  funext a content
  unfold Client.messageOf
  simp only [Client.usualHeaders, Client.defaultHeaders, Client.cookies, h.config, h.cookies]

/-- `onLink` keeps sessions in step if the two transfers agree. -/
theorem onLink_agree {x y : Net.Transfer α} (hagree : ∀ l, Agree Failure.Echoed Eq (x l) (y l))
    (h : s.InStep t) : Agree Failure.Echoed InStep (onLink .direct x s) (onLink .stepwise y t) := by
  obtain ⟨hrequest, hmachine, hconfig, hcookies, hdirect, hstepwise⟩ := h
  have hlink : s.link .direct = t.link .stepwise := by
    unfold link
    rw [hmachine]
    exact congrArg (Net.Link.mk t.machine) hcookies
  rw [onLink_run, onLink_run, ← hlink]
  obtain ⟨a, l, _, hx, hy, rfl⟩ | ⟨failure, failure', l, _, hx, hy, hechoed, rfl⟩ :=
    (hagree (s.link .direct)).cases
  · rw [hx, hy]
    exact .ok a ⟨hrequest, rfl, hconfig, rfl, hdirect, hstepwise⟩
  · rw [hx, hy]
    exact .error hechoed ⟨hrequest, rfl, hconfig, rfl, hdirect, hstepwise⟩

/-- **One attempt keeps two sessions in step**, wherever it fails. By cases on how far it comes. -/
theorem attempt_manner (h : s.InStep t) :
    Agree Failure.Echoed InStep (attempt .direct s) (attempt .stepwise t) := by
  have hmessage := h.messageOf
  obtain ⟨hrequest, hmachine, hconfig, hcookies, hdirect, hstepwise⟩ := h
  cases hbuild : s.request.build s.machine with
  | error raised m =>
    rw [attempt_of_error hbuild, attempt_of_error (hrequest ▸ hmachine ▸ hbuild)]
    exact .error ⟨.building, raised, rfl, rfl⟩ ⟨hrequest, rfl, hconfig, hcookies, hdirect, hstepwise⟩
  | ok built m =>
    obtain ⟨entity, r⟩ := built
    -- the stepwise client may only now come into being, with the cookies of the direct one
    have hconnected : ((s.readied entity r m).connected .direct).InStep
        ((t.readied entity r m).connected .stepwise) := by
      refine ⟨rfl, ?_, ?_, ?_, hdirect, ?_⟩
      · show stateAfter (logAttempt (s.request.attempt entity) m) = stateAfter (logAttempt _ m)
        rw [hrequest]
      · show (s.client.connect .direct).2.config = (t.client.connect .stepwise).2.config
        rw [Client.connect_config, Client.connect_config, hconfig]
      · show s.client.directCookies = (t.client.connect .stepwise).2.cookies .stepwise
        rw [Client.connect_cookies]
        exact hcookies
      · show (t.client.connect .stepwise).2.stepwiseOpen ≠ some false
        rw [connect_stepwise hstepwise]
        nofun
    have hopen : (s.client.connect .direct).1 = true := hdirect
    have hopen' : (t.client.connect .stepwise).1 = true := by rw [connect_stepwise hstepwise]
    rw [attempt_built .direct hbuild, attempt_built .stepwise (hrequest ▸ hmachine ▸ hbuild), hmessage,
      hrequest, hconfig, hopen, hopen']
    cases t.client.messageOf .stepwise (t.request.attempt entity) (entity.map Entity.content) with
    | error failure => exact .error (.same _) hconnected
    | ok message => exact onLink_agree (Net.sendOn_manner _ _ _ message) hconnected

/-- `pause` keeps sessions in step: it waits and notes. -/
theorem pause_manner (failure : Failure) (number : Nat) (h : s.InStep t) :
    ∃ s' t', pause failure number s = .ok () s' ∧ pause failure number t = .ok () t' ∧ s'.InStep t' := by
  obtain ⟨hrequest, hmachine, hconfig, hcookies, hdirect, hstepwise⟩ := h
  refine ⟨_, _, pause_run failure number s, pause_run failure number t, hrequest, ?_, hconfig, hcookies,
    hdirect, hstepwise⟩
  rw [hmachine, hconfig]

/-- **All attempts keep two sessions in step.** After each either both go on to another or neither
does. -/
theorem attempts_manner (retries number : Nat) (h : s.InStep t) :
    Agree Failure.Echoed InStep (attempts .direct retries number s)
      (attempts .stepwise retries number t) := by
  induction retries generalizing number s t with
  | zero => exact attempt_manner h
  | succ retries ih =>
    rw [attempts_succ, attempts_succ]
    obtain ⟨response, s', t', hs, ht, h⟩ | ⟨failure, failure', s', t', hs, ht, hechoed, h⟩ :=
      (attempt_manner h).cases
    · rw [hs, ht]
      exact .ok response h
    · rw [hs, ht]
      cases hretry : failure.isRetryable with
      | true =>
        -- what another attempt may mend has no other echo
        obtain rfl := hechoed.eq_of_retryable hretry
        obtain ⟨s'', t'', hpause, hpause', h⟩ := pause_manner failure' number h
        simp only [hretry, if_true]
        rw [Act.bind_run_ok hpause, Act.bind_run_ok hpause']
        exact ih (number + 1) h
      | false =>
        have hretry' : failure'.isRetryable = false := hechoed.isRetryable_eq ▸ hretry
        simp only [hretry, hretry', Bool.false_eq_true, if_false]
        exact .error hechoed h

omit [Platform] in
/-- `Stage.altered` stepwise takes in all that is altered directly. -/
theorem altered_stepwise {stage : Stage} {raised : Failure}
    (h : stage.altered .stepwise raised = false) : stage.altered .direct raised = false := by
  cases raised with
  | system fault => exact Stage.altered_system (.inl rfl) fault
  | foreign fault text =>
    cases fault with
    | stopIteration => cases h
    | _ => rfl
  | _ => rfl

/-- What comes out of the two manners of sending a request, if the same thing was raised in the last attempt
of each. Unless it is altered on the way, the same comes out. -/
def Heard (r : Request) (failure failure' : Failure) : Prop :=
  ∃ (stage : Stage) (raised : Failure),
    failure = explain r.method r.url (stage.leaving .direct raised) ∧
      failure' = explain r.method r.url (stage.leaving .stepwise raised) ∧
      (stage.altered .stepwise raised = false → failure' = failure)

omit [Platform] in
/-- What is told of the same thing is heard as what comes out of it. By `Stage.leaving_eq_self_iff` in both
manners. -/
theorem heard_of_echoed (r : Request) {failure failure' : Failure} (h : failure.Echoed failure') :
    Heard r (explain r.method r.url (leavingAttempts .direct failure))
      (explain r.method r.url (leavingAttempts .stepwise failure')) := by
  obtain ⟨stage, raised, rfl, rfl⟩ := h
  refine ⟨stage, raised, rfl, rfl, fun hkept => ?_⟩
  have hstepwise := (Stage.leaving_eq_self_iff stage .stepwise raised).mpr hkept
  have hdirect := (Stage.leaving_eq_self_iff stage .direct raised).mpr (altered_stepwise hkept)
  show explain r.method r.url (stage.leaving .stepwise raised) =
    explain r.method r.url (stage.leaving .direct raised)
  rw [hstepwise, hdirect]

/-- `Session.attempts` leaves method and address as they are (`Session.attempts_run`,
`Session.outcome_address`). -/
theorem attempts_address (manner : Net.Manner) (retries : Nat) (s : Session) :
    (stateAfter (attempts manner retries 1 s)).request.method = s.request.method ∧
      (stateAfter (attempts manner retries 1 s)).request.url = s.request.url := by
  obtain ⟨last, -, hrun⟩ := attempts_run manner s retries 0
  show (stateAfter (attempts manner retries (0 + 1) (atAttempt manner s 0))).request.method = _ ∧
    (stateAfter (attempts manner retries (0 + 1) (atAttempt manner s 0))).request.url = _
  rw [hrun]
  exact outcome_address manner s (0 + last)

/-- **Sending directly and sending stepwise agree.** From a session in which both connections can be used and
were told the same cookies they end with the same response or with what comes out of the same thing that was
raised, and leave the same request and the same machine: the same exchanges, with the same boundaries drawn,
the same waits, and the same use of every source; and the connections were told the same cookies. -/
theorem execute_manner (s : Session) (hdirect : s.client.directOpen = true)
    (hstepwise : s.client.stepwiseOpen ≠ some false)
    (hcookies : s.client.directCookies = s.client.stepwiseCookies) :
    Agree (Heard s.request) InStep (execute .direct s) (execute .stepwise s) := by
  have hsame : s.InStep s := ⟨rfl, rfl, rfl, hcookies, hdirect, hstepwise⟩
  obtain ⟨hmethod, hurl⟩ := attempts_address .direct s.client.config.maxRetries s
  unfold execute
  obtain ⟨response, s', t', hs, ht, h⟩ | ⟨failure, failure', s', t', hs, ht, hechoed, h⟩ :=
    (attempts_manner s.client.config.maxRetries 1 hsame).cases
  · rw [hs, ht]
    exact .ok response h
  · rw [hs] at hmethod hurl
    rw [hs, ht]
    have hmethod' : s'.request.method = s.request.method := hmethod
    have hurl' : s'.request.url = s.request.url := hurl
    simp only [← h.request, hmethod', hurl']
    exact .error (heard_of_echoed s.request hechoed) h

end Session

end

namespace Session

/-- A source of three bytes whose third reading fails. -/
def stumbling : Handle :=
  .custom 0
    { label := "Stumbling"
      name := fun _ => .ok "data.bin"
      mimeType := fun _ => .ok (some "application/x-data")
      size := fun _ => .ok 3
      opening := fun _ => .ok
        { content := [1, 2, 3]
          most := fun _ => some 1
          fault := fun reading => if reading = 2 then some (.system (.numbered 5 "Input/output error" none))
            else none } }

/-- The source is sent with a parameter; the server cannot be reached at first. -/
def stumblingUpload : Session :=
  { client := { config := {} }
    request :=
      { method := .post
        url := "http://example.test/upload"
        body := some { parameters := [⟨"a", some "1"⟩], files := [⟨none, "data.bin", stumbling, none⟩] } }
    machine := { script := [.fails (.network .connectError "refused")] } }

/-- `execute_manner` at a reading that fails in the second attempt, of a server that was not reached in the
first. -/
theorem execute_manner_stumbling :
    stumblingUpload.client.directOpen = true ∧ stumblingUpload.client.stepwiseOpen ≠ some false ∧
      stumblingUpload.client.directCookies = stumblingUpload.client.stepwiseCookies ∧
      Agree (Heard stumblingUpload.request) InStep (execute .direct stumblingUpload)
        (execute .stepwise stumblingUpload) :=
  ⟨rfl, nofun, rfl, execute_manner stumblingUpload rfl nofun rfl⟩

/-- The two manners need not end with the same failure: stepwise the name of the file is lost, as
`Failure.relayed` tells the timeout anew. -/
theorem execute_manner_overdue :
    overdueUpload.client.directOpen = true ∧ overdueUpload.client.stepwiseOpen ≠ some false ∧
      ∃ failure failure' s t, execute .direct overdueUpload = .error failure s ∧
        execute .stepwise overdueUpload = .error failure' t ∧
        failure.message = "POST http://example.test/upload failed: could not read request content: " ++
          "[Errno 110] Connection timed out: 'data.bin'" ∧
        failure'.message = "POST http://example.test/upload failed: could not read request content: " ++
          "[Errno 110] Connection timed out" :=
  ⟨rfl, nofun, _, _, _, _, rfl, rfl, by decide +kernel, by decide +kernel⟩

end Session

end Courier
