import Courier.Platform.Plain
import Courier.Proofs.Client.History

/-!
# The life of a client

A client sends requests in both manners and is closed in two ways, in any order. A run makes one call after
the other, each on a machine of its own, and notes every attempt to send a request, as the session in which
it began, and every closing. What is noted leads from the client before to the client after
(`Client.run_leads`), so that facts about a run are proved by induction on the notes, with one case for an
attempt and one for a closing.

A connection that is closed stays closed, and no attempt gets past it (`Client.Shut.ended`). The stepwise
connection comes about when the first attempt is handed over to it (`Client.Event.opens_iff`) and never
again. What a client does not do is to remember that it was closed: if all its connections are closed before
the stepwise one came about, that one comes about open when it is needed
(`Client.run_lifecycle_reopened`). Main statement: `Client.run_lifecycle`.
-/

namespace Courier

section

variable [Platform]

/-! ## Connections that are closed -/

namespace Client

/-- The connection of a manner is closed, and needing it does not change that. -/
def Shut (c : Client) (manner : Net.Manner) : Prop :=
  c.connect manner = (false, c)

/-- The direct connection is there from the start, so closed is all that it can be. -/
theorem shut_direct {c : Client} : c.Shut .direct ↔ c.directOpen = false := by
  unfold Shut connect
  rw [Prod.mk.injEq, and_iff_left rfl]

/-- The stepwise one is closed only if it came about; `Client.connect` opens one that did not. -/
theorem shut_stepwise {c : Client} : c.Shut .stepwise ↔ c.stepwiseOpen = some false := by
  obtain ⟨config, directOpen, stepwiseOpen⟩ := c
  cases stepwiseOpen with
  | none => exact ⟨nofun, nofun⟩
  | some isOpen => cases isOpen <;> simp [Shut, connect]

end Client

namespace Session

variable {manner : Net.Manner} {s : Session}

/-- An attempt at a closed connection has no message to give, by cases on what its build gives. -/
theorem transmitted_shut (h : s.client.Shut manner) : s.transmitted manner = none := by
  unfold transmitted
  rw [h]
  cases s.request.build s.machine with
  | error failure m => rfl
  | ok built m =>
    simp only [Bool.false_eq_true, if_false]
    split <;> rfl

/-- **An attempt at a closed connection fails**, with the client as it was and the wire untouched. -/
theorem attempt_shut (h : s.client.Shut manner) :
    ∃ failure t, attempt manner s = .error failure t ∧ t.client = s.client ∧
      t.machine.wire = s.machine.wire := by
  obtain ⟨failure, t, hresult, hwire, hclient⟩ := attempt_of_untransmitted (transmitted_shut h)
  rw [h, or_self] at hclient
  exact ⟨failure, t, hresult, hclient, hwire⟩

/-- In every attempt that is made at a closed connection the client and the wire are as they were. Induction
on the number of the attempt with `attempt_shut`. -/
theorem atAttempt_shut (h : s.client.Shut manner) (k : Nat) :
    (atAttempt manner s k).client = s.client ∧
      (atAttempt manner s k).machine.wire = s.machine.wire := by
  induction k with
  | zero => exact ⟨rfl, rfl⟩
  | succ k ih =>
    obtain ⟨hclient, hwire⟩ := ih
    obtain ⟨failure, t, hresult, hclient', hwire'⟩ := attempt_shut (hclient.symm ▸ h)
    obtain ⟨journal, waits, hleft⟩ := (atAttempt manner s k).afterPause_left manner (k + 1)
    show ((atAttempt manner s k).afterPause manner (k + 1)).client = _ ∧
      ((atAttempt manner s k).afterPause manner (k + 1)).machine.wire = _
    -- a pause has to do with neither
    rw [hleft, hresult]
    exact ⟨hclient'.trans hclient, hwire'.trans hwire⟩

/-- **Sending over a closed connection fails**, with the client as it was and the wire untouched. -/
theorem execute_shut (h : s.client.Shut manner) :
    ∃ failure t, execute manner s = .error failure t ∧ t.client = s.client ∧
      t.machine.wire = s.machine.wire := by
  obtain ⟨last, -, hexecute⟩ := execute_run manner s
  obtain ⟨hclient, hwire⟩ := atAttempt_shut h last
  obtain ⟨failure, t, hresult, hclient', hwire'⟩ := attempt_shut (hclient.symm ▸ h)
  rw [hexecute, outcome, hresult]
  exact ⟨_, t, rfl, hclient'.trans hclient, hwire'.trans hwire⟩

end Session

namespace Client

/-! ## Runs -/

/-- A call on a client: a request is sent, the client is closed in one of the two ways, or a block that
holds the client is left. -/
inductive Call where
  | send (manner : Net.Manner) (request : Request)
  | close
  | closeAll
  | leave (manner : Net.Manner)

/-- The connections that a call closes; leaving a block closes what belongs to its manner. -/
def Call.closes : Call → Net.Manner → Bool
  | send _ _, _ => false
  | close, manner | leave .direct, manner => manner = .direct
  | closeAll, _ | leave .stepwise, _ => true

omit [Platform] in
/-- By cases on the call: what closes the stepwise connection closes the direct one too. -/
theorem Call.closes_direct {call : Call} (h : call.closes .stepwise = true) :
    call.closes .direct = true := by
  cases call with
  | send manner request => cases h
  | close => rfl
  | closeAll => rfl
  | leave manner => cases manner <;> rfl

/-- What happens to a client: an attempt to send a request, or a closing, of both connections if it is
stepwise. -/
inductive Event where
  | tried (manner : Net.Manner) (start : Session)
  | closed (manner : Net.Manner)

/-- The client after it is closed in a manner. -/
def closedIn (c : Client) : Net.Manner → Client
  | .direct => { c with directOpen := false }
  | .stepwise => c.closeAll

/-- The client and the machine after a call, with a note of what happened. -/
def perform (c : Client) (m : Machine) : Call → List Event × Client × Machine
  | .send manner request =>
    let s : Session := ⟨c, request, m⟩
    ((s.tries manner).map (.tried manner), (stateAfter (s.execute manner)).client,
      (stateAfter (s.execute manner)).machine)
  | .close | .leave .direct =>
    match c.close m with
    | .ok c m => ([.closed .direct], c, m)
    | .error _ m => ([], c, m)
  | .closeAll | .leave .stepwise => ([.closed .stepwise], c.closeAll, m)

/-- Makes calls one after the other, each on a machine of its own, and notes what happens. -/
def run (c : Client) : List (Call × Machine) → List Event × Client
  | [] => ([], c)
  | (call, m) :: rest =>
    let (events, c, _) := c.perform m call
    let (others, c) := run c rest
    (events ++ others, c)

/-- Events lead from one client to another. -/
inductive Leads : Client → List Event → Client → Prop where
  | nil (c : Client) : Leads c [] c
  | tried {manner : Net.Manner} {start : Session} {c' : Client} {events : List Event}
      (rest : Leads (stateAfter (start.attempt manner)).client events c') :
      Leads start.client (.tried manner start :: events) c'
  | closed {c c' : Client} {manner : Net.Manner} {events : List Event}
      (rest : Leads (c.closedIn manner) events c') : Leads c (.closed manner :: events) c'

variable {c c' c'' : Client} {xs ys events : List Event} {manner : Net.Manner}

/-- What leads on from where others led. Induction on the first list. -/
theorem Leads.append (h : Leads c xs c') (h' : Leads c' ys c'') : Leads c (xs ++ ys) c'' := by
  induction h with
  | nil c => exact h'
  | tried rest ih => exact .tried (ih h')
  | closed rest ih => exact .closed (ih h')

/-- The machine after it was reported that the stepwise connection stays open. -/
def reported (m : Machine) : Machine :=
  { m with
    journal := m.journal.add .warning
      "Async client left open by close(); use aclose() after async sends" }

/-- `Client.close` never fails; it reports a stepwise connection that stays open. -/
theorem close_run (c : Client) (m : Machine) :
    c.close m =
      .ok (c.closedIn .direct) (if c.stepwiseOpen = some true then reported m else m) := by
  unfold close
  by_cases hopen : c.stepwiseOpen = some true
  · simp only [if_pos hopen]
    rfl
  · simp only [if_neg hopen]
    rfl

/-- The attempts up to one of them lead to the client that it leaves. Induction on their number. -/
theorem atAttempt_leads (manner : Net.Manner) (s : Session) (last : Nat) :
    Leads s.client (((List.range (last + 1)).map (Session.atAttempt manner s)).map (.tried manner))
      (stateAfter (Session.attempt manner (Session.atAttempt manner s last))).client := by
  induction last with
  | zero => exact .tried (.nil _)
  | succ last ih =>
    -- a pause leaves the client as it is
    have hnext : (stateAfter (Session.attempt manner (Session.atAttempt manner s last))).client =
        (Session.atAttempt manner s (last + 1)).client := by
      obtain ⟨journal, waits, hleft⟩ := (Session.atAttempt manner s last).afterPause_left manner (last + 1)
      show _ = ((Session.atAttempt manner s last).afterPause manner (last + 1)).client
      rw [hleft]
    rw [hnext] at ih
    rw [List.range_succ, List.map_append, List.map_append]
    exact ih.append (.tried (.nil _))

/-- `Client.perform` notes what leads from the client before the call to the client after it. By cases on the
call. -/
theorem perform_leads (c : Client) (m : Machine) (call : Call) :
    Leads c (c.perform m call).1 (c.perform m call).2.1 := by
  have hdirect : Leads c [.closed .direct] (c.closedIn .direct) := .closed (.nil _)
  have hboth : Leads c [.closed .stepwise] (c.closedIn .stepwise) := .closed (.nil _)
  cases call with
  | send manner request =>
    -- a send is the attempts up to its last one, each an event of its own
    obtain ⟨last, htries, hleft⟩ := Session.tries_run manner ⟨c, request, m⟩
    have hsent := atAttempt_leads manner ⟨c, request, m⟩ last
    rw [← htries, ← hleft] at hsent
    exact hsent
  | close =>
    simp only [perform, close_run]
    exact hdirect
  | closeAll => exact hboth
  | leave manner =>
    cases manner with
    | direct =>
      simp only [perform, close_run]
      exact hdirect
    | stepwise => exact hboth

/-- **So does what is noted in a run.** -/
theorem run_leads (c : Client) (calls : List (Call × Machine)) :
    Leads c (c.run calls).1 (c.run calls).2 := by
  induction calls generalizing c with
  | nil => exact .nil c
  | cons next rest ih =>
    obtain ⟨call, m⟩ := next
    exact (c.perform_leads m call).append (ih _)

/-! ## Closed for good -/

/-- `Client.connect` opens no connection that was closed, whichever is needed. -/
theorem Shut.connect (h : c.Shut manner) (manner' : Net.Manner) : (c.connect manner').2.Shut manner := by
  cases manner with
  | direct =>
    rw [shut_direct] at h ⊢
    cases manner' with
    | direct => exact h
    | stepwise =>
      unfold Client.connect
      cases c.stepwiseOpen <;> exact h
  | stepwise =>
    cases manner' with
    | direct => exact h
    | stepwise =>
      unfold Shut at h
      rw [h]
      exact h

/-- `Client.withCookies` has nothing to do with connections. -/
theorem Shut.withCookies (h : c.Shut manner) (manner' : Net.Manner) (cookies : Platform.Cookies) :
    (c.withCookies manner' cookies).Shut manner := by
  cases manner with
  | direct =>
    rw [shut_direct] at h ⊢
    rwa [withCookies_directOpen]
  | stepwise =>
    rw [shut_stepwise] at h ⊢
    rwa [withCookies_stepwiseOpen]

/-- `Client.closedIn` only closes. -/
theorem Shut.closedIn (h : c.Shut manner) (manner' : Net.Manner) : (c.closedIn manner').Shut manner := by
  cases manner with
  | direct =>
    rw [shut_direct]
    cases manner' <;> rfl
  | stepwise =>
    rw [shut_stepwise] at h ⊢
    cases manner' with
    | direct => exact h
    | stepwise =>
      show c.stepwiseOpen.map (fun _ => false) = some false
      rw [h, Option.map_some]

/-- **What comes after leaves it closed, and no attempt gets past it.** -/
theorem Leads.shut (hleads : Leads c events c') (h : c.Shut manner) :
    c'.Shut manner ∧ ∀ start, .tried manner start ∈ events →
      start.transmitted manner = none ∧ start.sent manner = [] := by
  induction hleads with
  | nil c => exact ⟨h, fun start hmem => absurd hmem List.not_mem_nil⟩
  | @tried manner' start c' events rest ih =>
    -- an attempt connects the client and tells it cookies, and neither opens what was closed
    have hafter : (stateAfter (start.attempt manner')).client.Shut manner := by
      obtain ⟨cookies, hclient⟩ := Session.attempt_client manner' start
      rw [hclient]
      refine Shut.withCookies ?_ manner' cookies
      split
      · exact h.connect manner'
      · exact h
    obtain ⟨hshut, hevents⟩ := ih hafter
    refine ⟨hshut, ?_⟩
    intro start' hmem
    rcases List.mem_cons.mp hmem with heq | hmem
    · cases heq
      have hnone := Session.transmitted_shut h
      exact ⟨hnone, Session.sent_of_untransmitted hnone⟩
    · exact hevents start' hmem
  | @closed c c' manner' events rest ih =>
    obtain ⟨hshut, hevents⟩ := ih (h.closedIn manner')
    refine ⟨hshut, ?_⟩
    intro start hmem
    rcases List.mem_cons.mp hmem with heq | hmem
    · cases heq
    · exact hevents start hmem

/-- The connection of a manner is closed for good: whatever is called, it stays closed, no attempt in the
manner gives a message to the wire, and sending a request in the manner fails with the wire untouched. -/
def Ended (c : Client) (manner : Net.Manner) : Prop :=
  ∀ later : List (Call × Machine),
    (c.run later).2.Shut manner ∧
    (∀ start, .tried manner start ∈ (c.run later).1 →
      start.transmitted manner = none ∧ start.sent manner = []) ∧
    ∀ request m, ∃ failure t,
      Session.execute manner ⟨(c.run later).2, request, m⟩ = .error failure t ∧ t.machine.wire = m.wire

/-- **A connection that is closed is closed for good.** -/
theorem Shut.ended (h : c.Shut manner) : c.Ended manner := by
  intro later
  obtain ⟨hshut, hevents⟩ := (c.run_leads later).shut h
  refine ⟨hshut, hevents, fun request m => ?_⟩
  obtain ⟨failure, t, hexecute, -, hwire⟩ :=
    Session.execute_shut (s := ⟨(c.run later).2, request, m⟩) hshut
  exact ⟨failure, t, hexecute, hwire⟩

/-! ## The stepwise connection -/

/-- Whether the stepwise connection comes about in an event. -/
def Event.opens : Event → Bool
  | tried manner start =>
    start.client.stepwiseOpen.isNone && (stateAfter (start.attempt manner)).client.stepwiseOpen.isSome
  | closed _ => false

/-- The stepwise connection after an attempt (`attempt_client`): it comes about, open, if the attempt is
handed over to it. -/
theorem attempt_stepwise (manner : Net.Manner) (s : Session) :
    (stateAfter (s.attempt manner)).client.stepwiseOpen =
      if manner = .stepwise ∧ s.built then s.client.stepwiseOpen.or (some true)
      else s.client.stepwiseOpen := by
  obtain ⟨cookies, hclient⟩ := Session.attempt_client manner s
  rw [hclient, withCookies_stepwiseOpen]
  cases s.built with
  | false => simp
  | true =>
    cases manner with
    | direct => simp [Client.connect]
    | stepwise =>
      simp only [and_self, if_true, Client.connect]
      cases hopen : s.client.stepwiseOpen with
      | none => rfl
      | some isOpen => exact hopen

/-- **The stepwise connection comes about in the first attempt that is handed over to it.** -/
theorem Event.opens_iff {start : Session} :
    (tried manner start).opens = true ↔
      manner = .stepwise ∧ start.client.stepwiseOpen = none ∧ start.built = true := by
  show (start.client.stepwiseOpen.isNone && (stateAfter (start.attempt manner)).client.stepwiseOpen.isSome) =
    true ↔ _
  rw [attempt_stepwise]
  cases start.client.stepwiseOpen with
  | some isOpen => simp
  | none =>
    by_cases hbuilt : manner = .stepwise ∧ start.built
    · simp [hbuilt]
    · simp only [if_neg hbuilt, Option.isSome_none, Bool.and_false, Bool.false_eq_true, true_and,
        false_iff]
      exact hbuilt

/-- `Event.opens` of an attempt: the connection comes about in it, or is left as it is. -/
theorem Event.opens_cases (manner : Net.Manner) (start : Session) :
    ((tried manner start).opens = true ∧ start.client.stepwiseOpen = none ∧
        (stateAfter (start.attempt manner)).client.stepwiseOpen = some true) ∨
      ((tried manner start).opens = false ∧
        (stateAfter (start.attempt manner)).client.stepwiseOpen = start.client.stepwiseOpen) := by
  have hafter := attempt_stepwise manner start
  cases hopens : (tried manner start).opens with
  | true =>
    obtain ⟨hmanner, hnone, hbuilt⟩ := opens_iff.mp hopens
    rw [if_pos ⟨hmanner, hbuilt⟩, hnone] at hafter
    exact .inl ⟨rfl, hnone, hafter⟩
  | false =>
    refine .inr ⟨rfl, hafter.trans ?_⟩
    split
    · next hbuilt =>
      -- handed over, but not to a new connection
      cases hopen : start.client.stepwiseOpen with
      | some isOpen => rfl
      | none =>
        have hnew := opens_iff.mpr ⟨hbuilt.1, hopen, hbuilt.2⟩
        rw [hopens] at hnew
        cases hnew
    · rfl

/-- How many stepwise connections a client has: none before it came about, then one. -/
def connections (c : Client) : Nat := c.stepwiseOpen.isSome.toNat

/-- **A stepwise connection comes about in as many events as there are more of them afterwards.** -/
theorem Leads.connections (h : Leads c events c') :
    c.connections + events.countP Event.opens = c'.connections := by
  induction h with
  | nil c => rfl
  | @tried manner start c' events rest ih =>
    unfold Client.connections at ih ⊢
    rw [← ih]
    -- the one attempt that opens finds no client before it and leaves one after it
    rcases Event.opens_cases manner start with ⟨hopens, hnone, hafter⟩ | ⟨hopens, hafter⟩
    · rw [List.countP_cons_of_pos hopens, hnone, hafter]
      simp only [Option.isSome_none, Option.isSome_some, Bool.toNat_false, Bool.toNat_true]
      omega
    · rw [List.countP_cons_of_neg (by rw [hopens]; nofun), hafter]
  | @closed c c' manner events rest ih =>
    have hstep : (c.closedIn manner).connections = c.connections := by
      cases manner with
      | direct => rfl
      | stepwise => exact congrArg Bool.toNat (Option.isSome_map ..)
    rw [List.countP_cons_of_neg (by simp [Event.opens]), ← ih, hstep]

/-- The stepwise connection came about in one of some events, and was not closed after that. -/
def StillOpen (events : List Event) : Prop :=
  ∃ before event after, events = before ++ event :: after ∧ event.opens = true ∧
    .closed .stepwise ∉ after

/-- Either the first event opened the connection and none of the others closed it, or it is still open from
one of the others. -/
theorem stillOpen_cons {event : Event} :
    StillOpen (event :: events) ↔
      event.opens = true ∧ .closed .stepwise ∉ events ∨ StillOpen events := by
  constructor
  · rintro ⟨before, event', after, heq, hopens, hafter⟩
    cases before with
    | nil =>
      cases heq
      exact .inl ⟨hopens, hafter⟩
    | cons first before =>
      cases heq
      exact .inr ⟨before, event', after, rfl, hopens, hafter⟩
  · rintro (⟨hopens, hafter⟩ | ⟨before, event', after, rfl, hopens, hafter⟩)
    · exact ⟨[], event, events, rfl, hopens, hafter⟩
    · exact ⟨event :: before, event', after, rfl, hopens, hafter⟩

/-- **The stepwise connection is open if it came about and was not closed since.** -/
theorem Leads.stepwise (h : Leads c events c') :
    c'.stepwiseOpen = some true ↔
      (c.stepwiseOpen = some true ∧ .closed .stepwise ∉ events) ∨ StillOpen events := by
  induction h with
  | nil c =>
    -- without events the client is as it was
    have hnil : ¬ StillOpen [] := by
      rintro ⟨before, event, after, heq, -⟩
      cases before <;> cases heq
    simp only [List.not_mem_nil, not_false_eq_true, and_true, hnil, or_false]
  | @tried manner start c' events rest ih =>
    rw [ih, stillOpen_cons, List.mem_cons]
    rcases Event.opens_cases manner start with ⟨hopens, hnone, hafter⟩ | ⟨hopens, hafter⟩
    · simp [hopens, hnone, hafter]
    · simp [hopens, hafter]
  | @closed c c' manner events rest ih =>
    rw [ih, stillOpen_cons, List.mem_cons]
    have hopens : (Event.closed manner).opens = false := rfl
    cases manner with
    | direct => simp [hopens, closedIn]
    | stepwise => simp [hopens, closedIn, closeAll]

/-! ## The life of a client -/

/-- `Client.perform` of a call that closes is `Client.closedIn`, in one of the two ways. -/
theorem perform_closes {call : Call} (hcall : call.closes .direct = true) (m : Machine) :
    (c.perform m call).2 =
      if call.closes .stepwise then (c.closedIn .stepwise, m)
      else (c.closedIn .direct, if c.stepwiseOpen = some true then reported m else m) := by
  cases call with
  | send manner request => cases hcall
  | close => simp only [perform, close_run]; rfl
  | closeAll => rfl
  | leave manner =>
    cases manner with
    | direct => simp only [perform, close_run]; rfl
    | stepwise => rfl

/-- **The life of a client.** At any time in a run that begins with a new client: a call that closes the
direct connection closes it for good, and so does a call that closes both, the stepwise one too if that has
come about; no connection that is closed is ever open again. A stepwise connection comes about once at most,
and it is open if it came about and was not closed since. Closing the direct connection alone reports a
stepwise one that is open, and only such a one. -/
theorem run_lifecycle (config : Config) (calls : List (Call × Machine)) :
    let events := (({ config } : Client).run calls).1
    let c := (({ config } : Client).run calls).2
    (∀ call m, call.closes .direct = true → (c.perform m call).2.1.Ended .direct) ∧
    (∀ call m, call.closes .stepwise = true → (∃ event ∈ events, event.opens = true) →
      (c.perform m call).2.1.Ended .stepwise) ∧
    (∀ manner, c.Shut manner → c.Ended manner) ∧
    events.countP Event.opens ≤ 1 ∧
    (c.stepwiseOpen = some true ↔ StillOpen events) ∧
    ∀ call m, call.closes .direct = true → call.closes .stepwise = false →
      (StillOpen events → (c.perform m call).2.2 = reported m) ∧
      (¬ StillOpen events → (c.perform m call).2.2 = m) := by
  intro events c
  have hleads : Leads { config } events c := run_leads _ calls
  have hcount : events.countP Event.opens = c.connections := by
    rw [← hleads.connections]
    exact (Nat.zero_add _).symm
  have hopen : c.stepwiseOpen = some true ↔ StillOpen events := by
    rw [hleads.stepwise]
    simp only [reduceCtorEq, false_and, false_or]
  refine ⟨?_, ?_, fun manner hshut => hshut.ended, ?_, hopen, ?_⟩
  · intro call m hcall
    apply Shut.ended
    rw [shut_direct, perform_closes hcall]
    cases call.closes .stepwise <;> rfl
  · rintro call m hcall ⟨event, hevent, hopens⟩
    have hdirect := Call.closes_direct hcall
    -- the connection has come about, so that there is one to be closed
    have hone : 0 < c.connections := by
      rw [← hcount, List.countP_pos_iff]
      exact ⟨event, hevent, hopens⟩
    apply Shut.ended
    rw [shut_stepwise, perform_closes hdirect, hcall]
    show c.stepwiseOpen.map (fun _ => false) = some false
    unfold connections at hone
    cases hstepwise : c.stepwiseOpen with
    | none =>
      rw [hstepwise] at hone
      cases hone
    | some isOpen => rfl
  · rw [hcount]
    exact Bool.toNat_le _
  · intro call m hdirect hstepwise
    rw [perform_closes hdirect, hstepwise, ← hopen]
    constructor
    · intro h
      exact if_pos h
    · intro h
      exact if_neg h

end Client

end

namespace Client

/-- A request for a page. -/
def pageRequest : Request := .create .get "http://localhost/"

/-- `run_lifecycle` at a page that is asked for stepwise, and then all is closed. -/
theorem run_lifecycle_page :
    let c := (({ config := {} } : Client).run [(.send .stepwise pageRequest, {})]).2
    Call.closeAll.closes .stepwise = true ∧ (c.perform {} .closeAll).2.1.Ended .direct ∧
      (c.perform {} .closeAll).2.1.Ended .stepwise := by
  intro c
  obtain ⟨hdirect, hstepwise, -⟩ := run_lifecycle {} [(.send .stepwise pageRequest, {})]
  refine ⟨rfl, hdirect .closeAll {} rfl, hstepwise .closeAll {} rfl ?_⟩
  -- the first attempt is handed over
  obtain ⟨others, htries⟩ := Session.tries_cons .stepwise ⟨{ config := {} }, pageRequest, {}⟩
  refine ⟨.tried .stepwise ⟨{ config := {} }, pageRequest, {}⟩, ?_, Event.opens_iff.mpr ⟨rfl, rfl, rfl⟩⟩
  simp only [run, perform, htries, List.map_cons, List.cons_append, List.mem_cons, true_or]

/-- If all is closed before anything was sent stepwise, the stepwise connection still comes about: the page is
asked for after the closing, and the connection is open then. -/
theorem run_lifecycle_reopened :
    let c := (({ config := {} } : Client).run [(.closeAll, {})]).2
    let after := stateAfter (Session.execute .stepwise ⟨c, pageRequest, {}⟩)
    after.machine.sent.length = 1 ∧ after.client.stepwiseOpen = some true := by
  decide +kernel

end Client

end Courier
