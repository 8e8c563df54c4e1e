import Courier.Proofs.Net.Transmission

/-!
# One attempt

An attempt builds the entity of the request, and what it consists of is handed to the client
(`Session.handOver`). If no entity can be built the attempt ends there (`Session.attempt_of_error`); else
the client gets it once, with the content of the entity that was just built (`Session.attempt_of_ok`).

From the outside an attempt is known by what it leaves. The request is the one that the build left
(`Session.attempt_request`), the settings of the client stay (`Session.attempt_keeps_config`), and nothing
is waited for (`Session.attempt_keeps_waits`). What it adds to `Machine.sent` (`Session.sent`) begins with
the one message that it gives to the wire (`Session.attempt_sends`); and it fails with what is told of
something that was raised in it, at one of its stages (`Session.attempt_error_iff`).
-/

namespace Courier

section

variable [Platform]

/-! ## Building requests -/

namespace Request

variable {r r' : Request} {m m' : Machine} {entity : Option Entity}

/-- `Request.build` is the build of the body, or nothing where there is none. -/
theorem build_cases (h : r.build m = .ok (entity, r') m') :
    (r.body = none ∧ entity = none ∧ r' = r ∧ m' = m) ∨
      ∃ b b', r.body = some b ∧ b.build m = .ok (entity, b') m' ∧
        r' = { r with body := some b' } := by
  unfold build at h
  cases hbody : r.body with
  | none =>
    rw [hbody] at h
    cases h
    exact .inl ⟨rfl, rfl, rfl, rfl⟩
  | some b =>
    rw [hbody] at h
    obtain ⟨⟨e, b'⟩, m₁, hb, h⟩ := Act.bind_eq_ok.mp h
    obtain ⟨heq, rfl⟩ := Act.pure_eq_ok.mp h
    cases heq
    exact .inr ⟨b, b', rfl, hb, rfl⟩

/-- What a body builds was not taken yet (`Builder.build_unconsumed`). -/
theorem build_unconsumed {e : Entity} (h : r.build m = .ok (some e, r') m') : e.consumed = false := by
  obtain ⟨-, hnone, -, -⟩ | ⟨b, b', -, hb, -⟩ := build_cases h
  · cases hnone
  · exact Builder.build_unconsumed hb

/-- `Request.build` changes nothing but the body. -/
theorem build_address (h : r.build m = .ok (entity, r') m') :
    r'.method = r.method ∧ r'.url = r.url ∧ r'.headers = r.headers := by
  obtain ⟨-, -, rfl, -⟩ | ⟨b, b', -, -, rfl⟩ := build_cases h
  · exact ⟨rfl, rfl, rfl⟩
  · exact ⟨rfl, rfl, rfl⟩

/-- So what an attempt consists of is the same for the request before and after the build. -/
theorem build_attempt (h : r.build m = .ok (entity, r') m') : r'.attempt entity = r.attempt entity := by
  obtain ⟨hmethod, hurl, hheaders⟩ := build_address h
  unfold attempt
  rw [hmethod, hurl, hheaders]

end Request

/-! ## The client -/

namespace Client

variable (c : Client) (manner : Net.Manner) (cookies : Platform.Cookies)

/-- A connection that comes about is one of the same client. -/
@[simp] theorem connect_config : (c.connect manner).2.config = c.config := by
  cases manner with
  | direct => rfl
  | stepwise =>
    unfold connect
    cases c.stepwiseOpen <;> rfl

/-- Connecting leaves the cookies of either manner alone. -/
@[simp] theorem connect_cookies : (c.connect manner).2.cookies manner = c.cookies manner := by
  cases manner with
  | direct => rfl
  | stepwise =>
    unfold connect
    cases c.stepwiseOpen <;> rfl

@[simp] theorem withCookies_config : (c.withCookies manner cookies).config = c.config := by
  cases manner <;> rfl

@[simp] theorem withCookies_directOpen : (c.withCookies manner cookies).directOpen = c.directOpen := by
  cases manner <;> rfl

@[simp] theorem withCookies_stepwiseOpen :
    (c.withCookies manner cookies).stepwiseOpen = c.stepwiseOpen := by
  cases manner <;> rfl

/-- To give a client the cookies that it has is to leave it. -/
theorem withCookies_cookies : c.withCookies manner (c.cookies manner) = c := by
  cases manner <;> rfl

/-- The message that a client makes of an attempt and its content. -/
def messageOf (a : Attempt) (content : Option Content) : Except Failure Net.Message :=
  (Net.Message.prepare a.method.name a.url c.usualHeaders a.headers (c.cookies manner)
    (.ofContent content)).map Net.Message.authorize

/-- Its body is that content. -/
theorem messageOf_body {a : Attempt} {content : Option Content} {message : Net.Message}
    (h : c.messageOf manner a content = .ok message) : message.body = .ofContent content := by
  unfold messageOf Net.Message.prepare at h
  split at h
  · cases h
  · split at h
    · cases h
    · simp only at h
      split at h
      · cases h
      · -- the header that tells user and password is added beside the body
        cases h
        unfold Net.Message.authorize
        split <;> rfl

/-- It has nothing to do with whether the connection came about. -/
@[simp] theorem connect_messageOf : (c.connect manner).2.messageOf manner = c.messageOf manner := by
  funext a content
  unfold messageOf
  simp only [usualHeaders, defaultHeaders, connect_config, connect_cookies]

end Client

namespace Session

variable {α : Type} {manner : Net.Manner} {s : Session}

/-! ### Work on the machine and over a connection -/

/-- `onMachine` keeps the client and the request, and takes over the machine. -/
theorem onMachine_ok {act : Act α} {a : α} {m : Machine} (h : act s.machine = .ok a m) :
    onMachine act s = .ok a { s with machine := m } := by
  unfold onMachine
  rw [h]

/-- A failure on the machine leaves what it did there. -/
theorem onMachine_error {act : Act α} {failure : Failure} {m : Machine}
    (h : act s.machine = .error failure m) :
    onMachine act s = .error failure { s with machine := m } := by
  unfold onMachine
  rw [h]

/-- The connection of a manner of sending. -/
def link (s : Session) (manner : Net.Manner) : Net.Link := ⟨s.machine, s.client.cookies manner⟩

/-- The session with another state of the connection. -/
def withLink (s : Session) (manner : Net.Manner) (l : Net.Link) : Session :=
  { s with machine := l.machine, client := s.client.withCookies manner l.cookies }

/-- Work over a connection leaves what it leaves of the connection, and the rest as it was. -/
theorem onLink_run (manner : Net.Manner) (transfer : Net.Transfer α) (s : Session) :
    onLink manner transfer s =
      match transfer (s.link manner) with
      | .ok a l => .ok a (s.withLink manner l)
      | .error failure l => .error failure (s.withLink manner l) := by
  unfold onLink link
  cases transfer ⟨s.machine, s.client.cookies manner⟩ <;> rfl

/-- What is left after work over a connection, whether it failed or not. -/
theorem stateAfter_onLink (manner : Net.Manner) (transfer : Net.Transfer α) (s : Session) :
    stateAfter (onLink manner transfer s) =
      s.withLink manner (stateAfter (transfer (s.link manner))) := by
  rw [onLink_run]
  cases transfer (s.link manner) <;> rfl

/-- Work over a connection fails exactly with what the transfer fails with. -/
theorem onLink_error_iff {transfer : Net.Transfer α} {failure : Failure} :
    (∃ t, onLink manner transfer s = .error failure t) ↔
      ∃ l, transfer (s.link manner) = .error failure l := by
  rw [onLink_run]
  cases transfer (s.link manner) with
  | ok a l => exact ⟨fun ⟨_, h⟩ => (nomatch h), fun ⟨_, h⟩ => (nomatch h)⟩
  | error own l =>
    constructor
    · rintro ⟨t, ⟨⟩⟩
      exact ⟨l, rfl⟩
    · rintro ⟨_, ⟨⟩⟩
      exact ⟨_, rfl⟩

/-! ### Handing over to the client -/

/-- The session in which the connection that is needed has come about. -/
def connected (s : Session) (manner : Net.Manner) : Session :=
  { s with client := (s.client.connect manner).2 }

/-- Hands an attempt to the client, with the content that goes with it. -/
def handOver (manner : Net.Manner) (a : Courier.Attempt) (content : Option Content) : Work Response :=
  fun s =>
    match s.client.messageOf manner a content with
    | .error failure => .error failure (s.connected manner)
    | .ok message =>
      if (s.client.connect manner).1 then
        onLink manner (Net.transmit manner (a.timeout.getD s.client.config.timeout)
          s.client.config.followRedirects message) (s.connected manner)
      else .error .clientClosed (s.connected manner)

/-- `handOver` spelled out: the connection, the message, and its transmission if the connection is open. -/
theorem handOver_eq (manner : Net.Manner) (a : Courier.Attempt) (content : Option Content) :
    handOver manner a content = (do
      let (isOpen, client) := (← get).client.connect manner
      modify fun s => { s with client }
      let timeout := a.timeout.getD client.config.timeout
      let message ← onMachine <| Act.ofExcept <|
        Net.Message.prepare a.method.name a.url client.usualHeaders a.headers (client.cookies manner)
          (.ofContent content)
      if isOpen then
        onLink manner (Net.transmit manner timeout client.config.followRedirects message.authorize)
      else throw .clientClosed) := by
  funext s
  -- connecting changes neither the message nor the settings, so both can be taken before it or after it
  have hmessage := congrFun (congrFun (s.client.connect_messageOf manner) a) content
  have hconfig := s.client.connect_config manner
  unfold handOver connected
  rw [← hmessage, ← hconfig]
  show _ = (match s.client.connect manner with
    | (isOpen, client) => (do
      let message ← onMachine <| Act.ofExcept <|
        Net.Message.prepare a.method.name a.url client.usualHeaders a.headers (client.cookies manner)
          (.ofContent content)
      if isOpen then
        onLink manner (Net.transmit manner (a.timeout.getD client.config.timeout)
          client.config.followRedirects message.authorize)
      else throw Failure.clientClosed : Work Response) { s with client })
  obtain ⟨isOpen, client⟩ := s.client.connect manner
  simp only [Client.messageOf]
  cases Net.Message.prepare a.method.name a.url client.usualHeaders a.headers (client.cookies manner)
      (.ofContent content) with
  | error failure => rfl
  | ok message => cases isOpen <;> rfl

/-- What is handed over is transmitted, unless no message can be made of it or the connection is closed. -/
theorem handOver_cases (manner : Net.Manner) (a : Courier.Attempt) (content : Option Content)
    (s : Session) :
    (∃ failure, handOver manner a content s = .error failure (s.connected manner)) ∨
      ∃ message, handOver manner a content s =
        onLink manner (Net.transmit manner (a.timeout.getD s.client.config.timeout)
          s.client.config.followRedirects message) (s.connected manner) := by
  unfold handOver
  cases s.client.messageOf manner a content with
  | error failure => exact .inl ⟨failure, rfl⟩
  | ok message =>
    cases (s.client.connect manner).1 with
    | true => exact .inr ⟨message, rfl⟩
    | false => exact .inl ⟨.clientClosed, rfl⟩

/-- All that handing over changes is the machine, the cookies, and whether the connection came about. -/
theorem handOver_left (manner : Net.Manner) (a : Courier.Attempt) (content : Option Content)
    (s : Session) :
    ∃ l : Net.Link, stateAfter (handOver manner a content s) = (s.connected manner).withLink manner l ∧
      l.machine.waits = s.machine.waits := by
  obtain ⟨failure, h⟩ | ⟨message, h⟩ := handOver_cases manner a content s
  · refine ⟨(s.connected manner).link manner, ?_, rfl⟩
    rw [h]
    unfold withLink link
    rw [Client.withCookies_cookies]
    rfl
  · refine ⟨_, by rw [h, stateAfter_onLink], ?_⟩
    exact Net.transmit_keepsWaits manner _ _ message ((s.connected manner).link manner)

/-! ### The attempt -/

/-- **An attempt is a build, a note in the journal, and at most one handing over.** -/
theorem attempt_eq (manner : Net.Manner) : attempt manner = (do
    let entity ← buildEntity manner
    let a := (← get).request.attempt entity
    onMachine (logAttempt a)
    let content ← onMachine (Act.ofExcept (contentOf entity))
    handOver manner a content) := by
  unfold attempt
  simp only [handOver_eq]

/-- A build of the request, seen from the session. -/
theorem buildEntity_ok {entity : Option Entity} {r : Request} {m : Machine}
    (h : s.request.build s.machine = .ok (entity, r) m) :
    buildEntity manner s = .ok entity { s with request := r, machine := m } := by
  show (onMachine (manner.perform s.request.build) >>= _) s = _
  rw [Act.bind_run_ok (onMachine_ok (Net.Manner.perform_ok h))]
  rfl

/-- What the build raises is told as the manner of sending tells it (`Net.Manner.told`). -/
theorem buildEntity_error {failure : Failure} {m : Machine}
    (h : s.request.build s.machine = .error failure m) :
    buildEntity manner s = .error (manner.told failure) { s with machine := m } := by
  show (onMachine (manner.perform s.request.build) >>= _) s = _
  rw [Act.bind_run_error (onMachine_error (Net.Manner.perform_error h))]

omit [Platform] in
/-- Noting an attempt never fails. -/
theorem logAttempt_ok (a : Courier.Attempt) (m : Machine) :
    logAttempt a m = .ok () (stateAfter (logAttempt a m)) := by
  unfold logAttempt
  cases a.content <;> rfl

omit [Platform] in
/-- All that is left of it stands in the journal. -/
theorem logAttempt_left (a : Courier.Attempt) (m : Machine) :
    ∃ journal, stateAfter (logAttempt a m) = { m with journal } := by
  unfold logAttempt
  cases a.content <;> exact ⟨_, rfl⟩

omit [Platform] in
/-- The content of an entity that was not taken yet can be. -/
theorem contentOf_ok {entity : Option Entity} (h : ∀ e, entity = some e → e.consumed = false) :
    contentOf entity = .ok (entity.map Entity.content) := by
  cases entity with
  | none => rfl
  | some e =>
    simp only [contentOf, Entity.take, h e rfl, Bool.false_eq_true, if_false]
    rfl

/-- **If no entity can be built, the attempt ends there.** -/
theorem attempt_of_error {failure : Failure} {m : Machine}
    (h : s.request.build s.machine = .error failure m) :
    attempt manner s = .error (manner.told failure) { s with machine := m } := by
  rw [attempt_eq, Act.bind_run_error (buildEntity_error h)]

/-- The session in which an attempt is handed over: the request was built and the attempt is in the
journal. -/
def readied (s : Session) (entity : Option Entity) (r : Request) (m : Machine) : Session :=
  { s with request := r, machine := stateAfter (logAttempt (s.request.attempt entity) m) }

/-- **Else what the attempt consists of is handed to the client**, with the content of the entity that
was just built. -/
theorem attempt_of_ok {entity : Option Entity} {r : Request} {m : Machine}
    (h : s.request.build s.machine = .ok (entity, r) m) :
    attempt manner s =
      handOver manner (s.request.attempt entity) (entity.map Entity.content)
        (s.readied entity r m) := by
  have hcontent : contentOf entity = .ok (entity.map Entity.content) :=
    contentOf_ok fun e he => Request.build_unconsumed (he ▸ h)
  unfold readied
  rw [← Request.build_attempt h, attempt_eq, Act.bind_run_ok (buildEntity_ok h)]
  show (onMachine (logAttempt (r.attempt entity)) >>= _) _ = _
  rw [Act.bind_run_ok (onMachine_ok (logAttempt_ok _ _)), hcontent]
  rfl

/-- The same with the handing over written out. The client is the one from before the build. -/
theorem attempt_built (manner : Net.Manner) {entity : Option Entity} {r : Request} {m : Machine}
    (h : s.request.build s.machine = .ok (entity, r) m) :
    attempt manner s =
      match s.client.messageOf manner (s.request.attempt entity) (entity.map Entity.content) with
      | .error failure => .error failure ((s.readied entity r m).connected manner)
      | .ok message =>
        if (s.client.connect manner).1 then
          onLink manner (Net.transmit manner s.client.config.timeout s.client.config.followRedirects
            message) ((s.readied entity r m).connected manner)
        else .error .clientClosed ((s.readied entity r m).connected manner) :=
  attempt_of_ok h

/-- What has nothing to do with sources, boundaries and the journal is as it was before the build. -/
theorem readied_keeps {τ : Type} {part : Machine → τ} (hpart : Machine.Aside part)
    {entity : Option Entity} {r : Request} {m : Machine}
    (h : s.request.build s.machine = .ok (entity, r) m) :
    part (s.readied entity r m).machine = part s.machine := by
  have hbuild := s.request.build_keeps hpart s.machine
  rw [h] at hbuild
  obtain ⟨journal, hlog⟩ := logAttempt_left (s.request.attempt entity) m
  show part (stateAfter (logAttempt (s.request.attempt entity) m)) = _
  rw [hlog, hpart.journal]
  exact hbuild

/-! ## What an attempt leaves -/

/-- The request after a build of it, whether an entity came of it or not. -/
def rebuilt (s : Session) : Request :=
  match s.request.build s.machine with
  | .ok (_, r) _ => r
  | .error _ _ => s.request

/-- Whether an entity can be built, or none is needed. -/
def built (s : Session) : Bool :=
  match s.request.build s.machine with
  | .ok _ _ => true
  | .error _ _ => false

/-- Method, address and headers are as before, by `Request.build_address` or because nothing was built. -/
theorem rebuilt_address (s : Session) :
    s.rebuilt.method = s.request.method ∧ s.rebuilt.url = s.request.url ∧
      s.rebuilt.headers = s.request.headers := by
  unfold rebuilt
  cases h : s.request.build s.machine with
  | ok built m =>
    obtain ⟨entity, r⟩ := built
    exact Request.build_address h
  | error failure m => exact ⟨rfl, rfl, rfl⟩

/-- **The request after an attempt is the one that its build left.** -/
theorem attempt_request (manner : Net.Manner) (s : Session) :
    (stateAfter (attempt manner s)).request = s.rebuilt := by
  unfold rebuilt
  cases h : s.request.build s.machine with
  | error failure m =>
    rw [attempt_of_error h]
    rfl
  | ok built m =>
    obtain ⟨entity, r⟩ := built
    obtain ⟨l, hleft, -⟩ := handOver_left manner (s.request.attempt entity) (entity.map Entity.content)
      (s.readied entity r m)
    rw [attempt_of_ok h, hleft]
    rfl

/-- The settings of the client stay as they are. -/
theorem attempt_keeps_config (manner : Net.Manner) :
    Keeps (fun s : Session => s.client.config) (attempt manner) := by
  intro s
  cases h : s.request.build s.machine with
  | error failure m =>
    rw [attempt_of_error h]
    rfl
  | ok built m =>
    obtain ⟨entity, r⟩ := built
    obtain ⟨l, hleft, -⟩ := handOver_left manner (s.request.attempt entity) (entity.map Entity.content)
      (s.readied entity r m)
    rw [attempt_of_ok h, hleft]
    simp [withLink, connected, readied]

/-- The client after an attempt: it has its connection if an entity could be built, and may have been told
cookies. -/
theorem attempt_client (manner : Net.Manner) (s : Session) :
    ∃ cookies, (stateAfter (attempt manner s)).client =
      (if s.built then (s.client.connect manner).2 else s.client).withCookies manner cookies := by
  unfold built
  cases h : s.request.build s.machine with
  | error failure m =>
    refine ⟨s.client.cookies manner, ?_⟩
    rw [attempt_of_error h, if_neg Bool.false_ne_true, Client.withCookies_cookies]
    rfl
  | ok built m =>
    obtain ⟨entity, r⟩ := built
    obtain ⟨l, hleft, -⟩ := handOver_left manner (s.request.attempt entity) (entity.map Entity.content)
      (s.readied entity r m)
    refine ⟨l.cookies, ?_⟩
    rw [attempt_of_ok h, hleft]
    rfl

/-- Nothing is waited for in an attempt. -/
theorem attempt_keeps_waits (manner : Net.Manner) :
    Keeps (fun s : Session => s.machine.waits) (attempt manner) := by
  intro s
  cases h : s.request.build s.machine with
  | error failure m =>
    have hbuild := s.request.build_keeps Machine.aside_waits s.machine
    rw [h] at hbuild
    rw [attempt_of_error h]
    exact hbuild
  | ok built m =>
    obtain ⟨entity, r⟩ := built
    obtain ⟨l, hleft, hwaits⟩ := handOver_left manner (s.request.attempt entity)
      (entity.map Entity.content) (s.readied entity r m)
    rw [attempt_of_ok h, hleft]
    exact hwaits.trans (readied_keeps Machine.aside_waits h)

/-! ## What an attempt gives to the wire -/

/-- The exchanges that an attempt adds to those before it. -/
def sent (manner : Net.Manner) (s : Session) : List Net.Exchange :=
  (stateAfter (attempt manner s)).machine.sent.drop s.machine.sent.length

/-- The message that an attempt gives to the wire, if it comes to that: an entity can be built, a message
can be made of the attempt, and the connection is open. -/
def transmitted (manner : Net.Manner) (s : Session) : Option Net.Message :=
  match s.request.build s.machine with
  | .error _ _ => none
  | .ok (entity, _) _ =>
    match s.client.messageOf manner (s.request.attempt entity) (entity.map Entity.content) with
    | .error _ => none
    | .ok message => if (s.client.connect manner).1 then some message else none

/-- `transmitted` after a build that succeeded. -/
theorem transmitted_of_ok {entity : Option Entity} {r : Request} {m : Machine}
    (h : s.request.build s.machine = .ok (entity, r) m) :
    s.transmitted manner =
      match s.client.messageOf manner (s.request.attempt entity) (entity.map Entity.content) with
      | .error _ => none
      | .ok message => if (s.client.connect manner).1 then some message else none := by
  unfold transmitted
  rw [h]

/-- **An attempt with a message is its transmission** over the connection. -/
theorem attempt_of_transmitted {message : Net.Message} (h : s.transmitted manner = some message) :
    ∃ entity r m, s.request.build s.machine = .ok (entity, r) m ∧
      s.client.messageOf manner (s.request.attempt entity) (entity.map Entity.content) = .ok message ∧
      (s.client.connect manner).1 = true ∧
      attempt manner s =
        onLink manner (Net.transmit manner s.client.config.timeout s.client.config.followRedirects message)
          ((s.readied entity r m).connected manner) := by
  cases hbuild : s.request.build s.machine with
  | error failure m =>
    unfold transmitted at h
    rw [hbuild] at h
    cases h
  | ok built m =>
    obtain ⟨entity, r⟩ := built
    rw [transmitted_of_ok hbuild] at h
    -- `transmitted` is `some` only behind all three: the build, the message and the open client
    cases hmessage : s.client.messageOf manner (s.request.attempt entity)
        (entity.map Entity.content) with
    | error failure =>
      rw [hmessage] at h
      cases h
    | ok own =>
      rw [hmessage] at h
      simp only at h
      cases hopen : (s.client.connect manner).1 with
      | false =>
        rw [hopen] at h
        cases h
      | true =>
        rw [hopen, if_pos rfl] at h
        cases h
        refine ⟨entity, r, m, rfl, hmessage, rfl, ?_⟩
        rw [attempt_built manner hbuild, hmessage]
        exact if_pos hopen

/-- **An attempt without one fails**, with the wire untouched; all that may happen to the client is that the
connection comes about. -/
theorem attempt_of_untransmitted (h : s.transmitted manner = none) :
    ∃ failure t, attempt manner s = .error failure t ∧ t.machine.wire = s.machine.wire ∧
      (t.client = s.client ∨ t.client = (s.client.connect manner).2) := by
  cases hbuild : s.request.build s.machine with
  | error failure m =>
    have hbuilt := s.request.build_keeps Machine.aside_wire s.machine
    rw [hbuild] at hbuilt
    exact ⟨_, _, attempt_of_error hbuild, hbuilt, .inl rfl⟩
  | ok built m =>
    obtain ⟨entity, r⟩ := built
    -- building and connecting leave the wire alone, and the attempt ends before anything else
    have hwire := readied_keeps Machine.aside_wire hbuild
    have hrun := attempt_built manner hbuild
    rw [transmitted_of_ok hbuild] at h
    cases hmessage : s.client.messageOf manner (s.request.attempt entity)
        (entity.map Entity.content) with
    | error failure =>
      rw [hmessage] at hrun
      exact ⟨failure, _, hrun, hwire, .inr rfl⟩
    | ok message =>
      rw [hmessage] at h hrun
      simp only at h hrun
      cases hopen : (s.client.connect manner).1 with
      | true =>
        rw [hopen] at h
        cases h
      | false =>
        rw [hopen] at hrun
        exact ⟨.clientClosed, _, hrun, hwire, .inr rfl⟩

/-- **An attempt adds the chain of its message to what was sent**, or nothing if it has none. The body is
read on the machine that the build leaves. -/
theorem attempt_chain (manner : Net.Manner) (s : Session) :
    ∃ exchanges, (stateAfter (attempt manner s)).machine.sent = s.machine.sent ++ exchanges ∧
      match s.transmitted manner with
      | none => exchanges = []
      | some message => ∃ entity r m, s.request.build s.machine = .ok (entity, r) m ∧
          Net.Chain s.client.config.timeout s.client.config.followRedirects message
            (message.bodySent manner (s.readied entity r m).machine) exchanges := by
  cases h : s.transmitted manner with
  | none =>
    obtain ⟨failure, t, hresult, hwire, -⟩ := attempt_of_untransmitted h
    refine ⟨[], ?_, rfl⟩
    rw [hresult, List.append_nil]
    exact congrArg Prod.fst hwire
  | some message =>
    obtain ⟨entity, r, m, hbuild, -, -, hresult⟩ := attempt_of_transmitted h
    -- the exchanges of the attempt are those of its transmission, since the build sent none
    obtain ⟨exchanges, hsent, hchain⟩ := Net.transmit_sent manner s.client.config.timeout
      s.client.config.followRedirects message (((s.readied entity r m).connected manner).link manner)
    have hwire : (s.readied entity r m).machine.sent = s.machine.sent :=
      congrArg Prod.fst (readied_keeps Machine.aside_wire hbuild)
    refine ⟨exchanges, ?_, entity, r, m, hbuild, hchain⟩
    rw [hresult, stateAfter_onLink, ← hwire]
    exact hsent

/-- What was appended to `Machine.sent` is determined by the lists before and after. -/
theorem sent_eq {exchanges : List Net.Exchange}
    (h : (stateAfter (attempt manner s)).machine.sent = s.machine.sent ++ exchanges) :
    s.sent manner = exchanges := by
  unfold sent
  rw [h, List.drop_left]

/-- Nothing of what was sent before is lost. -/
theorem attempt_sent (manner : Net.Manner) (s : Session) :
    (stateAfter (attempt manner s)).machine.sent = s.machine.sent ++ s.sent manner := by
  obtain ⟨exchanges, hsent, -⟩ := attempt_chain manner s
  rw [sent_eq hsent, hsent]

/-- Without a message the wire is untouched (`attempt_of_untransmitted`). -/
theorem sent_of_untransmitted (h : s.transmitted manner = none) : s.sent manner = [] := by
  obtain ⟨exchanges, hsent, hnone⟩ := attempt_chain manner s
  rw [h] at hnone
  exact (sent_eq hsent).trans hnone

/-- With one, the exchanges of the attempt are the chain of this message (`attempt_chain`). -/
theorem sent_of_transmitted {message : Net.Message} (h : s.transmitted manner = some message) :
    ∃ entity r m, s.request.build s.machine = .ok (entity, r) m ∧
      Net.Chain s.client.config.timeout s.client.config.followRedirects message
        (message.bodySent manner (s.readied entity r m).machine) (s.sent manner) := by
  obtain ⟨exchanges, hsent, hchain⟩ := attempt_chain manner s
  rw [h] at hchain
  rw [sent_eq hsent]
  exact hchain

/-! ## What is raised in an attempt -/

/-- Something is raised in an attempt: by the build; while the message is made; by a connection that is
closed; or on the way of the message. -/
def Raises (manner : Net.Manner) (s : Session) (stage : Stage) (raised : Failure) : Prop :=
  match s.request.build s.machine with
  | .error failure _ => stage = .building ∧ raised = failure
  | .ok (entity, r) m =>
    match s.client.messageOf manner (s.request.attempt entity) (entity.map Entity.content) with
    | .error failure => stage = .sending ∧ raised = failure
    | .ok message =>
      if (s.client.connect manner).1 then
        Net.Raises manner s.client.config.timeout s.client.config.followRedirects
          (Net.redirectLimit + 1) message (((s.readied entity r m).connected manner).link manner)
          stage raised
      else stage = .sending ∧ raised = .clientClosed

/-- **An attempt fails with what is told of something that was raised in it**, and with nothing else. By
cases on how far the attempt comes; the last case is `Net.sendOn_error_iff`. -/
theorem attempt_error_iff {failure : Failure} :
    (∃ t, attempt manner s = .error failure t) ↔
      ∃ stage raised, s.Raises manner stage raised ∧ failure = stage.told manner raised := by
  -- where only one thing can be raised
  have hone : ∀ (stage : Stage) (own : Failure) (t : Session),
      (∃ t', EStateM.Result.error (α := Response) (stage.told manner own) t = .error failure t') ↔
        ∃ at_ raised, (at_ = stage ∧ raised = own) ∧ failure = Stage.told at_ manner raised := by
    intro stage own t
    constructor
    · rintro ⟨t', ⟨⟩⟩
      exact ⟨stage, own, ⟨rfl, rfl⟩, rfl⟩
    · rintro ⟨_, _, ⟨rfl, rfl⟩, rfl⟩
      exact ⟨t, rfl⟩
  unfold Raises
  cases hbuild : s.request.build s.machine with
  | error own m =>
    rw [attempt_of_error hbuild]
    exact hone .building own _
  | ok built m =>
    obtain ⟨entity, r⟩ := built
    rw [attempt_built manner hbuild]
    simp only
    cases hmessage : s.client.messageOf manner (s.request.attempt entity)
        (entity.map Entity.content) with
    | error own => exact hone .sending own _
    | ok message =>
      cases hopen : (s.client.connect manner).1 with
      | false => exact hone .sending .clientClosed _
      | true =>
        simp only [if_true]
        rw [onLink_error_iff]
        exact Net.sendOn_error_iff

end Session

end

end Courier
