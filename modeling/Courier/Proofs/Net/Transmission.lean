import Courier.Proofs.Machine.Aside

/-!
# What goes over the wire, and what is raised on the way

`Net.exchange` is one exchange with a server and `Net.sendOn` the chain of exchanges that redirects make of
it. Each is described by one equation (`Net.exchange_run`, `Net.sendOn_succ`); everything after that is
read off these two.

The first half is about `Machine.sent`. The first exchange of a chain is the message itself, with the bytes
that its body is read to (`Net.sendOn_sent`); whatever follows carries these bytes again or none
(`Net.Body.Left`).

The second half is about failures. Something is raised at one of the stages of an attempt (`Stage`), and a
chain of exchanges fails with what is told of it (`Stage.told`), in either manner
(`Net.sendOn_error_iff`).
-/

namespace Courier

/-! ## Stages -/

/-- The stages of an attempt: its entity is built, the content of that is read, and a message is made and
sent. -/
inductive Stage where
  | building | reading | sending
  deriving DecidableEq, Repr

namespace Stage

/-- What an attempt fails with if something is raised at a stage. What is done stepwise is done by a
thread, and the content is read in a loop. -/
def told : Stage → Net.Manner → Failure → Failure
  | building, manner, failure => manner.told failure
  | reading, .direct, failure => failure.leavingLoop
  | reading, .stepwise, failure => failure.leavingLoop.fetched
  | sending, _, failure => failure

end Stage

namespace Failure

variable (failure : Failure)

/-! Telling a failure anew changes none that may be mended by another attempt, and makes none. -/

/-- `Failure.relayed` puts other failures in the place of a few, and none of either is of the network. -/
theorem isRetryable_relayed : failure.relayed.isRetryable = failure.isRetryable := by
  cases failure with
  | foreign fault text => cases fault <;> rfl
  | _ => rfl

theorem isRetryable_leavingLoop : failure.leavingLoop.isRetryable = failure.isRetryable := by
  cases failure with
  | foreign fault text => cases fault <;> rfl
  | _ => rfl

theorem isRetryable_leavingAwaitedLoop :
    failure.leavingAwaitedLoop.isRetryable = failure.isRetryable := by
  cases failure with
  | foreign fault text => cases fault <;> rfl
  | _ => rfl

end Failure

/-- Whether another attempt may mend a failure is the same however it is told. By cases on the stage and the
manner. -/
theorem Stage.isRetryable_told (stage : Stage) (manner : Net.Manner) (failure : Failure) :
    (stage.told manner failure).isRetryable = failure.isRetryable := by
  cases stage with
  | sending => rfl
  | building =>
    cases manner with
    | direct => rfl
    | stepwise => exact failure.isRetryable_relayed
  | reading =>
    cases manner with
    | direct => exact failure.isRetryable_leavingLoop
    | stepwise =>
      show (failure.leavingLoop.relayed.leavingAwaitedLoop).isRetryable = _
      rw [Failure.isRetryable_leavingAwaitedLoop, Failure.isRetryable_relayed,
        Failure.isRetryable_leavingLoop]

/-! ## The wire of a machine -/

namespace Machine

/-- What will come of the next exchange. -/
def upcoming (m : Machine) : Net.Outcome := m.script.headD m.beyond

/-- The machine after an exchange has begun, with one outcome less to come. -/
def advanced (m : Machine) : Machine := { m with script := m.script.tail }

/-- The machine after one more exchange. -/
def withSent (m : Machine) (exchange : Net.Exchange) : Machine := { m with sent := m.sent ++ [exchange] }

theorem aside_upcoming : Aside upcoming := ⟨fun _ _ => rfl, fun _ _ => rfl, fun _ _ => rfl⟩

/-- Taking the next outcome never fails: behind the script stands `Machine.beyond`. -/
theorem nextOutcome_run (m : Machine) : nextOutcome m = .ok m.upcoming m.advanced := by
  obtain ⟨files, usage, drawn, journal, script, beyond, sent, waits⟩ := m
  cases script <;> rfl

end Machine

namespace Net

/-- The failure of an outcome for which no connection comes about. -/
def Outcome.unconnected? : Outcome → Option Failure
  | .fails failure => if failure.isRetryable then some failure else none
  | .reply _ => none

/-- `Outcome.unconnected?` holds exactly the failures after which another attempt may be made. -/
theorem Outcome.unconnected?_eq_some {o : Outcome} {failure : Failure} :
    o.unconnected? = some failure ↔ o = .fails failure ∧ failure.isRetryable = true := by
  cases o with
  | reply reply => exact ⟨nofun, fun h => nomatch h.1⟩
  | fails own =>
    unfold unconnected?
    rw [Option.ite_none_right_eq_some, Option.some.injEq, fails.injEq]
    constructor
    · rintro ⟨hretry, rfl⟩
      exact ⟨rfl, hretry⟩
    · rintro ⟨rfl, hretry⟩
      exact ⟨hretry, rfl⟩

variable [Platform] {m m' : Message} {manner : Manner} {timeout : Float} {w w' : Machine}

/-! ## One exchange -/

theorem readBody_ok {result : Bytes × Body} (h : m.body.read manner w = .ok result w') :
    readBody m manner timeout w = .ok result w' := by
  unfold readBody
  rw [h]

/-- `Net.readBody` notes what cannot be read as sent without a body. -/
theorem readBody_error {failure : Failure} (h : m.body.read manner w = .error failure w') :
    readBody m manner timeout w = .error failure (w'.withSent (m.sentAs timeout none)) := by
  unfold readBody
  rw [h]
  rfl

/-- **What an exchange comes to**: the address may be of a kind that is not known; no connection may come
about; the body may not be read to its end; else the wire decides. -/
theorem exchange_run (m : Message) (manner : Manner) (timeout : Float) (w : Machine) :
    exchange m manner timeout w =
      match checkScheme m.url with
      | .error failure => .error failure w
      | .ok () =>
        match w.upcoming.unconnected? with
        | some failure => .error failure (w.advanced.withSent (m.sentAs timeout none))
        | none =>
          match m.body.read manner w.advanced with
          | .error failure w₁ => .error failure (w₁.withSent (m.sentAs timeout none))
          | .ok (bytes, body) w₁ =>
            match w.upcoming with
            | .fails failure => .error failure (w₁.withSent (m.sentAs timeout (some bytes)))
            | .reply reply =>
              .ok (reply, { m with body }) (w₁.withSent (m.sentAs timeout (some bytes))) := by
  unfold exchange
  cases checkScheme m.url with
  | error failure => rfl
  | ok _ =>
    show (Machine.nextOutcome >>= _) w = _
    rw [Act.bind_run_ok w.nextOutcome_run]
    simp only
    cases w.upcoming with
    | reply reply =>
      show (readBody m manner timeout >>= _) w.advanced = _
      simp only [Outcome.unconnected?]
      cases hread : m.body.read manner w.advanced with
      | error failure w₁ => exact Act.bind_run_error (readBody_error hread)
      | ok result w₁ => exact Act.bind_run_ok (readBody_ok hread)
    | fails failure =>
      -- the body is read unless no connection comes about
      simp only [Outcome.unconnected?]
      cases failure.isRetryable with
      | true => rfl
      | false =>
        simp only [Bool.false_eq_true, if_false]
        cases hread : m.body.read manner w.advanced with
        | error failure w₁ => exact Act.bind_run_error (readBody_error hread)
        | ok result w₁ => exact Act.bind_run_ok (readBody_ok hread)

/-- The body of a message as it stands in the exchange: its bytes, unless no connection comes about or it
cannot be read to its end. -/
def Message.bodySent (m : Message) (manner : Manner) (w : Machine) : Option Bytes :=
  match w.upcoming.unconnected?, m.body.read manner w.advanced with
  | none, .ok (bytes, _) _ => some bytes
  | _, _ => none

/-- **Every exchange is noted once**, with the body that was read. -/
theorem exchange_sent (manner : Manner) (timeout : Float) (w : Machine)
    (hscheme : checkScheme m.url = .ok ()) :
    (stateAfter (exchange m manner timeout w)).sent =
      w.sent ++ [m.sentAs timeout (m.bodySent manner w)] := by
  -- reading the body puts nothing on the wire, so one exchange is noted, with the bytes it could read
  have hread := m.body.read_keeps Machine.aside_wire manner w.advanced
  rw [exchange_run, hscheme]
  unfold Message.bodySent
  simp only
  cases w.upcoming.unconnected? with
  | some failure => rfl
  | none =>
    cases hbody : m.body.read manner w.advanced with
    | error failure w₁ =>
      rw [hbody] at hread
      exact congrArg (· ++ _) (congrArg Prod.fst hread)
    | ok result w₁ =>
      rw [hbody] at hread
      have hkept : w₁.sent = w.sent := congrArg Prod.fst hread
      rw [← hkept]
      cases w.upcoming <;> rfl

/-! ### What is left of a body -/

/-- What is left of a body that was read to these bytes: they are in memory, or the body was dropped on the
way, or it is spent. -/
inductive Body.Left (bytes : Bytes) : Body → Prop where
  | held : Left bytes (.held bytes)
  | dropped : Left bytes (.held [])
  | spent (pieces : List Piece) : Left bytes (.streamed pieces true)

/-- `Body.Left` after the first reading: a body is held, or what it streamed is spent. By cases on the body.
-/
theorem Body.read_left {body body' : Body} {bytes : Bytes}
    (h : body.read manner w = .ok (bytes, body') w') : body'.Left bytes := by
  cases body with
  | held own =>
    cases h
    exact .held
  | streamed pieces spent =>
    cases spent with
    | true => cases h
    | false =>
      simp only [read] at h
      split at h
      · cases h
        exact .spent pieces
      · cases h

/-- No later reading of a body that was `Left` gives other bytes. -/
theorem Body.Left.read {body body' : Body} {bytes bytes' : Bytes} (hleft : body.Left bytes)
    (h : body.read manner w = .ok (bytes', body') w') :
    (bytes' = bytes ∨ bytes' = []) ∧ body'.Left bytes := by
  cases hleft with
  | held =>
    cases h
    exact ⟨.inl rfl, .held⟩
  | dropped =>
    cases h
    exact ⟨.inr rfl, .dropped⟩
  | spent pieces => cases h

/-- `redirect?` keeps the body of a message or drops it, so it stays `Left`. -/
theorem redirect?_left {cookies : Platform.Cookies} {reply : Reply} {next : Message} {bytes : Bytes}
    (h : redirect? cookies m reply = .ok (some next)) (hleft : m.body.Left bytes) :
    next.body.Left bytes := by
  unfold redirect? at h
  cases hlocation : location? reply with
  | none =>
    rw [hlocation] at h
    cases h
  | some location =>
    rw [hlocation] at h
    -- the three things that are looked at before, none of which concerns the body
    replace h : (redirectTarget m.url location >>= _) = .ok (some next) := h
    cases htarget : redirectTarget m.url location with
    | error failure =>
      rw [htarget] at h
      cases h
    | ok target =>
      rw [htarget] at h
      replace h : (checkHosts m.url target >>= _) = .ok (some next) := h
      cases hhosts : checkHosts m.url target with
      | error failure =>
        rw [hhosts] at h
        cases h
      | ok _ =>
        rw [hhosts] at h
        replace h : (redirectHeaders m target (redirectMethod reply.status m.method) >>= _) =
          .ok (some next) := h
        cases hheaders : redirectHeaders m target (redirectMethod reply.status m.method) with
        | error failure =>
          rw [hheaders] at h
          cases h
        | ok headers =>
          rw [hheaders] at h
          cases h
          show Body.Left bytes (if _ then Body.held [] else m.body)
          split
          · exact .dropped
          · exact hleft

/-- `Body.read` of a stream is `Piece.drain`, and the stream is spent then. -/
theorem Body.read_streamed (pieces : List Piece) (manner : Manner) (w : Machine) :
    (Body.streamed pieces false).read manner w =
      match (Piece.drain pieces w).1.failure.map (Stage.reading.told manner) with
      | some failure => .error failure (Piece.drain pieces w).2
      | none => .ok ((Piece.drain pieces w).1.bytes, .streamed pieces true) (Piece.drain pieces w).2 := by
  cases manner with
  | direct =>
    simp only [read, Content.drain]
    obtain ⟨⟨chunks, own⟩, w₁⟩ := Piece.drain pieces w
    cases own <;> rfl
  | stepwise =>
    simp only [read, Content.drainStepwise_eq, Content.drain]
    obtain ⟨⟨chunks, own⟩, w₁⟩ := Piece.drain pieces w
    cases own <;> rfl

/-- `Body.read` of an entity's content gives the bytes of `Entity.Gives`, in either manner. -/
theorem Body.read_of_gives {e : Entity} {bytes : Bytes} (h : e.Gives w bytes w') (manner : Manner) :
    ∃ body, (Body.ofContent (some e.content)).read manner w = .ok (bytes, body) w' := by
  obtain ⟨cs, hdrain, rfl⟩ := h.drain
  cases hcontent : e.content with
  | held own =>
    rw [hcontent] at hdrain
    cases hdrain
    exact ⟨_, by rw [List.flatten_singleton]; rfl⟩
  | streamed pieces =>
    rw [hcontent] at hdrain
    simp only [Content.drain] at hdrain
    refine ⟨.streamed pieces true, ?_⟩
    show (Body.streamed pieces false).read manner w = _
    rw [read_streamed]
    -- the manner alters the failure of a draining alone, and this one has none
    generalize Piece.drain pieces w = drained at hdrain ⊢
    obtain ⟨⟨chunks, failure⟩, w₁⟩ := drained
    cases failure with
    | none =>
      cases hdrain
      rfl
    | some failure => cases hdrain

/-! ## The chain -/

/-- A link after an exchange that was answered. -/
def Link.answered (l : Link) (w : Machine) (m : Message) (reply : Reply) : Link :=
  { machine := w, cookies := Platform.learnCookies l.cookies m.url.text reply.headers }

variable {follow : Bool} {left : Nat} {l : Link}

/-- **A chain is an exchange and, if its reply sends on, the chain from there.** -/
theorem sendOn_succ (manner : Manner) (timeout : Float) (follow : Bool) (left : Nat) (m : Message)
    (l : Link) :
    sendOn manner timeout follow (left + 1) m l =
      match exchange m manner timeout l.machine with
      | .error failure w => .error failure { l with machine := w }
      | .ok (reply, m') w =>
        match redirect? (l.answered w m' reply).cookies m' reply with
        | .error failure => .error failure (l.answered w m' reply)
        | .ok none => .ok (.ofReply m'.url.text reply) (l.answered w m' reply)
        | .ok (some next) =>
          if follow then sendOn manner timeout follow left next (l.answered w m' reply)
          else .ok (.ofReply m'.url.text reply) (l.answered w m' reply) := by
  rw [sendOn]
  cases hexchange : exchange m manner timeout l.machine with
  | error failure w =>
    have hlink : Link.onMachine (exchange m manner timeout) l = .error failure { l with machine := w } := by
      unfold Link.onMachine
      rw [hexchange]
    exact Act.bind_run_error hlink
  | ok result w =>
    obtain ⟨reply, m'⟩ := result
    have hlink : Link.onMachine (exchange m manner timeout) l =
        .ok (reply, m') { l with machine := w } := by
      unfold Link.onMachine
      rw [hexchange]
    rw [Act.bind_run_ok hlink]
    show (Link.onMachine (Act.ofExcept (redirect? (l.answered w m' reply).cookies m' reply)) >>= _)
      (l.answered w m' reply) = _
    simp only
    cases redirect? (l.answered w m' reply).cookies m' reply with
    | error failure => rfl
    | ok next =>
      cases next with
      | none => rfl
      | some next => cases follow <;> rfl

/-- `exchange_run` where a reply came: the body was read, and the message is left with what is left of it. -/
theorem exchange_ok {reply : Reply} (h : exchange m manner timeout w = .ok (reply, m') w') :
    checkScheme m.url = .ok () ∧
      ∃ bytes, m.bodySent manner w = some bytes ∧ m'.body.Left bytes ∧
        ∃ w₁, m.body.read manner w.advanced = .ok (bytes, m'.body) w₁ := by
  rw [exchange_run] at h
  cases hscheme : checkScheme m.url with
  | error failure =>
    rw [hscheme] at h
    cases h
  | ok _ =>
    rw [hscheme] at h
    unfold Message.bodySent
    simp only at h
    -- a reply comes only when the scheme, the connection, the body and the wire all hold
    cases hopen : w.upcoming.unconnected? with
    | some failure =>
      rw [hopen] at h
      cases h
    | none =>
      rw [hopen] at h
      simp only at h
      cases hread : m.body.read manner w.advanced with
      | error failure w₁ =>
        rw [hread] at h
        cases h
      | ok result w₁ =>
        obtain ⟨bytes, body⟩ := result
        rw [hread] at h
        simp only at h
        cases hwire : w.upcoming with
        | fails failure =>
          rw [hwire] at h
          cases h
        | reply own =>
          rw [hwire] at h
          cases h
          exact ⟨rfl, bytes, rfl, Body.read_left hread, w₁, rfl⟩

/-- The body of an exchange after another one: the bytes of that again, or none. -/
def Follows (body : Option Bytes) (x : Exchange) : Prop :=
  x.body = none ∨ x.body = some [] ∨ x.body = body

/-- Once a body was read, a chain carries no more than the same bytes. Induction on the number of
exchanges that are allowed; what is left of the body is the invariant. -/
theorem sendOn_follows (manner : Manner) (timeout : Float) (follow : Bool) (left : Nat) (l : Link)
    {bytes : Bytes} (hleft : m.body.Left bytes) :
    ∃ exchanges, (stateAfter (sendOn manner timeout follow left m l)).machine.sent =
      l.machine.sent ++ exchanges ∧ ∀ x ∈ exchanges, Follows (some bytes) x := by
  induction left generalizing m l with
  | zero => exact ⟨[], (List.append_nil _).symm, List.forall_mem_nil _⟩
  | succ left ih =>
    -- the exchange at hand: none for a scheme that is refused, else one that carries `bytes`, nothing, or no
    -- body it could read
    have hfirst : ∃ first, (stateAfter (exchange m manner timeout l.machine)).sent =
        l.machine.sent ++ first ∧ ∀ x ∈ first, Follows (some bytes) x := by
      cases hscheme : checkScheme m.url with
      | error failure =>
        rw [exchange_run, hscheme]
        exact ⟨[], (List.append_nil _).symm, List.forall_mem_nil _⟩
      | ok _ =>
        refine ⟨_, exchange_sent manner timeout l.machine hscheme, ?_⟩
        rw [List.forall_mem_singleton]
        show m.bodySent manner l.machine = none ∨ m.bodySent manner l.machine = some [] ∨ _
        unfold Message.bodySent
        split
        · next own body w _ hread =>
          rcases (hleft.read hread).1 with rfl | rfl
          · exact .inr (.inr rfl)
          · exact .inr (.inl rfl)
        · exact .inl rfl
    obtain ⟨first, hsent, hbodies⟩ := hfirst
    rw [sendOn_succ]
    cases hexchange : exchange m manner timeout l.machine with
    | error failure w =>
      rw [hexchange] at hsent
      exact ⟨first, hsent, hbodies⟩
    | ok result w =>
      obtain ⟨reply, m'⟩ := result
      rw [hexchange] at hsent
      have hwire : (l.answered w m' reply).machine.sent = l.machine.sent ++ first := hsent
      simp only
      cases hredirect : redirect? (l.answered w m' reply).cookies m' reply with
      | error failure => exact ⟨first, hwire, hbodies⟩
      | ok next =>
        cases next with
        | none => exact ⟨first, hwire, hbodies⟩
        | some next =>
          cases follow with
          | false => exact ⟨first, hwire, hbodies⟩
          | true =>
            -- the redirect takes over what the reading left of the body, so the induction hypothesis is
            -- about the same bytes
            obtain ⟨-, own, -, -, w₁, hread⟩ := exchange_ok hexchange
            have hnext := redirect?_left hredirect (hleft.read hread).2
            obtain ⟨others, hothers, hlater⟩ := ih (l.answered w m' reply) hnext
            refine ⟨first ++ others, ?_, List.forall_mem_append.mpr ⟨hbodies, hlater⟩⟩
            rw [← List.append_assoc, ← hwire]
            exact hothers

/-- **What a chain adds to the wire**: the message itself, with the bytes that its body is read to, and
after it only exchanges that carry these again or nothing; none if redirects are not followed. -/
theorem sendOn_sent (manner : Manner) (timeout : Float) (follow : Bool) (left : Nat) (l : Link)
    (hscheme : checkScheme m.url = .ok ()) :
    ∃ others, (stateAfter (sendOn manner timeout follow (left + 1) m l)).machine.sent =
        l.machine.sent ++ m.sentAs timeout (m.bodySent manner l.machine) :: others ∧
      (follow = false → others = []) ∧ ∀ x ∈ others, Follows (m.bodySent manner l.machine) x := by
  have hsent := exchange_sent manner timeout l.machine hscheme
  have hnone : ∀ {state : Link}, state.machine = stateAfter (exchange m manner timeout l.machine) →
      ∃ others, state.machine.sent =
          l.machine.sent ++ m.sentAs timeout (m.bodySent manner l.machine) :: others ∧
        (follow = false → others = []) ∧ ∀ x ∈ others, Follows (m.bodySent manner l.machine) x :=
    fun hstate => ⟨[], hstate ▸ hsent, fun _ => rfl, List.forall_mem_nil _⟩
  rw [sendOn_succ]
  cases hexchange : exchange m manner timeout l.machine with
  | error failure w => exact hnone (by rw [hexchange]; rfl)
  | ok result w =>
    obtain ⟨reply, m'⟩ := result
    have hwire : (l.answered w m' reply).machine = stateAfter (exchange m manner timeout l.machine) := by
      rw [hexchange]
      rfl
    simp only
    cases hredirect : redirect? (l.answered w m' reply).cookies m' reply with
    | error failure => exact hnone hwire
    | ok next =>
      cases next with
      | none => exact hnone hwire
      | some next =>
        cases follow with
        | false => exact hnone hwire
        | true =>
          -- from here on only what is left of the body can be sent
          obtain ⟨-, bytes, hbytes, hleft, -⟩ := exchange_ok hexchange
          obtain ⟨others, hothers, hlater⟩ := sendOn_follows manner timeout true left
            (l.answered w m' reply) (redirect?_left hredirect hleft)
          refine ⟨others, ?_, nofun, hbytes ▸ hlater⟩
          rw [hwire, hsent, List.append_assoc] at hothers
          exact hothers

/-- `Net.sendOn` sends nothing to an address that is of no known kind. -/
theorem sendOn_refused {failure : Failure} (h : checkScheme m.url = .error failure) :
    sendOn manner timeout follow (left + 1) m l = .error failure l := by
  rw [sendOn_succ, exchange_run, h]

/-- The exchanges of a message that is sent: the message itself with this body, and after it those that
redirects make of it, with the same bytes or none. There is no exchange if the address is of no known
kind. -/
def Chain (timeout : Float) (follow : Bool) (m : Message) (body : Option Bytes)
    (exchanges : List Exchange) : Prop :=
  match checkScheme m.url with
  | .error _ => exchanges = []
  | .ok () =>
    ∃ others, exchanges = m.sentAs timeout body :: others ∧ (follow = false → others = []) ∧
      ∀ x ∈ others, Follows body x

/-- **Transmitting a message adds its chain of exchanges to what was sent.** -/
theorem transmit_sent (manner : Manner) (timeout : Float) (follow : Bool) (m : Message) (l : Link) :
    ∃ exchanges, (stateAfter (transmit manner timeout follow m l)).machine.sent =
        l.machine.sent ++ exchanges ∧
      Chain timeout follow m (m.bodySent manner l.machine) exchanges := by
  unfold Chain transmit
  cases haddress : checkScheme m.url with
  | error failure =>
    rw [sendOn_refused haddress]
    exact ⟨[], (List.append_nil _).symm, rfl⟩
  | ok _ =>
    obtain ⟨others, hsent, hchain⟩ := sendOn_sent manner timeout follow redirectLimit l haddress
    exact ⟨_, hsent, others, rfl, hchain⟩

/-! ## What is raised on the way -/

/-- Something is raised in an exchange that begins on this machine: by the client for the address or for a
body that is spent, by the content while it is read, or by the wire. The content is not read where no
connection comes about. -/
inductive Message.Raises (m : Message) (manner : Manner) (w : Machine) : Stage → Failure → Prop where
  | address {raised : Failure} (h : checkScheme m.url = .error raised) : Raises m manner w .sending raised
  | spent {pieces : List Piece} (haddress : checkScheme m.url = .ok ())
      (hopen : w.upcoming.unconnected? = none) (h : m.body = .streamed pieces true) :
      Raises m manner w .sending .streamConsumed
  | content {pieces : List Piece} {raised : Failure} (haddress : checkScheme m.url = .ok ())
      (hopen : w.upcoming.unconnected? = none) (hbody : m.body = .streamed pieces false)
      (h : (Piece.drain pieces w.advanced).1.failure = some raised) : Raises m manner w .reading raised
  | wire {raised : Failure} (haddress : checkScheme m.url = .ok ()) (h : w.upcoming = .fails raised)
      (hread : raised.isRetryable = false → ∃ result w₁, m.body.read manner w.advanced = .ok result w₁) :
      Raises m manner w .sending raised

/-- `Body.read` fails if the body is spent, or if its content raises something. By cases on the body. -/
theorem Body.read_error_iff {body : Body} {failure : Failure} :
    (∃ w', body.read manner w = .error failure w') ↔
      ∃ pieces, (body = .streamed pieces true ∧ failure = .streamConsumed) ∨
        body = .streamed pieces false ∧ ∃ raised, (Piece.drain pieces w).1.failure = some raised ∧
          failure = Stage.reading.told manner raised := by
  cases body with
  | held bytes => exact ⟨fun ⟨_, h⟩ => (nomatch h), by rintro ⟨_, ⟨⟨⟩, -⟩ | ⟨⟨⟩, -⟩⟩⟩
  | streamed pieces spent =>
    cases spent with
    | true =>
      constructor
      · rintro ⟨w', h⟩
        cases h
        exact ⟨pieces, .inl ⟨rfl, rfl⟩⟩
      · rintro ⟨_, ⟨⟨⟩, rfl⟩ | ⟨⟨⟩, -⟩⟩
        exact ⟨w, rfl⟩
    | false =>
      rw [read_streamed]
      -- a fresh stream fails as its draining does
      cases hown : (Piece.drain pieces w).1.failure with
      | none =>
        constructor
        · rintro ⟨w', h⟩
          cases h
        · rintro ⟨_, ⟨⟨⟩, -⟩ | ⟨⟨⟩, raised, h, -⟩⟩
          rw [hown] at h
          cases h
      | some own =>
        constructor
        · rintro ⟨w', h⟩
          cases h
          exact ⟨pieces, .inr ⟨rfl, own, hown, rfl⟩⟩
        · rintro ⟨_, ⟨⟨⟩, -⟩ | ⟨⟨⟩, raised, h, rfl⟩⟩
          rw [hown] at h
          cases h
          exact ⟨_, rfl⟩

/-- Where an exchange fails something was raised in it. By the cases of `exchange_run`: the address, the
connection, the body, and what the wire makes of it. -/
theorem raises_of_exchange {failure : Failure} (h : exchange m manner timeout w = .error failure w') :
    ∃ stage raised, m.Raises manner w stage raised ∧ failure = stage.told manner raised := by
  rw [exchange_run] at h
  cases haddress : checkScheme m.url with
  | error own =>
    rw [haddress] at h
    cases h
    exact ⟨.sending, _, .address haddress, rfl⟩
  | ok _ =>
    rw [haddress] at h
    simp only at h
    cases hopen : w.upcoming.unconnected? with
    | some own =>
      rw [hopen] at h
      cases h
      -- the body is not looked at, and need not be one that can be read
      obtain ⟨hwire, hretry⟩ := Outcome.unconnected?_eq_some.mp hopen
      refine ⟨.sending, failure, .wire haddress hwire fun hnot => ?_, rfl⟩
      rw [hretry] at hnot
      cases hnot
    | none =>
      rw [hopen] at h
      simp only at h
      cases hread : m.body.read manner w.advanced with
      | error own w₁ =>
        rw [hread] at h
        cases h
        obtain ⟨pieces, ⟨hbody, rfl⟩ | ⟨hbody, raised, hraised, rfl⟩⟩ :=
          Body.read_error_iff.mp ⟨w₁, hread⟩
        · exact ⟨.sending, _, .spent haddress hopen hbody, rfl⟩
        · exact ⟨.reading, raised, .content haddress hopen hbody hraised, rfl⟩
      | ok result w₁ =>
        rw [hread] at h
        simp only at h
        cases hwire : w.upcoming with
        | reply reply =>
          rw [hwire] at h
          cases h
        | fails raised =>
          rw [hwire] at h
          cases h
          exact ⟨.sending, failure, .wire haddress hwire (fun _ => ⟨result, w₁, hread⟩), rfl⟩

/-- What is raised in an exchange ends it, and is told. By the cases of `Message.Raises`. -/
theorem Message.Raises.exchange {stage : Stage} {raised : Failure} (h : m.Raises manner w stage raised) :
    ∃ w', exchange m manner timeout w = .error (stage.told manner raised) w' := by
  rw [exchange_run]
  cases h with
  | address haddress =>
    rw [haddress]
    exact ⟨w, rfl⟩
  | spent haddress hopen hbody =>
    rw [haddress, hopen, hbody]
    exact ⟨_, rfl⟩
  | content haddress hopen hbody hraised =>
    obtain ⟨w₁, hread⟩ := Body.read_error_iff.mpr
      ⟨_, .inr ⟨hbody, raised, hraised, Eq.refl (Stage.reading.told manner raised)⟩⟩
    rw [haddress, hopen]
    simp only [hread]
    exact ⟨_, rfl⟩
  | wire haddress hwire hread =>
    rw [haddress]
    cases hopen : w.upcoming.unconnected? with
    | some own =>
      obtain ⟨hown, -⟩ := Outcome.unconnected?_eq_some.mp hopen
      cases hwire.symm.trans hown
      exact ⟨_, rfl⟩
    | none =>
      -- a failure of the wire that came after the connection: the body was read first
      have hnot : raised.isRetryable = false := eq_false_of_ne_true fun hretry => by
        rw [Outcome.unconnected?_eq_some.mpr ⟨hwire, hretry⟩] at hopen
        cases hopen
      obtain ⟨result, w₁, hread⟩ := hread hnot
      rw [hwire]
      simp only [hread]
      exact ⟨_, rfl⟩

/-- **An exchange fails with what is told of something that was raised in it**, and with nothing else. -/
theorem exchange_error_iff {failure : Failure} :
    (∃ w', exchange m manner timeout w = .error failure w') ↔
      ∃ stage raised, m.Raises manner w stage raised ∧ failure = stage.told manner raised := by
  constructor
  · rintro ⟨w', h⟩
    exact raises_of_exchange h
  · rintro ⟨stage, raised, hraised, rfl⟩
    exact hraised.exchange

/-- Something is raised in a chain of at most so many exchanges: in one of them, by a reply that sends on to
a bad address, or because there are too many. -/
inductive Raises (manner : Manner) (timeout : Float) (follow : Bool) :
    Nat → Message → Link → Stage → Failure → Prop where
  | exceeded {m : Message} {l : Link} : Raises manner timeout follow 0 m l .sending .redirectsExceeded
  | here {left : Nat} {m : Message} {l : Link} {stage : Stage} {raised : Failure}
      (h : m.Raises manner l.machine stage raised) :
      Raises manner timeout follow (left + 1) m l stage raised
  | redirect {left : Nat} {m m' : Message} {l : Link} {reply : Reply} {w : Machine} {raised : Failure}
      (hexchange : exchange m manner timeout l.machine = .ok (reply, m') w)
      (h : redirect? (l.answered w m' reply).cookies m' reply = .error raised) :
      Raises manner timeout follow (left + 1) m l .sending raised
  | later {left : Nat} {m m' next : Message} {l : Link} {reply : Reply} {w : Machine} {stage : Stage}
      {raised : Failure} (hexchange : exchange m manner timeout l.machine = .ok (reply, m') w)
      (hnext : redirect? (l.answered w m' reply).cookies m' reply = .ok (some next))
      (hfollow : follow = true)
      (h : Raises manner timeout follow left next (l.answered w m' reply) stage raised) :
      Raises manner timeout follow (left + 1) m l stage raised

/-- **A chain fails with what is told of something that was raised in it**, and with nothing else.
Induction on the number of exchanges for one direction, on what is raised for the other. -/
theorem sendOn_error_iff {failure : Failure} :
    (∃ l', sendOn manner timeout follow left m l = .error failure l') ↔
      ∃ stage raised, Raises manner timeout follow left m l stage raised ∧
        failure = stage.told manner raised := by
  constructor
  -- by the recursion of `sendOn`: this exchange, its redirect, or the messages after it
  · rintro ⟨l', h⟩
    induction left generalizing m l with
    | zero =>
      cases h
      exact ⟨.sending, _, .exceeded, rfl⟩
    | succ left ih =>
      rw [sendOn_succ] at h
      cases hexchange : exchange m manner timeout l.machine with
      | error own w =>
        rw [hexchange] at h
        cases h
        obtain ⟨stage, raised, hraised, rfl⟩ := exchange_error_iff.mp ⟨w, hexchange⟩
        exact ⟨stage, raised, .here hraised, rfl⟩
      | ok result w =>
        obtain ⟨reply, m'⟩ := result
        rw [hexchange] at h
        simp only at h
        cases hredirect : redirect? (l.answered w m' reply).cookies m' reply with
        | error own =>
          rw [hredirect] at h
          cases h
          exact ⟨.sending, _, .redirect hexchange hredirect, rfl⟩
        | ok next =>
          rw [hredirect] at h
          cases next with
          | none => cases h
          | some next =>
            cases follow with
            | false => cases h
            | true =>
              obtain ⟨stage, raised, hraised, rfl⟩ := ih h
              exact ⟨stage, raised, .later hexchange hredirect rfl hraised, rfl⟩
  -- one constructor of `Raises` for each place in `sendOn` that fails
  · rintro ⟨stage, raised, hraised, rfl⟩
    induction hraised with
    | exceeded => exact ⟨_, rfl⟩
    | here h =>
      have hexchange : ∃ w', exchange _ manner timeout _ = .error _ w' :=
        exchange_error_iff.mpr ⟨_, _, h, rfl⟩
      obtain ⟨w, hexchange⟩ := hexchange
      rw [sendOn_succ, hexchange]
      exact ⟨_, rfl⟩
    | redirect hexchange h =>
      rw [sendOn_succ, hexchange]
      simp only [h]
      exact ⟨_, rfl⟩
    | later hexchange hnext hfollow h ih =>
      obtain ⟨l', hrest⟩ := ih
      rw [sendOn_succ, hexchange]
      simp only [hnext, hfollow, if_true]
      exact ⟨l', hfollow ▸ hrest⟩

end Net

end Courier
