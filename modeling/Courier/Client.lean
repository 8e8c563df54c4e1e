import Courier.Client.Retry
import Courier.Net.Transmission
import Courier.Request

/-!
# Clients

A client makes requests with its settings and sends them. Sending directly and sending stepwise each
have a connection of their own; the latter comes about when it is first needed. Attempts that made no
connection are repeated, each with the entity built anew.
-/

namespace Courier

/-- A client. A connection is open or closed; the stepwise one may not have come about. Each connection
remembers the cookies that it was told itself. -/
structure Client [Platform] where
  config : Config
  directOpen : Bool := true
  stepwiseOpen : Option Bool := none
  directCookies : Platform.Cookies := Platform.noCookies
  stepwiseCookies : Platform.Cookies := Platform.noCookies

namespace Client

variable [Platform]

/-- The headers that a client adds of itself. -/
def defaultHeaders (c : Client) : Net.Headers :=
  [("User-Agent", c.config.userAgent)]

/-- The headers of every message of a client. -/
def usualHeaders (c : Client) : Net.Headers :=
  [("Accept", "*/*"), ("Accept-Encoding", "gzip, deflate"), ("Connection", "keep-alive")] ++
    c.defaultHeaders

/-- How names and values are shown in the journal, as a table. -/
def tableText (headers : Net.Headers) : String :=
  "\x7b" ++
    String.intercalate ", " (headers.map fun h => Text.quoted h.1 ++ ": " ++ Text.quoted h.2) ++
    "\x7d"

/-- How names and values are shown in the journal, as a list of pairs. -/
def pairsText (headers : Net.Headers) : String :=
  "[" ++
    String.intercalate ", "
      (headers.map fun h => "(" ++ Text.quoted h.1 ++ ", " ++ Text.quoted h.2 ++ ")") ++
    "]"

/-- Opens a client. -/
def start (config : Config) : Act Client := do
  modify fun m => { m with journal := m.journal.setUp config.debug }
  Machine.log .debug "CONFIG:"
  Machine.log .debug (config.shown ++ "\n")
  let c : Client := { config }
  Act.ofExcept c.defaultHeaders.check
  Machine.log .debug ("HEADERS: " ++ tableText c.defaultHeaders)
  return c

/-- Opens a client with the settings of the environment, unless the caller gives others. -/
def startFrom (environment : Variables) (overrides : List (String × SettingValue)) : Act Client := do
  match Config.fromCall environment overrides with
  | .ok config => start config
  | .error fault => throw (.ofConfig fault)

/-- A request with the settings of the client. -/
def createRequest (c : Client) (method : Method) (url : String) : Request :=
  .create method url c.config.charset c.config.sniffBytes

/-! ## The life of a client -/

/-- Whether the connection of a manner of sending is open; the stepwise one is opened if it has not
come about. -/
def connect (c : Client) : Net.Manner → Bool × Client
  | .direct => (c.directOpen, c)
  | .stepwise =>
    match c.stepwiseOpen with
    | some isOpen => (isOpen, c)
    | none => (true, { c with stepwiseOpen := some true })

/-- The cookies that the connection of a manner of sending was told. -/
def cookies (c : Client) : Net.Manner → Platform.Cookies
  | .direct => c.directCookies
  | .stepwise => c.stepwiseCookies

/-- The client whose connection of a manner of sending remembers other cookies. -/
def withCookies (c : Client) (manner : Net.Manner) (cookies : Platform.Cookies) : Client :=
  match manner with
  | .direct => { c with directCookies := cookies }
  | .stepwise => { c with stepwiseCookies := cookies }

/-- Closes the direct connection; a stepwise one that stays open is reported. -/
def close (c : Client) : Act Client := do
  if c.stepwiseOpen = some true then
    Machine.log .warning "Async client left open by close(); use aclose() after async sends"
  return { c with directOpen := false }

/-- Closes both connections. -/
def closeAll (c : Client) : Client :=
  { c with directOpen := false, stepwiseOpen := c.stepwiseOpen.map fun _ => false }

end Client

/-! ## Sending requests -/

variable [Platform]

/-- A client at work on a request. -/
structure Session where
  client : Client
  request : Request
  machine : Machine

/-- A step of the work on a request. -/
abbrev Work := EStateM Failure Session

namespace Session

/-- Does something on the machine. -/
def onMachine {α : Type} (act : Act α) : Work α := fun s =>
  match act s.machine with
  | .ok a m => .ok a { s with machine := m }
  | .error failure m => .error failure { s with machine := m }

/-- Does something over the connection of a manner of sending. -/
def onLink {α : Type} (manner : Net.Manner) (transfer : Net.Transfer α) : Work α := fun s =>
  match transfer ⟨s.machine, s.client.cookies manner⟩ with
  | .ok a l =>
    .ok a { s with machine := l.machine, client := s.client.withCookies manner l.cookies }
  | .error failure l =>
    .error failure
      { s with machine := l.machine, client := s.client.withCookies manner l.cookies }

/-- Builds the entity of the request. -/
def buildEntity (manner : Net.Manner) : Work (Option Entity) := do
  let s ← get
  let (entity, request) ← onMachine (manner.perform s.request.build)
  modify fun s => { s with request }
  return entity

/-- Writes into the journal what is sent. -/
def logAttempt (a : Attempt) : Act Unit := do
  Machine.log .debug ("Request: " ++ a.method.name ++ " " ++ a.url)
  match a.content with
  | none => pure ()
  | some e =>
    Machine.log .debug
      ("Body: " ++ e.kind.name ++ " entity, " ++ e.contentType ++ ", length=" ++
        Entity.lengthText e.length)
  Machine.log .debug ("HEADERS: " ++ Client.pairsText a.headers)

/-- The content that goes with an attempt; it is taken from its entity. -/
def contentOf (entity : Option Entity) : Except Failure (Option Content) :=
  match entity with
  | none => .ok none
  | some e => e.take.1.map some

/-- Makes one attempt to send the request. -/
def attempt (manner : Net.Manner) : Work Response := do
  let entity ← buildEntity manner
  let a := (← get).request.attempt entity
  onMachine (logAttempt a)
  let content ← onMachine (Act.ofExcept (contentOf entity))
  let (isOpen, client) := (← get).client.connect manner
  modify fun s => { s with client }
  let timeout := a.timeout.getD client.config.timeout
  let message ← onMachine <| Act.ofExcept <|
    Net.Message.prepare a.method.name a.url client.usualHeaders a.headers (client.cookies manner)
      (.ofContent content)
  if isOpen then
    onLink manner (Net.transmit manner timeout client.config.followRedirects message.authorize)
  else throw .clientClosed

/-- Makes attempts, of which the first has the given number, until one does not fail for want of a
connection; at most so many more after the first. -/
def attempts (manner : Net.Manner) : (retries number : Nat) → Work Response
  | 0, _ => attempt manner
  | retries + 1, number => fun s =>
    match attempt manner s with
    | .ok response s => .ok response s
    | .error failure s =>
      if failure.isRetryable then
        let config := s.client.config
        let pause : Work Unit := onMachine do
          Machine.log .warning (Retry.notice failure number config.maxRetries)
          Machine.wait (Retry.wait config.retryBackoff number)
        (do pause; attempts manner retries (number + 1)) s
      else .error failure s

/-- A failure as it leaves the loop of attempts. The signals of iterators are not let through: one makes
the loop of those who wait end as if all were done, and then there is no response. -/
def leavingAttempts : Net.Manner → Failure → Failure
  | .direct, failure => failure.leavingLoop
  | .stepwise, .foreign .stopIteration _ => .foreign .badState "coroutine raised StopIteration"
  | .stepwise, .foreign .stopAsyncIteration _ =>
    .foreign .unboundName
      "cannot access local variable 'response' where it is not associated with a value"
  | .stepwise, failure => failure

/-- A failure as the one who sends a request learns of it: that of a file or of the network as the
failure of the request, any other as it is. -/
def explain (method : Method) (url : String) (failure : Failure) : Failure :=
  failure.asRequestFailure (some method.name) (some url)

/-- Sends the request and gives the response, whatever its status. -/
def execute (manner : Net.Manner) : Work Response := fun s =>
  match attempts manner s.client.config.maxRetries 1 s with
  | .ok response s => .ok response s
  | .error failure s =>
    .error (explain s.request.method s.request.url (leavingAttempts manner failure)) s

end Session

end Courier
