import Courier.Net.Redirect
import Courier.Response

/-!
# Sending messages

One exchange with a server, and the chain of exchanges that redirects make of it.
-/

namespace Courier.Net

/-- Refuses an address that does not say how to go there, or says it in a way that is not known. -/
def checkScheme (url : Url) : Except Failure Unit :=
  if url.scheme = "" then
    .error (.network .unsupportedProtocol
      "Request URL is missing an 'http://' or 'https://' protocol.")
  else if ["http", "https", "ws", "wss"].contains url.scheme then .ok ()
  else
    .error (.network .unsupportedProtocol
      ("Request URL has an unsupported protocol '" ++ url.scheme ++ "://'."))

/-- How a message was sent. -/
def Message.sentAs (m : Message) (timeout : Float) (body : Option Bytes) : Exchange :=
  { method := m.method, url := m.url.text, timeout, body
    headers := m.headers.map fun h => (lowerName h.1, h.2) }

/-- Reads the body of a message; a message whose body cannot be read counts as sent without it. -/
def readBody [Platform] (m : Message) (manner : Manner) (timeout : Float) : Act (Bytes × Body) := fun w =>
  match m.body.read manner w with
  | .ok result w => .ok result w
  | .error failure w =>
    match Machine.noteSent (m.sentAs timeout none) w with
    | .ok _ w => .error failure w
    | .error _ w => .error failure w

/-- Sends a message. The body is not read when no connection comes about. -/
def exchange [Platform] (m : Message) (manner : Manner) (timeout : Float) : Act (Reply × Message) := do
  Act.ofExcept (checkScheme m.url)
  let outcome ← Machine.nextOutcome
  let unread : Option Failure :=
    match outcome with
    | .fails failure => if failure.isRetryable then some failure else none
    | .reply _ => none
  match unread with
  | some failure =>
    Machine.noteSent (m.sentAs timeout none)
    throw failure
  | none =>
    let (bytes, body) ← readBody m manner timeout
    Machine.noteSent (m.sentAs timeout (some bytes))
    match outcome with
    | .fails failure => throw failure
    | .reply reply => return (reply, { m with body })

/-- A connection at work: the machine, and the cookies that the connection was told. -/
structure Link [Platform] where
  machine : Machine
  cookies : Platform.Cookies

/-- Something done over a connection. What it did before it failed stays done. -/
abbrev Transfer [Platform] := EStateM Failure Link

/-- Does something on the machine of a connection. -/
def Link.onMachine [Platform] {α : Type} (act : Act α) : Transfer α := fun l =>
  match act l.machine with
  | .ok a m => .ok a { l with machine := m }
  | .error failure m => .error failure { l with machine := m }

/-- Remembers the cookies of a reply. -/
def Link.learn [Platform] (url : Url) (reply : Reply) : Transfer Unit :=
  modify fun l =>
    { l with cookies := Platform.learnCookies l.cookies url.text reply.headers }

/-- Sends a message, and on to where the replies send it at most so many times. A reply that sends on
is the answer if redirects are not followed. -/
def sendOn [Platform] (manner : Manner) (timeout : Float) (follow : Bool) :
    Nat → Message → Transfer Response
  | 0, _ => throw .redirectsExceeded
  | left + 1, m => do
    let (reply, m) ← Link.onMachine (exchange m manner timeout)
    Link.learn m.url reply
    match ← Link.onMachine (Act.ofExcept (redirect? (← get).cookies m reply)) with
    | none => return .ofReply m.url.text reply
    | some next =>
      if follow then sendOn manner timeout follow left next
      else return .ofReply m.url.text reply

/-- Sends a message and gives the response. -/
def transmit [Platform] (manner : Manner) (timeout : Float) (follow : Bool) (m : Message) :
    Transfer Response :=
  sendOn manner timeout follow (redirectLimit + 1) m

end Courier.Net
