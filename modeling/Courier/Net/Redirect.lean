import Courier.Net.Message

/-!
# Redirects

A reply can send a request on to another address. The method may change on the way; a body that is
not sent again takes its headers with it, and credentials are not told to another server.
-/

namespace Courier.Net

/-- The statuses that send a request on. -/
def redirectStatuses : List Nat := [301, 302, 303, 307, 308]

/-- The address that a reply sends on to, as it is written. -/
def location? (reply : Reply) : Option String :=
  if redirectStatuses.contains reply.status then
    match ((decodeHeaders reply.headers).filter (·.1 = "location")).map Prod.snd with
    | [] => none
    | values => some (String.intercalate ", " values)
  else none

/-- The method of the next message. -/
def redirectMethod (status : Nat) (method : String) : String :=
  if (status = 303 || status = 302) && method != "HEAD" then "GET"
  else if status = 301 && method = "POST" then "GET"
  else method

/-- The address of the next message. -/
def redirectTarget (current : Url) (location : String) : Except Failure Url := do
  let url ←
    match Url.parse location with
    | .ok url => pure url
    | .error fault =>
      throw (.network .remoteProtocolError
        ("Invalid URL in location header: " ++ fault.message ++ "."))
  let ofUrl (r : Except UrlFault Url) : Except Failure Url :=
    match r with
    | .ok u => .ok u
    | .error fault => .error (.url fault)
  let url ←
    if url.scheme = "" then pure url
    else do
      let _ ← readableHost url
      if url.host != "" then pure url
      else do
        let host ← readableHost current
        ofUrl (url.withHost host)
  let url ← if url.isAbsolute then pure url else ofUrl (current.resolve url)
  if current.fragmentText != "" && url.fragmentText = "" then
    ofUrl (url.withFragment current.fragmentText)
  else pure url

/-- The port that an address leads to. -/
def effectivePort (u : Url) : Option Int :=
  u.port.or ([("http", 80), ("https", 443)].lookup u.scheme)

/-- Whether two addresses lead to the same server. -/
def sameOrigin (a b : Url) : Bool :=
  a.scheme = b.scheme && a.host = b.host && effectivePort a = effectivePort b

/-- Whether one address leads to the secured side of the server of the other. -/
def isUpgrade (current next : Url) : Bool :=
  current.host = next.host && current.scheme = "http" && effectivePort current = some 80 &&
    next.scheme = "https" && effectivePort next = some 443

/-- Looks at the hosts of two addresses that are compared: at that of the next address first if it is
reached in the same way as the current one. -/
def checkHosts (current next : Url) : Except Failure Unit := do
  let (first, second) := if current.scheme = next.scheme then (next, current) else (current, next)
  let _ ← readableHost first
  let _ ← readableHost second

/-- The headers of the next message. -/
def redirectHeaders (message : Message) (next : Url) (method : String) : Except Failure Headers := do
  let headers := message.headers
  let headers ←
    if sameOrigin next message.url then pure headers
    else do
      let kept := if isUpgrade message.url next then headers else headers.without "Authorization"
      let host ← netlocValue next
      pure (kept.set "Host" host)
  let headers :=
    if method != message.method && method = "GET" then
      (headers.without "Content-Length").without "Transfer-Encoding"
    else headers
  return headers.without "Cookie"

/-- The message that a reply asks for, if it sends the request on. It takes the cookies along that are
remembered. -/
def redirect? [Platform] (cookies : Platform.Cookies) (message : Message) (reply : Reply) :
    Except Failure (Option Message) :=
  match location? reply with
  | none => .ok none
  | some location => do
    let method := redirectMethod reply.status message.method
    let next ← redirectTarget message.url location
    checkHosts message.url next
    let headers ← redirectHeaders message next method
    let body := if method != message.method && method = "GET" then Body.held [] else message.body
    return some { method, url := next, headers := withCookies headers cookies next, body }

/-- How often a request is sent on. -/
def redirectLimit : Nat := 20

end Courier.Net
