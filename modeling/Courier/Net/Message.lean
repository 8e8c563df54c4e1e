import Courier.Charset.Utf7
import Courier.Entity
import Courier.Net.Url.Resolve

/-!
# Messages

A request as it goes over the wire: where it goes, its complete headers, and its body. A body that is
streamed can be read once.
-/

namespace Courier.Net

/-- The body of a message. -/
inductive Body where
  | held (bytes : Bytes)
  | streamed (pieces : List Piece) (spent : Bool)

/-- How a body is read: at one go, or each chunk on its own while others wait for it. -/
inductive Manner where
  | direct | stepwise
  deriving DecidableEq, Repr

/-- A failure as one learns of it in a manner. -/
def Manner.told : Manner → Failure → Failure
  | direct, failure => failure
  | stepwise, failure => failure.relayed

/-- Does something in a manner: at once, or while others wait for it. -/
def Manner.perform {α : Type} (manner : Manner) (act : Act α) : Act α := fun m =>
  match act m with
  | .ok a m => .ok a m
  | .error failure m => .error (manner.told failure) m

namespace Manner

variable {α : Type} {act : Act α} {m m' : Machine} {manner : Manner}

theorem perform_ok {a : α} (h : act m = .ok a m') : manner.perform act m = .ok a m' := by
  unfold perform
  rw [h]

theorem perform_error {failure : Failure} (h : act m = .error failure m') :
    manner.perform act m = .error (manner.told failure) m' := by
  unfold perform
  rw [h]

end Manner

/-- Reads a body. -/
def Body.read [Platform] (manner : Manner) : Body → Act (Bytes × Body)
  | held bytes => pure (bytes, held bytes)
  | streamed _ true => throw .streamConsumed
  | streamed pieces false => fun m =>
    let (d, m) :=
      match manner with
      | .direct => (Content.streamed pieces).drain m
      | .stepwise => (Content.streamed pieces).drainStepwise m
    match d.toExcept with
    | .ok bytes => .ok (bytes, streamed pieces true) m
    | .error failure => .error failure m

/-- The body that an entity's content is sent as. -/
def Body.ofContent : Option Content → Body
  | none => .held []
  | some (.held bytes) => .held bytes
  | some (.streamed pieces) => .streamed pieces false

/-- A request as it goes over the wire. -/
structure Message where
  method : String
  url : Url
  headers : Headers
  body : Body

/-! ## Credentials -/

/-- Bytes in base 64, filled up to groups of four digits. -/
def base64 : Bytes → List UInt8
  | a :: b :: c :: rest =>
    let n := a.toNat * 65536 + b.toNat * 256 + c.toNat
    Charset.base64Digit (n / 262144) :: Charset.base64Digit (n / 4096 % 64) ::
      Charset.base64Digit (n / 64 % 64) :: Charset.base64Digit (n % 64) :: base64 rest
  | [a, b] =>
    let n := a.toNat * 256 + b.toNat
    [Charset.base64Digit (n / 1024), Charset.base64Digit (n / 16 % 64),
      Charset.base64Digit (n % 16 * 4), 61]
  | [a] => [Charset.base64Digit (a.toNat / 4), Charset.base64Digit (a.toNat % 4 * 16), 61, 61]
  | [] => []

/-- The header value that tells user and password. -/
def basicCredentials (user password : List Char) : String :=
  "Basic " ++ latinText (base64 (Charset.utf8Bytes (user ++ ':' :: password)))

/-- Adds the header that tells the user and password of the address, if it has any. -/
def Message.authorize (m : Message) : Message :=
  match m.url.credentials with
  | ([], []) => m
  | (user, password) =>
    { m with headers := m.headers.set "Authorization" (basicCredentials user password) }

/-! ## Making a message -/

/-- The address that a message goes to. One that does not say how or where keeps only path and
query. -/
def targetOf (url : Url) : Url :=
  if url.isAbsolute then url
  else
    let path := String.ofList (url.path.toList.dropWhile (· = '/'))
    { scheme := "", userinfo := "", host := "", port := none, path := "/" ++ path,
      query := url.query, fragment := none }

/-- The headers that follow from the body, where the caller gave none to that end. -/
def bodyHeaders (headers : Headers) (body : Body) : Headers :=
  match body with
  | .held [] => headers
  | .held bytes =>
    if headers.has "Content-Length" then headers
    else headers.set "Content-Length" (Text.numeral bytes.length)
  | .streamed .. =>
    if headers.has "Transfer-Encoding" || headers.has "Content-Length" then headers
    else headers.set "Transfer-Encoding" "chunked"

/-- Adds the cookies that go to an address, unless the headers tell of cookies themselves. -/
def withCookies [Platform] (headers : Headers) (cookies : Platform.Cookies) (url : Url) : Headers :=
  if headers.has "Cookie" then headers
  else
    match Platform.cookiesFor? cookies url.text with
    | some value => headers.set "Cookie" value
    | none => headers

/-- The host of an address as it is read. -/
def readableHost (url : Url) : Except Failure String :=
  match url.readableHost with
  | .ok host => .ok host
  | .error fault => .error (.hostName fault)

/-- The value of the header that names host and port; it has to be ASCII. -/
def netlocValue (url : Url) : Except Failure String :=
  (asciiBytes url.netloc).map fun _ => url.netloc

/-- The headers that name the host of an address. Where there is none, none is needed. -/
def hostHeaders (url : Url) : Except Failure Headers := do
  let host ← readableHost url
  if host = "" then return []
  return [("Host", ← netlocValue url)]

/-- The headers that stand before all others: the host, and no length where one is looked for. The
host is looked at only if it has to be named. -/
def leadingHeaders (method : String) (url : Url) (headers : Headers) : Except Failure Headers := do
  let host ← if headers.has "Host" then pure [] else hostHeaders url
  let length : Headers :=
    if ["POST", "PUT", "PATCH"].contains method && !headers.has "Content-Length" &&
        !headers.has "Transfer-Encoding" then [("Content-Length", "0")]
    else []
  return host ++ length

/-- A message from the usual headers and those of the request, with the cookies that are remembered. -/
def Message.prepare [Platform] (method url : String) (usual headers : Headers)
    (cookies : Platform.Cookies) (body : Body) : Except Failure Message :=
  match Url.parse url with
  | .error fault => .error (.url fault)
  | .ok parsed =>
    match headers.check with
    | .error failure => .error failure
    | .ok () =>
      let target := targetOf parsed
      let merged := bodyHeaders (withCookies (usual.update headers) cookies target) body
      match leadingHeaders method target merged with
      | .error failure => .error failure
      | .ok leading => .ok { method, url := target, body, headers := leading ++ merged }

end Courier.Net
