import Courier.Net.Url.Host
import Courier.Text.Blank
import Courier.Text.Digit
import Courier.Text.Quoted

/-!
# Addresses

An address has an optional scheme, an optional authority (user, host, port), a path, and an optional
query and fragment. Reading one brings every part into the form in which it is sent; the text of an
address that was read reads as the same address.
-/

namespace Courier.Net

/-- Why an authority is refused beside which another address is understood. -/
inductive AuthorityFault where
  /-- Brackets that do not stand around the host alone. -/
  | brackets
  /-- Something else than an address between the brackets. -/
  | notAddress (text : String)
  /-- An IPv4 address between the brackets. -/
  | bracketedIpv4
  /-- An address of a later version, badly written. -/
  | badLaterVersion
  /-- A character that is a variant of one that ends the host. -/
  | hiddenDelimiter (authority : String)
  deriving DecidableEq, Repr

/-- What a user is told about a refused authority. -/
def AuthorityFault.message : AuthorityFault → String
  | brackets => "Invalid IPv6 URL"
  | notAddress text => Text.quoted text ++ " does not appear to be an IPv4 or IPv6 address"
  | bracketedIpv4 => "An IPv4 address cannot be in brackets"
  | badLaterVersion => "IPvFuture address is invalid"
  | hiddenDelimiter authority =>
    "netloc '" ++ authority ++ "' contains invalid characters under NFKC normalization"

/-- Why an address is refused. -/
inductive UrlFault where
  | tooLong
  | controlCharacter (c : Char) (position : Nat)
  | controlInPart (part : String) (c : Char) (position : Nat)
  | badIpv4 (host : String)
  | badIpv6 (host : String)
  | badName (host : String)
  | badPort (port : String)
  | badAuthority (fault : AuthorityFault)
  | pathNotRooted
  | pathLooksLikeAuthority
  | pathLooksLikeScheme
  deriving DecidableEq, Repr

/-- What a user is told about a refused address. -/
def UrlFault.message : UrlFault → String
  | tooLong => "URL too long"
  | controlCharacter c position =>
    "Invalid non-printable ASCII character in URL, " ++ Text.quoted (String.singleton c) ++
      " at position " ++ Text.numeral position ++ "."
  | controlInPart part c position =>
    "Invalid non-printable ASCII character in URL " ++ part ++ " component, " ++
      Text.quoted (String.singleton c) ++ " at position " ++ Text.numeral position ++ "."
  | badIpv4 host => "Invalid IPv4 address: " ++ Text.quoted host
  | badIpv6 host => "Invalid IPv6 address: " ++ Text.quoted host
  | badName host => "Invalid IDNA hostname: " ++ Text.quoted host
  | badPort port => "Invalid port: " ++ Text.quoted port
  | badAuthority fault => fault.message
  | pathNotRooted => "For absolute URLs, path must be empty or begin with '/'"
  | pathLooksLikeAuthority => "Relative URLs cannot have a path starting with '//'"
  | pathLooksLikeScheme => "Relative URLs cannot have a path starting with ':'"

/-- An address in the form in which it is sent. An IPv6 host stands without brackets. -/
structure Url where
  scheme : String
  userinfo : String
  host : String
  port : Option Int
  path : String
  query : Option String
  fragment : Option String
  deriving DecidableEq, Repr

/-! ## Taking text apart -/

/-- The parts of an address as they are written. -/
structure UrlParts where
  scheme : List Char
  authority : List Char
  path : List Char
  query : Option (List Char)
  fragment : Option (List Char)

/-- The parts of an authority as they are written. -/
structure Authority where
  userinfo : List Char
  host : List Char
  port : List Char

/-- Splits a text before the first character of a class. -/
def splitBefore (stop : Char → Bool) (cs : List Char) : List Char × List Char :=
  cs.span fun c => !stop c

/-- Takes a scheme and its colon off the front; the scheme may be empty. -/
def takeScheme (cs : List Char) : List Char × List Char :=
  let isSchemeChar (c : Char) : Bool := c.isAlphanum || c = '+' || c = '.' || c = '-'
  match cs.span isSchemeChar with
  | ([], ':' :: rest) => ([], rest)
  | (c :: name, ':' :: rest) => if c.isAlpha then (c :: name, rest) else ([], cs)
  | _ => ([], cs)

/-- The parts of a text. Every text has them. -/
def UrlParts.ofText (cs : List Char) : UrlParts :=
  let (scheme, rest) := takeScheme cs
  let (authority, rest) :=
    match rest with
    | '/' :: '/' :: rest => splitBefore (fun c => c = '/' || c = '?' || c = '#') rest
    | rest => ([], rest)
  let (hierarchy, fragment) := Text.cut '#' rest
  let (path, query) := Text.cut '?' hierarchy
  ⟨scheme, authority, path, query, fragment⟩

/-- Splits a text at the last place where a character stands. -/
def cutLast (sep : Char) (cs : List Char) : Option (List Char × List Char) :=
  match Text.cut sep cs.reverse with
  | (_, none) => none
  | (after, some before) => some (before.reverse, after.reverse)

/-- The parts of an authority. A bracketed host goes to the last closing bracket. -/
def Authority.ofText (cs : List Char) : Authority :=
  let (userinfo, rest) := (cutLast '@' cs).getD ([], cs)
  let (host, rest) :=
    match rest, cutLast ']' rest with
    | '[' :: _, some (inside, after) => (inside ++ [']'], after)
    | _, _ => splitBefore (fun c => c = ':' || c = '@') rest
  let port :=
    match rest with
    | ':' :: port => port
    | port => port
  ⟨userinfo, host, port⟩

/-! ## Bringing the parts into form -/

/-- The characters that a path may hold as they are. -/
def pathSafe : Char → Bool := printableBut "\"#<>?`\x7b\x7d".toList

/-- The characters that a query may hold as they are. -/
def querySafe : Char → Bool := printableBut "\"#<>".toList

/-- The characters that a fragment may hold as they are. -/
def fragmentSafe : Char → Bool := printableBut "\"<>`".toList

/-- The characters that a user and a password may hold as they are. -/
def userinfoSafe : Char → Bool := printableBut "\"#<>?`\x7b\x7d/;=@[\\]^|".toList

/-- The ports that need not be written. -/
def defaultPort (scheme : String) : Option Int :=
  [("ftp", 21), ("http", 80), ("https", 443), ("ws", 80), ("wss", 443)].lookup scheme

/-- Reads a port: a whole number in the digits of any script, at most 4300 of them. -/
def readPort (port : List Char) : Option Int :=
  let digits := (port.filter fun c => (Text.digitValue? c).isSome).length
  if 4300 < digits then none
  else Text.readSigned Text.digitValue? (Text.stripChars port)

/-- The port that an address is written with: none if it is not given or goes without saying for the
scheme as it stands. -/
def normalizePort (port scheme : List Char) : Except UrlFault (Option Int) :=
  if port.isEmpty then .ok none
  else
    match readPort port with
    | none => .error (.badPort (String.ofList port))
    | some n => .ok (if defaultPort (String.ofList scheme) = some n then none else some n)

/-- Carries out one step of a path: a dot stays, two dots go back, but not before the root. -/
def pushStep (done : List (List Char)) (step : List Char) : List (List Char) :=
  if step = ['.'] then done
  else if step = ['.', '.'] then
    if done = [] || done = [[]] then done else done.dropLast
  else done ++ [step]

/-- A path without steps of one or two dots. -/
def normalizePath (path : List Char) : List Char :=
  let steps := Text.splitOn '/' path
  if steps.contains ['.'] || steps.contains ['.', '.'] then
    Text.joinWith '/' (steps.foldl pushStep [])
  else path

/-- Refuses a path that would read as another part of the address. -/
def checkPath (path : List Char) (hasScheme hasAuthority : Bool) : Except UrlFault Unit :=
  if hasAuthority then
    if path.isEmpty || path.head? = some '/' then .ok () else .error .pathNotRooted
  else if hasScheme then .ok ()
  else
    match path with
    | '/' :: '/' :: _ => .error .pathLooksLikeAuthority
    | ':' :: _ => .error .pathLooksLikeScheme
    | _ => .ok ()

/-- The fault of a host. -/
def UrlFault.ofHost (host : String) : HostFault → UrlFault
  | .ipv4 => .badIpv4 host
  | .ipv6 => .badIpv6 host
  | .name => .badName host

/-- Brings the parts of an address into form. -/
def Url.ofParts (parts : UrlParts) (authority : Authority) : Except UrlFault Url :=
  let userinfo := percentEncode userinfoSafe authority.userinfo
  match normalizeHost (String.ofList authority.host) with
  | .error fault => .error (.ofHost (String.ofList authority.host) fault)
  | .ok host =>
    match normalizePort authority.port parts.scheme with
    | .error fault => .error fault
    | .ok port =>
      let scheme := String.ofList (parts.scheme.map Char.toLower)
      let hasScheme := scheme != ""
      let hasAuthority := userinfo != "" || host != "" || port.isSome
      match checkPath parts.path hasScheme hasAuthority with
      | .error fault => .error fault
      | .ok () =>
        let path := if hasScheme || hasAuthority then normalizePath parts.path else parts.path
        .ok {
          scheme, userinfo, host, port
          path := percentEncode pathSafe path
          query := parts.query.map (percentEncode querySafe)
          fragment := parts.fragment.map (percentEncode fragmentSafe) }

/-- How many characters an address may have. -/
def urlLimit : Nat := 65536

/-- Whether a character is a control character of ASCII. -/
def isControl (c : Char) : Bool :=
  c.toNat < 0x20 || c.toNat = 0x7F

/-- The first control character of a text and its place. -/
def firstControl? (cs : List Char) : Option (Char × Nat) :=
  (cs.zipIdx.find? fun p => isControl p.1)

/-- Reads an address. -/
def Url.parse (text : String) : Except UrlFault Url :=
  let cs := text.toList
  if urlLimit < cs.length then .error .tooLong
  else
    match firstControl? cs with
    | some (c, position) => .error (.controlCharacter c position)
    | none =>
      let parts := UrlParts.ofText cs
      Url.ofParts parts (Authority.ofText parts.authority)

/-! ## Writing -/

namespace Url

/-- The host as it is written beside other parts. -/
def hostText (u : Url) : String :=
  if u.host.toList.contains ':' then "[" ++ u.host ++ "]" else u.host

/-- The port with its colon. -/
def portText (u : Url) : String :=
  match u.port with
  | some n => ":" ++ Text.signedNumeral n
  | none => ""

/-- Host and port, as a request names them. -/
def netloc (u : Url) : String :=
  u.hostText ++ u.portText

/-- User, host and port. -/
def authority (u : Url) : String :=
  (if u.userinfo = "" then "" else u.userinfo ++ "@") ++ u.netloc

/-- The text of an address. -/
def text (u : Url) : String :=
  (if u.scheme = "" then "" else u.scheme ++ ":") ++
    (if u.authority = "" then "" else "//" ++ u.authority) ++
    u.path ++
    (match u.query with
      | some q => "?" ++ q
      | none => "") ++
    (match u.fragment with
      | some f => "#" ++ f
      | none => "")

/-- Whether an address says both how and where to go. -/
def isAbsolute (u : Url) : Bool :=
  u.scheme != "" && u.host != ""

/-- The host as it is read: one whose first label stands in ASCII for another has to stand for a good
name. -/
def readableHost (u : Url) : Except NameFault String :=
  if HostName.isEncoded u.host then HostName.decode u.host else .ok u.host

/-- The parts of an address that was read. -/
def parts (u : Url) : UrlParts :=
  ⟨u.scheme.toList, u.authority.toList, u.path.toList, u.query.map String.toList,
    u.fragment.map String.toList⟩

/-- The address with another host. -/
def withHost (u : Url) (host : String) : Except UrlFault Url :=
  let host := if host.toList.contains ':' then "[" ++ host ++ "]" else host
  ofParts u.parts { Authority.ofText u.authority.toList with host := host.toList }

/-- The address with another fragment. -/
def withFragment (u : Url) (fragment : String) : Except UrlFault Url :=
  match firstControl? fragment.toList with
  | some (c, position) => .error (.controlInPart "fragment" c position)
  | none =>
    ofParts { u.parts with fragment := some fragment.toList } (Authority.ofText u.authority.toList)

/-! ## Escaped parts as text -/

/-- Undoes the percent escapes of a part; their bytes are read as UTF-8. -/
def unescape (part : String) : List Char :=
  (Charset.readUtf8 (percentDecode part.toUTF8.toList)).map (·.getD (Char.ofNat 0xFFFD))

/-- The fragment without escapes; empty if there is none. -/
def fragmentText (u : Url) : String :=
  String.ofList (unescape (u.fragment.getD ""))

/-- User name and password without escapes. -/
def credentials (u : Url) : List Char × List Char :=
  let (user, password) := Text.cut ':' u.userinfo.toList
  (unescape (String.ofList user), unescape (String.ofList (password.getD [])))

end Url

end Courier.Net
