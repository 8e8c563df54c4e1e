import Courier.Net.Url

/-!
# Relative addresses

An address without a scheme is understood beside the address of the page that it stands on.
-/

namespace Courier.Net.Url

/-- A path, and the parameters that follow the first semicolon of its last step. -/
structure Location where
  path : List Char
  parameters : List Char

/-- Splits a path where its scheme knows parameters; the socket schemes know none. -/
def Location.read (scheme : String) (path : List Char) : Location :=
  let step := ((path.reverse.span (· != '/')).1).reverse
  match Text.cut ';' step with
  | (_, some parameters) =>
    if scheme = "http" || scheme = "https" then
      ⟨path.take (path.length - parameters.length - 1), parameters⟩
    else ⟨path, []⟩
  | (_, none) => ⟨path, []⟩

/-- Nothing is written of empty parameters, not even their semicolon. -/
def Location.written (l : Location) : List Char :=
  if l.parameters.isEmpty then l.path else l.path ++ ';' :: l.parameters

/-- A location that names no place: that of the base is meant. -/
def Location.isEmpty (l : Location) : Bool :=
  l.path.isEmpty && l.parameters.isEmpty

/-- Carries out one step; going back from the beginning leads nowhere. -/
def resolveStep (done : List (List Char)) (step : List Char) : List (List Char) :=
  if step = ['.', '.'] then done.dropLast
  else if step = ['.'] then done
  else done ++ [step]

/-- The steps from the root that a path beside another path stands for. -/
def stepsFrom (base path : List Char) : List (List Char) :=
  if path.head? = some '/' then Text.splitOn '/' path
  else
    let steps := (Text.splitOn '/' base).dropLast ++ Text.splitOn '/' path
    match steps with
    | [] => []
    | first :: rest =>
      first :: (rest.dropLast.filter (!·.isEmpty) ++ (rest.getLast?).toList)

/-- The path that a path beside another path leads to. -/
def resolvePath (base path : List Char) : List Char :=
  let steps := stepsFrom base path
  let done := steps.foldl resolveStep []
  let last := steps.getLast?
  let closed := if last = some ['.'] || last = some ['.', '.'] then done ++ [[]] else done
  match Text.joinWith '/' closed with
  | [] => ['/']
  | joined => joined

/-- Text that follows a mark, unless it is empty. -/
def marked (mark : String) : Option String → String
  | none => ""
  | some s => if s = "" then "" else mark ++ s

/-- The text of an absolute address; an empty query or fragment is left out. -/
def assemble (scheme authority : String) (location : Location) (query fragment : Option String) :
    String :=
  let path := location.written
  let rooted := if path.isEmpty || path.head? = some '/' then path else '/' :: path
  scheme ++ "://" ++ authority ++ String.ofList rooted ++ marked "?" query ++ marked "#" fragment

/-! ## Authorities -/

/-- The code points of characters that are variants of slash, question mark, number sign, at sign or
colon, or of several characters with one of these among them. -/
def delimiterRanges : List (Nat × Nat) := Text.readRanges [
  "2047-2049 2100-2101 2105-2106 2A74 FE13 FE16 FE55-FE56 FE5F FE6B FF03 FF0F FF1A FF1F-FF20"]

/-- Whether a text behind a `v` is a version in hexadecimal digits, a point, and something more. -/
def isLaterVersion (text : List Char) : Bool :=
  match Text.cut '.' text with
  | (version, some (_ :: _)) => !version.isEmpty && version.all isHexDigit
  | _ => false

/-- Looks at what stands between brackets. -/
def checkAddress (text : List Char) : Except AuthorityFault Unit :=
  match text with
  | 'v' :: rest => if isLaterVersion rest then .ok () else .error .badLaterVersion
  | _ =>
    if isIpv4 text then .error .bracketedIpv4
    else if isIpv6 text then .ok ()
    else .error (.notAddress (String.ofList text))

/-- Looks at the brackets of an authority: nothing stands between the user and the first one, and
only a port after the first one that closes it. -/
def checkBrackets (authority : List Char) : Except AuthorityFault Unit :=
  if authority.contains '[' != authority.contains ']' then .error .brackets
  else if !authority.contains '[' then .ok ()
  else
    let server := ((cutLast '@' authority).map Prod.snd).getD authority
    match Text.cut '[' server with
    | (host, none) => checkAddress (Text.cut ':' host).1
    | (_ :: _, some _) => .error .brackets
    | ([], some rest) =>
      match Text.cut ']' rest with
      | (address, some (c :: _)) => if c = ':' then checkAddress address else .error .brackets
      | (address, _) => checkAddress address

/-- Looks at an authority beside which another address is understood, or that of the other
address. -/
def checkAuthority (authority : List Char) : Except UrlFault Unit :=
  match checkBrackets authority with
  | .error fault => .error (.badAuthority fault)
  | .ok () =>
    if authority.any fun c => Text.inRanges delimiterRanges c.toNat then
      .error (.badAuthority (.hiddenDelimiter (String.ofList authority)))
    else .ok ()

/-! ## Beside an absolute address -/

/-- The address that the parts of a relative one stand for beside an absolute one. -/
def resolveParts (base : Url) (reference : UrlParts) : Except UrlFault Url :=
  let query := reference.query.map String.ofList
  let fragment := reference.fragment.map String.ofList
  let here := Location.read base.scheme base.path.toList
  let there := Location.read base.scheme reference.path
  if !reference.authority.isEmpty then
    parse (assemble base.scheme (String.ofList reference.authority) there query fragment)
  else if there.isEmpty then
    let query := if query.getD "" = "" then base.query else query
    parse (assemble base.scheme base.authority here query fragment)
  else
    let path := resolvePath here.path there.path
    parse (assemble base.scheme base.authority ⟨path, there.parameters⟩ query fragment)

/-- The address that a relative one stands for beside an absolute one. The text of a relative one may
name a scheme: the path of one that was written with an empty scheme can begin like that. -/
def resolve (base reference : Url) : Except UrlFault Url :=
  let parts := UrlParts.ofText reference.text.toList
  if reference.text = "" then parse base.text
  else do
    checkAuthority base.authority.toList
    checkAuthority parts.authority
    if parts.scheme.isEmpty || String.ofList (parts.scheme.map Char.toLower) = base.scheme then
      resolveParts base parts
    else parse reference.text

end Courier.Net.Url
