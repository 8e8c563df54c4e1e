import Courier.Charset.Unicode
import Courier.Net.HostName

/-!
# Hosts of addresses

A host is an IPv4 address, an IPv6 address in brackets, or a name. Each is checked and brought into
the form in which it is written.
-/

namespace Courier.Net

open Charset

/-! ## Percent escapes -/

/-- The characters that an address may hold as they are, in every part of it. -/
def isUnreserved (c : Char) : Bool :=
  c.isAlphanum || c = '-' || c = '.' || c = '_' || c = '~'

/-- A text in which every character outside a class is written as percent escapes of its UTF-8
bytes. -/
def percentEncode (safe : Char → Bool) (cs : List Char) : String :=
  String.ofList <| cs.flatMap fun c =>
    if isUnreserved c || safe c then [c]
    else ((utf8Bytes [c]).flatMap percentByte).map fun b => Char.ofNat b.toNat

/-- The printable characters of ASCII but the listed ones. -/
def printableBut (excluded : List Char) (c : Char) : Bool :=
  0x20 < c.toNat && c.toNat < 0x7F && !excluded.contains c

/-! ## IPv4 -/

/-- Whether a host looks like an IPv4 address: four numbers of any size with a point between each
two. No such host is a name. -/
def looksLikeIpv4 (host : List Char) : Bool :=
  let numbers := Text.splitOn '.' host
  numbers.length = 4 && numbers.all fun ds => !ds.isEmpty && ds.all Char.isDigit

/-- Whether digits make a number of an IPv4 address. -/
def isOctet (ds : List Char) : Bool :=
  !ds.isEmpty && ds.all Char.isDigit && ds.length ≤ 3 &&
    (ds.length = 1 || ds.head? != some '0') &&
    ds.foldl (fun n d => 10 * n + (d.toNat - 48)) 0 ≤ 255

/-- Whether a text is an IPv4 address. -/
def isIpv4 (cs : List Char) : Bool :=
  let octets := Text.splitOn '.' cs
  octets.length = 4 && octets.all isOctet

/-! ## IPv6 -/

/-- Whether a character is a hexadecimal digit. -/
def isHexDigit (c : Char) : Bool :=
  c.toNat < 0x80 && (hexValue? c.toNat.toUInt8).isSome

/-- Whether a text is a group of an IPv6 address. -/
def isGroup (cs : List Char) : Bool :=
  !cs.isEmpty && cs.length ≤ 4 && cs.all isHexDigit

/-- Whether groups make an IPv6 address. One run of groups may be left out; nothing stands in its
place. -/
def areGroups (groups : List (List Char)) : Bool :=
  let inner := (groups.drop 1).dropLast
  match inner.findIdx? List.isEmpty with
  | none => groups.length = 8 && groups.all isGroup
  | some i =>
    let high := groups.take (i + 1)
    let low := groups.drop (i + 2)
    let kept (side : List (List Char)) (outer : Option (List Char)) : Option (List (List Char)) :=
      if outer = some [] then (if side.length = 1 then some [] else none) else some side
    match kept high groups.head?, kept low groups.getLast? with
    | some high, some low =>
      (inner.filter List.isEmpty).length = 1 && high.length + low.length < 8 &&
        high.all isGroup && low.all isGroup
    | _, _ => false

/-- Whether a text is an IPv6 address; a zone may follow a percent sign. -/
def isIpv6 (cs : List Char) : Bool :=
  let (address, zone) := Text.cut '%' cs
  let zoneIsGood :=
    match zone with
    | none => true
    | some z => !z.isEmpty && !z.contains '%'
  let groups := Text.splitOn ':' address
  let expanded : Option (List (List Char)) :=
    match groups.getLast? with
    | some last =>
      if last.contains '.' then
        if isIpv4 last then some (groups.dropLast ++ [['0'], ['0']]) else none
      else some groups
    | none => none
  zoneIsGood && !cs.contains '/' && 3 ≤ groups.length &&
    match expanded with
    | some groups => groups.length ≤ 9 && areGroups groups
    | none => false

/-! ## Hosts -/

/-- What is wrong with a host. -/
inductive HostFault where
  | ipv4 | ipv6 | name
  deriving DecidableEq, Repr

/-- The characters that a name may hold as they are beside the unreserved ones. -/
def hostSafe : List Char := "!$&'()*+,;=\"`\x7b\x7d%|\\".toList

/-- Whether a host stands in brackets. -/
def isBracketed (host : List Char) : Bool :=
  2 ≤ host.length && host.head? = some '[' && host.getLast? = some ']'

/-- The form in which a host is written; an IPv6 address loses its brackets. -/
def normalizeHost (host : String) : Except HostFault String :=
  let cs := host.toList
  if cs.isEmpty then .ok ""
  else if looksLikeIpv4 cs then
    if isIpv4 cs then .ok host else .error .ipv4
  else if isBracketed cs then
    let inner := (cs.drop 1).dropLast
    if isIpv6 inner then .ok (String.ofList inner) else .error .ipv6
  else if isAscii cs then
    .ok (percentEncode hostSafe.contains (cs.map Char.toLower))
  else
    match HostName.encode host with
    | .ok name => .ok name
    | .error _ => .error .name

end Courier.Net
