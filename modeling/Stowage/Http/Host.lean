import Stowage.Failure.Basic
import Stowage.Hostname.Label
import Stowage.Http.Percent

/-!
Hosts of URLs: numeric addresses, names in ASCII, and names in other scripts.

A name in ASCII is kept in lower case, with codes for what it cannot hold; a name in another script
is written in ASCII. What looks like a numeric address has to be one.
-/

namespace Stowage.Http.Host

/-! ## Numeric addresses -/

/-- Whether a host is four runs of digits with dots between them. -/
def looksNumeric (cs : List Char) : Bool :=
  let parts := Text.splitAt (· == '.') cs
  parts.length == 4 && parts.all fun part => !part.isEmpty && part.all Char.isDigit

/-- One of the four numbers: up to three digits, no needless zero, below 256. -/
def isOctet (cs : List Char) : Bool :=
  !cs.isEmpty && cs.all Char.isDigit && cs.length ≤ 3 && (cs = ['0'] || cs.head? != some '0') &&
    Decimal.ofDigits (cs.map fun c => c.toNat - 48) ≤ 255

/-- An address of four numbers. -/
def isV4 (cs : List Char) : Bool :=
  let parts := Text.splitAt (· == '.') cs
  parts.length == 4 && parts.all isOctet

/-- One group of an address in hexadecimal. -/
def isGroup (cs : List Char) : Bool :=
  !cs.isEmpty && cs.length ≤ 4 && cs.all fun c => (Text.hexDigit? c).isSome

/-- The groups of an address in hexadecimal, where an address of four numbers at the end counts as
two. -/
def groups? (cs : List Char) : Option (List (List Char)) :=
  let parts := Text.splitAt (· == ':') cs
  match parts.reverse with
  | [] => none
  | last :: before =>
    if last.contains '.' then
      if isV4 last then some (before.reverse ++ [['0'], ['0']]) else none
    else some parts

/-- The places, ends aside, at which no group stands between two colons. -/
def gaps (parts : List (List Char)) : List Nat :=
  (List.range parts.length).filter fun i =>
    0 < i && i + 1 < parts.length && parts[i]? == some []

/-- Groups of which some may be left out at one place. -/
def isGroupList (parts : List (List Char)) : Bool :=
  match gaps parts with
  | [] => parts.length == 8 && parts.all isGroup
  | [i] =>
    let high := parts.take i
    let low := parts.drop (i + 1)
    let high := if high.head? == some [] then high.drop 1 else high
    let low := if low.getLast? == some [] then low.dropLast else low
    high.length + low.length < 8 && high.all isGroup && low.all isGroup &&
      (parts.head? != some [] || high.isEmpty) && (parts.getLast? != some [] || low.isEmpty)
  | _ => false

/-- An address in hexadecimal groups, with a zone after a percent sign or without. -/
def isV6 (cs : List Char) : Bool :=
  let (address, zone) := Text.cut '%' cs
  let zoneFits := match zone with
    | none => true
    | some z => !z.isEmpty && !z.contains '%'
  let parts := Text.splitAt (· == ':') address
  zoneFits && !address.contains '/' && 3 ≤ parts.length && parts.length ≤ 9 &&
    (match groups? address with
    | some groups => groups.length ≤ 9 && isGroupList groups
    | none => false)

/-! ## Hosts -/

/-- A host in the form in which URLs keep it. -/
def normalize (host : List Char) : Except Failure (List Char) :=
  let shown := Text.quoted (String.ofList host)
  let isBracketed := host.head? == some '[' && host.getLast? == some ']' && 2 ≤ host.length
  if looksNumeric host then
    if isV4 host then .ok host else .error (.badUrl ("Invalid IPv4 address: " ++ shown))
  else if isBracketed then
    let inner := (host.drop 1).dropLast
    if isV6 inner then .ok inner else .error (.badUrl ("Invalid IPv6 address: " ++ shown))
  else
    let lowered := (Text.lower (String.ofList host)).toList
    if host.all fun c => c.toNat < 0x80 then .ok (Percent.encode Percent.inHost lowered)
    else match Hostname.ascii? lowered with
      | some name => .ok name
      | none => .error (.badUrl ("Invalid IDNA hostname: " ++ shown))

end Stowage.Http.Host
