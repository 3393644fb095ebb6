import PathRouting.Text.Percent
import PathRouting.Url.Domain
import PathRouting.Url.Fault
import PathRouting.Url.Ipv4
import PathRouting.Url.Ipv6

/-!
Hosts of URLs. Where the scheme is a well-known one a host is an address or a domain and has one
spelling; other hosts are kept as they are written, with some characters percent-coded.
-/

namespace PathRouting.Url.Host

open PathRouting.Text

/-- The address in brackets that starts with the given text after the opening bracket. -/
def parseBracketed (cs : List Char) : Except Fault String :=
  match cs.getLast?, Ipv6.parse? cs.dropLast with
  | some ']', some groups => .ok ("[" ++ Ipv6.text groups ++ "]")
  | _, _ => .error .invalidIpv6Address

/-- The host that a text writes where the scheme is a well-known one. Percent codes are undone
first. -/
def parse (cs : List Char) : Except Fault String :=
  match cs with
  | '[' :: rest => parseBracketed rest
  | _ =>
    match Domain.toAscii? (Percent.decodeBytes (Percent.utf8 (String.ofList cs))) with
    | none => .error .invalidDomainName
    | some domain =>
      if domain.isEmpty then .error .emptyHost
      else if Ipv4.isMeant domain then
        match Ipv4.parse? domain with
        | some address => .ok (Ipv4.text address)
        | none => .error .invalidIpv4Address
      else .ok (String.ofList domain)

/-- Whether no host may hold the character. -/
def isForbidden (c : Char) : Bool :=
  c ∈ ['\x00', '\t', '\n', '\r', ' ', '#', '/', ':', '<', '>', '?', '@', '[', '\\', ']', '^', '|']

/-- Whether the byte stays as it is in a host: it is visible ASCII or a blank. -/
def isKept (b : UInt8) : Bool :=
  32 ≤ b.toNat && b.toNat < 127

/-- The host that a text writes where the scheme is not a well-known one. -/
def parseOpaque (cs : List Char) : Except Fault String :=
  match cs with
  | '[' :: rest => parseBracketed rest
  | _ =>
    if cs.any isForbidden then .error .invalidDomainCharacter
    else .ok (String.ofList (Percent.encodeBytes isKept (Percent.utf8 (String.ofList cs))))

end PathRouting.Url.Host
