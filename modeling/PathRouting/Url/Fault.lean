/-!
Why a base URL is refused.
-/

namespace PathRouting.Url

/-- The faults of a URL that is to be the base of others. The last is a fault that a caller reports
in its own words. -/
inductive Fault where
  | relativeWithoutBase
  | emptyHost
  | invalidDomainName
  | invalidDomainCharacter
  | invalidPort
  | invalidIpv4Address
  | invalidIpv6Address
  | noHost
  | other (message : String)
  deriving DecidableEq, Repr

/-- What is wrong, in words. -/
def Fault.message : Fault → String
  | .relativeWithoutBase => "relative URL without a base"
  | .emptyHost => "empty host"
  | .invalidDomainName => "invalid international domain name"
  | .invalidDomainCharacter => "invalid domain character"
  | .invalidPort => "invalid port number"
  | .invalidIpv4Address => "invalid IPv4 address"
  | .invalidIpv6Address => "invalid IPv6 address"
  | .noHost => "base URL must include a host"
  | .other message => message

end PathRouting.Url
