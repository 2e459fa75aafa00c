/-!
# Why a text is not a URL

Each cause of a URL that does not read, with the fixed wording that reports it.
-/

namespace TaskQueue.Url

/-- Why a text is not a URL, each cause with its fixed wording. -/
inductive UrlError
  | relativeWithoutBase
  | emptyHost
  | invalidPort
  | invalidIpv4
  | invalidIpv6
  | invalidDomainCharacter
  | idna
  deriving DecidableEq, Repr

/-- The wording of each cause. -/
def UrlError.message : UrlError → String
  | .relativeWithoutBase => "relative URL without a base"
  | .emptyHost => "empty host"
  | .invalidPort => "invalid port number"
  | .invalidIpv4 => "invalid IPv4 address"
  | .invalidIpv6 => "invalid IPv6 address"
  | .invalidDomainCharacter => "invalid domain character"
  | .idna => "invalid international domain name"

end TaskQueue.Url
