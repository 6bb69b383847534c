/-! # URL errors -/

namespace FormSwap.Url

/-- `Error` is the error of a text that is no URL, or does not resolve against a base. -/
inductive Error where
  | emptyHost
  | invalidDomain
  | invalidHostCharacter
  | invalidPort
  | invalidIpv4
  | invalidIpv6
  | relativeWithoutBase
  | relativeWithOpaqueBase
deriving DecidableEq, Repr

/-- `e.message` is the text of a URL error. -/
def Error.message : Error → String
  | .emptyHost => "empty host"
  | .invalidDomain => "invalid international domain name"
  | .invalidHostCharacter => "invalid domain character"
  | .invalidPort => "invalid port number"
  | .invalidIpv4 => "invalid IPv4 address"
  | .invalidIpv6 => "invalid IPv6 address"
  | .relativeWithoutBase => "relative URL without a base"
  | .relativeWithOpaqueBase => "relative URL with a cannot-be-a-base base"

end FormSwap.Url
