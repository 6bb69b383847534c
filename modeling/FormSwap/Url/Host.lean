import FormSwap.Url.Address
import FormSwap.Url.Basic
import FormSwap.Url.Domain.Name

/-!
# Hosts

`parseHost` reads the host of a special URL: an IPv6 address in brackets, an IPv4 address, or a
domain name. `parseOpaqueHost` reads the host of any other URL, which is only escaped.
-/

namespace FormSwap.Url

/-- `bracketed? s` is the IPv6 address in brackets, if `s` starts with a bracket. -/
def bracketed? (s : List Char) : Option (Except Error (List Char)) :=
  match s with
  | '[' :: rest =>
    some (if rest.getLast? = some ']' then parseIpv6 rest.dropLast else .error .invalidIpv6)
  | _ => none

/-- `parseHost s` reads the host of a special URL. -/
def parseHost (s : List Char) : Except Error (List Char) :=
  match bracketed? s with
  | some address => address
  | none =>
    match domainName s with
    | .error e => .error e
    | .ok [] => .error .emptyHost
    | .ok name => if endsInNumber name then parseIpv4 name else .ok name

/-- `parseOpaqueHost s` reads the host of any other URL. -/
def parseOpaqueHost (s : List Char) : Except Error (List Char) :=
  match bracketed? s with
  | some address => address
  | none =>
    if s.any fun c => c.toNat == 0 || " #/:<>?@[\\]^|".toList.contains c then
      .error .invalidHostCharacter
    else .ok (escape controlSet s)

end FormSwap.Url
