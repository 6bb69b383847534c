/-!
# Tokens and header values

The character classes of HTTP method names, header names and header values.
-/

namespace FormSwap.Http

/-- `isTokenChar c` holds for an ASCII letter or digit and for the other token characters. -/
def isTokenChar (c : Char) : Bool :=
  c.isAlphanum || "!#$%&'*+-.^_`|~".toList.contains c

/-- `isToken s` holds for one or more token characters. -/
def isToken (s : List Char) : Bool :=
  !s.isEmpty && s.all isTokenChar

/-- `isHeaderValue octets` holds if every octet is a tab, or at least a space and not the delete
control. -/
def isHeaderValue (octets : List UInt8) : Bool :=
  octets.all fun b => b == 0x09 || (0x20 ≤ b && b != 0x7F)

/-- `lower s` is `s` with its ASCII letters in lower case. -/
def lower (s : List Char) : List Char :=
  s.map Char.toLower

/-- `upper s` is `s` with its ASCII letters in upper case. -/
def upper (s : List Char) : List Char :=
  s.map Char.toUpper

end FormSwap.Http
