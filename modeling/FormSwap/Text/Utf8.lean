/-!
# UTF-8

`utf8Encode` writes characters as octets, and `utf8Decode` reads octets. The reader never fails:
each maximal prefix of a character that is not completed becomes one U+FFFD, and the octet after it
is read again.
-/

namespace FormSwap.Text

/-- `utf8Octets c` is the encoding of `c`. -/
def utf8Octets (c : Char) : List UInt8 :=
  let n := c.toNat
  if n < 0x80 then [UInt8.ofNat n]
  else if n < 0x800 then [UInt8.ofNat (0xC0 + n / 64), UInt8.ofNat (0x80 + n % 64)]
  else if n < 0x10000 then
    [UInt8.ofNat (0xE0 + n / 4096), UInt8.ofNat (0x80 + n / 64 % 64),
      UInt8.ofNat (0x80 + n % 64)]
  else
    [UInt8.ofNat (0xF0 + n / 262144), UInt8.ofNat (0x80 + n / 4096 % 64),
      UInt8.ofNat (0x80 + n / 64 % 64), UInt8.ofNat (0x80 + n % 64)]

/-- `utf8Encode s` is the encoding of `s`. -/
def utf8Encode (s : List Char) : List UInt8 :=
  s.flatMap utf8Octets

/-- `PartialChar` is an incomplete character: the number of octets it still needs, the least and the
greatest next octet, and the bits read so far. -/
structure PartialChar where
  owed : Nat
  low : Nat
  high : Nat
  bits : Nat
deriving DecidableEq, Repr

/-- `LeadOctet` is the class of an octet at the start of a character. -/
inductive LeadOctet where
  /-- A character of one octet. -/
  | whole (c : Char)
  /-- The start of a longer character. -/
  | starts (p : PartialChar)
  /-- Not the start of a character. -/
  | invalid
deriving DecidableEq, Repr

/-- `LeadOctet.of b` is the class of `b`. -/
def LeadOctet.of (b : UInt8) : LeadOctet :=
  let n := b.toNat
  if n < 0x80 then .whole (Char.ofNat n)
  else if n < 0xC2 then .invalid
  else if n < 0xE0 then .starts ⟨1, 0x80, 0xBF, n - 0xC0⟩
  else if n = 0xE0 then .starts ⟨2, 0xA0, 0xBF, 0⟩
  else if n = 0xED then .starts ⟨2, 0x80, 0x9F, 0xD⟩
  else if n < 0xF0 then .starts ⟨2, 0x80, 0xBF, n - 0xE0⟩
  else if n = 0xF0 then .starts ⟨3, 0x90, 0xBF, 0⟩
  else if n < 0xF4 then .starts ⟨3, 0x80, 0xBF, n - 0xF0⟩
  else if n = 0xF4 then .starts ⟨3, 0x80, 0x8F, 4⟩
  else .invalid

/-- `replacementChar` is U+FFFD. -/
def replacementChar : Char := Char.ofNat 0xFFFD

/-- `utf8DecodeFrom p octets` decodes octets after the incomplete character `p`, if there is one. -/
def utf8DecodeFrom : Option PartialChar → List UInt8 → List Char
  | none, [] => []
  | some _, [] => [replacementChar]
  | none, b :: rest =>
    match LeadOctet.of b with
    | .whole c => c :: utf8DecodeFrom none rest
    | .starts p => utf8DecodeFrom (some p) rest
    | .invalid => replacementChar :: utf8DecodeFrom none rest
  | some p, b :: rest =>
    if p.low ≤ b.toNat ∧ b.toNat ≤ p.high then
      let bits := p.bits * 64 + (b.toNat - 0x80)
      if p.owed ≤ 1 then Char.ofNat bits :: utf8DecodeFrom none rest
      else utf8DecodeFrom (some ⟨p.owed - 1, 0x80, 0xBF, bits⟩) rest
    else
      match LeadOctet.of b with
      | .whole c => replacementChar :: c :: utf8DecodeFrom none rest
      | .starts q => replacementChar :: utf8DecodeFrom (some q) rest
      | .invalid => replacementChar :: replacementChar :: utf8DecodeFrom none rest

/-- `utf8Decode octets` is the text of the octets, with U+FFFD for invalid sequences. -/
def utf8Decode (octets : List UInt8) : List Char :=
  utf8DecodeFrom none octets

end FormSwap.Text
