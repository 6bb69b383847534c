/-!
# Percent escapes

`percentEscape` writes an octet as a percent sign and two hexadecimal digits, and `percentDecode`
reads it. The reader accepts digits of either case and keeps an incomplete escape.
-/

namespace FormSwap.Text

/-- `hexDigit n` is the hexadecimal digit of `n` below sixteen, in upper case. -/
def hexDigit (n : Nat) : Char :=
  if n < 10 then Char.ofNat (0x30 + n) else Char.ofNat (0x41 + (n - 10))

/-- `hexValue? b` is the value of an octet that is a hexadecimal digit. -/
def hexValue? (b : UInt8) : Option Nat :=
  let n := b.toNat
  if 0x30 ≤ n ∧ n ≤ 0x39 then some (n - 0x30)
  else if 0x41 ≤ n ∧ n ≤ 0x46 then some (n - 0x41 + 10)
  else if 0x61 ≤ n ∧ n ≤ 0x66 then some (n - 0x61 + 10)
  else none

/-- `percentEscape b` is the escape of the octet `b`. -/
def percentEscape (b : UInt8) : List Char :=
  ['%', hexDigit (b.toNat / 16), hexDigit (b.toNat % 16)]

/-- `percentDecode octets` replaces every complete escape by its octet. -/
def percentDecode : List UInt8 → List UInt8
  | [] => []
  | [b] => [b]
  | [b, c] => [b, c]
  | b :: hi :: lo :: rest =>
    if b = 0x25 then
      match hexValue? hi, hexValue? lo with
      | some h, some l => UInt8.ofNat (h * 16 + l) :: percentDecode rest
      | _, _ => b :: percentDecode (hi :: lo :: rest)
    else b :: percentDecode (hi :: lo :: rest)

/-- `hexValue?` is a left inverse of `hexDigit`. -/
theorem hexValue?_hexDigit {n : Nat} (h : n < 16) :
    hexValue? (UInt8.ofNat (hexDigit n).toNat) = some n := by
  have all : ∀ m ∈ List.range 16, hexValue? (UInt8.ofNat (hexDigit m).toNat) = some m := by decide
  exact all n (List.mem_range.2 h)

end FormSwap.Text
