import FormSwap.Payload.Urlencoded
import FormSwap.Url.Error

/-!
# Numeric hosts

`parseIpv4` reads an IPv4 address in the forms that URLs allow: one to four numbers in decimal,
octal or hexadecimal, the last of which fills the remaining octets. `parseIpv6` reads an IPv6
address with at most one gap. Both return the canonical text: four decimal numbers, and groups in
lower case with the longest run of zeros left out.
-/

namespace FormSwap.Url

open FormSwap.Payload (splitChar)
open FormSwap.Text

/-! ## IPv4 -/

/-- `digitIn? base c` is the value of the digit `c` in a base up to sixteen. -/
def digitIn? (base : Nat) (c : Char) : Option Nat :=
  let value :=
    if c.isDigit then c.toNat - '0'.toNat
    else if 'a' ≤ c ∧ c ≤ 'f' then c.toNat - 'a'.toNat + 10
    else if 'A' ≤ c ∧ c ≤ 'F' then c.toNat - 'A'.toNat + 10
    else base
  if value < base then some value else none

/-- `numberIn? base s` is the value of the digits `s`; the empty text is zero. -/
def numberIn? (base : Nat) (s : List Char) : Option Nat :=
  s.foldlM (fun n c => (digitIn? base c).map (n * base + ·)) 0

/-- `ipv4Number? s` is the value of one number of an IPv4 address. -/
def ipv4Number? : List Char → Option Nat
  | [] => none
  | '0' :: 'x' :: digits | '0' :: 'X' :: digits => numberIn? 16 digits
  | '0' :: d :: digits => numberIn? 8 (d :: digits)
  | s => numberIn? 10 s

/-- `dottedParts s` splits `s` at its dots; a trailing dot is ignored. -/
def dottedParts (s : List Char) : List (List Char) :=
  let parts := splitChar '.' s
  if 1 < parts.length ∧ parts.getLast? = some [] then parts.dropLast else parts

/-- `endsInNumber s` holds if the last part of `s` is a number, so that `s` must be an address. -/
def endsInNumber (s : List Char) : Bool :=
  match (dottedParts s).getLast? with
  | none => false
  | some last => (!last.isEmpty && last.all Char.isDigit) || (ipv4Number? last).isSome

/-- `ipv4OfParts? numbers` is the address of these numbers. All but the last are octets, and the
last fills the remaining octets. -/
def ipv4OfParts? (numbers : List Nat) : Option Nat := do
  let last ← numbers.getLast?
  let octets := numbers.dropLast
  if 3 < octets.length ∨ octets.any (255 < ·) ∨ Nat.pow 256 (4 - octets.length) ≤ last then none
  else
    let high := octets.foldl (fun n o => n * 256 + o) 0
    some (high * Nat.pow 256 (4 - octets.length) + last)

/-- `ipv4Text n` is the address `n` as four decimal numbers. -/
def ipv4Text (n : Nat) : List Char :=
  let part (k : Nat) : List Char := Nat.toDigits 10 (n / Nat.pow 256 k % 256)
  part 3 ++ '.' :: part 2 ++ '.' :: part 1 ++ '.' :: part 0

/-- `parseIpv4 s` reads an IPv4 address. -/
def parseIpv4 (s : List Char) : Except Error (List Char) :=
  match (dottedParts s).mapM ipv4Number? >>= ipv4OfParts? with
  | some n => .ok (ipv4Text n)
  | none => .error .invalidIpv4

/-! ## IPv6 -/

/-- `ipv6Group? s` is the value of one to four hexadecimal digits. -/
def ipv6Group? (s : List Char) : Option Nat :=
  if s.isEmpty ∨ 4 < s.length then none else numberIn? 16 s

/-- `strictOctet? s` is the value of an octet of a trailing IPv4 address: decimal, without leading
zeros. -/
def strictOctet? (s : List Char) : Option Nat :=
  if s.isEmpty ∨ (s.head? = some '0' ∧ s.length ≠ 1) then none
  else (numberIn? 10 s).filter (· ≤ 255)

/-- `trailingIpv4? s` is the two groups of a trailing IPv4 address. -/
def trailingIpv4? (s : List Char) : Option (List Nat) :=
  match (splitChar '.' s).mapM strictOctet? with
  | some [a, b, c, d] => some [a * 256 + b, c * 256 + d]
  | _ => none

/-- `ipv6Groups? atEnd s` is the groups of a text without a gap. At the end of an address the last
two may be an IPv4 address. -/
def ipv6Groups? (atEnd : Bool) (s : List Char) : Option (List Nat) :=
  if s.isEmpty then some []
  else
    let parts := splitChar ':' s
    match parts.getLast? with
    | some last =>
      if atEnd ∧ last.contains '.' then do
        some ((← parts.dropLast.mapM ipv6Group?) ++ (← trailingIpv4? last))
      else parts.mapM ipv6Group?
    | none => none

/-- `ipv6Pieces? s` is the eight groups of an address. A gap stands for at least one group. -/
def ipv6Pieces? (s : List Char) : Option (List Nat) :=
  match cutPiece? "::".toList s with
  | none => (ipv6Groups? true s).filter (·.length == 8)
  | some (left, right) => do
    let left ← ipv6Groups? false left
    let right ← ipv6Groups? true right
    if 7 < left.length + right.length then none
    else some (left ++ List.replicate (8 - left.length - right.length) 0 ++ right)

/-- `zeroRun pieces` is the number of leading zeros. -/
def zeroRun (pieces : List Nat) : Nat :=
  (pieces.takeWhile (· == 0)).length

/-- `longestZeros pieces` is the start and length of the first longest run of zeros. -/
def longestZeros (pieces : List Nat) : Nat × Nat :=
  (List.range pieces.length).foldl (fun best i =>
    let run := zeroRun (pieces.drop i)
    if best.2 < run then (i, run) else best) (0, 0)

/-- `groupsText pieces` is the groups separated by colons. -/
def groupsText (pieces : List Nat) : List Char :=
  [':'].intercalate (pieces.map (Nat.toDigits 16))

/-- `ipv6Text pieces` is the address with its longest run of two or more zeros left out. -/
def ipv6Text (pieces : List Nat) : List Char :=
  let (start, run) := longestZeros pieces
  if run < 2 then groupsText pieces
  else groupsText (pieces.take start) ++ "::".toList ++ groupsText (pieces.drop (start + run))

/-- `parseIpv6 s` reads an IPv6 address. -/
def parseIpv6 (s : List Char) : Except Error (List Char) :=
  match ipv6Pieces? s with
  | some pieces => .ok ('[' :: ipv6Text pieces ++ [']'])
  | none => .error .invalidIpv6

end FormSwap.Url
