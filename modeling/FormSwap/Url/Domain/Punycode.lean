/-!
# Punycode

`punycode` encodes a label in letters, digits and hyphens, and `readPunycode?` decodes it. The basic
characters come first; the others follow as deltas in the order of their code points, written as
variable-length integers with an adaptive bias.
-/

namespace FormSwap.Url

/-! ## Digits and bias -/

/-- `punycodeDigit d` is a digit in base thirty-six. -/
def punycodeDigit (d : Nat) : Char :=
  if d < 26 then Char.ofNat (0x61 + d) else Char.ofNat (0x30 + (d - 26))

/-- `punycodeValue? c` is the value of a digit in base thirty-six. -/
def punycodeValue? (c : Char) : Option Nat :=
  if 'a' ≤ c ∧ c ≤ 'z' then some (c.toNat - 0x61)
  else if c.isDigit then some (c.toNat - 0x30 + 26)
  else none

/-- `punycodeThreshold position bias` is the threshold of the digit at a position. -/
def punycodeThreshold (position bias : Nat) : Nat :=
  if position ≤ bias then 1 else if bias + 26 ≤ position then 26 else position - bias

theorem punycodeThreshold_pos (position bias : Nat) : 0 < punycodeThreshold position bias := by
  unfold punycodeThreshold
  split
  · omega
  · split <;> omega

/-- `scaleDelta delta` divides a delta until it is small. It returns the number of steps and the
rest. -/
def scaleDelta (delta : Nat) : Nat × Nat :=
  if delta ≤ 455 then (0, delta)
  else
    let (steps, rest) := scaleDelta (delta / 35)
    (steps + 1, rest)
termination_by delta
decreasing_by omega

/-- `adaptBias delta points first` is the bias after a delta. -/
def adaptBias (delta points : Nat) (first : Bool) : Nat :=
  let halved := if first then delta / 700 else delta / 2
  let (steps, rest) := scaleDelta (halved + halved / points)
  36 * steps + 36 * rest / (rest + 38)

/-! ## Encoding -/

/-- `punycodeDelta bias position delta` is a delta as a variable-length integer. -/
def punycodeDelta (bias position delta : Nat) : List Char :=
  let t := punycodeThreshold position bias
  if delta < t then [punycodeDigit delta]
  else
    punycodeDigit (t + (delta - t) % (36 - t))
      :: punycodeDelta bias (position + 36) ((delta - t) / (36 - t))
termination_by delta
decreasing_by
  have pos := punycodeThreshold_pos position bias
  calc (delta - punycodeThreshold position bias) / (36 - punycodeThreshold position bias)
      ≤ delta - punycodeThreshold position bias := Nat.div_le_self _ _
    _ < delta := by omega

/-- `PunycodeWriter` is the state of the encoder. -/
structure PunycodeWriter where
  out : List Char
  delta : Nat := 0
  bias : Nat := 72
  /-- The number of characters encoded so far. -/
  handled : Nat
  /-- No delta was written yet. -/
  first : Bool := true

namespace PunycodeWriter

/-- `p.pass target c` processes one character of the label in the round for the code point
`target`. -/
def pass (target : Nat) (p : PunycodeWriter) (c : Char) : PunycodeWriter :=
  if c.toNat < target then { p with delta := p.delta + 1 }
  else if c.toNat = target then
    { out := (punycodeDelta p.bias 36 p.delta).reverse ++ p.out
      delta := 0
      bias := adaptBias p.delta (p.handled + 1) p.first
      handled := p.handled + 1
      first := false }
  else p

/-- `writePoints label start points p` encodes every occurrence of the ascending code points
`points`. The output is kept in reverse. -/
def writePoints (label : List Char) : Nat → List Nat → PunycodeWriter → List Char
  | _, [], p => p.out.reverse
  | start, target :: rest, p =>
    let moved := { p with delta := p.delta + (target - start) * (p.handled + 1) }
    let passed := label.foldl (pass target) moved
    writePoints label (target + 1) rest { passed with delta := passed.delta + 1 }

end PunycodeWriter

/-- `punycode label` is the encoding of `label`. -/
def punycode (label : List Char) : List Char :=
  let basic := label.filter (·.toNat < 0x80)
  let others := ((label.filter (0x80 ≤ ·.toNat)).map Char.toNat).eraseDups.mergeSort
  let start := if basic.isEmpty then [] else basic ++ ['-']
  PunycodeWriter.writePoints label 0x80 others { out := start.reverse, handled := basic.length }

/-! ## Decoding -/

/-- `PunycodeReader` is the state of the decoder. -/
structure PunycodeReader where
  out : List Char
  /-- The code point inserted last. -/
  point : Nat := 0x80
  /-- The position after the last insertion. -/
  start : Nat := 0
  /-- The position that the digits of the current delta add up to. -/
  place : Nat := 0
  weight : Nat := 1
  position : Nat := 36
  bias : Nat := 72

namespace PunycodeReader

/-- `charAt? n` is the character of a code point that is one. -/
def charAt? (n : Nat) : Option Char :=
  if n < 0xD800 ∨ (0xDFFF < n ∧ n ≤ 0x10FFFF) then some (Char.ofNat n) else none

/-- `r.insert? place` inserts the character of a complete delta. -/
def insert? (r : PunycodeReader) (place : Nat) : Option PunycodeReader :=
  let size := r.out.length + 1
  let point := r.point + place / size
  (charAt? point).map fun c =>
    { out := r.out.insertIdx (place % size) c
      point
      start := place % size + 1
      place := place % size + 1
      bias := adaptBias (place - r.start) size (r.start == 0) }

/-- `r.take? c` reads one digit. -/
def take? (r : PunycodeReader) (c : Char) : Option PunycodeReader := do
  let d ← punycodeValue? c
  let t := punycodeThreshold r.position r.bias
  let place := r.place + d * r.weight
  if d < t then r.insert? place
  else
    some { r with place, weight := r.weight * (36 - t), position := r.position + 36 }

end PunycodeReader

/-- `splitPunycode s` is the basic characters before the last hyphen, and the digits after it. -/
def splitPunycode (s : List Char) : List Char × List Char :=
  let digits := (s.reverse.takeWhile (· != '-')).reverse
  let basic := s.take (s.length - digits.length - 1)
  if basic.isEmpty then ([], s) else (basic, digits)

/-- `readPunycode? s` decodes a label. -/
def readPunycode? (s : List Char) : Option (List Char) := do
  let (basic, digits) := splitPunycode s
  let r ← digits.foldlM PunycodeReader.take? { out := basic }
  if r.position = 36 then some r.out else none

end FormSwap.Url
