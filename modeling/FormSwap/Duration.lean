/-!
# Durations

`Duration` is a span of time in nanoseconds. Configurations are written in whole milliseconds;
messages show a duration in the largest unit that leaves a whole part.
-/

namespace FormSwap

/-- `Duration` is a number of nanoseconds. -/
structure Duration where
  nanos : Nat
deriving DecidableEq, Repr

namespace Duration

instance : Zero Duration := ⟨⟨0⟩⟩

instance : Inhabited Duration := ⟨0⟩

instance : Add Duration := ⟨fun a b => ⟨a.nanos + b.nanos⟩⟩

instance : LE Duration := ⟨fun a b => a.nanos ≤ b.nanos⟩

instance : LT Duration := ⟨fun a b => a.nanos < b.nanos⟩

instance (a b : Duration) : Decidable (a ≤ b) := inferInstanceAs (Decidable (a.nanos ≤ b.nanos))

instance (a b : Duration) : Decidable (a < b) := inferInstanceAs (Decidable (a.nanos < b.nanos))

/-- `ofMillis n` is a duration of `n` milliseconds. -/
def ofMillis (n : Nat) : Duration :=
  ⟨n * 1000000⟩

/-- `ofSeconds secs nanos` is a duration of whole seconds and further nanoseconds. -/
def ofSeconds (secs nanos : Nat) : Duration :=
  ⟨secs * 1000000000 + nanos⟩

/-- `d.millis` is the number of whole milliseconds of `d`. -/
def millis (d : Duration) : Nat :=
  d.nanos / 1000000

@[simp] theorem nanos_zero : (0 : Duration).nanos = 0 := rfl

@[simp] theorem nanos_add (a b : Duration) : (a + b).nanos = a.nanos + b.nanos := rfl

theorem le_iff {a b : Duration} : a ≤ b ↔ a.nanos ≤ b.nanos := Iff.rfl

theorem lt_iff {a b : Duration} : a < b ↔ a.nanos < b.nanos := Iff.rfl

@[simp] theorem millis_ofMillis (n : Nat) : (ofMillis n).millis = n := by
  simp [ofMillis, millis]

/-- `fractionDigits places fraction` is the digits of a fraction with so many places, without
trailing zeros. -/
def fractionDigits (places fraction : Nat) : List Char :=
  let digits := Nat.toDigits 10 fraction
  let padded := List.replicate (places - digits.length) '0' ++ digits
  (padded.reverse.dropWhile (· == '0')).reverse

/-- `inUnit whole fraction places unit` is the text of a number of units with a fraction. -/
def inUnit (whole fraction places : Nat) (unit : String) : String :=
  let digits := fractionDigits places fraction
  let point := if digits.isEmpty then "" else "." ++ String.ofList digits
  toString whole ++ point ++ unit

/-- `d.text` is the text of `d` in the largest unit that leaves a whole part. -/
def text (d : Duration) : String :=
  if 1000000000 ≤ d.nanos then inUnit (d.nanos / 1000000000) (d.nanos % 1000000000) 9 "s"
  else if 1000000 ≤ d.nanos then inUnit (d.nanos / 1000000) (d.nanos % 1000000) 6 "ms"
  else if 1000 ≤ d.nanos then inUnit (d.nanos / 1000) (d.nanos % 1000) 3 "µs"
  else inUnit d.nanos 0 0 "ns"

end Duration

end FormSwap
