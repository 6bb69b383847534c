import FormSwap.Text.CombiningClass
import FormSwap.Text.Composite

/-!
# Normalization Form C

`normalize` decomposes every character, sorts the marks after each starter by combining class, and
composes what has a primary composite. Canonically equivalent texts have the same normal form.
-/

namespace FormSwap.Text

/-! ## Hangul syllables -/

/-- `splitSyllable n` is the decomposition of the `n`-th syllable into two or three letters. -/
def splitSyllable (n : Nat) : List Char :=
  let lead := Char.ofNat (0x1100 + n / 588)
  let vowel := Char.ofNat (0x1161 + n % 588 / 28)
  if n % 28 = 0 then [lead, vowel] else [lead, vowel, Char.ofNat (0x11A7 + n % 28)]

/-- `joinSyllable? a b` is the syllable of a lead and a vowel, or of an open syllable and a tail. -/
def joinSyllable? (a b : Char) : Option Char :=
  let l := a.toNat - 0x1100
  let v := b.toNat - 0x1161
  let s := a.toNat - 0xAC00
  if 0x1100 ≤ a.toNat ∧ l < 19 ∧ 0x1161 ≤ b.toNat ∧ v < 21 then
    some (Char.ofNat (0xAC00 + (l * 21 + v) * 28))
  else if 0xAC00 ≤ a.toNat ∧ s < 11172 ∧ s % 28 = 0 ∧ 0x11A7 < b.toNat ∧ b.toNat < 0x11C3 then
    some (Char.ofNat (a.toNat + (b.toNat - 0x11A7)))
  else none

/-! ## Decomposition -/

/-- `decomposeWithin steps c` decomposes `c` in at most `steps` steps. -/
def decomposeWithin : Nat → Char → List Char
  | 0, c => [c]
  | steps + 1, c =>
    if 0xAC00 ≤ c.toNat ∧ c.toNat < 0xAC00 + 11172 then splitSyllable (c.toNat - 0xAC00)
    else
      match partsOf? c with
      | some parts => parts.flatMap (decomposeWithin steps)
      | none => [c]

/-- `decompose c` decomposes `c`. No character needs more than three steps. -/
def decompose (c : Char) : List Char :=
  decomposeWithin 3 c

/-! ## Canonical ordering -/

/-- `insertMark c s` inserts a mark before the first one of a higher class. Starters are not
moved. -/
def insertMark (c : Char) : List Char → List Char
  | [] => [c]
  | d :: rest =>
    if combiningClass d ≠ 0 ∧ combiningClass d < combiningClass c then d :: insertMark c rest
    else c :: d :: rest

/-- `sortMarks s` sorts the marks after each starter by their class. -/
def sortMarks (s : List Char) : List Char :=
  s.foldr insertMark []

/-! ## Composition -/

/-- `join? a b` is the character that `a` and `b` compose to. -/
def join? (a b : Char) : Option Char :=
  (joinSyllable? a b).or (composite? a b)

/-- `joinFrom starter kept s` composes `s` with a starter and the marks `kept` after it that did not
compose. A mark is blocked by one of the same class before it. -/
def joinFrom (starter : Char) (kept : List Char) : List Char → List Char
  | [] => starter :: kept
  | c :: rest =>
    let free := (kept.getLast?).all fun d => combiningClass d < combiningClass c
    match if free then join? starter c else none with
    | some joined => joinFrom joined kept rest
    | none =>
      if combiningClass c = 0 then starter :: (kept ++ joinFrom c [] rest)
      else joinFrom starter (kept ++ [c]) rest

/-- `joinAll s` composes what has a composite. -/
def joinAll (s : List Char) : List Char :=
  let loose := s.takeWhile fun c => combiningClass c != 0
  match s.dropWhile fun c => combiningClass c != 0 with
  | [] => loose
  | starter :: rest => loose ++ joinFrom starter [] rest

/-- `normalize s` is the normalization form C of `s`. -/
def normalize (s : List Char) : List Char :=
  joinAll (sortMarks (s.flatMap decompose))

end FormSwap.Text
