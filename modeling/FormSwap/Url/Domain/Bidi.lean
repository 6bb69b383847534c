import FormSwap.Text.Direction

/-!
# The bidi rule

If a domain name has a right-to-left character, each of its labels must satisfy the bidi rule: it
starts with a letter, has only the classes that are allowed with that letter, and ends in a letter
or a digit.
-/

namespace FormSwap.Url

open FormSwap.Text

/-- `marksDirection c` holds for the characters that make a name subject to the bidi rule. -/
def marksDirection (c : Char) : Bool :=
  [Direction.rightToLeft, .arabicLetter, .arabicNumber].contains (direction c)

/-- `isNeutral d` holds for the classes that are allowed in every label. -/
def isNeutral (d : Direction) : Bool :=
  [Direction.europeanNumber, .europeanSeparator, .europeanTerminator, .commonSeparator,
    .nonspacingMark, .boundaryNeutral, .otherNeutral].contains d

/-- `lastDirection? ds` is the last class, trailing nonspacing marks apart. -/
def lastDirection? (ds : List Direction) : Option Direction :=
  (ds.reverse.dropWhile (· == .nonspacingMark)).head?

/-- `keepsRight ds` is the bidi rule for a label that starts with a right-to-left letter. -/
def keepsRight (ds : List Direction) : Bool :=
  ds.all (fun d => isNeutral d || [Direction.rightToLeft, .arabicLetter, .arabicNumber].contains d)
    && (lastDirection? ds).any
      [Direction.rightToLeft, .arabicLetter, .europeanNumber, .arabicNumber].contains
    && !(ds.contains .europeanNumber && ds.contains .arabicNumber)

/-- `keepsLeft ds` is the bidi rule for a label that starts with a left-to-right letter. -/
def keepsLeft (ds : List Direction) : Bool :=
  ds.all (fun d => isNeutral d || d == .leftToRight)
    && (lastDirection? ds).any [Direction.leftToRight, .europeanNumber].contains

/-- `keepsDirection label` is the bidi rule for `label`. -/
def keepsDirection (label : List Char) : Bool :=
  let ds := label.map direction
  match ds.head? with
  | none => true
  | some .rightToLeft | some .arabicLetter => keepsRight ds
  | some .leftToRight => keepsLeft ds
  | some _ => false

/-- `keepDirections labels` holds if no label has a right-to-left character, or all satisfy the bidi
rule. -/
def keepDirections (labels : List (List Char)) : Bool :=
  !(labels.any (·.any marksDirection)) || labels.all keepsDirection

end FormSwap.Url
