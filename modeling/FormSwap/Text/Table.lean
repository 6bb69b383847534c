/-!
# Character tables

A `Table` maps characters to lists of numbers. It is written as text. A row is a code point or a
range and, after a colon, the numbers: `5D0-5EA`, `300-314:E6`, `49:69`, `149:2BC+6E`. A row with an
equals sign, such as `100=12E:101`, has every second character only. All numbers are hexadecimal.
The rows ascend and do not overlap, so `Table.row?` uses binary search.
-/

namespace FormSwap.Text

/-- `Row` is every `step`-th character from `first` to `last`, with its numbers. -/
structure Row where
  first : Nat
  last : Nat
  step : Nat := 1
  numbers : List Nat := []
deriving DecidableEq, Repr

/-- `Table` is an array of rows in ascending order. -/
abbrev Table := Array Row

/-- `hexNumber s` is the number of hexadecimal digits, in upper case. -/
def hexNumber (s : List Char) : Nat :=
  s.foldl (fun n c => n * 16 + (if c.isDigit then c.toNat - 0x30 else c.toNat - 0x37)) 0

/-- `piecesBy divides s` splits `s` at the characters that satisfy `divides`. -/
def piecesBy (divides : Char → Bool) (s : List Char) : List (List Char) :=
  s.foldr (fun c pieces =>
    match pieces with
    | piece :: rest => if divides c then [] :: piece :: rest else (c :: piece) :: rest
    | [] => if divides c then [[], []] else [[c]]) [[]]

namespace Table

/-- `readRow word` reads one row. -/
def readRow (word : List Char) : Row :=
  let range := word.takeWhile (· != ':')
  let numbers := word.drop (range.length + 1)
  let start := hexNumber (range.takeWhile Char.isAlphanum)
  let stop := range.dropWhile Char.isAlphanum
  { first := start
    last := if stop.isEmpty then start else hexNumber stop.tail
    step := if stop.head? = some '=' then 2 else 1
    numbers := if numbers.isEmpty then [] else (piecesBy (· == '+') numbers).map hexNumber }

/-- `read text` reads a table whose rows are separated by blanks. -/
def read (text : String) : Table :=
  (((piecesBy Char.isWhitespace text.toList).filter (!·.isEmpty)).map readRow).toArray

/-- `t.countStarting n low high` is the number of rows that start at or before `n`, if all rows
before `low` do and none from `high` on does. -/
def countStarting (t : Table) (n low high : Nat) : Nat :=
  if low < high then
    let middle := (low + high) / 2
    if (t[middle]?).any (·.first ≤ n) then t.countStarting n (middle + 1) high
    else t.countStarting n low middle
  else low
termination_by high - low

/-- `t.row? c` is the row of `c`. -/
def row? (t : Table) (c : Char) : Option Row :=
  match t.countStarting c.toNat 0 t.size with
  | 0 => none
  | k + 1 =>
    (t[k]?).filter fun row =>
      c.toNat ≤ row.last && (c.toNat - row.first) % row.step == 0

/-- `t.has c` holds if `t` has a row for `c`. -/
def has (t : Table) (c : Char) : Bool :=
  (t.row? c).isSome

end Table

end FormSwap.Text
