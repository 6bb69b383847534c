/-!
# Parsing JSON

`Json.parse` is a strict parser: white space is space, tab, line feed and carriage return only,
numbers have no leading zeros or plus signs, strings have no raw control characters. A number keeps
its value only if it consists of digits; a string keeps its text only if its escapes are characters,
because a skipped value may have a lone surrogate.
-/

namespace FormSwap.Json

/-- `Value` is a JSON value, as far as a configuration depends on it. -/
inductive Value where
  | null
  | bool (b : Bool)
  /-- A number, with its value if it consists of digits. -/
  | number (natural : Option Nat)
  /-- A string, with its text if all its escapes are characters. -/
  | string (text : Option String)
  | array (elements : List Value)
  | object (members : List (Option String × Value))

/-- `skipBlanks s` drops leading JSON white space. -/
def skipBlanks (s : List Char) : List Char :=
  s.dropWhile fun c => c == ' ' || c == '\n' || c == '\t' || c == '\r'

/-- `hexDigitValue? c` is the value of a hexadecimal digit. -/
def hexDigitValue? (c : Char) : Option Nat :=
  if c.isDigit then some (c.toNat - '0'.toNat)
  else if 'a' ≤ c ∧ c ≤ 'f' then some (c.toNat - 'a'.toNat + 10)
  else if 'A' ≤ c ∧ c ≤ 'F' then some (c.toNat - 'A'.toNat + 10)
  else none

/-- `readHex4 s` reads four hexadecimal digits. -/
def readHex4 : List Char → Option (Nat × List Char)
  | a :: b :: c :: d :: rest => do
    let a ← hexDigitValue? a
    let b ← hexDigitValue? b
    let c ← hexDigitValue? c
    let d ← hexDigitValue? d
    some (((a * 16 + b) * 16 + c) * 16 + d, rest)
  | _ => none

/-- `simpleEscape? c` is the character that `c` stands for after a backslash. -/
def simpleEscape? : Char → Option Char
  | '"' => some '"'
  | '\\' => some '\\'
  | '/' => some '/'
  | 'b' => some (Char.ofNat 0x08)
  | 'f' => some (Char.ofNat 0x0C)
  | 'n' => some '\n'
  | 'r' => some '\r'
  | 't' => some '\t'
  | _ => none

/-- `StringUnit` is a unit of a string: a character, escaped or not, or a UTF-16 code unit. -/
inductive StringUnit where
  | char (c : Char)
  | utf16 (u : Nat)

/-- `readUnits n s` reads the units up to the closing quote and returns the rest. At most `n` units
are read; the length of `s` suffices. -/
def readUnits : Nat → List Char → Option (List StringUnit × List Char)
  | 0, _ => none
  | _ + 1, [] => none
  | n + 1, c :: rest =>
    if c = '"' then some ([], rest)
    else if c = '\\' then
      match rest with
      | [] => none
      | 'u' :: digits => do
        let (u, rest) ← readHex4 digits
        let (units, rest) ← readUnits n rest
        some (.utf16 u :: units, rest)
      | e :: rest => do
        let c ← simpleEscape? e
        let (units, rest) ← readUnits n rest
        some (.char c :: units, rest)
    else if c.toNat < 0x20 then none
    else do
      let (units, rest) ← readUnits n rest
      some (.char c :: units, rest)

/-- `unitsText? units` is the text of the units, if every code unit is a character or half of a
surrogate pair. -/
def unitsText? : List StringUnit → Option (List Char)
  | [] => some []
  | .char c :: rest => (unitsText? rest).map (c :: ·)
  | [.utf16 u] => if u < 0xD800 ∨ 0xDFFF < u then some [Char.ofNat u] else none
  | .utf16 u :: .char c :: rest =>
    if u < 0xD800 ∨ 0xDFFF < u then (unitsText? rest).map (Char.ofNat u :: c :: ·) else none
  | .utf16 u :: .utf16 v :: rest =>
    if u < 0xD800 ∨ 0xDFFF < u then (unitsText? (.utf16 v :: rest)).map (Char.ofNat u :: ·)
    else if u ≤ 0xDBFF ∧ 0xDC00 ≤ v ∧ v ≤ 0xDFFF then
      (unitsText? rest).map (Char.ofNat (0x10000 + (u - 0xD800) * 1024 + (v - 0xDC00)) :: ·)
    else none

/-- `readString s` reads a string after its opening quote. -/
def readString (s : List Char) : Option (Option String × List Char) :=
  (readUnits (s.length + 1) s).map fun (units, rest) =>
    ((unitsText? units).map String.ofList, rest)

/-- `readDigits s` reads one or more digits. -/
def readDigits (s : List Char) : Option (List Char × List Char) :=
  let digits := s.takeWhile Char.isDigit
  if digits.isEmpty then none else some (digits, s.dropWhile Char.isDigit)

/-- `readNumberTail s` reads an optional fraction and exponent. It returns whether there was one,
and the rest. -/
def readNumberTail (s : List Char) : Option (Bool × List Char) := do
  let (fraction, s) ←
    match s with
    | '.' :: rest => (readDigits rest).map fun (_, rest) => (true, rest)
    | s => some (false, s)
  match s with
  | 'e' :: '+' :: rest | 'e' :: '-' :: rest | 'E' :: '+' :: rest | 'E' :: '-' :: rest
  | 'e' :: rest | 'E' :: rest => (readDigits rest).map fun (_, rest) => (true, rest)
  | s => some (fraction, s)

/-- `readUnsigned s` reads a number without its sign. It returns its value if it consists of digits,
and the rest. -/
def readUnsigned (s : List Char) : Option (Option Nat × List Char) := do
  let (digits, rest) ← readDigits s
  if digits.head? = some '0' ∧ digits.length ≠ 1 then none
  else do
    let (tail, rest) ← readNumberTail rest
    some (if tail then none else some (Nat.ofDigitChars 10 digits 0), rest)

mutual

/-- `readValue n s` reads one value. At most `n` values and members are read. -/
def readValue : Nat → List Char → Option (Value × List Char)
  | 0, _ => none
  | n + 1, s =>
    match skipBlanks s with
    | 'n' :: 'u' :: 'l' :: 'l' :: rest => some (.null, rest)
    | 't' :: 'r' :: 'u' :: 'e' :: rest => some (.bool true, rest)
    | 'f' :: 'a' :: 'l' :: 's' :: 'e' :: rest => some (.bool false, rest)
    | '"' :: rest => (readString rest).map fun (text, rest) => (.string text, rest)
    | '-' :: rest => (readUnsigned rest).map fun (_, rest) => (.number none, rest)
    | '[' :: rest =>
      match skipBlanks rest with
      | ']' :: rest => some (.array [], rest)
      | rest => (readElements n rest).map fun (elements, rest) => (.array elements, rest)
    | '{' :: rest =>
      match skipBlanks rest with
      | '}' :: rest => some (.object [], rest)
      | rest => (readMembers n rest).map fun (members, rest) => (.object members, rest)
    | rest => (readUnsigned rest).map fun (natural, rest) => (.number natural, rest)

/-- `readElements n s` reads the elements of a nonempty array up to its closing bracket. -/
def readElements : Nat → List Char → Option (List Value × List Char)
  | 0, _ => none
  | n + 1, s => do
    let (value, rest) ← readValue n s
    match skipBlanks rest with
    | ',' :: rest => do
      let (values, rest) ← readElements n rest
      some (value :: values, rest)
    | ']' :: rest => some ([value], rest)
    | _ => none

/-- `readMembers n s` reads the members of a nonempty object up to its closing brace. -/
def readMembers : Nat → List Char → Option (List (Option String × Value) × List Char)
  | 0, _ => none
  | n + 1, s =>
    match skipBlanks s with
    | '"' :: rest => do
      let (name, rest) ← readString rest
      match skipBlanks rest with
      | ':' :: rest => do
        let (value, rest) ← readValue n rest
        match skipBlanks rest with
        | ',' :: rest => do
          let (members, rest) ← readMembers n rest
          some ((name, value) :: members, rest)
        | '}' :: rest => some ([(name, value)], rest)
        | _ => none
      | _ => none
    | _ => none

end

/-- `parse text` is the value of `text`, which may have white space around it. -/
def parse (text : String) : Option Value := do
  let s := text.toList
  let (value, rest) ← readValue (2 * s.length + 2) s
  if (skipBlanks rest).isEmpty then some value else none

end FormSwap.Json
