/-!
# JSON text

`Json.string` and `Json.array` write strings and arrays. Only quotes, backslashes and control
characters are escaped.
-/

namespace FormSwap.Json

/-- `escapeChar c` is the character `c` inside a JSON string. -/
def escapeChar (c : Char) : List Char :=
  if c = '"' then ['\\', '"']
  else if c = '\\' then ['\\', '\\']
  else if c.toNat = 0x08 then ['\\', 'b']
  else if c.toNat = 0x0C then ['\\', 'f']
  else if c = '\n' then ['\\', 'n']
  else if c = '\r' then ['\\', 'r']
  else if c = '\t' then ['\\', 't']
  else if c.toNat < 0x20 then
    ['\\', 'u', '0', '0', Nat.digitChar (c.toNat / 16), Nat.digitChar (c.toNat % 16)]
  else [c]

/-- `string s` is `s` as a JSON string. -/
def string (s : String) : String :=
  String.ofList ('"' :: s.toList.flatMap escapeChar ++ ['"'])

/-- `array elements` is the JSON array of elements that are JSON texts. -/
def array (elements : List String) : String :=
  "[" ++ String.intercalate "," elements ++ "]"

end FormSwap.Json
