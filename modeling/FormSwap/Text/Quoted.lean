import FormSwap.Text.Hidden

/-!
# Quoted text

`quoted` shows a text in messages: between double quotes, with the usual two-character escapes, and
every hidden character as its code point in lowercase hexadecimal.
-/

namespace FormSwap.Text

/-- `codePointEscape c` is the escape of `c` by its code point. -/
def codePointEscape (c : Char) : List Char :=
  ['\\', 'u', '{'] ++ Nat.toDigits 16 c.toNat ++ ['}']

/-- `quotedChar c` is the character `c` inside quotes. -/
def quotedChar (c : Char) : List Char :=
  if c.toNat = 0 then ['\\', '0']
  else if c = '\t' then ['\\', 't']
  else if c = '\r' then ['\\', 'r']
  else if c = '\n' then ['\\', 'n']
  else if c = '\\' then ['\\', '\\']
  else if c = '"' then ['\\', '"']
  else if isHidden c then codePointEscape c
  else [c]

/-- `quoted s` is `s` between quotes. -/
def quoted (s : String) : String :=
  String.ofList ('"' :: s.toList.flatMap quotedChar ++ ['"'])

end FormSwap.Text
