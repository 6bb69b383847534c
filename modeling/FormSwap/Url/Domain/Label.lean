import FormSwap.Text.Joining
import FormSwap.Text.Mark
import FormSwap.Text.Normal
import FormSwap.Url.Domain.Mapping
import FormSwap.Url.Domain.Punycode

/-!
# Labels of domain names

`Label` is a label in Unicode and in ASCII. A label that is given with the `xn--` prefix is decoded,
and the result must be valid, mapped and not ASCII.
-/

namespace FormSwap.Url

open FormSwap.Text

/-! ## Validity -/

/-- `isForbidden c` holds for the characters that no domain name has. -/
def isForbidden (c : Char) : Bool :=
  c.toNat ≤ 0x20 || c.toNat == 0x7F || "%#/:<>?@[\\]^|".toList.contains c

/-- `mayPart before after` holds if a zero-width non-joiner is valid between `before` and `after`:
after a virama, or between two letters that would join. -/
def mayPart (before after : List Char) : Bool :=
  before.head?.any isVirama
    || ((before.dropWhile isTransparent).head?.any joinsNext
      && (after.dropWhile isTransparent).head?.any joinsPrevious)

/-- `joinersFit before s` holds if every zero-width joiner and non-joiner of `s` is valid. The
characters before `s` are in reverse. -/
def joinersFit (before : List Char) : List Char → Bool
  | [] => true
  | c :: rest =>
    (if c.toNat = 0x200C then mayPart before rest
      else c.toNat != 0x200D || before.head?.any isVirama)
      && joinersFit (c :: before) rest

/-- `isMeaning s` holds if `s` is valid as the Unicode form of a label. -/
def isMeaning (s : List Char) : Bool :=
  !s.any isForbidden && !s.head?.any isMark && joinersFit [] s

/-! ## Unicode and ASCII -/

/-- `Label` is a label in both forms. -/
structure Label where
  meaning : List Char
  ascii : List Char
deriving DecidableEq, Repr

/-- `isAscii s` holds for a text of ASCII characters. -/
def isAscii (s : List Char) : Bool :=
  s.all (·.toNat < 0x80)

/-- `encodingSign` is the prefix of an encoded label. -/
def encodingSign : List Char := "xn--".toList

/-- `maxMeaning` is the largest length of a text to be encoded. -/
def maxMeaning : Nat := 1000

/-- `maxEncoded` is the largest length of a text to be decoded. -/
def maxEncoded : Nat := 2000

/-- `isMapped s` holds if mapping and normalization do not change `s`. -/
def isMapped (s : List Char) : Bool :=
  (mapText? s).any fun mapped => normalize mapped == s

/-- `readLabel? encoded` is the label of an encoded text without its prefix. -/
def readLabel? (encoded : List Char) : Option Label := do
  let meaning ← if encoded.length ≤ maxEncoded then readPunycode? encoded else none
  if !isAscii meaning && isMapped meaning && isMeaning meaning then
    some { meaning, ascii := encodingSign ++ encoded }
  else none

/-- `label? s` is the label of a mapped text. -/
def label? (s : List Char) : Option Label :=
  if encodingSign.isPrefixOf s then
    if isAscii s then readLabel? (s.drop encodingSign.length) else none
  else if isAscii s then if s.any isForbidden then none else some { meaning := s, ascii := s }
  else if isMeaning s && s.length ≤ maxMeaning then
    some { meaning := s, ascii := encodingSign ++ punycode s }
  else none

end FormSwap.Url
