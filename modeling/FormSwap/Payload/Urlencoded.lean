import FormSwap.Text.Percent
import FormSwap.Text.Search
import FormSwap.Text.Utf8

/-!
# Form-urlencoded text

`encodePairs` joins pairs by `&`, and name and value by `=`. A space becomes `+`, and every octet
other than a letter, a digit or one of `*-._` a percent escape. `decodePairs` accepts every text:
empty pieces are skipped and invalid UTF-8 becomes U+FFFD.
-/

namespace FormSwap.Payload

open FormSwap.Text

/-- `isPlainOctet b` holds for the octets that are not escaped. -/
def isPlainOctet (b : UInt8) : Bool :=
  let n := b.toNat
  (0x30 ≤ n && n ≤ 0x39) || (0x41 ≤ n && n ≤ 0x5A) || (0x61 ≤ n && n ≤ 0x7A)
    || n == 0x2A || n == 0x2D || n == 0x2E || n == 0x5F

/-- `encodeOctet b` encodes one octet of a name or a value. -/
def encodeOctet (b : UInt8) : List Char :=
  if isPlainOctet b then [Char.ofNat b.toNat]
  else if b = 0x20 then ['+']
  else percentEscape b

/-- `encodeText s` encodes a name or a value. -/
def encodeText (s : List Char) : List Char :=
  (utf8Encode s).flatMap encodeOctet

/-- `encodePair pair` encodes one pair. -/
def encodePair (pair : String × String) : List Char :=
  encodeText pair.1.toList ++ '=' :: encodeText pair.2.toList

/-- `encodePairs pairs` encodes the pairs, joined by `&`. -/
def encodePairs : List (String × String) → List Char
  | [] => []
  | [pair] => encodePair pair
  | pair :: rest => encodePair pair ++ '&' :: encodePairs rest

/-- `splitChar x s` splits `s` at the occurrences of `x`. -/
def splitChar (x : Char) : List Char → List (List Char)
  | [] => [[]]
  | c :: cs =>
    if c = x then [] :: splitChar x cs
    else
      match splitChar x cs with
      | [] => [[c]]
      | piece :: pieces => (c :: piece) :: pieces

/-- `decodeText s` decodes a name or a value. -/
def decodeText (s : List Char) : List Char :=
  utf8Decode (percentDecode ((utf8Encode s).map fun b => if b = 0x2B then 0x20 else b))

/-- `decodePair piece` decodes one piece; without a `=` the value is empty. -/
def decodePair (piece : List Char) : String × String :=
  match cutChar? '=' piece with
  | some (name, value) => (String.ofList (decodeText name), String.ofList (decodeText value))
  | none => (String.ofList (decodeText piece), "")

/-- `decodePairs s` decodes the pairs of a text. -/
def decodePairs (s : List Char) : List (String × String) :=
  ((splitChar '&' s).filter fun piece => !piece.isEmpty).map decodePair

end FormSwap.Payload
