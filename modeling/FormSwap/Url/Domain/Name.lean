import FormSwap.Payload.Urlencoded
import FormSwap.Url.Domain.Bidi
import FormSwap.Url.Domain.Label
import FormSwap.Url.Error

/-!
# Domain names

`domainName` is the ASCII form of a domain name: percent escapes are decoded, each character is
mapped, and the labels between the dots are encoded one by one.
-/

namespace FormSwap.Url

open FormSwap.Payload (splitChar)
open FormSwap.Text

/-- `labels? s` is the labels of `s`. -/
def labels? (s : List Char) : Option (List Label) := do
  let mapped ← mapText? s
  let labels ← (splitChar '.' (normalize mapped)).mapM label?
  if keepDirections (labels.map (·.meaning)) then some labels else none

/-- `domainName s` is the ASCII form of the domain name `s`. -/
def domainName (s : List Char) : Except Error (List Char) :=
  match labels? (utf8Decode (percentDecode (utf8Encode s))) with
  | some labels => .ok (['.'].intercalate (labels.map (·.ascii)))
  | none => .error .invalidDomain

end FormSwap.Url
