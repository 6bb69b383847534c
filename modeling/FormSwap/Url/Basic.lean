import FormSwap.Text.Percent
import FormSwap.Text.Utf8

/-!
# URLs

`Url` has the parts of a URL, each as it is written, and `Url.text` is the whole text. Each part has
its own set of characters that are escaped; characters outside ASCII are always escaped.
-/

namespace FormSwap

/-- `Url.Path` is the path of a URL. -/
inductive Url.Path where
  /-- An opaque path, which cannot be a base. -/
  | flat (text : List Char)
  | segments (list : List (List Char))
deriving DecidableEq, Repr

/-- `Url` is a URL. -/
structure Url where
  scheme : List Char
  username : List Char := []
  password : List Char := []
  /-- The host; empty in some schemes, absent in others. -/
  host : Option (List Char) := none
  port : Option Nat := none
  path : Url.Path := .segments []
  query : Option (List Char) := none
  fragment : Option (List Char) := none
deriving DecidableEq, Repr

namespace Url

/-! ## Schemes -/

/-- `defaultPort scheme` is the default port of a scheme. -/
def defaultPort (scheme : List Char) : Option Nat :=
  if scheme = "http".toList ∨ scheme = "ws".toList then some 80
  else if scheme = "https".toList ∨ scheme = "wss".toList then some 443
  else if scheme = "ftp".toList then some 21
  else none

/-- `fileScheme` is the scheme of files. -/
def fileScheme : List Char := "file".toList

/-- `isSpecial scheme` holds for the schemes whose URLs always have a host and a path. -/
def isSpecial (scheme : List Char) : Bool :=
  (defaultPort scheme).isSome || scheme == fileScheme

/-- `u.isWeb` holds for an `http` or `https` URL. -/
def isWeb (u : Url) : Bool :=
  u.scheme == "http".toList || u.scheme == "https".toList

/-! ## Escaping -/

/-- `controlSet c` holds for control characters and outside ASCII. -/
def controlSet (c : Char) : Bool :=
  c.toNat < 0x20 || 0x7F ≤ c.toNat

/-- `fragmentSet c` holds for the characters that a fragment escapes. -/
def fragmentSet (c : Char) : Bool :=
  controlSet c || " \"<>`".toList.contains c

/-- `pathSet c` holds for the characters that a path escapes. -/
def pathSet (c : Char) : Bool :=
  fragmentSet c || "#?\x7b\x7d".toList.contains c

/-- `userinfoSet c` holds for the characters that a user name and a password escape. -/
def userinfoSet (c : Char) : Bool :=
  pathSet c || "/:;=@[\\]^|".toList.contains c

/-- `querySet special c` holds for the characters that a query escapes. -/
def querySet (special : Bool) (c : Char) : Bool :=
  controlSet c || " \"#<>".toList.contains c || (special && c == '\'')

/-- `escape set s` is `s` with the characters of `set` escaped. -/
def escape (set : Char → Bool) (s : List Char) : List Char :=
  s.flatMap fun c => if set c then (Text.utf8Octets c).flatMap Text.percentEscape else [c]

/-! ## Text -/

/-- `p.text` is a path as text. -/
def Path.text : Path → List Char
  | .flat text => text
  | .segments list => list.flatMap fun s => '/' :: s

/-- `u.userinfoText` is the user name and the password as text. -/
def userinfoText (u : Url) : List Char :=
  if u.username.isEmpty && u.password.isEmpty then []
  else u.username ++ (if u.password.isEmpty then [] else ':' :: u.password) ++ ['@']

/-- `u.portText` is the port as text. -/
def portText (u : Url) : List Char :=
  (u.port.map fun n => ':' :: Nat.toDigits 10 n).getD []

/-- `u.authorityText` is the text between the scheme and the path. Without a host, a path that
starts with two slashes is separated by a dot segment. -/
def authorityText (u : Url) : List Char :=
  match u.host, u.path with
  | some host, _ => '/' :: '/' :: u.userinfoText ++ host ++ u.portText
  | none, .segments ([] :: _ :: _) => ['/', '.']
  | none, _ => []

/-- `u.textBeforeFragment` is the URL without its fragment, as text. -/
def textBeforeFragment (u : Url) : List Char :=
  u.scheme ++ ':' :: u.authorityText ++ u.path.text ++ ((u.query.map fun q => '?' :: q).getD [])

/-- `u.text` is the URL as text. -/
def text (u : Url) : String :=
  String.ofList (u.textBeforeFragment ++ ((u.fragment.map fun f => '#' :: f).getD []))

/-- `isReadable s` holds if the escapes of `s` decode to UTF-8. -/
def isReadable (s : List Char) : Bool :=
  let octets := Text.percentDecode (Text.utf8Encode s)
  Text.utf8Encode (Text.utf8Decode octets) == octets

/-- `u.withoutCredentials` is the URL of a request: without a user name and a password, if they
decode to UTF-8. -/
def withoutCredentials (u : Url) : Url :=
  if isReadable u.username && (!u.username.isEmpty || isReadable u.password) then
    { u with username := [], password := [] }
  else u

end Url

end FormSwap
