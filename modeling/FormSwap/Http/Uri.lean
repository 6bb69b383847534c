import FormSwap.Http.Token
import FormSwap.Text.Search
import FormSwap.Text.Utf8

/-!
# Request targets

`Uri` is the target of a request that a server receives: a path with an optional query, an absolute
URI, an authority, or an asterisk. `Uri.parse` checks the characters of each part and drops the
fragment; `Uri.text` writes the target.
-/

namespace FormSwap.Http

open FormSwap.Text

/-- `UriError` is the error of an invalid target. -/
inductive UriError where
  | tooLong
  | empty
  | character
  | authority
  | format
  | schemeTooLong
deriving DecidableEq, Repr

/-- `e.message` is the text of a target error. -/
def UriError.message : UriError → String
  | .tooLong => "uri too long"
  | .empty => "empty string"
  | .character => "invalid uri character"
  | .authority => "invalid authority"
  | .format => "invalid format"
  | .schemeTooLong => "scheme too long"

/-- `Uri` is a request target. -/
structure Uri where
  scheme : Option (List Char) := none
  authority : List Char := []
  path : List Char := []
  query : Option (List Char) := none
deriving DecidableEq, Repr

namespace Uri

/-! ## Character classes -/

/-- `isAuthorityChar c` holds for the characters of an authority other than the percent sign. -/
def isAuthorityChar (c : Char) : Bool :=
  c.isAlphanum || "!$&'()*+,-.:;=@[]_~".toList.contains c

/-- `isSchemeChar c` holds for the characters of a scheme. -/
def isSchemeChar (c : Char) : Bool :=
  c.isAlphanum || "+-.~".toList.contains c

/-- `isPathChar c` holds for the characters that a path may have unescaped. -/
def isPathChar (c : Char) : Bool :=
  let n := c.toNat
  n == 0x21 || n == 0x22 || (0x24 ≤ n && n ≤ 0x3B) || n == 0x3D || (0x40 ≤ n && n ≤ 0x5F)
    || (0x61 ≤ n && n != 0x7F)

/-- `isQueryChar c` holds for the characters that a query may have unescaped. -/
def isQueryChar (c : Char) : Bool :=
  let n := c.toNat
  n == 0x21 || (0x24 ≤ n && n ≤ 0x3B) || n == 0x3D || (0x3F ≤ n && n != 0x7F)

/-! ## Schemes -/

/-- `dropScheme? name s` drops the scheme `name`, in any case, and the separator after it. -/
def dropScheme? (name s : List Char) : Option (List Char) :=
  let head := name ++ [':', '/', '/']
  if lower (s.take head.length) = head then some (s.drop head.length) else none

/-- `readScheme s` reads an optional scheme and returns the rest. The known schemes are in lower
case. -/
def readScheme (s : List Char) : Except UriError (Option (List Char) × List Char) :=
  match dropScheme? "http".toList s, dropScheme? "https".toList s with
  | some rest, _ => .ok (some "http".toList, rest)
  | none, some rest => .ok (some "https".toList, rest)
  | none, none =>
    if s.length ≤ 3 then .ok (none, s)
    else
      let name := s.takeWhile isSchemeChar
      match s.dropWhile isSchemeChar with
      | ':' :: '/' :: '/' :: rest =>
        if 64 < name.length then .error .schemeTooLong else .ok (some name, rest)
      | _ => .ok (none, s)

/-! ## Authorities -/

/-- `Scan` is the state of reading an authority. -/
structure Scan where
  colons : Nat := 0
  opened : Bool := false
  closed : Bool := false
  percent : Bool := false
  /-- The last character was the at sign after the user information. -/
  afterAt : Bool := false

/-- `a.step c` reads one character of an authority. -/
def Scan.step (a : Scan) (c : Char) : Except UriError Scan :=
  if c = ':' then
    if 8 ≤ a.colons then .error .authority
    else .ok { a with colons := a.colons + 1, afterAt := false }
  else if c = '[' then
    if a.percent || a.opened then .error .authority
    else .ok { a with opened := true, afterAt := false }
  else if c = ']' then
    if !a.opened || a.closed then .error .authority
    else .ok { a with closed := true, colons := 0, percent := false, afterAt := false }
  else if c = '@' then .ok { a with colons := 0, percent := false, afterAt := true }
  else if c = '%' then .ok { a with percent := true, afterAt := false }
  else if isAuthorityChar c then .ok { a with afterAt := false }
  else .error .character

/-- `a.check` succeeds if the authority may end here. -/
def Scan.check (a : Scan) : Except UriError Unit :=
  if a.opened != a.closed || 1 < a.colons || a.afterAt || a.percent then .error .authority
  else .ok ()

/-- `endsAuthority c` holds for the characters that end an authority. -/
def endsAuthority (c : Char) : Bool :=
  c == '/' || c == '?' || c == '#'

/-- `readAuthority s` reads an authority, which may be empty, and returns the rest. -/
def readAuthority (s : List Char) : Except UriError (List Char × List Char) := do
  let authority := s.takeWhile fun c => !endsAuthority c
  let scan ← authority.foldlM Scan.step {}
  scan.check
  .ok (authority, s.dropWhile fun c => !endsAuthority c)

/-! ## Paths -/

/-- `readPath s` reads a path and a query; the fragment is dropped unchecked. -/
def readPath (s : List Char) : Except UriError (List Char × Option (List Char)) :=
  let path := s.takeWhile fun c => c != '?' && c != '#'
  if !path.all isPathChar then .error .character
  else
    match s.dropWhile fun c => c != '?' && c != '#' with
    | '?' :: rest =>
      let query := beforeChar '#' rest
      if query.all isQueryChar then .ok (path, some query) else .error .character
    | _ => .ok (path, none)

/-- `maxLength` is the largest length of a target, in octets. -/
def maxLength : Nat := 65534

/-- `parse text` reads a target. -/
def parse (text : String) : Except UriError Uri := do
  let s := text.toList
  if maxLength < (utf8Encode s).length then .error .tooLong
  else
    match s with
    | [] => .error .empty
    | ['*'] => .ok { path := ['*'] }
    | '/' :: _ => do
      let (path, query) ← readPath s
      .ok { path, query }
    | [_] => do
      let (authority, rest) ← readAuthority s
      if rest.isEmpty then .ok { authority } else .error .character
    | _ => do
      match ← readScheme s with
      | (none, _) => do
        let (authority, rest) ← readAuthority s
        if rest.isEmpty then .ok { authority } else .error .format
      | (some _, []) => .error .empty
      | (some scheme, rest) => do
        let (authority, rest) ← readAuthority rest
        if authority.isEmpty then .error .format
        else do
          let (path, query) ← readPath rest
          .ok { scheme := some scheme, authority, path, query }

/-- `u.text` is the target as text. After a scheme and an authority an empty path is written as a
slash. -/
def text (u : Uri) : String :=
  let scheme := ((u.scheme.map fun s => s ++ "://".toList).getD [])
  let path := if u.path.isEmpty && (u.scheme.isSome || u.query.isSome) then ['/'] else u.path
  let query := ((u.query.map fun q => '?' :: q).getD [])
  String.ofList (scheme ++ u.authority ++ path ++ query)

end Uri

end FormSwap.Http
