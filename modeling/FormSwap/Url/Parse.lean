import FormSwap.Http.Token
import FormSwap.Text.Search
import FormSwap.Url.Host

/-!
# Resolving URLs

`resolve` reads a text as an absolute URL, or resolves it against a base. Blanks and controls around
the text, and tabs and line ends within it, are removed. The text is first split into scheme, body,
query and fragment; the body has an authority, a path, or both.
-/

namespace FormSwap.Url

open FormSwap.Text
open FormSwap.Payload (splitChar)

/-! ## Scheme, body, query and fragment -/

/-- `isTrimmed c` holds for controls and the space. -/
def isTrimmed (c : Char) : Bool :=
  c.toNat ≤ 0x20

/-- `cleaned s` is `s` without the characters that are ignored. -/
def cleaned (s : List Char) : List Char :=
  (((s.dropWhile isTrimmed).reverse.dropWhile isTrimmed).reverse).filter fun c =>
    c != '\t' && c != '\n' && c != '\r'

/-- `isSchemeChar c` holds for the characters of a scheme after its first letter. -/
def isSchemeChar (c : Char) : Bool :=
  c.isAlphanum || c == '+' || c == '-' || c == '.'

/-- `cutScheme? s` is the scheme of `s` in lower case, and the text after its colon. -/
def cutScheme? (s : List Char) : Option (List Char × List Char) :=
  match s.head?, s.dropWhile isSchemeChar with
  | some c, ':' :: rest =>
    if c.isAlpha then some (Http.lower (s.takeWhile isSchemeChar), rest) else none
  | _, _ => none

/-- `Reference` has the parts of a text after its scheme. -/
structure Reference where
  body : List Char
  query : Option (List Char)
  fragment : Option (List Char)

/-- `r.endsWithBody` holds if there is no query and no fragment. -/
def Reference.endsWithBody (r : Reference) : Bool :=
  r.query.isNone && r.fragment.isNone

/-- `Reference.of s` splits `s` at its fragment and its query. -/
def Reference.of (s : List Char) : Reference :=
  let (main, fragment) :=
    match cutChar? '#' s with
    | some (main, fragment) => (main, some fragment)
    | none => (s, none)
  match cutChar? '?' main with
  | some (body, query) => { body, query := some query, fragment }
  | none => { body := main, query := none, fragment }

/-! ## Paths -/

/-- `isSlash special c` holds for the characters that separate segments. -/
def isSlash (special : Bool) (c : Char) : Bool :=
  c == '/' || (special && c == '\\')

/-- `pathPieces special s` splits a path at its slashes. -/
def pathPieces (special : Bool) (s : List Char) : List (List Char) :=
  splitChar '/' (s.map fun c => if isSlash special c then '/' else c)

/-- `isSingleDot s` holds for a single-dot segment. -/
def isSingleDot (s : List Char) : Bool :=
  let s := Http.lower s
  s == ".".toList || s == "%2e".toList

/-- `isDoubleDot s` holds for a double-dot segment. -/
def isDoubleDot (s : List Char) : Bool :=
  let s := Http.lower s
  s == "..".toList || s == ".%2e".toList || s == "%2e.".toList || s == "%2e%2e".toList

/-- `isDriveLetter s` holds for a letter with a colon or a bar. -/
def isDriveLetter : List Char → Bool
  | [c, d] => c.isAlpha && (d == ':' || d == '|')
  | _ => false

/-- `isPlainDriveLetter s` holds for a letter with a colon. -/
def isPlainDriveLetter : List Char → Bool
  | [c, ':'] => c.isAlpha
  | _ => false

/-- `startsWithDriveLetter s` holds if the first segment of `s` is a drive letter. -/
def startsWithDriveLetter (s : List Char) : Bool :=
  isDriveLetter (s.takeWhile fun c => !isSlash true c)

/-- `parentOf segments` is the segments one level up. A drive letter is not removed, in any
scheme. -/
def parentOf (segments : List (List Char)) : List (List Char) :=
  if segments.getLast?.any isDriveLetter then segments else segments.dropLast

/-- `segmentText scheme before s` is the segment `s` escaped. The first drive letter of a file's
path gets a colon. -/
def segmentText (scheme : List Char) (before : List (List Char)) (s : List Char) : List Char :=
  if scheme = fileScheme ∧ before = [] ∧ isDriveLetter s then s.take 1 ++ [':']
  else escape pathSet s

/-- `walk scheme before pieces` appends the pieces of a path to the segments `before`. -/
def walk (scheme : List Char) : List (List Char) → List (List Char) → List (List Char)
  | before, [] => before
  | before, s :: rest =>
    let closing := if rest.isEmpty then [[]] else []
    if isDoubleDot s then walk scheme (parentOf before ++ closing) rest
    else if isSingleDot s then walk scheme (before ++ closing) rest
    else walk scheme (before ++ [segmentText scheme before s]) rest

/-- `walkOn scheme before begun pieces` is `walk` if the first piece continues the segment
`begun`. -/
def walkOn (scheme : List Char) (before : List (List Char)) (begun : List Char) :
    List (List Char) → List (List Char)
  | [] => before ++ [begun]
  | s :: rest =>
    if isDoubleDot s then walk scheme (before ++ [begun]) rest
    else if isSingleDot s then
      walk scheme (before ++ [begun] ++ (if rest.isEmpty then [[]] else [])) rest
    else walk scheme (before ++ [begun ++ escape pathSet s]) rest

/-- `dropEmpty scheme segments` removes the leading empty segments of a file's path. -/
def dropEmpty (scheme : List Char) (segments : List (List Char)) : List (List Char) :=
  if scheme = fileScheme then
    let rest := segments.dropWhile (·.isEmpty)
    if rest.isEmpty then [[]] else rest
  else segments

/-- `readSegments scheme before s` appends the path `s` to the segments `before`. -/
def readSegments (scheme : List Char) (before : List (List Char)) (s : List Char) :
    List (List Char) :=
  dropEmpty scheme (walk scheme before (pathPieces (isSpecial scheme) s))

/-- `readBeside scheme segments s` replaces the last segment by the path `s`. In a file's path a
drive letter is not replaced: the path is appended to it, with a slash only if it is the whole
path. -/
def readBeside (scheme : List Char) (segments : List (List Char)) (s : List Char) :
    List (List Char) :=
  match segments.getLast? with
  | none => readSegments scheme [] s
  | some last =>
    if scheme = fileScheme ∧ isPlainDriveLetter last then
      if segments.length = 1 then readSegments scheme segments s
      else dropEmpty scheme (walkOn scheme segments.dropLast last (pathPieces true s))
    else readSegments scheme segments.dropLast s

/-- `afterSlash scheme s` is the path after a host without its leading slash. -/
def afterSlash (scheme s : List Char) : List Char :=
  match s with
  | c :: rest => if isSlash (isSpecial scheme) c then rest else s
  | [] => []

/-- `pathAfterHost scheme s` is the segments of the path after a host. -/
def pathAfterHost (scheme s : List Char) : List (List Char) :=
  if s.isEmpty && !isSpecial scheme then [] else readSegments scheme [] (afterSlash scheme s)

/-! ## Authorities -/

/-- `cutUserinfo? s` is the text before the last `@`, and the text after it. -/
def cutUserinfo? (s : List Char) : Option (List Char × List Char) :=
  match s.reverse.dropWhile (· != '@') with
  | [] => none
  | _ :: before => some (before.reverse, (s.reverse.takeWhile (· != '@')).reverse)

/-- `cutPort inBrackets s` is the host of an authority and the text of its port. A colon in brackets
belongs to the host. -/
def cutPort : Bool → List Char → List Char × Option (List Char)
  | _, [] => ([], none)
  | inBrackets, c :: rest =>
    if c = ':' ∧ !inBrackets then ([], some rest)
    else
      let (host, port) := cutPort (if c = '[' then true else if c = ']' then false else inBrackets)
        rest
      (c :: host, port)

/-- `parsePort scheme s` reads a port and returns the rest, which may start with a backslash in any
scheme. The default port of the scheme is dropped. -/
def parsePort (scheme s : List Char) : Except Error (Option Nat × List Char) :=
  let digits := s.takeWhile Char.isDigit
  let rest := s.dropWhile Char.isDigit
  let n := Nat.ofDigitChars 10 digits 0
  if 65535 < n ∨ rest.head?.any (· != '\\') then .error .invalidPort
  else .ok (if digits.isEmpty ∨ defaultPort scheme = some n then none else some n, rest)

/-- `credentials userinfo` is the user name and the password. -/
def credentials (userinfo : List Char) : List Char × List Char :=
  let (username, password) := (cutChar? ':' userinfo).getD (userinfo, [])
  (escape userinfoSet username, escape userinfoSet password)

/-- `withAuthority scheme body r` is the URL whose body starts with an authority. -/
def withAuthority (scheme body : List Char) (r : Reference) : Except Error Url := do
  let special := isSpecial scheme
  let authority := body.takeWhile fun c => !isSlash special c
  let rest := body.dropWhile fun c => !isSlash special c
  let (userinfo, hostport) :=
    match cutUserinfo? authority with
    | some (userinfo, hostport) => (some userinfo, hostport)
    | none => (none, authority)
  let (username, password) := credentials (userinfo.getD [])
  let (hostText, portText) := cutPort false hostport
  let named := !username.isEmpty || !password.isEmpty
  let cutOff := userinfo == some [] && !(rest.isEmpty && r.endsWithBody)
  if hostText.isEmpty ∧ (special ∨ portText.isSome ∨ named ∨ cutOff) then .error .emptyHost
  else do
    let host ← if special then parseHost hostText else parseOpaqueHost hostText
    let (port, before) ←
      match portText with
      | some s => parsePort scheme s
      | none => .ok (none, [])
    .ok {
      scheme, username, password, port
      host := some host
      path := .segments (pathAfterHost scheme (before ++ rest)) }

/-! ## Files -/

/-- `fileHost s` is the host of a file; `localhost` is dropped. -/
def fileHost (s : List Char) : Except Error (List Char) :=
  if s.isEmpty then .ok []
  else (parseHost s).map fun host => if host = "localhost".toList then [] else host

/-- `fileAt host segments` is a file URL. -/
def fileAt (host : List Char) (segments : List (List Char)) : Url :=
  { scheme := fileScheme, host := some host, path := .segments segments }

/-- `fileWithHost body` is a file URL after its two slashes. Without a host the path keeps its first
slash, so that a drive letter is not the first segment; a drive letter in place of the host starts
the path. -/
def fileWithHost (body : List Char) : Except Error Url := do
  let hostText := body.takeWhile fun c => !isSlash true c
  let rest := body.dropWhile fun c => !isSlash true c
  if isDriveLetter hostText then .ok (fileAt [] (readSegments fileScheme [] body))
  else do
    let host ← fileHost hostText
    if host.isEmpty then .ok (fileAt [] (readSegments fileScheme [] rest))
    else
      let segments := walk fileScheme [] (pathPieces true (afterSlash fileScheme rest))
      let kept := if segments.head?.any isPlainDriveLetter then [] else host
      .ok (fileAt kept (dropEmpty fileScheme segments))

/-- `u.segments` is the segments of a hierarchical URL. -/
def segments (u : Url) : List (List Char) :=
  match u.path with
  | .segments list => list
  | .flat _ => []

/-- `fileFromRoot base s` is a file URL after its one slash: it keeps the drive, or else the host,
of the base. -/
def fileFromRoot (base : Option Url) (s : List Char) : Url :=
  match base with
  | none => fileAt [] (readSegments fileScheme [] s)
  | some b =>
    match b.segments.head? with
    | some first =>
      if startsWithDriveLetter s then fileAt [] (readSegments fileScheme [] s)
      else if isPlainDriveLetter first then fileAt [] (readSegments fileScheme [first] s)
      else fileAt (b.host.getD []) (readSegments fileScheme [] s)
    | none => fileAt (b.host.getD []) (readSegments fileScheme [] s)

/-- `fileUrl base body` is a file URL, resolved against a file if there is one. -/
def fileUrl (base : Option Url) (body : List Char) : Except Error Url :=
  match body with
  | [] => .ok (base.getD (fileAt [] [[]]))
  | c :: rest =>
    if isSlash true c then
      if rest.head?.any (isSlash true) then fileWithHost rest.tail
      else .ok (fileFromRoot base rest)
    else
      match base with
      | none => .ok (fileAt [] (readSegments fileScheme [] body))
      | some b =>
        if startsWithDriveLetter body then .ok (fileAt [] (readSegments fileScheme [] body))
        else .ok (fileAt (b.host.getD []) (readBeside fileScheme b.segments body))

/-! ## Resolution -/

/-- `finish r u` adds the query and the fragment of a reference. -/
def finish (r : Reference) (u : Url) : Url :=
  { u with
    query := (r.query.map (escape (querySet (isSpecial u.scheme)))).orElse fun _ => u.query
    fragment := r.fragment.map (escape fragmentSet) }

/-- `relativeUrl base r` resolves a reference without a scheme. A backslash is read as a slash in
every scheme. Two of them start an authority; unless they are plain slashes, further ones are
ignored. -/
def relativeUrl (base : Url) (r : Reference) : Except Error Url :=
  let along (segments : List (List Char)) : Url :=
    { base with path := .segments segments, query := none }
  match r.body with
  | [] => .ok base
  | c :: rest =>
    if isSlash true c then
      match rest with
      | d :: after =>
        if c = '/' ∧ d = '/' then withAuthority base.scheme after r
        else if isSlash true d then
          withAuthority base.scheme (after.dropWhile (isSlash true)) r
        else .ok (along (readSegments base.scheme [] rest))
      | [] => .ok (along [[]])
    else .ok (along (readBeside base.scheme base.segments r.body))

/-- `absoluteUrl base scheme r` resolves a reference that has a scheme. -/
def absoluteUrl (base : Option Url) (scheme : List Char) (r : Reference) : Except Error Url :=
  if scheme = fileScheme then fileUrl (base.filter fun b => b.scheme == fileScheme) r.body
  else if isSpecial scheme then
    let slashes := r.body.takeWhile (isSlash true)
    match base.filter fun b => b.scheme == scheme && decide (slashes.length < 2) with
    | some b => relativeUrl b r
    | none => withAuthority scheme (r.body.dropWhile (isSlash true)) r
  else
    match r.body with
    | '/' :: '/' :: rest => withAuthority scheme rest r
    | '/' :: rest => .ok { scheme, path := .segments (readSegments scheme [] rest) }
    | body => .ok { scheme, path := .flat (escape controlSet body) }

/-- `u.isFlat` holds if the path of `u` is opaque. -/
def isFlat (u : Url) : Bool :=
  match u.path with
  | .flat _ => true
  | .segments _ => false

/-- `resolve base text` resolves a text, against a base if there is one. -/
def resolve (base : Option Url) (text : String) : Except Error Url :=
  let s := cleaned text.toList
  match cutScheme? s with
  | some (scheme, rest) =>
    let r := Reference.of rest
    (absoluteUrl base scheme r).map (finish r)
  | none =>
    match base with
    | none => .error .relativeWithoutBase
    | some base =>
      let r := Reference.of s
      if s.head? = some '#' then .ok { base with fragment := r.fragment.map (escape fragmentSet) }
      else if base.isFlat then .error .relativeWithOpaqueBase
      else if base.scheme = fileScheme then (fileUrl (some base) r.body).map (finish r)
      else (relativeUrl base r).map (finish r)

/-- `isWebAddress text` holds if `text` is an absolute `http` or `https` URL. -/
def isWebAddress (text : String) : Bool :=
  match resolve none text with
  | .ok u => u.isWeb
  | .error _ => false

end FormSwap.Url
