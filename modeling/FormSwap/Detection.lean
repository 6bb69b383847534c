import FormSwap.Http.Header
import FormSwap.Http.HeaderMap
import FormSwap.Http.Uri
import FormSwap.Notice
import FormSwap.Text.Utf8

/-!
# Request classification

`RequestKind.ofHeaders` classifies a request by its headers: it is an AJAX submission if the first
value of the marker header equals the marker, octet for octet. A kind stored with the request takes
precedence. `ServerRequest.annotate` stores the kind of the headers, replacing what was stored.
-/

namespace FormSwap

open FormSwap.Http

/-- `RequestKind` is the origin of a request. -/
inductive RequestKind where
  | ajax
  | navigation
deriving DecidableEq, Repr

namespace RequestKind

/-- `k.name` is the name of a kind. -/
def name : RequestKind → String
  | .ajax => "Ajax"
  | .navigation => "Navigation"

/-- `RequestKind.ofName? name` is the kind with this name. -/
def ofName? (name : String) : Option RequestKind :=
  [RequestKind.ajax, .navigation].find? fun k => k.name == name

/-- `k.isAjax` holds for an AJAX submission. -/
def isAjax (k : RequestKind) : Bool :=
  k == .ajax

end RequestKind

/-- `markerOctets` is the marker as octets. -/
def Http.markerOctets : List UInt8 :=
  Text.utf8Encode xmlHttpRequest.toList

/-- `m.isAjax` holds if the headers carry the marker. -/
def Http.HeaderMap.isAjax (m : HeaderMap) : Bool :=
  m.first? requestedWith == some markerOctets

/-- `RequestKind.ofHeaders m` is the kind that the headers give. -/
def RequestKind.ofHeaders (m : HeaderMap) : RequestKind :=
  if m.isAjax then .ajax else .navigation

/-- `RequestError` is the error of an invalid request. -/
inductive RequestError where
  | method
  | uri (e : UriError)
  | header (e : HeaderError)
deriving DecidableEq, Repr

/-- `e.message` is the text of a request error. -/
def RequestError.message : RequestError → String
  | .method => "invalid HTTP method"
  | .uri e => e.message
  | .header e => e.message

/-- `RequestParts` is a request without its body. -/
structure RequestParts where
  method : String
  uri : Uri
  headers : HeaderMap := {}
  /-- The kind stored with the request. -/
  stored : Option RequestKind := none
deriving DecidableEq, Repr

/-- `r.kind` is the stored kind, or that of the headers. -/
def RequestParts.kind (r : RequestParts) : RequestKind :=
  r.stored.getD (.ofHeaders r.headers)

/-- `ServerRequest` is a request with a body of any type. -/
structure ServerRequest (β : Type := String) where
  parts : RequestParts
  body : β
deriving DecidableEq, Repr

namespace ServerRequest

variable {β : Type}

/-- `make` builds a request. It checks the method first, then the target, then the headers. -/
def make (method uri : String) (replace : Bool) (headers : List (String × List UInt8))
    (stored : Option RequestKind) (body : β) : Except RequestError (ServerRequest β) :=
  if !isToken method.toList then .error .method
  else
    match Uri.parse uri with
    | .error e => .error (.uri e)
    | .ok uri =>
      match HeaderMap.addAll replace {} headers with
      | .error e => .error (.header e)
      | .ok headers => .ok { parts := { method, uri, headers, stored }, body }

/-- `build` is `make` with header values given as text. -/
def build (method uri : String) (replace : Bool) (headers : List (String × String))
    (stored : Option RequestKind) (body : β) : Except RequestError (ServerRequest β) :=
  make method uri replace (headers.map fun h => (h.1, Text.utf8Encode h.2.toList)) stored body

/-- `r.kind` is the stored kind, or that of the headers. -/
def kind (r : ServerRequest β) : RequestKind :=
  r.parts.stored.getD (.ofHeaders r.parts.headers)

/-- `r.annotate` stores the kind of the headers and returns it. -/
def annotate (r : ServerRequest β) : ServerRequest β × RequestKind :=
  let kind := RequestKind.ofHeaders r.parts.headers
  ({ r with parts := { r.parts with stored := some kind } }, kind)

/-- `process handler r` annotates `r` and calls the handler. It returns the result of the handler
and the log entry on the kind. -/
def process {α : Type} (handler : ServerRequest β → α) (r : ServerRequest β) : α × LogEntry :=
  let (annotated, kind) := r.annotate
  (handler annotated,
    { level := .debug
      message := "classified request"
      fields := [("method", r.parts.method), ("uri", r.parts.uri.text), ("kind", kind.name)] })

end ServerRequest

end FormSwap
