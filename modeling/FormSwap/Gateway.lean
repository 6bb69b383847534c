import FormSwap.Http.Uri
import FormSwap.MockTransport
import FormSwap.Url.Parse

/-!
# The gateway

`Gateway` stands for the HTTP client and the network behind it. `Gateway.send` first resolves the
URL of a request against the base URL of the page and strips the credentials. A URL that does not
resolve, or that cannot be requested, never reaches the network. The network is unreachable, or
gives one scripted response to every request.
-/

namespace FormSwap

/-- `Exchange` is how a scripted exchange ends. -/
inductive Exchange where
  /-- The whole response is received. -/
  | whole
  /-- The connection closes before the response. -/
  | closed
  /-- The connection closes within the response body. -/
  | short
deriving DecidableEq, Repr

/-- `Exchange.ofName? name` is the exchange with this name. -/
def Exchange.ofName? : String → Option Exchange
  | "ok" => some .whole
  | "close" => some .closed
  | "short" => some .short
  | _ => none

/-- `Gateway` is the state of the network. -/
inductive Gateway where
  /-- Every connection fails. -/
  | unreachable
  /-- Every plain request gets the response; a tunnel is refused. -/
  | scripted (exchange : Exchange) (response : Response)
deriving DecidableEq, Repr

/-- `Received` is a request as the network sees it. -/
structure Received where
  method : String
  url : String
  headers : List (String × String)
  body : String
deriving DecidableEq, Repr

namespace Url

/-- `u.tunnelText` is the host and port of a tunnel request for `u`. -/
def tunnelText (u : Url) : String :=
  let port := u.port.getD ((defaultPort u.scheme).getD 0)
  String.ofList (u.host.getD [] ++ ':' :: Nat.toDigits 10 port)

/-- `u.isRequestable` holds if `u` fits in a request line. -/
def isRequestable (u : Url) : Bool :=
  u.isWeb && (u.host.getD []).all Http.Uri.isAuthorityChar && u.text.length ≤ 65534

end Url

namespace Gateway

/-- `describedBy r` lists the headers of `r`, ordered by name. -/
def describedBy (r : FormRequest) : List (String × String) :=
  r.headers.mergeSort fun a b => a.1 ≤ b.1

/-- `responseTo method r` is `r` without its body for methods and statuses that have none. -/
def responseTo (method : String) (r : Response) : Response :=
  if method == "HEAD" || r.status.code == 204 || r.status.code == 304 then { r with body := "" }
  else r

/-- `g.exchange u r` sends `r` to the requestable URL `u`. It returns the outcome and the requests
that the network saw. -/
def exchange (g : Gateway) (u : Url) (r : FormRequest) : Outcome × List Received :=
  match g with
  | .unreachable => (.error (.noConnection u.text), [])
  | .scripted exchange response =>
    if u.scheme = "https".toList then
      (.error (.noConnection u.text),
        [{ method := "CONNECT", url := u.tunnelText, headers := [], body := "" }])
    else
      let outcome : Outcome :=
        match exchange with
        | .whole => .ok (responseTo r.method response)
        | .closed => .error (.noConnection u.text)
        | .short => .error .bodyCut
      (outcome,
        [{ method := r.method, url := String.ofList u.textBeforeFragment,
           headers := describedBy r, body := r.body.getD "" }])

/-- `g.send base r` sends `r` from a page with the base URL `base`. -/
def send (g : Gateway) (base : Option Url) (r : FormRequest) : Outcome × List Received :=
  match Url.resolve base r.url with
  | .error cause => (.error (.badUrl r.url cause), [])
  | .ok url =>
    let u := url.withoutCredentials
    if u.isRequestable then g.exchange u r else (.error (.notRequestable u.text), [])

end Gateway

end FormSwap
