import FormSwap.Error
import FormSwap.Http.Header
import FormSwap.Http.Status
import FormSwap.Http.Token
import FormSwap.Payload.Basic
import FormSwap.Text.Blank

/-!
# Requests and responses

`FormRequest.build` makes a request from a form's method, action and payload. `GET` and `HEAD` have
no body: the payload replaces the query and fragment of the action. Other methods send it as the
body. `Response.accept` rejects a status outside 200 to 299.
-/

namespace FormSwap

/-- `FormRequest` is the request of a form submission. -/
structure FormRequest where
  method : String
  url : String
  headers : List (String × String) := Http.formHeaders
  /-- The encoded payload, for methods that have a body. -/
  body : Option String
deriving DecidableEq, Repr

namespace FormRequest

/-- `pathOf action` is the action without its query and fragment. -/
def pathOf (action : List Char) : List Char :=
  Text.beforeChar '?' (Text.beforeChar '#' action)

/-- `withQuery action query` is the action with its query replaced and its fragment removed. -/
def withQuery (action query : String) : String :=
  let path := String.ofList (pathOf action.toList)
  if query.isEmpty then path else path ++ "?" ++ query

/-- `methodOf text` is the method of a form: trimmed, in upper case. -/
def methodOf (text : String) : List Char :=
  Http.upper (Text.trim text.toList)

/-- `inUrl method` holds for methods whose payload goes into the URL. -/
def inUrl (method : String) : Bool :=
  method == "GET" || method == "HEAD"

/-- `build method action payload` is the request of a submission. It fails if the method is not a
token. -/
def build (method action : String) (payload : Payload) : Except SubmitError FormRequest :=
  let token := methodOf method
  if Http.isToken token then
    let name := String.ofList token
    if inUrl name then .ok { method := name, url := withQuery action payload.encode, body := none }
    else .ok { method := name, url := action, body := some payload.encode }
  else .error (.invalidMethod method)

end FormRequest

/-- `Response` is a response: its status and its body. -/
structure Response where
  status : Http.Status
  body : String
deriving DecidableEq, Repr

/-- `r.accept` is `r` if its status is a success, and a status error otherwise. -/
def Response.accept (r : Response) : Except SubmitError Response :=
  if r.status.isSuccess then .ok r else .error (.status r.status.code r.status.reason)

end FormSwap
