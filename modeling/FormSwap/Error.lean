import FormSwap.Text.Quoted
import FormSwap.Url.Error

/-!
# Errors

`ConfigError` is returned when a component cannot be created or attached. `SubmitError` ends one
pipeline and is only logged. `DomError` and `TransportError` are their causes. The text of an error
is defined by its `message` alone.
-/

namespace FormSwap

/-- `Fault` is a DOM operation that can be set to fail. -/
inductive Fault where
  | setAttribute
  | removeAttribute
  | setOuterHtml
  | setInnerHtml
  | entries
  | addSubmitListener
  | spawn
deriving DecidableEq, Repr

/-- `f.name` is the name of the operation in messages and settings. -/
def Fault.name : Fault → String
  | .setAttribute => "set_attribute"
  | .removeAttribute => "remove_attribute"
  | .setOuterHtml => "set_outer_html"
  | .setInnerHtml => "set_inner_html"
  | .entries => "entries"
  | .addSubmitListener => "add_submit_listener"
  | .spawn => "spawn"

/-- `Fault.ofName? name` is the operation with this name. -/
def Fault.ofName? (name : String) : Option Fault :=
  [Fault.setAttribute, .removeAttribute, .setOuterHtml, .setInnerHtml, .entries,
    .addSubmitListener, .spawn].find? fun f => f.name == name

/-- `DomError` is the error of a DOM operation. -/
inductive DomError where
  /-- The host has no parent, or its document was dropped. -/
  | noParent
  /-- The host is not among the children of its document. -/
  | notAChild
  /-- The host rejects events. -/
  | eventRejected
  /-- The operation is set to fail. -/
  | fault (operation : Fault)
  /-- Any other reason. -/
  | other (text : String)
deriving DecidableEq, Repr

/-- `e.reason` is the reason of a DOM error. -/
def DomError.reason : DomError → String
  | .noParent => "cannot replace an element without a parent"
  | .notAChild => "element is not a child of its document"
  | .eventRejected => "event dispatch rejected"
  | .fault operation => "fault " ++ operation.name
  | .other text => text

/-- `e.message` is the text of a DOM error. -/
def DomError.message (e : DomError) : String :=
  "DOM operation failed: " ++ e.reason

/-- `ConfigError` is the error of `create` and `attach`. -/
inductive ConfigError where
  | invalidSwap (value : String)
  | formNotFound
  | detached
  | dom (e : DomError)
deriving DecidableEq, Repr

/-- `e.message` is the text of a configuration error. -/
def ConfigError.message : ConfigError → String
  | .invalidSwap value => "Invalid swap value: " ++ value
  | .formNotFound => "Form element not found"
  | .detached => "component has been detached"
  | .dom e => e.message

/-- `TransportError` is the error of a request that got no response. -/
inductive TransportError where
  /-- The reply queue was empty. -/
  | noReply
  /-- The deferred reply was dropped. -/
  | replyDropped
  /-- The URL of the request does not resolve. -/
  | badUrl (url : String) (cause : Url.Error)
  /-- The URL resolves but cannot be requested. -/
  | notRequestable (url : String)
  /-- The connection broke before a response came. -/
  | noConnection (url : String)
  /-- The connection broke within the response body. -/
  | bodyCut
  /-- Any other reason. -/
  | other (text : String)
deriving DecidableEq, Repr

/-- `e.reason` is the reason of a transport error. -/
def TransportError.reason : TransportError → String
  | .noReply => "no response queued"
  | .replyDropped => "deferred response dropped"
  | .badUrl url cause => "invalid URL " ++ Text.quoted url ++ ": " ++ cause.message
  | .notRequestable url => "builder error for url (" ++ url ++ ")"
  | .noConnection url => "error sending request for url (" ++ url ++ ")"
  | .bodyCut => "failed to read response body: error decoding response body"
  | .other text => text

/-- `e.message` is the text of a transport error. -/
def TransportError.message (e : TransportError) : String :=
  "network error: " ++ e.reason

/-- `SubmitError` is the error of a submission. -/
inductive SubmitError where
  | transport (e : TransportError)
  | status (code : Nat) (reason : String)
  | encoding (text : String)
  | invalidMethod (method : String)
  | dom (e : DomError)
  | detached
deriving DecidableEq, Repr

/-- `e.message` is the text of a submission error. -/
def SubmitError.message : SubmitError → String
  | .transport e => e.message
  | .status code reason => "server responded with " ++ code.repr ++ " " ++ reason
  | .encoding text => "failed to encode form payload: " ++ text
  | .invalidMethod method => "invalid form method: " ++ method
  | .dom e => e.message
  | .detached => "host element left the document before the response arrived"

end FormSwap
