import FormSwap.ManualClock
import FormSwap.Markup.FormData
import FormSwap.MockTransport
import FormSwap.Notice

/-!
# Pages

`Page` is the state that components read and change: documents, hosts, forms, components, their
pipelines, the clock and the transport. Every object is identified by its index in its list. Indices
are never reused: a dropped document or component leaves `none` in its slot.
-/

namespace FormSwap

abbrev DocumentId := Nat

abbrev HostId := Nat

abbrev FormId := Nat

abbrev ComponentId := Nat

abbrev PipelineId := Nat

/-- `Notification` is the event dispatched after a successful swap. Its detail is the encoded
payload. -/
structure Notification where
  detail : String
deriving DecidableEq, Repr

namespace Notification

/-- `Notification.name` is the event type. -/
def name : String := "ajax-form"

/-- `Notification.bubbles`: the event bubbles from its host to the host's document. -/
def bubbles : Bool := true

/-- `Notification.cancelable`: the event cannot be canceled. -/
def cancelable : Bool := false

end Notification

/-- `SubmitEvent` carries the submitter and whether the default was prevented. -/
structure SubmitEvent where
  submitter : Option Submitter
  prevented : Bool := false
deriving DecidableEq, Repr

/-- `e.prevent` is `e` with its default prevented. -/
def SubmitEvent.prevent (e : SubmitEvent) : SubmitEvent :=
  { e with prevented := true }

/-- `Reaction` is one effect of an observer's listener on a submit event. -/
inductive Reaction where
  /-- Prevents the default. -/
  | prevent
  /-- Detaches a component. -/
  | detach (component : ComponentId)
  /-- Passes the event to `handleSubmit` of a component. -/
  | resubmit (component : ComponentId)
  /-- Drops a component handle. -/
  | dropHandle (handle : Nat)
  /-- Fires a nested submit event. -/
  | submit (form : FormId) (submitter : Option Submitter)
deriving DecidableEq, Repr

/-- `r.keeps` is the component that the closure of `r` owns a handle of. -/
def Reaction.keeps : Reaction → Option ComponentId
  | .detach c | .resubmit c => some c
  | _ => none

/-- `ListenerRole` is the callback of a listener. -/
inductive ListenerRole where
  | component (id : ComponentId)
  /-- Records the event under its label, then runs its reactions. -/
  | observer (label : String) (reactions : List Reaction)
deriving DecidableEq, Repr

/-- `Listener` is a submit listener of a form, with its id there. -/
structure Listener where
  id : Nat
  role : ListenerRole
deriving DecidableEq, Repr

/-- `Form` holds the form data and the listeners in registration order. -/
structure Form where
  data : Markup.FormData
  listeners : List Listener := []
  nextListener : Nat := 0
deriving DecidableEq, Repr

/-- `Content` is what a host holds: a form element, or markup with the form parsed from it. -/
inductive Content where
  | form (id : FormId)
  | markup (html : String) (form : Option FormId)
deriving DecidableEq, Repr

/-- `content.form?` is the form in a host's contents. -/
def Content.form? : Content → Option FormId
  | .form id => some id
  | .markup _ found => found

/-- `Host` is an `<ajax-form>` element. -/
structure Host where
  attributes : List (String × String) := []
  content : Content := .markup "" none
  /-- The document that the host was inserted into, which may have been dropped. -/
  parent : Option DocumentId := none
  dispatched : List Notification := []
  /-- `dispatchHost` fails on a rejecting host. -/
  rejecting : Bool := false
deriving DecidableEq, Repr

/-- `h.connected` holds if the host has a parent document. -/
def Host.connected (h : Host) : Bool :=
  h.parent.isSome

/-- `Child` is a top-level node of a document. -/
inductive Child where
  | markup (html : String)
  | host (id : HostId)
deriving DecidableEq, Repr

/-- `child.host?` is the host of a node that is one. -/
def Child.host? : Child → Option HostId
  | .host id => some id
  | .markup _ => none

/-- `Document` holds its child nodes and the events it received. -/
structure Document where
  children : List Child := []
  events : List Notification := []
deriving DecidableEq, Repr

/-- `SubmissionState` is the submission state of a component. -/
inductive SubmissionState where
  | idle
  | submitting
deriving DecidableEq, Repr

/-- `ListenerRef` is the handle of a registered listener: the form and the listener's id. -/
structure ListenerRef where
  form : FormId
  id : Nat
deriving DecidableEq, Repr

/-- `Component` is the state of an AJAX form component. It is attached while `listener` is set. -/
structure Component where
  host : HostId
  config : Config
  state : SubmissionState := .idle
  form : Option FormId := none
  listener : Option ListenerRef := none
  /-- The pipeline of the submission in flight. -/
  inFlight : Option PipelineId := none
  /-- Set by `detach` and by an outer swap; a detached component cannot be attached again. -/
  detached : Bool := false
  /-- The components mounted on the markup that replaced the host. -/
  replacements : List ComponentId := []
deriving DecidableEq, Repr

/-- `Stage` is the point at which a pipeline is suspended. -/
inductive Stage where
  /-- Before its first poll, with the payload collected when the submit was accepted. -/
  | accepted (form : FormId) (payload : Except SubmitError Payload)
  /-- Awaiting the response. -/
  | awaiting (call : Call) (payload : Payload)
  /-- Awaiting the settle delay. -/
  | settling (sleep : Sleep)
  | finished

/-- `Pipeline` is the task spawned for one accepted submit. -/
structure Pipeline where
  owner : ComponentId
  stage : Stage
  aborted : Bool := false

/-- `s.isOpen` holds if the task has not finished, so that it still owns its component. -/
def Pipeline.isOpen (s : Pipeline) : Bool :=
  match s.stage with
  | .finished => false
  | _ => true

/-- `Heard` is the record of one event in an observer. -/
structure Heard where
  label : String
  submitter : Option Submitter
  prevented : Bool
deriving DecidableEq, Repr

/-- `Page` is the whole state. -/
structure Page where
  documents : List (Option Document) := [some {}]
  hosts : List Host := []
  forms : List Form := []
  components : List (Option Component) := []
  /-- The component handles of the user; `none` once dropped. -/
  handles : List (Option ComponentId) := []
  pipelines : List Pipeline := []
  /-- Pipelines woken since the last `run`, in the order of their wake-ups. -/
  woken : List PipelineId := []
  /-- Pipelines not polled yet, in the order of their submits. -/
  spawned : List PipelineId := []
  clock : ManualClock := {}
  transport : MockTransport := {}
  /-- Sleeps of the user; `none` once complete or dropped. -/
  sleeps : List (Option Sleep) := []
  /-- Calls of the user; `none` once complete or dropped. -/
  calls : List (Option Call) := []
  heard : List Heard := []
  notices : List Notice := []
  /-- The DOM operations that are set to fail. -/
  faults : List Fault := []

namespace Page

/-- `p.document? d` is the document `d` unless it was dropped. -/
def document? (p : Page) (d : DocumentId) : Option Document :=
  (p.documents[d]?).join

/-- `p.component? c` is the component `c` unless it was dropped. -/
def component? (p : Page) (c : ComponentId) : Option Component :=
  (p.components[c]?).join

/-- `p.handle? handle` is the component of a handle that was not dropped. -/
def handle? (p : Page) (handle : Nat) : Option ComponentId :=
  (p.handles[handle]?).join

/-- `p.note n` appends `n` to the log. -/
def note (p : Page) (n : Notice) : Page :=
  { p with notices := p.notices ++ [n] }

/-- `p.fails f` holds if the operation `f` is set to fail. -/
def fails (p : Page) (f : Fault) : Bool :=
  p.faults.contains f

/-- `p.setFault f on` sets or clears the fault `f`. -/
def setFault (p : Page) (f : Fault) (on : Bool) : Page :=
  { p with faults := if on then f :: p.faults else p.faults.filter fun g => g != f }

/-- `p.modifyDocument d change` applies `change` to the document `d`. -/
def modifyDocument (p : Page) (d : DocumentId) (change : Document → Document) : Page :=
  { p with documents := p.documents.modify d (Option.map change) }

/-- `p.modifyHost h change` applies `change` to the host `h`. -/
def modifyHost (p : Page) (h : HostId) (change : Host → Host) : Page :=
  { p with hosts := p.hosts.modify h change }

/-- `p.modifyForm f change` applies `change` to the form `f`. -/
def modifyForm (p : Page) (f : FormId) (change : Form → Form) : Page :=
  { p with forms := p.forms.modify f change }

/-- `p.modifyComponent c change` applies `change` to the component `c`. -/
def modifyComponent (p : Page) (c : ComponentId) (change : Component → Component) : Page :=
  { p with components := p.components.modify c (Option.map change) }

/-- `p.modifyPipeline s change` applies `change` to the pipeline `s`. -/
def modifyPipeline (p : Page) (s : PipelineId) (change : Pipeline → Pipeline) : Page :=
  { p with pipelines := p.pipelines.modify s change }

/-- `p.setStage s stage` moves the pipeline `s` to `stage`. -/
def setStage (p : Page) (s : PipelineId) (stage : Stage) : Page :=
  p.modifyPipeline s fun pipe => { pipe with stage }

end Page

end FormSwap
