import FormSwap.Page.Action
import FormSwap.Page.Describe

/-!
# Sessions

`Session` drives a page step by step and refers to objects by numbers. Every object that a step
returns, new or known, is appended to the list of its kind and answered by its index there, so that
one object may have several numbers. `Session.step` resolves the numbers of a step to ids of the
page, performs the action, and numbers the result.
-/

namespace FormSwap

/-- `Session` is a page with the numbers given out. Documents, deferred replies, sleeps, calls and
component handles keep the numbers of the page. -/
structure Session where
  page : Page := {}
  hosts : List HostId := []
  forms : List FormId := []
  /-- Handles of listeners; `none` once used. -/
  listeners : List (Option ListenerRef) := []

/-- `Step` is one step of a session. -/
inductive Step where
  /-- An action whose ids are numbers of the session. -/
  | act (a : Action)
  | unlisten (handle : Nat)
  | createWith (host : Nat) (delay : Duration) (swap : String)
  | respond (status : Nat) (body : String)
  | resolve (deferred : Nat) (status : Nat) (body : String)
  | send (method action : String) (payload : Payload)
  | documentHosts (d : Nat)
  | readAttribute (host : Nat) (name : String)
  | queryForm (host : Nat)
  | innerHtml (host : Nat)
  | formInfo (form : Nat)
  | formHtml (form : Nat)
  | describeForm (form : Nat)
  | describeListener (handle : Nat)
  | replacements (comp : Nat)
  | cloneHandle (comp : Nat)
  | componentHost (comp : Nat)
  | requests
  | describeSurroundings

/-- `Answer` is the answer to a step. -/
inductive Answer where
  | nothing
  | number (n : Nat)
  | numbers (ns : List Nat)
  | truth
  | text (s : String)
  | attributeValue (value : Option String)
  | form (data : Markup.FormData)
  | component (handle : Nat) (config : Config)
  | components (handles : List (Nat × Config))
  | submitted (prevented : Bool)
  | handled (d : Page.Disposition) (prevented : Bool)
  | heard (records : List Heard)
  | requests (log : List FormRequest)
  | waiting
  | over
  | response (r : Response)
  | failed (e : Failure)
  | invalidStatus
  /-- The named field of the step is invalid. -/
  | badInput (field : String)
  /-- The program panicked in the step, and the session is over. -/
  | crashed

namespace Session

/-! ## Resolving numbers -/

/-- `require field x` is the value of `x`, or an error that names `field`. -/
def require {α : Type} (field : String) : Option α → Except String α
  | some a => .ok a
  | none => .error field

/-- `s.host n` is the host with the number `n`. -/
def host (s : Session) (n : Nat) : Except String HostId :=
  require "host" s.hosts[n]?

/-- `s.form n` is the form with the number `n`. -/
def form (s : Session) (n : Nat) : Except String FormId :=
  require "form" s.forms[n]?

/-- `s.component n` is the component of the handle `n`. -/
def component (s : Session) (n : Nat) : Except String ComponentId :=
  require "comp" (s.page.handle? n)

/-- `s.document n` is the document `n`, unless it was dropped. -/
def document (s : Session) (n : Nat) : Except String DocumentId :=
  require "doc" ((s.page.document? n).map fun _ => n)

/-- `s.deferred n` is the deferred reply `n`, if it is pending. -/
def deferred (s : Session) (n : Nat) : Except String DeferredId :=
  if s.page.transport.isPending n then .ok n else .error "deferred"

/-- `s.listener n` is the listener handle `n`, if it was not used. -/
def listener (s : Session) (n : Nat) : Except String ListenerRef :=
  require "handle" (s.listeners[n]?).join

/-- `s.reaction r` resolves the components and forms of a reaction. -/
def reaction (s : Session) : Reaction → Except String Reaction
  | .detach n => do .ok (.detach (← s.component n))
  | .resubmit n => do .ok (.resubmit (← s.component n))
  | .submit n submitter => do .ok (.submit (← s.form n) submitter)
  | r => .ok r

/-- `s.resolve a` is the action `a` with ids of the page in place of numbers. -/
def resolve (s : Session) : Action → Except String Action
  | .dropDocument d => do .ok (.dropDocument (← s.document d))
  | .append d h => do .ok (.append (← s.document d) (← s.host h))
  | .remove d h => do .ok (.remove (← s.document d) (← s.host h))
  | .appendMarkup d markup => do .ok (.appendMarkup (← s.document d) markup)
  | .dispatchDocument d n => do .ok (.dispatchDocument (← s.document d) n)
  | .newHost attributes form markup rejecting => do
    let form ←
      match form with
      | some n => (s.form n).map some
      | none => .ok none
    .ok (.newHost attributes form markup rejecting)
  | .setAttribute h name value => do .ok (.setAttribute (← s.host h) name value)
  | .removeAttribute h name => do .ok (.removeAttribute (← s.host h) name)
  | .setInnerHtml h markup => do .ok (.setInnerHtml (← s.host h) markup)
  | .setOuterHtml h markup => do .ok (.setOuterHtml (← s.host h) markup)
  | .dispatchHost h n => do .ok (.dispatchHost (← s.host h) n)
  | .addField f name value => do .ok (.addField (← s.form f) name value)
  | .setField f name value => do .ok (.setField (← s.form f) name value)
  | .submit f submitter depth => do .ok (.submit (← s.form f) submitter depth)
  | .listen f label reactions => do
    .ok (.listen (← s.form f) label (← reactions.mapM s.reaction))
  | .create h => do .ok (.create (← s.host h))
  | .createWith h config => do .ok (.createWith (← s.host h) config)
  | .attach c => do .ok (.attach (← s.component c))
  | .detach c => do .ok (.detach (← s.component c))
  | .handleSubmit c submitter => do .ok (.handleSubmit (← s.component c) submitter)
  | .retain cs => do .ok (.retain (← cs.mapM s.component))
  | .dropHandle n => do
    let _ ← s.component n
    .ok (.dropHandle n)
  | .deliver d outcome => do .ok (.deliver (← s.deferred d) outcome)
  | .dropDeferred d => do .ok (.dropDeferred (← s.deferred d))
  | .pollCall k => do
    let _ ← require "send" (s.page.calls[k]?).join
    .ok (.pollCall k)
  | .pollSleep n => do
    let _ ← require "sleep" (s.page.sleeps[n]?).join
    .ok (.pollSleep n)
  | .dropSleep n => do
    let _ ← require "sleep" (s.page.sleeps[n]?).join
    .ok (.dropSleep n)
  | a => .ok a

/-! ## Numbering results -/

/-- `s.numberHost h` gives a number to a host. -/
def numberHost (s : Session) (h : HostId) : Session × Answer :=
  ({ s with hosts := s.hosts ++ [h] }, .number s.hosts.length)

/-- `s.numberHosts hs` gives numbers to hosts, in order. -/
def numberHosts (s : Session) (hs : List HostId) : Session × Answer :=
  ({ s with hosts := s.hosts ++ hs }, .numbers (List.range' s.hosts.length hs.length))

/-- `s.numberForm f` gives a number to a form. -/
def numberForm (s : Session) (f : FormId) : Session × Answer :=
  ({ s with forms := s.forms ++ [f] }, .number s.forms.length)

/-- `s.numberListener l` gives a number to a listener handle. -/
def numberListener (s : Session) (l : ListenerRef) : Session × Answer :=
  ({ s with listeners := s.listeners ++ [some l] }, .number s.listeners.length)

/-- `s.answer result` numbers the result of an action. -/
def answer (s : Session) : Result → Session × Answer
  | .done => (s, .nothing)
  | .document n | .deferred n | .call n | .sleep n => (s, .number n)
  | .host h => s.numberHost h
  | .inserted hs => s.numberHosts hs
  | .form f => s.numberForm f
  | .listener l => s.numberListener l
  | .component n config => (s, .component n config)
  | .components handles => (s, .components handles)
  | .dispatched => (s, .truth)
  | .submitted prevented => (s, .submitted prevented)
  | .handled d prevented => (s, .handled d prevented)
  | .heard records => (s, .heard records)
  | .waiting => (s, .waiting)
  | .over => (s, .over)
  | .response r => (s, .response r)
  | .failed e => (s, .failed e)
  | .missing => (s, .badInput "op")
  | .panicked | .aborted => (s, .crashed)

/-! ## Steps -/

/-- `s.perform a` performs an action that has ids of the page. -/
def perform (s : Session) (a : Action) : Session × Answer :=
  let (page, result) := s.page.perform a
  { s with page }.answer result

/-- `s.take st` performs a step, or names a field of it that is invalid. -/
def take (s : Session) : Step → Except String (Session × Answer)
  | .act a => do .ok (s.perform (← s.resolve a))
  | .unlisten n => do
    let l ← s.listener n
    .ok ({ s with listeners := s.listeners.set n none }.perform (.unlisten l))
  | .createWith n delay swap => do
    match SwapMode.parse swap with
    | .ok swap => do .ok (s.perform (.createWith (← s.host n) { delay, swap }))
    | .error e => .ok (s, .failed (.config e))
  | .respond status body =>
    match Http.Status.ofNat? status with
    | some status => .ok (s.perform (.reply (.ok { status, body })))
    | none => .ok (s, .invalidStatus)
  | .resolve n status body => do
    match Http.Status.ofNat? status with
    | some status => do .ok (s.perform (.deliver (← s.deferred n) (.ok { status, body })))
    | none => .ok (s, .invalidStatus)
  | .send method action payload =>
    match FormRequest.build method action payload with
    | .ok request => .ok (s.perform (.newCall request))
    | .error e => .ok (s, .failed (.submit e))
  | .documentHosts n => do .ok (s.numberHosts (s.page.hostsOf (← s.document n)))
  | .readAttribute n name => do
    .ok (s, .attributeValue (s.page.getAttribute (← s.host n) name))
  | .queryForm n => do
    match s.page.queryForm (← s.host n) with
    | some f => .ok (s.numberForm f)
    | none => .ok (s, .nothing)
  | .innerHtml n => do .ok (s, .text (s.page.innerHtml (← s.host n)))
  | .formInfo n => do
    let f ← s.form n
    match s.page.entries f, s.page.forms[f]? with
    | .ok fields, some form => .ok (s, .form { form.data with fields })
    | .error e, _ => .ok (s, .failed (.dom e))
    | _, none => .error "form"
  | .formHtml n => do .ok (s, .text (s.page.formHtml (← s.form n)))
  | .describeForm n => do
    let form ← require "form" (s.page.forms[← s.form n]?)
    .ok (s, .text form.describe)
  | .describeListener n => do .ok (s, .text (← s.listener n).describe)
  | .replacements n => do
    let c ← s.component n
    .ok (s.perform (.retain (((s.page.component? c).map (·.replacements)).getD [])))
  | .cloneHandle n => do
    let c ← s.component n
    match s.perform (.retain [c]) with
    | (s, .components [(n, config)]) => .ok (s, .component n config)
    | other => .ok other
  | .componentHost n => do
    let comp ← require "comp" (s.page.component? (← s.component n))
    .ok (s.numberHost comp.host)
  | .requests => .ok (s, .requests s.page.transport.requests)
  | .describeSurroundings => .ok (s, .text Page.describeSurroundings)

/-- `s.step st` is the session after a step, and the answer. An invalid step changes nothing. -/
def step (s : Session) (st : Step) : Session × Answer :=
  match s.take st with
  | .ok next => next
  | .error field => (s, .badInput field)

/-- `reportedSince before after` lists the log entries between two states of a session. -/
def reportedSince (before after : Session) : List LogEntry :=
  (after.page.notices.drop before.page.notices.length).map Notice.entry

end Session

end FormSwap
