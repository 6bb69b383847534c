import FormSwap.Page.Pipeline
import FormSwap.Page.Submit

/-!
# Actions

`Action` is the interface of the user of a page, and `Page.perform` is its step function:
`Page.Reachable` pages are those that `performAll` reaches from the empty page. An action that
refers to something that does not exist changes nothing. After each action the components without an
owner are dropped.

An action that panics ends the program. `Page.perform` then reports the panic and returns the page
as it was before, so that `performAll` yields the pages of the runs that do not panic.
`Page.afterPanic` is the page that is left if the panic is caught.
-/

namespace FormSwap

open FormSwap.Markup

/-- `Action` is one operation of the user. -/
inductive Action where
  | newDocument
  | dropDocument (d : DocumentId)
  | append (d : DocumentId) (h : HostId)
  | remove (d : DocumentId) (h : HostId)
  | appendMarkup (d : DocumentId) (markup : String)
  | dispatchDocument (d : DocumentId) (n : Notification)
  /-- A host with attributes, set in order, and a form or markup inside. -/
  | newHost (attributes : List (String × String)) (form : Option FormId) (markup : Option String)
      (rejecting : Bool)
  | setAttribute (h : HostId) (name value : String)
  | removeAttribute (h : HostId) (name : String)
  | setInnerHtml (h : HostId) (markup : String)
  | setOuterHtml (h : HostId) (markup : String)
  | dispatchHost (h : HostId) (n : Notification)
  | newForm (data : FormData)
  | addField (f : FormId) (name value : String)
  | setField (f : FormId) (name value : String)
  /-- Fires a submit event; reactions nest at most `depth` deep. -/
  | submit (f : FormId) (submitter : Option Submitter) (depth : Nat)
  | listen (f : FormId) (label : String) (reactions : List Reaction)
  | unlisten (l : ListenerRef)
  /-- Takes the records of the observers. -/
  | takeHeard
  | create (h : HostId)
  | createWith (h : HostId) (config : Config)
  | attach (c : ComponentId)
  | detach (c : ComponentId)
  | handleSubmit (c : ComponentId) (submitter : Option Submitter)
  /-- Adds a handle of each component. -/
  | retain (cs : List ComponentId)
  | dropHandle (handle : Nat)
  /-- Queues a reply. -/
  | reply (outcome : Outcome)
  /-- Queues a deferred reply. -/
  | defer
  | deliver (d : DeferredId) (outcome : Outcome)
  | dropDeferred (d : DeferredId)
  /-- Creates a call without polling it. -/
  | newCall (request : FormRequest)
  | pollCall (k : Nat)
  | advance (span : Duration)
  /-- Creates a sleep without polling it. -/
  | newSleep (length : Duration)
  | pollSleep (n : Nat)
  | dropSleep (n : Nat)
  | run
  | setFault (f : Fault) (on : Bool)

/-- `Failure` is the error of an action that failed. -/
inductive Failure where
  | config (e : ConfigError)
  | submit (e : SubmitError)
  | dom (e : DomError)
  | transport (e : TransportError)
deriving DecidableEq, Repr

/-- `e.message` is the text of a failure. -/
def Failure.message : Failure → String
  | .config e => e.message
  | .submit e => e.message
  | .dom e => e.message
  | .transport e => e.message

/-- `Result` is the return value of an action. -/
inductive Result where
  | done
  | document (d : DocumentId)
  | host (h : HostId)
  | inserted (hosts : List HostId)
  | form (f : FormId)
  | listener (l : ListenerRef)
  | deferred (d : DeferredId)
  | call (k : Nat)
  | sleep (n : Nat)
  /-- The handle of a component, and its configuration. -/
  | component (handle : Nat) (config : Config)
  | components (handles : List (Nat × Config))
  | dispatched
  | submitted (prevented : Bool)
  | handled (d : Page.Disposition) (prevented : Bool)
  | heard (records : List Heard)
  | waiting
  | over
  | response (r : Response)
  | failed (e : Failure)
  /-- The action refers to something that does not exist. -/
  | missing
  /-- The action panicked. -/
  | panicked
  /-- The action panicked a second time while unwinding, and the program was aborted. -/
  | aborted

namespace Page

/-- `awaits d s` holds if the pipeline `s` is pending on the deferred reply `d`. -/
def awaits (d : DeferredId) (s : Pipeline) : Bool :=
  match s.stage with
  | .awaiting (.awaiting id) _ => id == d
  | _ => false

/-- `p.settleDeferred d status` settles the deferred reply `d` and wakes the pipeline pending on
it. -/
def settleDeferred (p : Page) (d : DeferredId) (status : Deferred) : Page :=
  let p := { p with transport := p.transport.settle d status }
  match p.pipelines.findIdx? (awaits d) with
  | some s => p.wake s
  | none => p

/-- `p.advance span` advances the clock and wakes the pipelines whose sleeps became due. -/
def advance (p : Page) (span : Duration) : Page :=
  let (clock, due) := p.clock.advance span
  (due.filterMap (·.waker)).foldl wake { p with clock }

/-- `p.newHost attributes form markup rejecting` adds a host. -/
def newHost (p : Page) (attributes : List (String × String)) (form : Option FormId)
    (markup : Option String) (rejecting : Bool) : Page × HostId :=
  let attributes := attributes.foldl (fun list a => setIn a.1 a.2 list) []
  let (p, content) :=
    match markup, form with
    | some markup, _ => p.readContent markup
    | none, some f => (p, .form f)
    | none, none => (p, .markup "" none)
  p.addHost { attributes, content, rejecting }

/-- `p.giveHandle c` adds a handle of `c` and returns it. -/
def giveHandle (p : Page) (c : ComponentId) : Page × Result :=
  (p.addHandle c,
    .component p.handles.length (((p.component? c).map (·.config)).getD {}))

/-- `p.giveHandles cs` adds a handle of each component and returns them. -/
def giveHandles (p : Page) (cs : List ComponentId) : Page × Result :=
  ({ p with handles := p.handles ++ cs.map some },
    .components (cs.mapIdx fun i c =>
      (p.handles.length + i, ((p.component? c).map (·.config)).getD {})))

/-- `p.edited result` is the outcome of a DOM operation that may fail. -/
def edited (p : Page) : Except DomError Page → Page × Result
  | .ok q => (q, .done)
  | .error e => (p, .failed (.dom e))

/-- `p.pollUserCall k` polls the call `k` of the user. -/
def pollUserCall (p : Page) (k : Nat) : Page × Result :=
  match (p.calls[k]?).join with
  | none => (p, .missing)
  | some call =>
    match p.transport.poll call with
    | (transport, .waiting call) =>
      ({ p with transport, calls := p.calls.set k (some call) }, .waiting)
    | (transport, .finished outcome) =>
      ({ p with transport, calls := p.calls.set k none },
        match outcome with
        | .ok r => .response r
        | .error e => .failed (.transport e))

/-- `p.pollUserSleep n` polls the sleep `n` of the user. -/
def pollUserSleep (p : Page) (n : Nat) : Page × Result :=
  match (p.sleeps[n]?).join with
  | none => (p, .missing)
  | some sleep =>
    match p.clock.poll sleep none with
    | (clock, _, true) => ({ p with clock, sleeps := p.sleeps.set n none }, .over)
    | (clock, sleep, false) => ({ p with clock, sleeps := p.sleeps.set n (some sleep) }, .waiting)

/-- `p.dropUserSleep n` drops the sleep `n` of the user. -/
def dropUserSleep (p : Page) (n : Nat) : Page × Result :=
  match (p.sleeps[n]?).join with
  | none => (p, .missing)
  | some sleep => ({ p with clock := p.clock.release sleep, sleeps := p.sleeps.set n none }, .done)

/-- `p.hasObserver l` holds if `l` is the handle of an observer, rather than of a component's
listener. -/
def hasObserver (p : Page) (l : ListenerRef) : Bool :=
  (p.listenersOf l.form).any fun listener =>
    listener.id == l.id &&
      match listener.role with
      | .observer _ _ => true
      | .component _ => false

/-- `p.offers a` holds if everything that `a` refers to exists and `a` does not panic. -/
def offers (p : Page) : Action → Bool
  | .dropDocument d | .appendMarkup d _ | .dispatchDocument d _ => (p.document? d).isSome
  | .append d h | .remove d h => (p.document? d).isSome && h < p.hosts.length
  | .newHost _ form _ _ => form.all fun f => f < p.forms.length
  | .setAttribute h _ _ | .removeAttribute h _ | .setInnerHtml h _ | .setOuterHtml h _
  | .dispatchHost h _ | .create h | .createWith h _ => h < p.hosts.length
  | .addField f _ _ | .setField f _ _ | .submit f _ _ => f < p.forms.length
  | .listen f _ reactions =>
    f < p.forms.length && reactions.all fun r => r.keeps.all fun c => (p.component? c).isSome
  | .unlisten l => p.hasObserver l && (p.releaseConflicts l).isEmpty
  | .attach c | .detach c | .handleSubmit c _ => (p.component? c).isSome
  | .retain cs => cs.all fun c => (p.component? c).isSome
  | .dropHandle handle => (p.handle? handle).isSome
  | .deliver d _ | .dropDeferred d => p.transport.isPending d
  | _ => true

/-- `p.act a` is the effect of `a` before components without an owner are dropped. -/
def act (p : Page) : Action → Page × Result
  | .newDocument => let (p, d) := p.addDocument; (p, .document d)
  | .dropDocument d => (p.dropDocument d, .done)
  | .append d h => (p.append d h, .done)
  | .remove d h => (p.remove d h, .done)
  | .appendMarkup d markup => (p.appendMarkup d markup, .done)
  | .dispatchDocument d n => (p.dispatchDocument d n, .dispatched)
  | .newHost attributes form markup rejecting =>
    let (p, h) := p.newHost attributes form markup rejecting
    (p, .host h)
  | .setAttribute h name value => p.edited (p.setAttribute h name value)
  | .removeAttribute h name => p.edited (p.removeAttribute h name)
  | .setInnerHtml h markup => p.edited (p.setInnerHtml h markup)
  | .setOuterHtml h markup =>
    match p.setOuterHtml h markup with
    | .ok r => (r.page, .inserted r.inserted)
    | .error e => (p, .failed (.dom e))
  | .dispatchHost h n =>
    match p.dispatchHost h n with
    | .ok p => (p, .dispatched)
    | .error e => (p, .failed (.dom e))
  | .newForm data => let (p, f) := p.addForm data; (p, .form f)
  | .addField f name value => (p.addField f name value, .done)
  | .setField f name value => (p.setField f name value, .done)
  | .submit f submitter depth =>
    let (p, e) := submitWithin depth p f submitter
    (p, .submitted e.prevented)
  | .listen f label reactions =>
    match p.addListener f (.observer label reactions) with
    | .ok (p, l) => (p, .listener l)
    | .error e => (p, .failed (.dom e))
  | .unlisten l => (p.removeListener l, .done)
  | .takeHeard => ({ p with heard := [] }, .heard p.heard)
  | .create h =>
    match p.create h with
    | .ok (p, c) => p.giveHandle c
    | .error e => (p, .failed (.config e))
  | .createWith h config => let (p, c) := p.createWith h config; p.giveHandle c
  | .attach c =>
    match p.attach c with
    | .ok p => (p, .done)
    | .error e => (p, .failed (.config e))
  | .detach c => (p.detach c, .done)
  | .handleSubmit c submitter =>
    let (p, e, d) := p.handleSubmit c { submitter }
    (p, .handled d e.prevented)
  | .retain cs => p.giveHandles cs
  | .dropHandle handle => (p.dropHandle handle, .done)
  | .reply outcome => ({ p with transport := p.transport.enqueue (.ready outcome) }, .done)
  | .defer => let (transport, d) := p.transport.defer; ({ p with transport }, .deferred d)
  | .deliver d outcome => (p.settleDeferred d (.delivered outcome), .done)
  | .dropDeferred d => (p.settleDeferred d .dropped, .done)
  | .newCall request =>
    ({ p with calls := p.calls ++ [some (.unsent request)] }, .call p.calls.length)
  | .pollCall k => p.pollUserCall k
  | .advance span => (p.advance span, .done)
  | .newSleep length =>
    ({ p with sleeps := p.sleeps ++ [some (p.clock.sleep length)] }, .sleep p.sleeps.length)
  | .pollSleep n => p.pollUserSleep n
  | .dropSleep n => p.dropUserSleep n
  | .run => (p.run, .done)
  | .setFault f on => (p.setFault f on, .done)

/-- `p.refusal a` is the result of an action that `offers` excludes. Releasing an observer panics in
the first component whose listener cannot be removed, and aborts in the second one. -/
def refusal (p : Page) : Action → Result
  | .unlisten l =>
    if p.hasObserver l then
      match p.releaseConflicts l with
      | [_] => .panicked
      | _ => .aborted
    else .missing
  | _ => .missing

/-- `p.perform a` performs `a`, unless `p.offers a` fails. -/
def perform (p : Page) (a : Action) : Page × Result :=
  if p.offers a then
    let (q, r) := p.act a
    (q.sweep, r)
  else (p, p.refusal a)

/-- `p.performAll actions` performs the actions in order. -/
def performAll (p : Page) (actions : List Action) : Page :=
  actions.foldl (fun p a => (p.perform a).1) p

/-- `p.Reachable` holds if `performAll` reaches `p` from the empty page. -/
def Reachable (p : Page) : Prop :=
  ∃ actions, p = performAll {} actions

end Page

end FormSwap
