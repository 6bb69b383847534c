import FormSwap.Page.Tree

/-!
# Component lifecycle

A component is created on a host, attached to the form in it, and detached once and for all. While
it is attached and idle, `handleSubmit` accepts a submit: it collects the payload, marks the host
with `form-submitting`, and spawns a pipeline. The functions here keep a component's fields, its
listener and the mark on its host consistent.
-/

namespace FormSwap.Page

/-- `Disposition` is the result of `handleSubmit`. -/
inductive Disposition where
  | started
  | ignored
deriving DecidableEq, Repr

/-! ## Creation -/

/-- `p.createWith h config` adds a component on `h` with the given configuration. -/
def createWith (p : Page) (h : HostId) (config : Config) : Page × ComponentId :=
  ({ p with components := p.components ++ [some { host := h, config }] }, p.components.length)

/-- `p.noteResolved r` logs a delay that was ignored when the configuration was resolved. -/
def noteResolved (p : Page) (r : Config.Resolved) : Page :=
  match r.ignoredDelay with
  | some text => p.note (.delayIgnored text)
  | none => p

/-- `p.create h` adds a component on `h`, configured from the attributes of `h`. -/
def create (p : Page) (h : HostId) : Except ConfigError (Page × ComponentId) :=
  match Config.ofAttributes (p.getAttribute h) with
  | .error e => .error e
  | .ok r => .ok ((p.noteResolved r).createWith h r.config)

/-! ## Attachment -/

/-- `p.listen c f` registers the listener of `c` on `f` and stores the form and the handle in
`c`. -/
def listen (p : Page) (c : ComponentId) (f : FormId) : Except DomError Page :=
  match p.addListener f (.component c) with
  | .error e => .error e
  | .ok (p, l) =>
    .ok (p.modifyComponent c fun comp => { comp with form := some f, listener := some l })

/-- `p.releaseForm c` removes the listener of `c` and clears its form. -/
def releaseForm (p : Page) (c : ComponentId) : Page :=
  let p :=
    match (p.component? c).bind (·.listener) with
    | some l => p.removeListener l
    | none => p
  p.modifyComponent c fun comp => { comp with form := none, listener := none }

/-- `p.attach c` connects `c` to the form in its host. Attaching an attached component is a
no-op. -/
def attach (p : Page) (c : ComponentId) : Except ConfigError Page :=
  match p.component? c with
  | none => .error .detached
  | some comp =>
    if comp.detached then .error .detached
    else if comp.listener.isSome then .ok p
    else
      match p.queryForm comp.host with
      | none => .error .formNotFound
      | some f =>
        match p.listen c f with
        | .error e => .error (.dom e)
        | .ok p => .ok (p.note (.attached comp.config))

/-- `p.mount h` creates a component on `h` and attaches it. A component that cannot be attached is
dropped; what was logged stays. -/
def mount (p : Page) (h : HostId) : Page × Except ConfigError ComponentId :=
  match Config.ofAttributes (p.getAttribute h) with
  | .error e => (p, .error e)
  | .ok r =>
    let p := p.noteResolved r
    let (q, c) := p.createWith h r.config
    match q.attach c with
    | .error e => (p, .error e)
    | .ok q => (q, .ok c)

/-! ## The submitting attribute -/

/-- `p.enterSubmitting c` sets the state of `c` to `submitting` and the attribute on its host. -/
def enterSubmitting (p : Page) (c : ComponentId) : Page :=
  match p.component? c with
  | none => p
  | some comp =>
    let p := p.modifyComponent c fun comp => { comp with state := .submitting }
    match p.setAttribute comp.host submittingAttribute "" with
    | .ok p => p
    | .error e => p.note (.notMarked e)

/-- `p.leaveSubmitting c` sets the state of `c` to `idle` and removes the attribute from its
host. -/
def leaveSubmitting (p : Page) (c : ComponentId) : Page :=
  match p.component? c with
  | none => p
  | some comp =>
    let p := p.modifyComponent c fun comp => { comp with state := .idle, inFlight := none }
    match p.removeAttribute comp.host submittingAttribute with
    | .ok p => p
    | .error e => p.note (.notUnmarked e)

/-! ## Submits -/

/-- `p.collectPayload f submitter` is the payload of `f` with its current fields. -/
def collectPayload (p : Page) (f : FormId) (submitter : Option Submitter) :
    Except SubmitError Payload :=
  match p.entries f with
  | .error e => .error (.dom e)
  | .ok fields => .ok (Payload.collect fields submitter)

/-- `p.spawn c f payload` queues a new pipeline of `c`. -/
def spawn (p : Page) (c : ComponentId) (f : FormId) (payload : Except SubmitError Payload) :
    Page :=
  let s := p.pipelines.length
  let p := p.modifyComponent c fun comp => { comp with inFlight := some s }
  { p with
    pipelines := p.pipelines ++ [{ owner := c, stage := .accepted f payload }]
    spawned := p.spawned ++ [s] }

/-- `p.handleSubmit c e` handles a submit event. It always prevents the default, and starts a
submission if `c` is attached and idle. -/
def handleSubmit (p : Page) (c : ComponentId) (e : SubmitEvent) :
    Page × SubmitEvent × Disposition :=
  let e := e.prevent
  match p.component? c with
  | none => (p, e, .ignored)
  | some comp =>
    if comp.state = .submitting then (p.note .busy, e, .ignored)
    else
      match comp.form with
      | none => (p.note .unattached, e, .ignored)
      | some f =>
        let payload := p.collectPayload f e.submitter
        let p := p.enterSubmitting c
        if p.fails .spawn then ((p.note .notScheduled).leaveSubmitting c, e, .ignored)
        else (p.spawn c f payload, e, .started)

/-! ## Detachment -/

/-- `p.wake s` queues the pipeline `s` for the next run, unless it is queued. -/
def wake (p : Page) (s : PipelineId) : Page :=
  if p.woken.contains s then p else { p with woken := p.woken ++ [s] }

/-- `p.abort s` aborts the pipeline `s` and wakes it. One that was never polled is queued
already. -/
def abort (p : Page) (s : PipelineId) : Page :=
  let p := p.modifyPipeline s fun pipe => { pipe with aborted := true }
  if p.spawned.contains s then p else p.wake s

/-- `p.abortInFlight c` aborts the pipeline in flight of `c`. -/
def abortInFlight (p : Page) (c : ComponentId) : Page :=
  match (p.component? c).bind (·.inFlight) with
  | none => p
  | some s => (p.modifyComponent c fun comp => { comp with inFlight := none }).abort s

/-- `p.disconnect c` detaches `c` without its replacements: it releases the form, aborts the
pipeline in flight and makes `c` idle. -/
def disconnect (p : Page) (c : ComponentId) : Page :=
  match p.component? c with
  | none => p
  | some comp =>
    let p := p.modifyComponent c fun comp => { comp with detached := true }
    let p := p.releaseForm c
    let p := p.abortInFlight c
    if comp.state = .submitting then p.leaveSubmitting c else p

/-- `detachWithin n p c` detaches `c` and its replacements, `n` levels deep. -/
def detachWithin : Nat → Page → ComponentId → Page
  | 0, p, _ => p
  | n + 1, p, c =>
    match p.component? c with
    | none => p
    | some comp =>
      let p := comp.replacements.foldl (detachWithin n) (p.disconnect c)
      if comp.detached then p else p.note .detached

/-- `p.detach c` detaches `c` and all its replacements, recursively. A replacement has a larger
index than its owner, so there are at most as many levels as components. -/
def detach (p : Page) (c : ComponentId) : Page :=
  detachWithin p.components.length p c

end FormSwap.Page
