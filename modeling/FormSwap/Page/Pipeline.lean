import FormSwap.Page.Swap

/-!
# Pipelines

A pipeline sends the request, swaps the response in, notifies, and waits for the settle delay.
`Page.poll` runs one until it is pending on the response or on the settle delay. `Page.run` polls
every queued pipeline: the woken ones in the order of their wake-ups, then the new ones in the order
of their submits. Polling an aborted pipeline only drops what it owns.
-/

namespace FormSwap.Page

/-- `p.settle s c sleep` polls the settle delay of the pipeline `s`. If it is over, the component
leaves `submitting` and the pipeline is finished. -/
def settle (p : Page) (s : PipelineId) (c : ComponentId) (sleep : Sleep) : Page :=
  match p.clock.poll sleep (some s) with
  | (clock, _, true) => ({ p with clock }.leaveSubmitting c).setStage s .finished
  | (clock, sleep, false) => { p with clock }.setStage s (.settling sleep)

/-- `resultNotice result` is the log entry for the result of an exchange. -/
def resultNotice : Except SubmitError Nat → Notice
  | .ok fields => .submitted fields
  | .error .detached => .responseDropped
  | .error e => .submissionFailed e

/-- `p.conclude s c result` logs `result`, which counts the fields sent, and starts the settle
delay. -/
def conclude (p : Page) (s : PipelineId) (c : ComponentId) (result : Except SubmitError Nat) :
    Page :=
  let p := p.note (resultNotice result)
  let delay := ((p.component? c).map (·.config.delay)).getD 0
  p.settle s c (p.clock.sleep delay)

/-- `Exchange` is the state of an exchange after a poll: pending on the response, or ended with the
number of fields sent or an error. -/
inductive Exchange where
  | waiting (page : Page) (call : Call) (payload : Payload)
  | ended (page : Page) (result : Except SubmitError Nat)

/-- `x.resume s c` suspends the pipeline `s` on the response, or concludes it. -/
def Exchange.resume (s : PipelineId) (c : ComponentId) : Exchange → Page
  | .waiting p call payload => p.setStage s (.awaiting call payload)
  | .ended p result => p.conclude s c result

/-- `p.receive c payload outcome` handles the outcome of a request: it checks the status and applies
the response. -/
def receive (p : Page) (c : ComponentId) (payload : Payload) (outcome : Outcome) : Exchange :=
  match outcome with
  | .error e => .ended p (.error (.transport e))
  | .ok response =>
    match response.accept with
    | .error e => .ended p (.error e)
    | .ok response =>
      match p.applyResponse c response.body ⟨payload.encode⟩ with
      | .error e => .ended p (.error e)
      | .ok q => .ended q (.ok payload.size)

/-- `p.pollCall c call payload` polls the call of a pipeline. -/
def pollCall (p : Page) (c : ComponentId) (call : Call) (payload : Payload) : Exchange :=
  match p.transport.poll call with
  | (transport, .waiting call) => .waiting { p with transport } call payload
  | (transport, .finished outcome) => { p with transport }.receive c payload outcome

/-- `p.requestOf f payload` builds the request from the form's current method and action. -/
def requestOf (p : Page) (f : FormId) (payload : Payload) : Except SubmitError FormRequest :=
  match p.forms[f]? with
  | none => .error .detached
  | some form => FormRequest.build form.data.method form.data.action payload

/-- `p.firstExchange c f payload` builds and sends the request, in the first poll of a pipeline. -/
def firstExchange (p : Page) (c : ComponentId) (f : FormId)
    (payload : Except SubmitError Payload) : Exchange :=
  match payload with
  | .error e => .ended p (.error e)
  | .ok payload =>
    match p.requestOf f payload with
    | .error e => .ended p (.error e)
    | .ok request => p.pollCall c (.unsent request) payload

/-- `p.dropAborted s stage` drops the aborted pipeline `s`, with the sleep that it owns at
`stage`. -/
def dropAborted (p : Page) (s : PipelineId) (stage : Stage) : Page :=
  let p :=
    match stage with
    | .settling sleep => { p with clock := p.clock.release sleep }
    | _ => p
  p.setStage s .finished

/-- `p.poll s` polls the pipeline `s` until it is pending or finished. -/
def poll (p : Page) (s : PipelineId) : Page :=
  match p.pipelines[s]? with
  | none => p
  | some pipe =>
    if pipe.aborted then p.dropAborted s pipe.stage
    else
      match pipe.stage with
      | .accepted f payload => (p.firstExchange pipe.owner f payload).resume s pipe.owner
      | .awaiting call payload => (p.pollCall pipe.owner call payload).resume s pipe.owner
      | .settling sleep => p.settle s pipe.owner sleep
      | .finished => p

/-- `p.run` polls every queued pipeline once. A poll never queues a pipeline, so that the pool is
stalled afterwards. -/
def run (p : Page) : Page :=
  (p.woken ++ p.spawned).foldl poll { p with woken := [], spawned := [] }

end FormSwap.Page
