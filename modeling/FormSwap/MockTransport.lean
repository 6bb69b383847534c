import FormSwap.Request

/-!
# Mock transport

`MockTransport` is a scripted transport. It hands out queued replies in order, one to each request,
when the request is first polled. A reply may be deferred; its request then stays pending until the
reply is resolved or dropped. Every request is logged, including one that finds the queue empty.
-/

namespace FormSwap

/-- `Outcome` is the result of a request. -/
abbrev Outcome := Except TransportError Response

/-- `DeferredId` is the index of a deferred reply. -/
abbrev DeferredId := Nat

/-- `Reply` is an entry of the reply queue. -/
inductive Reply where
  | ready (outcome : Outcome)
  | deferred (id : DeferredId)

/-- `Deferred` is the state of a deferred reply. -/
inductive Deferred where
  | pending
  | delivered (outcome : Outcome)
  | dropped

/-- `MockTransport` holds the request log, the reply queue and the deferred replies. -/
structure MockTransport where
  requests : List FormRequest := []
  queue : List Reply := []
  deferred : List Deferred := []

/-- `Call` is the future of one request. -/
inductive Call where
  /-- Not polled yet, so the request has not been sent. -/
  | unsent (request : FormRequest)
  /-- Sent, and pending on a deferred reply. -/
  | awaiting (reply : DeferredId)

/-- `Progress` is the result of polling a `Call`. -/
inductive Progress where
  | waiting (call : Call)
  | finished (outcome : Outcome)

namespace MockTransport

/-- `s.enqueue reply` appends a reply to the queue. -/
def enqueue (s : MockTransport) (reply : Reply) : MockTransport :=
  { s with queue := s.queue ++ [reply] }

/-- `s.defer` appends a deferred reply to the queue and returns its index. -/
def defer (s : MockTransport) : MockTransport × DeferredId :=
  ({ s with
      queue := s.queue ++ [.deferred s.deferred.length]
      deferred := s.deferred ++ [.pending] },
    s.deferred.length)

/-- `s.isPending id` holds if the deferred reply `id` is neither resolved nor dropped. -/
def isPending (s : MockTransport) (id : DeferredId) : Bool :=
  match s.deferred[id]? with
  | some .pending => true
  | _ => false

/-- `s.settle id status` sets the state of the deferred reply `id`. -/
def settle (s : MockTransport) (id : DeferredId) (status : Deferred) : MockTransport :=
  { s with deferred := s.deferred.set id status }

/-- `s.await id` polls the deferred reply `id`. -/
def await (s : MockTransport) (id : DeferredId) : Progress :=
  match s.deferred[id]? with
  | some (.delivered outcome) => .finished outcome
  | some .dropped => .finished (.error .replyDropped)
  | _ => .waiting (.awaiting id)

/-- `s.send request` logs `request` and takes the next reply off the queue. -/
def send (s : MockTransport) (request : FormRequest) : MockTransport × Progress :=
  let logged := { s with requests := s.requests ++ [request] }
  match s.queue with
  | [] => (logged, .finished (.error .noReply))
  | .ready outcome :: rest => ({ logged with queue := rest }, .finished outcome)
  | .deferred id :: rest => ({ logged with queue := rest }, s.await id)

/-- `s.poll call` polls `call`: an unsent request is sent, a sent one checks its deferred reply. -/
def poll (s : MockTransport) : Call → MockTransport × Progress
  | .unsent request => s.send request
  | .awaiting id => (s, s.await id)

end MockTransport

end FormSwap
