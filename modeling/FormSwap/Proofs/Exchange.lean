import FormSwap.Proofs.Queue

/-!
# The result of a poll

The exchange of a pipeline ends in one of its polls: with success, or with an error. `Page.verdict`
is this result, and `Page.toSend` is what the pipeline sends in the poll.

Main results:

- `poll_plain`: a poll without success changes the pipeline, its component and the attribute
- `poll_succeeds`: a poll with success swaps the response in and goes to the settle delay
- `poll_reached`: after its verdict a pipeline settles or has ended, so it has no other verdict
- `poll_requests`: a poll logs what the pipeline has to send, which is nothing after the first
-/

namespace FormSwap.Page

/-! ## The settle delay -/

/-- `Settled p s c q`: `q` is `p` after the pipeline `s` of `c` goes to the settle delay, or on with
it. -/
inductive Settled (p : Page) (s : PipelineId) (c : ComponentId) : Page → Prop where
  | sleeps (sleep : Sleep) (clock : ManualClock) : Settled p s c { p with
      pipelines := p.pipelines.modify s (Pipeline.at (.settling sleep))
      clock }
  | ends {k : Component} (hk : p.component? c = some k) (clock : ManualClock)
      (notices : List Notice) : Settled p s c { p with
      hosts := p.hostsUnmarking k.host
      components := p.components.modify c (Option.map Component.madeIdle)
      pipelines := p.pipelines.modify s (Pipeline.at .finished)
      clock
      notices }
  | endsGone (hk : p.component? c = none) (clock : ManualClock) : Settled p s c { p with
      pipelines := p.pipelines.modify s (Pipeline.at .finished)
      clock }

theorem settle_settled (p : Page) (s : PipelineId) (c : ComponentId) (sleep : Sleep) :
    Settled p s c (p.settle s c sleep) := by
  unfold settle
  split
  · rename_i clock _ _
    cases hk : p.component? c with
    | none =>
      rw [leaveSubmitting_of_none (p := { p with clock }) hk]
      exact .endsGone hk clock
    | some k =>
      obtain ⟨notices, hleave⟩ := leaveSubmitting_eq (p := { p with clock }) hk
      rw [hleave]
      exact .ends hk clock notices
  · rename_i clock sleep' _
    exact .sleeps sleep' clock

/-! ## Verdicts -/

namespace Exchange

/-- `x.result?` is the result of an exchange that has ended. -/
def result? : Exchange → Option (Except SubmitError Nat)
  | .waiting _ _ _ => none
  | .ended _ result => some result

/-- `x.Plain`: the exchange has not succeeded. -/
def Plain (x : Exchange) : Prop :=
  ∀ n, x.result? ≠ some (.ok n)

end Exchange

/-- `p.verdict s` is the result of the exchange of `s` in its next poll, if it ends there. -/
def verdict (p : Page) (s : PipelineId) : Option (Except SubmitError Nat) :=
  match p.pipelines[s]? with
  | none => none
  | some pipe =>
    if pipe.aborted then none
    else
      match pipe.stage with
      | .accepted f payload => (p.firstExchange pipe.owner f payload).result?
      | .awaiting call payload => (p.pollCall pipe.owner call payload).result?
      | .settling _ | .finished => none

section Plain

variable {p : Page} {s : PipelineId} {c : ComponentId}

/-- `PlainPoll p s c q`: `q` is `p` after a poll of `s` without success. -/
inductive PlainPoll (p : Page) (s : PipelineId) (c : ComponentId) : Page → Prop where
  | same : PlainPoll p s c p
  | dropAborted (clock : ManualClock) : PlainPoll p s c { p with
      pipelines := p.pipelines.modify s (Pipeline.at .finished)
      clock }
  | awaits (transport : MockTransport) (call : Call) (payload : Payload) : PlainPoll p s c { p with
      pipelines := p.pipelines.modify s (Pipeline.at (.awaiting call payload))
      transport }
  | settles {q : Page} (hlive : p.LiveAt c s) (transport : MockTransport) (notices : List Notice)
      (h : Settled { p with transport, notices } s c q) : PlainPoll p s c q

private theorem conclude_plain (hlive : p.LiveAt c s) (transport : MockTransport)
    (result : Except SubmitError Nat) :
    PlainPoll p s c (({ p with transport } : Page).conclude s c result) :=
  .settles hlive transport (p.notices ++ [resultNotice result]) (settle_settled _ s c _)

private theorem receive_plain (hlive : p.LiveAt c s) {transport : MockTransport} {payload : Payload}
    {outcome : Outcome} (h : (({ p with transport } : Page).receive c payload outcome).Plain) :
    PlainPoll p s c ((({ p with transport } : Page).receive c payload outcome).resume s c) := by
  unfold receive at h ⊢
  cases outcome with
  | error e => exact conclude_plain hlive transport _
  | ok response =>
    dsimp only at h ⊢
    cases haccept : response.accept with
    | error e => exact conclude_plain hlive transport _
    | ok accepted =>
      rw [haccept] at h
      dsimp only at h ⊢
      split
      · exact conclude_plain hlive transport _
      · -- a response that was swapped in is a success
        rename_i hok
        rw [hok] at h
        exact absurd rfl (h _)

private theorem pollCall_plain (hlive : p.LiveAt c s) {call : Call} {payload : Payload}
    (h : (p.pollCall c call payload).Plain) :
    PlainPoll p s c ((p.pollCall c call payload).resume s c) := by
  unfold pollCall at h ⊢
  split
  · rename_i transport call' _
    exact .awaits transport call' payload
  · rename_i hpoll
    rw [hpoll] at h
    exact receive_plain hlive h

private theorem firstExchange_plain (hlive : p.LiveAt c s) {f : FormId}
    {payload : Except SubmitError Payload} (h : (p.firstExchange c f payload).Plain) :
    PlainPoll p s c ((p.firstExchange c f payload).resume s c) := by
  unfold firstExchange at h ⊢
  cases payload with
  | error e => exact conclude_plain hlive p.transport _
  | ok payload =>
    dsimp only at h ⊢
    cases hrequest : p.requestOf f payload with
    | error e => exact conclude_plain hlive p.transport _
    | ok request =>
      rw [hrequest] at h
      exact pollCall_plain hlive h

/-- A poll without success changes at most the pipeline, its component and the attribute. -/
theorem poll_plain {pipe : Pipeline} (hpipe : p.pipelines[s]? = some pipe)
    (h : ∀ n, p.verdict s ≠ some (.ok n)) : PlainPoll p s pipe.owner (p.poll s) := by
  unfold poll verdict at *
  rw [hpipe] at h ⊢
  dsimp only at h ⊢
  cases ha : pipe.aborted with
  | true =>
    simp only [if_true, Page.dropAborted]
    cases hstage : pipe.stage <;> exact .dropAborted _
  | false =>
    rw [ha] at h
    simp only [Bool.false_eq_true, if_false] at h ⊢
    -- only a live pipeline gets to the settle delay
    have hlive (hopen : pipe.isOpen = true) : p.LiveAt pipe.owner s :=
      ⟨pipe, hpipe, rfl, by simp [Pipeline.isLive, hopen, ha]⟩
    cases hstage : pipe.stage with
    | accepted f payload =>
      rw [hstage] at h
      exact firstExchange_plain (hlive (by simp [Pipeline.isOpen, hstage])) h
    | awaiting call payload =>
      rw [hstage] at h
      exact pollCall_plain (hlive (by simp [Pipeline.isOpen, hstage])) h
    | settling sleep =>
      exact .settles (hlive (by simp [Pipeline.isOpen, hstage])) p.transport p.notices
        (settle_settled _ _ _ _)
    | finished => exact .same

end Plain

/-! ## Success -/

/-- `p.callOf s` is the call that `s` polls next. -/
def callOf (p : Page) (s : PipelineId) : Option Call :=
  match p.pipelines[s]? with
  | some { stage := .accepted f (.ok payload), .. } =>
    (p.requestOf f payload).toOption.map .unsent
  | some { stage := .awaiting call _, .. } => some call
  | _ => none

/-- `p.outcomeOf s` is the outcome of the request of `s` in its next poll, if it is ready. -/
def outcomeOf (p : Page) (s : PipelineId) : Option Outcome :=
  (p.callOf s).bind fun call =>
    match (p.transport.poll call).2 with
    | .finished outcome => some outcome
    | .waiting _ => none

/-- `p.payloadOf s` is the payload of `s` until its request is answered. -/
def payloadOf (p : Page) (s : PipelineId) : Option Payload :=
  (p.pipelines[s]?).bind (·.stage.payload?)

/-- `Succeeds p s c payload response transport q`: in its next poll `s` swaps the response in, which
gives the page `q`, and goes to the settle delay. -/
structure Succeeds (p : Page) (s : PipelineId) (c : ComponentId) (payload : Payload)
    (response : Response) (transport : MockTransport) (q : Page) : Prop where
  exchanging : p.Exchanging c s
  carries : p.payloadOf s = some payload
  answered : p.outcomeOf s = some (.ok response)
  applied : ({ p with transport } : Page).applyResponse c response.body ⟨payload.encode⟩ = .ok q
  polled : p.poll s = q.conclude s c (.ok payload.size)

section Success

variable {p : Page} {s : PipelineId} {c : ComponentId} {payload : Payload} {n : Nat}

private theorem receive_ok {outcome : Outcome}
    (h : (p.receive c payload outcome).result? = some (.ok n)) :
    ∃ response q, outcome = .ok response ∧
      p.applyResponse c response.body ⟨payload.encode⟩ = .ok q ∧
      p.receive c payload outcome = .ended q (.ok payload.size) := by
  unfold receive at h ⊢
  cases outcome with
  | error e => cases h
  | ok response =>
    dsimp only at h ⊢
    cases haccept : response.accept with
    | error e =>
      rw [haccept] at h
      cases h
    | ok accepted =>
      -- a response that is accepted is passed on as it is
      have hsame : accepted = response := by
        unfold Response.accept at haccept
        split at haccept <;> cases haccept
        rfl
      subst hsame
      rw [haccept] at h
      dsimp only at h ⊢
      split at h
      · cases h
      · rename_i q hq
        exact ⟨accepted, q, rfl, hq, rfl⟩

private theorem pollCall_ok {call : Call}
    (h : (p.pollCall c call payload).result? = some (.ok n)) :
    ∃ transport response q, p.transport.poll call = (transport, .finished (.ok response)) ∧
      ({ p with transport } : Page).applyResponse c response.body ⟨payload.encode⟩ = .ok q ∧
      p.pollCall c call payload = .ended q (.ok payload.size) := by
  unfold pollCall at h ⊢
  split at h
  · cases h
  · rename_i transport outcome hpoll
    obtain ⟨response, q, rfl, hq, hended⟩ := receive_ok h
    exact ⟨transport, response, q, hpoll, hq, hended⟩

/-- A poll with success swaps the response in and goes to the settle delay. -/
theorem poll_succeeds {pipe : Pipeline} (hpipe : p.pipelines[s]? = some pipe)
    (h : p.verdict s = some (.ok n)) :
    ∃ payload response transport q, Succeeds p s pipe.owner payload response transport q := by
  obtain ⟨owner, stage, aborted⟩ := pipe
  unfold verdict at h
  rw [hpipe] at h
  cases aborted with
  | true => cases h
  | false =>
    simp only [Bool.false_eq_true, if_false] at h
    cases stage with
    | settling | finished => cases h
    | accepted f read =>
      cases read with
      | error e => cases h
      | ok payload =>
        dsimp only [firstExchange] at h
        cases hrequest : p.requestOf f payload with
        | error e =>
          rw [hrequest] at h
          cases h
        | ok request =>
          rw [hrequest] at h
          obtain ⟨transport, response, q, hpoll, hq, hended⟩ := pollCall_ok h
          refine ⟨payload, response, transport, q, ⟨_, hpipe, rfl, rfl, rfl⟩, ?_, ?_, hq, ?_⟩
          · simp [payloadOf, hpipe, Stage.payload?, Except.toOption]
          · simp [outcomeOf, callOf, hpipe, hrequest, hpoll, Except.toOption]
          · simp [poll, hpipe, firstExchange, hrequest, hended, Exchange.resume]
    | awaiting call payload =>
      obtain ⟨transport, response, q, hpoll, hq, hended⟩ := pollCall_ok h
      refine ⟨payload, response, transport, q, ⟨_, hpipe, rfl, rfl, rfl⟩, ?_, ?_, hq, ?_⟩
      · simp [payloadOf, hpipe, Stage.payload?]
      · simp [outcomeOf, callOf, hpipe, hpoll]
      · simp [poll, hpipe, hended, Exchange.resume]

end Success

/-! ## At most one verdict -/

/-- `p.Reached s rank`: the stage of `s` has at least this rank. -/
def Reached (p : Page) (s : PipelineId) (rank : Nat) : Prop :=
  ∃ pipe, p.pipelines[s]? = some pipe ∧ rank ≤ pipe.stage.rank

section Verdict

variable {p q : Page} {s : PipelineId} {result : Except SubmitError Nat}

theorem Reached.course {S : Kind → Prop} {rank : Nat} (h : p.Reached s rank)
    (hpq : Course S p q) : q.Reached s rank := by
  obtain ⟨pipe, hpipe, hrank⟩ := h
  obtain ⟨pipe', hpipe', honward⟩ := hpq.pipelineKept s pipe hpipe
  exact ⟨pipe', hpipe', Nat.le_trans hrank honward.rank⟩

/-- A pipeline that settles or has ended has no verdict. -/
theorem Reached.verdict (h : p.Reached s 2) : p.verdict s = none := by
  obtain ⟨pipe, hpipe, hrank⟩ := h
  unfold Page.verdict
  rw [hpipe]
  dsimp only
  split
  · rfl
  · cases hs : pipe.stage with
    | accepted | awaiting =>
      rw [hs] at hrank
      simp [Stage.rank] at hrank
    | settling | finished => rfl

/-- A pipeline that settles or has ended has no payload. -/
theorem Reached.payloadOf (h : p.Reached s 2) : p.payloadOf s = none := by
  obtain ⟨pipe, hpipe, hrank⟩ := h
  refine Option.eq_none_iff_forall_ne_some.mpr fun payload hpayload => ?_
  obtain ⟨pipe', hpipe', hstage⟩ := Option.bind_eq_some_iff.mp hpayload
  rw [hpipe] at hpipe'
  cases hpipe'
  have hle := Stage.rank_of_payload? hstage
  omega

/-- A pipeline with a verdict is `Exchanging`. -/
theorem exchanging_of_verdict {pipe : Pipeline} (hpipe : p.pipelines[s]? = some pipe)
    (h : p.verdict s = some result) : p.Exchanging pipe.owner s := by
  obtain ⟨owner, stage, aborted⟩ := pipe
  unfold Page.verdict at h
  rw [hpipe] at h
  cases aborted with
  | true => cases h
  | false =>
    cases stage with
    | settling | finished => cases h
    | accepted | awaiting => exact ⟨_, hpipe, rfl, rfl, rfl⟩

private theorem resume_rank {c : ComponentId} {x : Exchange} (hx : x.result? = some result)
    {pipe' : Pipeline} (h : (x.resume s c).pipelines[s]? = some pipe') :
    2 ≤ pipe'.stage.rank := by
  cases x with
  | waiting => cases hx
  | ended => exact settle_rank h

/-- After its verdict a pipeline settles or has ended. -/
theorem poll_reached (h : p.verdict s = some result) : (p.poll s).Reached s 2 := by
  unfold Page.verdict at h
  cases hpipe : p.pipelines[s]? with
  | none =>
    rw [hpipe] at h
    cases h
  | some pipe =>
    obtain ⟨pipe', hpipe', -⟩ := (poll_course hpipe).pipelineKept s pipe hpipe
    refine ⟨pipe', hpipe', ?_⟩
    rw [hpipe] at h
    unfold poll at hpipe'
    rw [hpipe] at hpipe'
    dsimp only at h hpipe'
    cases ha : pipe.aborted with
    | true =>
      rw [ha] at h
      cases h
    | false =>
      rw [ha] at h hpipe'
      simp only [Bool.false_eq_true, if_false] at h hpipe'
      cases hs : pipe.stage with
      | accepted f payload =>
        rw [hs] at h hpipe'
        exact resume_rank h hpipe'
      | awaiting call payload =>
        rw [hs] at h hpipe'
        exact resume_rank h hpipe'
      | settling | finished =>
        rw [hs] at h
        cases h

end Verdict

/-! ## Requests of a poll -/

/-- `p.requestFor f payload` is the request of a payload, if it can be built. -/
def requestFor (p : Page) (f : FormId) : Except SubmitError Payload → List FormRequest
  | .error _ => []
  | .ok payload => (p.requestOf f payload).toOption.toList

/-- `p.toSend s` is what `s` sends in its next poll: nothing unless it was never polled and not
aborted. -/
def toSend (p : Page) (s : PipelineId) : List FormRequest :=
  match p.pipelines[s]? with
  | some { stage := .accepted f payload, aborted := false, .. } => p.requestFor f payload
  | _ => []

/-- `p.CallsSent`: a pipeline that is pending on its response has sent its request. -/
def CallsSent (p : Page) : Prop :=
  ∀ (s : PipelineId) (pipe : Pipeline) (call : Call) (payload : Payload),
    p.pipelines[s]? = some pipe → pipe.stage = .awaiting call payload →
      ∃ reply, call = .awaiting reply

section Sent

variable {p q : Page} {s : PipelineId} {c : ComponentId}

theorem Move.callsSent {kind : Kind} (move : Move kind p q) (h : p.CallsSent) :
    q.CallsSent := by
  intro s pipe' call payload hpipe' hstage
  rcases move.stage_cases hpipe' with ⟨pipe, hpipe, hsame⟩ | ⟨_, _, _, _, -, -, hnew⟩ |
    ⟨reply, _, hawaits⟩ | hrank
  · exact h s pipe call payload hpipe (hsame.symm.trans hstage)
  · cases hstage.symm.trans hnew
  · cases hstage.symm.trans hawaits
    exact ⟨reply, rfl⟩
  · simp [hstage, Stage.rank] at hrank

theorem Visited.callsSent (h : p.Visited) : p.CallsSent :=
  h.keeps (fun s pipe _ _ hpipe => by cases hpipe) fun _ _ _ move => move.callsSent

theorem Settled.transport (h : Settled p s c q) : q.transport = p.transport := by
  cases h <;> rfl

private theorem conclude_transport (result : Except SubmitError Nat) :
    (p.conclude s c result).transport = p.transport :=
  (settle_settled (p.note (resultNotice result)) s c _).transport

private theorem receive_transport (hs : p.Exchanging c s) (payload : Payload) (outcome : Outcome) :
    ((p.receive c payload outcome).resume s c).transport = p.transport := by
  unfold receive
  split
  · exact conclude_transport _
  · split
    · exact conclude_transport _
    · split
      · exact conclude_transport _
      · rename_i hq
        exact (conclude_transport _).trans (applyResponse_course hs hq).transport_eq

private theorem pollCall_transport (hs : p.Exchanging c s) (call : Call) (payload : Payload) :
    ((p.pollCall c call payload).resume s c).transport = (p.transport.poll call).1 := by
  unfold pollCall
  split
  · rename_i hpoll
    rw [hpoll]
    rfl
  · rename_i transport outcome hpoll
    rw [hpoll]
    exact receive_transport (p := { p with transport }) hs payload outcome

/-- `poll` logs `toSend`. -/
theorem poll_requests (h : p.CallsSent) (s : PipelineId) :
    (p.poll s).transport.requests = p.transport.requests ++ p.toSend s := by
  unfold poll toSend
  cases hpipe : p.pipelines[s]? with
  | none => simp
  | some pipe =>
    obtain ⟨owner, stage, aborted⟩ := pipe
    cases aborted with
    | true =>
      simp only [if_true, dropAborted]
      cases stage <;> simp [setStage, modifyPipeline]
    | false =>
      simp only [Bool.false_eq_true, if_false]
      cases stage with
      | accepted f payload =>
        have hs : p.Exchanging owner s := ⟨_, hpipe, rfl, rfl, rfl⟩
        simp only [firstExchange, requestFor]
        cases payload with
        | error e => simp [Exchange.resume, conclude_transport]
        | ok payload =>
          dsimp only
          cases hrequest : p.requestOf f payload with
          | error e => simp [Exchange.resume, conclude_transport, Except.toOption]
          | ok request =>
            dsimp only
            rw [pollCall_transport hs, MockTransport.requests_unsent]
            simp [Except.toOption]
      | awaiting call payload =>
        have hs : p.Exchanging owner s := ⟨_, hpipe, rfl, rfl, rfl⟩
        -- its request was sent in an earlier poll
        obtain ⟨reply, rfl⟩ := h s _ call payload hpipe rfl
        dsimp only
        rw [pollCall_transport hs]
        simp [MockTransport.poll]
      | settling sleep => simp [(settle_settled p s owner sleep).transport]
      | finished => simp

/-- A pipeline that was polled has nothing to send. -/
theorem Reached.toSend (h : p.Reached s 1) : p.toSend s = [] := by
  obtain ⟨⟨owner, stage, aborted⟩, hpipe, hrank⟩ := h
  unfold Page.toSend
  rw [hpipe]
  cases stage with
  | accepted => simp [Stage.rank] at hrank
  | awaiting | settling | finished => rfl

end Sent

end FormSwap.Page
