import FormSwap.Proofs.Failure

/-!
# One request for each accepted submit

The request log of the transport only grows. `Event.sends` is what an event adds to it: nothing,
unless the event is the first poll of a pipeline. So a pipeline sends at most once, and a component
sends at most as often as it has accepted a submit.

Main results:

- `effect_requests`: an event logs what `Event.sends` lists
- `Along.accepted`: a new pipeline does not change before its first poll, except that it is aborted
  when its component is detached
- `sentBy_le_starts`: a component sends at most as many requests as it has accepted submits
- `one_request_per_submit`: an ignored submit sends nothing, an accepted one sends once
-/

namespace FormSwap.Page

/-! ## Events and their requests -/

namespace Event

/-- `e.isDisconnect c`: the event detaches `c`. -/
def isDisconnect (c : ComponentId) : Event → Bool
  | .disconnect d => d == c
  | _ => false

theorem isDisconnect_iff {c : ComponentId} {e : Event} :
    e.isDisconnect c = true ↔ e = .disconnect c := by
  cases e <;> simp [isDisconnect]

/-- `e.endsRun`: the event is the end of a run. -/
def endsRun : Event → Bool
  | .done .run => true
  | _ => false

/-- `e.sends p` lists the requests that the event sends on `p`. -/
def sends (p : Page) : Event → List FormRequest
  | .poll s => p.toSend s
  | _ => []

end Event

/-- `m.sent` lists the requests that the event of `m` adds to the log. -/
def Moment.sent (m : Moment) : List FormRequest :=
  (m.event.effect m.page).transport.requests.drop m.page.transport.requests.length

/-- `sentIn s l` lists the requests that the pipeline `s` sends in a run. -/
def sentIn (s : PipelineId) (l : List Moment) : List FormRequest :=
  (l.filter (·.event.isPoll s)).flatMap Moment.sent

/-- `sentBy c l` lists the requests that the component `c` sends in a run. -/
def sentBy (c : ComponentId) (l : List Moment) : List FormRequest :=
  (l.filter fun m => m.event.actor m.page == some c).flatMap Moment.sent

/-- `abortedIn c s l`: `c` is detached before the first poll of `s`. -/
def abortedIn (c : ComponentId) (s : PipelineId) (l : List Moment) : Bool :=
  (l.takeWhile fun m => !m.event.isPoll s).any (·.event.isDisconnect c)

section Log

variable {p q : Page} {l l' : List Moment} {m : Moment} {c : ComponentId} {s : PipelineId}

/-- No move removes a request from the log. -/
theorem Move.requests_prefix {kind : Kind} (move : Move kind p q) :
    p.transport.requests <+: q.transport.requests := by
  cases move with
  | tree e =>
    obtain ⟨_, _, _, rfl⟩ := e.kept.only
    exact List.prefix_rfl
  | ask _ call => exact p.transport.requests_poll call
  | other _ _ _ _ _ _ hlog => exact hlog
  | _ => exact List.prefix_rfl

theorem Course.requests_prefix {S : Kind → Prop} (h : Course S p q) :
    p.transport.requests <+: q.transport.requests :=
  h.keeps (I := fun r => p.transport.requests <+: r.transport.requests)
    (fun _ _ _ _ move ih => ih.trans move.requests_prefix) List.prefix_rfl

private theorem handleSubmit_transport (p : Page) (c : ComponentId) (e : SubmitEvent) :
    (p.handleSubmit c e).1.transport = p.transport := by
  have h := (handleSubmit_handled p c e).2
  generalize p.handleSubmit c e = answer at h ⊢
  obtain ⟨q, e', d⟩ := answer
  cases h <;> rfl

private theorem attach_kept (hq : p.attach c = .ok q) :
    q.transport = p.transport ∧ q.pipelines = p.pipelines := by
  refine (attach_course hq).keeps
    (I := fun r => r.transport = p.transport ∧ r.pipelines = p.pipelines)
    (fun kind r r' hkind move ih => ?_) ⟨rfl, rfl⟩
  cases move with
  | bind | rebind | note => exact ih
  | _ => rcases hkind with hbind | hnote <;> contradiction

private theorem disconnect_transport (p : Page) (c : ComponentId) :
    (p.disconnect c).transport = p.transport := by
  cases hk : p.component? c with
  | none => rw [disconnect_of_none hk]
  | some k =>
    obtain ⟨notices, heq⟩ := disconnect_eq hk
    rw [heq]

/-- An event logs what `sends` lists. -/
theorem effect_requests (h : p.CallsSent) (e : Event) :
    (e.effect p).transport.requests = p.transport.requests ++ e.sends p := by
  cases e with
  | attach d =>
    simp only [Event.effect, Event.sends, List.append_nil]
    split
    · rename_i hq
      rw [(attach_kept hq).1]
    · rfl
  | handle d e => simp [Event.effect, Event.sends, handleSubmit_transport]
  | disconnect d => simp [Event.effect, Event.sends, disconnect_transport]
  | poll t => exact poll_requests h t
  | detached | done => simp [Event.effect, Event.sends]

theorem Moment.sent_eq (h : m.page.Visited) : m.sent = m.event.sends m.page := by
  unfold Moment.sent
  rw [effect_requests h.callsSent, List.drop_left]

theorem sentIn_append : sentIn s (l ++ l') = sentIn s l ++ sentIn s l' := by
  simp [sentIn]

theorem sentIn_cons (hm : m.event = .poll s) : sentIn s (m :: l) = m.sent ++ sentIn s l := by
  simp [sentIn, hm, Event.isPoll]

/-- A pipeline sends nothing in a run in which `toSend` is empty at each of its polls. -/
theorem sentIn_eq_nil (hl : ∀ n ∈ l, n.page.Visited)
    (hnone : ∀ n ∈ l, n.event = .poll s → n.page.toSend s = []) : sentIn s l = [] := by
  unfold sentIn
  refine List.flatMap_eq_nil_iff.mpr fun n hn => ?_
  obtain ⟨hmem, hpolled⟩ := List.mem_filter.mp hn
  have he := Event.isPoll_iff.mp hpolled
  rw [Moment.sent_eq (hl n hmem), he]
  exact hnone n hmem he

end Log

/-! ## Before the first poll -/

section Waiting

variable {p q : Page} {l : List Moment} {c : ComponentId} {s : PipelineId} {pipe : Pipeline}

/-- Moves outside the components preserve the pipelines. -/
theorem Course.pipelines_of_outside (h : Course Outside p q) :
    q.pipelines = p.pipelines := by
  refine h.keeps (I := fun r => r.pipelines = p.pipelines)
    (fun kind r r' hkind move ih => ?_) rfl
  cases move with
  | tree e =>
    obtain ⟨_, _, _, rfl⟩ := e.kept.only
    exact ih
  | mark | create | drop | clear | wake | advance | pollSleep | dropSleep | fault | mend | note
  | other => exact ih
  | bind | unbind | rebind | replace | adopt | disconnect | start | refuse | ask | await | sleep
  | finish | finishGone | dropAborted => exact hkind.elim

/-- `handleSubmit` adds a pipeline exactly if it accepts the submit. -/
theorem Handled.pipelines {e : SubmitEvent} {d : Disposition} (h : Handled p c e q d) :
    d = .ignored ∧ q.pipelines = p.pipelines ∨
    d = .started ∧ ∃ f payload,
      q.pipelines = p.pipelines ++ [{ owner := c, stage := .accepted f payload }] := by
  cases h with
  | gone | busy | unattached | refused => exact .inl ⟨rfl, rfl⟩
  | started => exact .inr ⟨rfl, _, _, rfl⟩

/-- `disconnect` aborts the live pipeline of its component, and no other one. -/
theorem disconnect_pipeline (hp : p.InStep) (hpipe : p.pipelines[s]? = some pipe)
    (hopen : pipe.isOpen = true) (d : ComponentId) :
    (p.disconnect d).pipelines[s]? =
      some { pipe with aborted := pipe.aborted || d == pipe.owner } := by
  -- a pipeline other than the live one was aborted before, or has another owner
  have hrest (hnot : ¬ p.LiveAt d s) : (pipe.aborted || d == pipe.owner) = pipe.aborted := by
    cases ha : pipe.aborted with
    | true => rfl
    | false =>
      refine Bool.eq_false_iff.mpr fun hd => hnot ⟨pipe, hpipe, (eq_of_beq hd).symm, ?_⟩
      simp [Pipeline.isLive, hopen, ha]
  cases hk : p.component? d with
  | none =>
    have hgone : ¬ p.LiveAt d s := by
      rintro ⟨pipe', hpipe', rfl, hlive⟩
      have hsome := hp.owned s pipe' hpipe' (Pipeline.isLive_iff.mp hlive).1
      rw [hk] at hsome
      cases hsome
    rw [disconnect_of_none hk, hpipe, hrest hgone]
  | some k =>
    obtain ⟨notices, heq⟩ := disconnect_eq hk
    rw [heq]
    show (p.pipelinesAborting k.inFlight)[s]? = _
    by_cases hf : k.inFlight = some s
    · obtain ⟨pipe', hpipe', hown, -⟩ := (hp.flight d k hk s).mp hf
      rw [hpipe] at hpipe'
      cases hpipe'
      rw [hf]
      simp [pipelinesAborting, hpipe, hown, Pipeline.abort]
    · rw [hrest (fun hlive => hf ((hp.flight d k hk s).mpr hlive))]
      cases ht : k.inFlight with
      | none => exact hpipe
      | some t =>
        have hts : t ≠ s := by
          rintro rfl
          exact hf ht
        simp only [pipelinesAborting]
        rw [List.getElem?_modify_ne _ _ hts]
        exact hpipe

/-- An event other than its poll aborts an open pipeline exactly if it detaches the component, and
does not change it otherwise. -/
theorem effect_accepted (hp : p.InStep) (hpipe : p.pipelines[s]? = some pipe)
    (hopen : pipe.isOpen = true) {e : Event} (he : e.isPoll s = false) :
    (e.effect p).pipelines[s]? =
      some { pipe with aborted := pipe.aborted || e.isDisconnect pipe.owner } := by
  have hkept {q : Page} (hq : q.pipelines[s]? = p.pipelines[s]?) : q.pipelines[s]? =
      some { pipe with aborted := pipe.aborted || false } := by
    rw [hq, hpipe, Bool.or_false]
  cases e with
  | attach d =>
    simp only [Event.effect]
    split
    · rename_i hq
      exact hkept (by rw [(attach_kept hq).2])
    · exact hkept rfl
  | handle d e =>
    -- a new pipeline is appended
    refine hkept ?_
    rcases (handleSubmit_handled p d e).2.pipelines with ⟨-, hsame⟩ | ⟨-, f, payload, hnew⟩
    · exact congrArg (·[s]?) hsame
    · simp only [Event.effect]
      rw [hnew, List.getElem?_append_left (List.getElem?_eq_some_iff.mp hpipe).1]
  | disconnect d => exact disconnect_pipeline hp hpipe hopen d
  | poll t =>
    have hts : s ≠ t := Ne.symm (by simpa [Event.isPoll] using he)
    exact hkept ((poll_polledAt p t).others s hts)
  | detached | done => exact hkept rfl

/-- A run without its poll aborts an open pipeline exactly if it detaches the component, and does
not change it otherwise. -/
theorem Along.accepted (h : Along p l q) (hl : ∀ n ∈ l, n.page.InStep)
    (hnone : ∀ n ∈ l, n.event.isPoll s = false) (hpipe : p.pipelines[s]? = some pipe)
    (hopen : pipe.isOpen = true) :
    q.pipelines[s]? =
      some { pipe with aborted := pipe.aborted || l.any (·.event.isDisconnect pipe.owner) } := by
  induction h generalizing pipe with
  | nil h =>
    rw [h.pipelines_of_outside, hpipe]
    simp
  | @cons _ _ m rest h _ ih =>
    have hpipe' : m.page.pipelines[s]? = some pipe := by rw [h.pipelines_of_outside, hpipe]
    have hstep := effect_accepted (hl m (by simp)) hpipe' hopen (hnone m (by simp))
    rw [ih (fun n hn => hl n (by simp [hn])) (fun n hn => hnone n (by simp [hn])) hstep hopen]
    simp [Bool.or_assoc]

/-- A run in which a new pipeline is polled has a first poll of it. -/
theorem Along.first_poll (h : Along p l q) (hl : ∀ n ∈ l, n.page.InStep)
    (hpipe : p.pipelines[s]? = some pipe) (hnew : pipe.stage.rank = 0) (hq : q.Reached s 1) :
    ∃ m rest, l = l.takeWhile (fun n => !n.event.isPoll s) ++ m :: rest ∧ m.event = .poll s ∧
      m.page.pipelines[s]? =
        some { pipe with aborted := pipe.aborted || abortedIn pipe.owner s l } := by
  have hopen : pipe.isOpen = true := by
    unfold Pipeline.isOpen
    cases hs : pipe.stage <;> simp_all [Stage.rank]
  have hbefore : ∀ n ∈ l.takeWhile (fun n => !n.event.isPoll s), n.event.isPoll s = false :=
    fun n hn => by simpa using List.all_eq_true.mp List.all_takeWhile n hn
  have hsplit := List.takeWhile_append_dropWhile (p := fun n => !n.event.isPoll s) (l := l)
  cases hrest : l.dropWhile (fun n => !n.event.isPoll s) with
  | nil =>
    -- without a poll it would still be new
    rw [hrest, List.append_nil] at hsplit
    rw [hsplit] at hbefore
    have hwaits := h.accepted hl hbefore hpipe hopen
    obtain ⟨pipe', hpipe', hrank⟩ := hq
    rw [hwaits] at hpipe'
    cases hpipe'
    rw [show Stage.rank _ = 0 from hnew] at hrank
    cases hrank
  | cons m rest =>
    rw [hrest] at hsplit
    have hpolled : m.event.isPoll s = true := by
      have hhead := List.head?_dropWhile_not (fun n => !n.event.isPoll s) l
      rw [hrest] at hhead
      simpa using hhead
    refine ⟨m, rest, hsplit.symm, Event.isPoll_iff.mp hpolled, ?_⟩
    rw [← hsplit] at h hl
    exact h.split.1.accepted (fun n hn => hl n (List.mem_append_left _ hn)) hbefore hpipe hopen

end Waiting

/-! ## Counting requests -/

/-- `p.waiting c` is the number of pipelines of `c` that were never polled. -/
def waiting (p : Page) (c : ComponentId) : Nat :=
  p.pipelines.countP fun pipe => pipe.owner == c && pipe.stage.rank == 0

section Counting

variable {p q : Page} {l : List Moment} {c : ComponentId} {s : PipelineId} {pipe : Pipeline}

private theorem waiting_of_same (h : q.pipelines = p.pipelines) :
    q.waiting c = p.waiting c := by
  unfold waiting
  rw [h]

private theorem length_toSend_le (p : Page) (s : PipelineId) : (p.toSend s).length ≤ 1 := by
  unfold toSend
  split
  · unfold requestFor
    split
    · simp
    · exact Option.length_toList_le
  · simp

/-- `poll` sends at most one request for each pipeline that it takes from `waiting`. -/
theorem poll_balance (hpipe : p.pipelines[s]? = some pipe) (c : ComponentId) :
    (if pipe.owner == c then (p.toSend s).length else 0) + (p.poll s).waiting c ≤
      p.waiting c := by
  obtain ⟨pipe', hpipe', -⟩ := (poll_course hpipe).pipelineKept s pipe hpipe
  have hlt : s < p.pipelines.length := (List.getElem?_eq_some_iff.mp hpipe).1
  -- the poll replaces one pipeline in the list
  have hset : (p.poll s).pipelines = p.pipelines.set s pipe' := by
    refine List.ext_getElem? fun t => ?_
    by_cases hts : t = s
    · subst hts
      rw [hpipe', List.getElem?_set_self hlt]
    · rw [(poll_polledAt p s).others t hts, List.getElem?_set_ne (Ne.symm hts)]
  have hthere : p.pipelines[s] = pipe := (List.getElem?_eq_some_iff.mp hpipe).2
  have hnow : pipe'.stage.rank ≠ 0 := Nat.ne_of_gt (poll_rank hpipe')
  unfold waiting
  rw [hset, List.countP_set hlt, hthere]
  simp only [hnow, beq_iff_eq, Bool.and_eq_true, and_false, if_false, Nat.add_zero]
  by_cases howed : pipe.owner = c ∧ pipe.stage.rank = 0
  · -- the polled pipeline is counted in `waiting`
    have hpos : 0 < p.pipelines.countP fun pipe => pipe.owner == c && pipe.stage.rank == 0 :=
      List.countP_pos_iff.mpr ⟨pipe, List.mem_of_getElem? hpipe, by simp [howed]⟩
    have hone := length_toSend_le p s
    rw [if_pos howed.1, if_pos howed]
    omega
  · rw [if_neg howed]
    split
    · -- a pipeline that is not new has nothing to send
      rename_i hown
      have hpast : p.Reached s 1 :=
        ⟨pipe, hpipe, Nat.one_le_iff_ne_zero.mpr fun hrank => howed ⟨hown, hrank⟩⟩
      rw [hpast.toSend]
      simp
    · simp

private theorem countP_modify {α : Type} {P : α → Bool} {f : α → α} (hf : ∀ a, P (f a) = P a)
    (l : List α) (i : Nat) : (l.modify i f).countP P = l.countP P := by
  induction l generalizing i with
  | nil => simp
  | cons a rest ih => cases i <;> simp [List.countP_cons, hf, ih]

private theorem disconnect_waiting (p : Page) (d : ComponentId) :
    (p.disconnect d).waiting c = p.waiting c := by
  cases hk : p.component? d with
  | none => rw [disconnect_of_none hk]
  | some k =>
    obtain ⟨notices, heq⟩ := disconnect_eq hk
    rw [heq]
    cases hf : k.inFlight with
    | none => exact waiting_of_same rfl
    | some t =>
      unfold waiting pipelinesAborting
      exact countP_modify (f := Pipeline.abort) (fun _ => rfl) _ _

/-- An event sends at most one request for each pipeline that it takes from `waiting` or starts. -/
theorem Moment.balance (m : Moment) (c : ComponentId) :
    (if m.event.actor m.page == some c then (m.event.sends m.page).length else 0) +
        (m.event.effect m.page).waiting c ≤
      m.page.waiting c + if m.starts c then 1 else 0 := by
  obtain ⟨p, e⟩ := m
  have hnothing {q : Page} (hq : q.waiting c = p.waiting c) (n : Nat) :
      (if e.actor p == some c then ([] : List FormRequest).length else 0) + q.waiting c ≤
        p.waiting c + n := by
    rw [hq]
    simp
  cases e with
  | attach d =>
    simp only [Event.effect]
    cases hq : p.attach d with
    | ok q => exact hnothing (waiting_of_same (attach_kept hq).2) _
    | error e => exact hnothing rfl _
  | handle d e =>
    rcases (handleSubmit_handled p d e).2.pipelines with ⟨-, hsame⟩ | ⟨hd, f, payload, hnew⟩
    · exact hnothing (waiting_of_same hsame) _
    · have hstarts : Moment.starts c ⟨p, .handle d e⟩ = (d == c) := by
        simp [Moment.starts, hd]
      have hwaiting : (Event.effect p (.handle d e)).waiting c =
          p.waiting c + if d == c then 1 else 0 := by
        unfold waiting
        rw [show (Event.effect p (.handle d e)).pipelines = _ from hnew, List.countP_append]
        simp [Stage.rank, List.countP_cons]
      rw [hstarts, hwaiting]
      simp [Event.sends]
  | disconnect d => exact hnothing (disconnect_waiting p d) _
  | poll t =>
    cases hpipe : p.pipelines[t]? with
    | none =>
      simp [Event.actor, Event.effect, hpipe, poll_of_none hpipe]
    | some pipe =>
      refine Nat.le_trans ?_ (Nat.le_add_right _ _)
      simpa [Event.actor, Event.sends, Event.effect, hpipe] using poll_balance hpipe c
  | detached | done => exact hnothing rfl _

/-- A run sends at most one request for each pipeline that it takes from `waiting` or starts. -/
theorem Along.balance (h : Along p l q) (hl : ∀ n ∈ l, n.page.Visited) :
    (sentBy c l).length + q.waiting c ≤ p.waiting c + l.countP (·.starts c) := by
  induction h with
  | nil h => simp [sentBy, waiting_of_same h.pipelines_of_outside]
  | @cons p _ m rest h _ ih =>
    have hstep := m.balance c
    have hrest := ih fun n hn => hl n (List.mem_cons_of_mem _ hn)
    have hsent : (sentBy c (m :: rest)).length =
        (if m.event.actor m.page == some c then (m.event.sends m.page).length else 0) +
          (sentBy c rest).length := by
      rw [← Moment.sent_eq (hl m (by simp))]
      unfold sentBy
      rw [List.filter_cons]
      split <;> simp
    rw [hsent, List.countP_cons, ← waiting_of_same h.pipelines_of_outside]
    omega

end Counting

/-- At every moment of a run, a component has sent at most as many requests as it has accepted
submits. -/
theorem sentBy_le_starts {actions : List Action} {l l' : List Moment}
    (hrun : trace {} actions = l ++ l') (c : ComponentId) :
    (sentBy c l).length ≤ l.countP (·.starts c) := by
  have hvisited : ∀ n ∈ l, n.page.Visited := fun n hn =>
    visited_of_mem (hrun ▸ List.mem_append_left _ hn)
  have halong := trace_along {} actions
  rw [hrun] at halong
  have hbalance {q : Page} (h : Along {} l q) :
      (sentBy c l).length ≤ l.countP (·.starts c) := by
    have hl := h.balance (c := c) hvisited
    rw [show ({} : Page).waiting c = 0 from rfl] at hl
    omega
  -- the trace may be cut anywhere, also within an action
  cases l' with
  | nil =>
    rw [List.append_nil] at halong
    exact hbalance halong
  | cons m rest => exact hbalance halong.split.1

/-! ## Submits and their requests -/

section Submits

variable {p : Page} {c : ComponentId} {s : PipelineId} {m r : Moment}
variable {before between later : List Moment} {actions : List Action}

/-- `handleSubmit` ignores a submit exactly if the component has a live pipeline, has no listener,
or `spawn` fails. -/
theorem handleSubmit_ignored_iff (hp : p.InStep) (hforms : p.FormsInOrder) (e : SubmitEvent) :
    (p.handleSubmit c e).2.2 = .ignored ↔ ∀ k, p.component? c = some k →
      (∃ t, p.LiveAt c t) ∨ k.listener = none ∨ p.fails .spawn = true := by
  have hlistener {k : Component} (hk : p.component? c = some k) :
      k.listener = none ↔ k.form = none := by
    have hpaired := hforms.paired c k hk
    rw [← Option.isNone_iff_eq_none, ← Option.isNone_iff_eq_none, ← Option.not_isSome,
      ← Option.not_isSome, hpaired]
  have h := (handleSubmit_handled p c e).2
  generalize p.handleSubmit c e = answer at h ⊢
  obtain ⟨q, e', d⟩ := answer
  cases h with
  | gone hnone => simp [hnone]
  | @busy k hk hs =>
    obtain ⟨t, ht⟩ := Option.isSome_iff_exists.mp ((hp.busy c k hk).mp hs)
    exact iff_of_true rfl fun _ _ => .inl ⟨t, (hp.flight c k hk t).mp ht⟩
  | @unattached k hk _ hf =>
    refine iff_of_true rfl fun k' hk' => .inr (.inl ?_)
    rw [hk] at hk'
    cases hk'
    exact (hlistener hk).mpr hf
  | refused _ _ _ hs => exact iff_of_true rfl fun _ _ => .inr (.inr hs)
  | @started k f hk hi hf hs =>
    refine iff_of_false nofun fun hreasons => ?_
    rcases hreasons k hk with ⟨t, hlive⟩ | hl | hrefused
    · exact hp.not_live_of_idle hk hi t hlive
    · rw [(hlistener hk).mp hl] at hf
      cases hf
    · rw [hs] at hrefused
      cases hrefused

/-- Every pipeline was polled at the end of a run. -/
theorem reached_of_run (hr : r ∈ trace {} actions) (hdone : r.event = .done .run)
    {pipe : Pipeline} (hpipe : r.page.pipelines[s]? = some pipe) : r.page.Reached s 1 := by
  obtain ⟨earlier, hpage⟩ := done_of_mem hr hdone
  refine ⟨pipe, hpipe, ?_⟩
  rw [hpage] at hpipe
  have hdue := perform_run_due (Reachable.dueQueued ⟨earlier, rfl⟩) hpipe
  unfold Pipeline.isDue Pipeline.isOpen at hdue
  cases hs : pipe.stage with
  | accepted =>
    rw [hs] at hdue
    simp [Stage.rank] at hdue
  | awaiting | settling | finished => simp [Stage.rank]

/-- `requestFor` is preserved along a course. -/
private theorem Course.requestFor {S : Kind → Prop} {q : Page} (h : Course S p q) {f : FormId}
    (hf : f < p.forms.length) (payload : Except SubmitError Payload) :
    q.requestFor f payload = p.requestFor f payload := by
  unfold Page.requestFor
  cases payload with
  | error e => rfl
  | ok payload =>
    dsimp only
    rw [h.requestOf hf payload]

/-- A pipeline sends the request of its submit in its first poll, and nothing after that. -/
theorem Along.sentIn {q q' : Page} {l : List Moment} {f : FormId}
    {payload : Except SubmitError Payload} (h : Along q l q')
    (hl : ∀ n ∈ l, n.page.Visited)
    (hpipe : q.pipelines[s]? = some { owner := c, stage := .accepted f payload })
    (hf : f < q.forms.length) (hq' : q'.Reached s 1) :
    Page.sentIn s l = (if abortedIn c s l then [] else q.requestFor f payload) ∧
      ∀ request ∈ Page.sentIn s l, request ∈ q'.transport.requests := by
  obtain ⟨x, rest, hsplit, hx, hxsub⟩ := h.first_poll (fun n hn => (hl n hn).inStep) hpipe rfl hq'
  have hbefore : ∀ n ∈ l.takeWhile (fun n => !n.event.isPoll s), n.event ≠ .poll s := by
    intro n hn hpolled
    have hnot := List.all_eq_true.mp List.all_takeWhile n hn
    simp [hpolled, Event.isPoll] at hnot
  -- cut the run at the first poll: nothing is sent before it, and nothing after it
  generalize hcalled : abortedIn c s l = called at hxsub ⊢
  generalize l.takeWhile (fun n => !n.event.isPoll s) = first at hsplit hbefore
  subst hsplit
  obtain ⟨hfirst, hrest⟩ := h.split
  have hx_visited := hl x (by simp)
  have hx_reached : (x.event.effect x.page).Reached s 1 := by
    obtain ⟨pipe', hpipe', -⟩ := (effect_course x.page x.event).pipelineKept s _ hxsub
    rw [hx] at hpipe' ⊢
    exact ⟨pipe', hpipe', poll_rank hpipe'⟩
  have hsent : Page.sentIn s (first ++ x :: rest) = x.page.toSend s := by
    rw [sentIn_append, sentIn_cons hx, Moment.sent_eq hx_visited, hx,
      sentIn_eq_nil (l := first) (fun n hn => hl n (by simp [hn]))
        (fun n hn hpolled => absurd hpolled (hbefore n hn)),
      sentIn_eq_nil (l := rest) (fun n hn => hl n (by simp [hn]))
        (fun n hn _ => (hx_reached.course (hrest.course_of_mem hn)).toSend)]
    simp [Event.sends]
  rw [hsent]
  refine ⟨?_, fun request hrequest => ?_⟩
  · unfold toSend
    rw [hxsub, ← hfirst.course.requestFor hf payload]
    cases called <;> rfl
  · refine hrest.course.requests_prefix.subset ?_
    rw [effect_requests hx_visited.callsSent, hx]
    exact List.mem_append_right _ hrequest

/-- An accepted submit sends its request once, by the end of the next run, unless the component is
detached first or the request cannot be built. -/
theorem started_sends {e : SubmitEvent} {k : Component} {f : FormId}
    (hrun : trace {} actions = before ++ m :: (between ++ r :: later))
    (hm : m.event = .handle c e) (hstarted : (m.page.handleSubmit c e).2.2 = .started)
    (hk : m.page.component? c = some k) (hf : k.form = some f) (hr : r.event = .done .run)
    (hs : s = m.page.pipelines.length) :
    Page.sentIn s between = (if abortedIn c s between then []
      else m.page.requestFor f (m.page.collectPayload f e.submitter)) ∧
    Page.sentIn s later = [] ∧
    ∀ request ∈ Page.sentIn s between, request ∈ r.page.transport.requests := by
  have hvisited : ∀ n ∈ m :: (between ++ r :: later), n.page.Visited := fun n hn =>
    visited_of_mem (hrun ▸ List.mem_append_right _ hn)
  have halong := trace_along {} actions
  rw [hrun] at halong
  obtain ⟨hbetween, hlater⟩ := halong.split.2.split
  have hpipe : (m.event.effect m.page).pipelines[s]? =
      some { owner := c, stage := .accepted f (m.page.collectPayload f e.submitter) } := by
    obtain ⟨k', f', hk', -, hf', hnew⟩ := handleSubmit_started hstarted
    rw [hk] at hk'
    cases hk'
    rw [hf] at hf'
    cases hf'
    rw [hm, hs]
    simp only [Event.effect]
    rw [hnew]
    simp
  have hknown := (hvisited m (by simp)).formsInOrder.known c k f hk hf
  have hforms : (m.event.effect m.page).forms = m.page.forms := by
    rw [hm]
    exact (handleSubmit_handled m.page c e).2.untouched.forms
  -- the run has polled the pipeline
  have hreached : r.page.Reached s 1 := by
    obtain ⟨pipe', hpipe', -⟩ := hbetween.course.pipelineKept s _ hpipe
    exact reached_of_run (by rw [hrun]; simp) hr hpipe'
  obtain ⟨hsent, hlogged⟩ := hbetween.sentIn (fun n hn => hvisited n (by simp [hn])) hpipe
    (by rw [hforms]; exact hknown) hreached
  refine ⟨?_, ?_, hlogged⟩
  · rw [hsent, (effect_course m.page m.event).requestFor hknown]
  · refine sentIn_eq_nil (fun n hn => hvisited n (by simp [hn])) fun n hn _ => ?_
    have hr_reached : (r.event.effect r.page).Reached s 1 := by rw [hr]; exact hreached
    exact (hr_reached.course (hlater.course_of_mem hn)).toSend

/-- `requestFor` of the collected payload. -/
theorem requestFor_collectPayload {f : FormId} {form : Form} (hform : p.forms[f]? = some form)
    (submitter : Option Submitter) :
    p.requestFor f (p.collectPayload f submitter) =
      if p.fails .entries then []
      else (FormRequest.build form.data.method form.data.action
        (Payload.collect form.data.fields submitter)).toOption.toList := by
  unfold collectPayload entries
  cases p.fails .entries with
  | true => rfl
  | false => simp [requestFor, requestOf, hform]

end Submits

/-- In every run, a component prevents the default of each submit event that it handles. It ignores
the event exactly if it has a live pipeline, has no listener, or `spawn` fails; then nothing is
sent, and nothing but the submitting attribute of its host changes. Otherwise it accepts the submit.
Then one request is in the log after the next run, and no other one ever follows, except that there
is none if the component is detached before the pipeline's first poll, if the form's fields could
not be read, or if its method is no token. So a component never sends more requests than it has
accepted submits. -/
theorem one_request_per_submit (actions : List Action) (c : ComponentId) :
    (∀ before m after e, trace {} actions = before ++ m :: after → m.event = .handle c e →
      (m.page.handleSubmit c e).2.1 = e.prevent ∧
      ((m.page.handleSubmit c e).2.2 = .ignored ↔ ∀ k, m.page.component? c = some k →
        (∃ t, m.page.LiveAt c t) ∨ k.listener = none ∨ m.page.fails .spawn = true) ∧
      ((m.page.handleSubmit c e).2.2 = .ignored →
        (m.event.effect m.page).transport = m.page.transport ∧
        Untouched c m.page (m.event.effect m.page)) ∧
      ((m.page.handleSubmit c e).2.2 = .started →
        ∃ k f form, m.page.component? c = some k ∧ k.form = some f ∧
          m.page.forms[f]? = some form ∧
          ∀ between r later, after = between ++ r :: later → r.event = .done .run →
            sentIn m.page.pipelines.length later = [] ∧
            (abortedIn c m.page.pipelines.length between = true ∨
                m.page.fails .entries = true ∨
                Http.isToken (FormRequest.methodOf form.data.method) = false →
              sentIn m.page.pipelines.length between = []) ∧
            (abortedIn c m.page.pipelines.length between = false →
              m.page.fails .entries = false →
              Http.isToken (FormRequest.methodOf form.data.method) = true →
              ∃ request, FormRequest.build form.data.method form.data.action
                  (Payload.collect form.data.fields e.submitter) = .ok request ∧
                sentIn m.page.pipelines.length between = [request] ∧
                request ∈ r.page.transport.requests))) ∧
    ∀ l l', trace {} actions = l ++ l' → (sentBy c l).length ≤ l.countP (·.starts c) := by
  refine ⟨fun before m after e hrun hm => ?_, fun l l' hrun => sentBy_le_starts hrun c⟩
  have hvisited : m.page.Visited :=
    visited_of_mem (hrun ▸ List.mem_append_right _ (List.mem_cons_self ..))
  obtain ⟨hprevented, hhandled⟩ := handleSubmit_handled m.page c e
  refine ⟨hprevented, handleSubmit_ignored_iff hvisited.inStep hvisited.formsInOrder e,
    fun _ => ⟨?_, ?_⟩, fun hstarted => ?_⟩
  · rw [hm]
    exact handleSubmit_transport m.page c e
  · rw [hm]
    exact hhandled.untouched
  · obtain ⟨k, f, hk, -, hf, -⟩ := handleSubmit_started hstarted
    -- the form of a component is one of the page, so its method and action exist
    have hlt := hvisited.formsInOrder.known c k f hk hf
    have hform : m.page.forms[f]? = some m.page.forms[f] := List.getElem?_eq_getElem hlt
    refine ⟨k, f, m.page.forms[f], hk, hf, hform, fun between r later hafter hr => ?_⟩
    subst hafter
    obtain ⟨hsent, hlater, hlogged⟩ := started_sends hrun hm hstarted hk hf hr rfl
    rw [requestFor_collectPayload hform] at hsent
    refine ⟨hlater, fun hnone => ?_, fun hcalled hfails htoken => ?_⟩
    · rw [hsent]
      rcases hnone with hcalled | hfails | htoken
      · rw [if_pos hcalled]
      · rw [if_pos hfails, ite_self]
      · simp [FormRequest.build, htoken, Except.toOption]
    · obtain ⟨request, hrequest⟩ : ∃ request, FormRequest.build m.page.forms[f].data.method
          m.page.forms[f].data.action
          (Payload.collect m.page.forms[f].data.fields e.submitter) = .ok request := by
        unfold FormRequest.build
        simp only [htoken, if_true]
        split <;> exact ⟨_, rfl⟩
      rw [hcalled, hfails, hrequest] at hsent
      refine ⟨request, hrequest, hsent, hlogged request ?_⟩
      rw [hsent]
      exact List.mem_singleton.mpr rfl

/-- Of two submits the second one is ignored, and one request is sent. -/
theorem one_request_per_submit_twice :
    let run := trace {} [.newForm { action := "/save", method := "post" },
      .newHost [] (some 0) none false, .append 0 0, .createWith 0 {}, .attach 0,
      .handleSubmit 0 none, .handleSubmit 0 none, .run]
    (∃ before m between r later, run = before ++ m :: (between ++ r :: later) ∧
      m.starts 0 = true ∧ r.event = .done .run ∧ (sentIn 0 between).length = 1) ∧
    (sentBy 0 run).length ≤ run.countP (·.starts 0) := by
  intro run
  have hsend := one_request_per_submit [.newForm { action := "/save", method := "post" },
    .newHost [] (some 0) none false, .append 0 0, .createWith 0 {}, .attach 0,
    .handleSubmit 0 none, .handleSubmit 0 none, .run] 0
  refine ⟨?_, hsend.2 run [] (List.append_nil run).symm⟩
  have hany : (run.tails.any fun l => l.head?.any fun m =>
      m.starts 0 && m.page.pipelines.length == 0 && !m.page.fails .entries &&
        (m.page.forms.all fun form => Http.isToken (FormRequest.methodOf form.data.method)) &&
        l.tail.any (·.event.endsRun)) = true := by decide +kernel
  have hnever : run.any (·.event.isDisconnect 0) = false := by decide +kernel
  obtain ⟨l, hl, hfound⟩ := List.any_eq_true.mp hany
  obtain ⟨before, hrun⟩ := (List.mem_tails _ _).mp hl
  cases l with
  | nil => cases hfound
  | cons m after =>
    simp only [List.head?_cons, Option.any_some, List.tail_cons, Bool.and_eq_true,
      List.any_eq_true, beq_iff_eq, Bool.not_eq_true', List.all_eq_true] at hfound
    obtain ⟨⟨⟨⟨hstarts, hfirst⟩, hreadable⟩, htokens⟩, r, hr, hdone⟩ := hfound
    obtain ⟨e, hm, hstarted⟩ := Moment.starts_iff.mp hstarts
    obtain ⟨between, later, rfl⟩ := List.append_of_mem hr
    have hr_done : r.event = .done .run := by
      unfold Event.endsRun at hdone
      split at hdone
      · assumption
      · cases hdone
    obtain ⟨k, f, form, -, -, hform, hafter⟩ := (hsend.1 before m _ e hrun.symm hm).2.2.2 hstarted
    obtain ⟨-, -, hsent⟩ := hafter between r later rfl hr_done
    rw [hfirst] at hsent
    have hcalled : abortedIn 0 0 between = false := by
      refine Bool.eq_false_iff.mpr fun hcalled => ?_
      obtain ⟨d, hd, hdis⟩ := List.any_eq_true.mp hcalled
      have hd_run : d ∈ run := by
        rw [← hrun]
        simp [(List.takeWhile_sublist _).subset hd]
      rw [List.any_eq_true.mpr ⟨d, hd_run, hdis⟩] at hnever
      cases hnever
    obtain ⟨request, -, hone, -⟩ :=
      hsent hcalled hreadable (htokens form (List.mem_of_getElem? hform))
    exact ⟨before, m, between, r, later, hrun.symm, hstarts, hr_done, by rw [hone]; rfl⟩

/-- If reading the fields fails, the submit is accepted, but nothing is sent. -/
theorem unreadable_form_sends_nothing :
    let p := performAll {} [.newForm { action := "/save", method := "post" },
      .newHost [] (some 0) none false, .append 0 0, .createWith 0 {}, .attach 0,
      .setFault .entries true]
    let q := (p.perform (.handleSubmit 0 none)).1
    let r := (q.perform .run).1
    (p.handleSubmit 0 { submitter := none }).2.2 = .started ∧
      Http.isToken (FormRequest.methodOf "post") = true ∧
      (r.component? 0).map (·.detached) = some false ∧ r.transport.requests = [] := by
  decide +kernel

end FormSwap.Page
