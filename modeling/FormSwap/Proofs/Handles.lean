import FormSwap.Proofs.Kept

/-!
# Handles only keep components

The user of a page has handles of components. Only `sweep` reads the handles: every other operation
commutes with `withHandles`. So two pages that differ in some handles of a component stay equal
otherwise, as long as something else keeps the component.

Main results:

- `poll_withHandles`, `act_withHandles`: polls and actions do not read the handles
- `FewerHandles.sweep`: `sweep` preserves `FewerHandles` for a component with an open pipeline
- `FewerHandles.perform`, `FewerHandles.performAll`: so do the actions of the user
- `FewerHandles.perform_sameWork`: the action in which the pipeline ends does the same on both pages
-/

namespace FormSwap.Page

open FormSwap.Markup

/-- `p.withHandles handles` is `p` with other handles. -/
def withHandles (p : Page) (handles : List (Option ComponentId)) : Page :=
  { p with handles }

/-! ## Operations that do not read the handles -/

section Blind

variable (p : Page) (hs : List (Option ComponentId)) (c : ComponentId) (s : PipelineId)

@[simp] theorem withHandles_hosts : (p.withHandles hs).hosts = p.hosts := rfl

@[simp] theorem withHandles_pipelines : (p.withHandles hs).pipelines = p.pipelines := rfl

@[simp] theorem withHandles_clock : (p.withHandles hs).clock = p.clock := rfl

@[simp] theorem withHandles_transport : (p.withHandles hs).transport = p.transport := rfl

@[simp] theorem withHandles_sleeps : (p.withHandles hs).sleeps = p.sleeps := rfl

@[simp] theorem fails_withHandles (f : Fault) : (p.withHandles hs).fails f = p.fails f := rfl

@[simp] theorem document?_withHandles (d : DocumentId) :
    (p.withHandles hs).document? d = p.document? d := rfl

@[simp] theorem queryForm_withHandles (h : HostId) :
    (p.withHandles hs).queryForm h = p.queryForm h := rfl

@[simp] theorem component?_withHandles : (p.withHandles hs).component? c = p.component? c := rfl

@[simp] theorem modifyComponent_withHandles (change : Component → Component) :
    (p.withHandles hs).modifyComponent c change = (p.modifyComponent c change).withHandles hs := rfl

theorem releaseForm_withHandles :
    (p.withHandles hs).releaseForm c = (p.releaseForm c).withHandles hs := by
  unfold releaseForm
  rw [component?_withHandles]
  cases (p.component? c).bind (·.listener) <;> rfl

theorem setAttribute_withHandles (h : HostId) (name value : String) :
    (p.withHandles hs).setAttribute h name value =
      (p.setAttribute h name value).map (·.withHandles hs) := by
  unfold setAttribute
  rw [fails_withHandles]
  cases p.fails .setAttribute <;> rfl

theorem removeAttribute_withHandles (h : HostId) (name : String) :
    (p.withHandles hs).removeAttribute h name =
      (p.removeAttribute h name).map (·.withHandles hs) := by
  unfold removeAttribute
  rw [fails_withHandles]
  cases p.fails .removeAttribute <;> rfl

theorem leaveSubmitting_withHandles :
    (p.withHandles hs).leaveSubmitting c = (p.leaveSubmitting c).withHandles hs := by
  unfold leaveSubmitting
  rw [component?_withHandles]
  cases p.component? c with
  | none => rfl
  | some k =>
    dsimp only
    rw [modifyComponent_withHandles, removeAttribute_withHandles]
    cases (p.modifyComponent c _).removeAttribute k.host submittingAttribute <;> rfl

theorem enterSubmitting_withHandles :
    (p.withHandles hs).enterSubmitting c = (p.enterSubmitting c).withHandles hs := by
  unfold enterSubmitting
  rw [component?_withHandles]
  cases p.component? c with
  | none => rfl
  | some k =>
    dsimp only
    rw [modifyComponent_withHandles, setAttribute_withHandles]
    cases (p.modifyComponent c _).setAttribute k.host submittingAttribute "" <;> rfl

theorem addListener_withHandles (f : FormId) (role : ListenerRole) :
    (p.withHandles hs).addListener f role =
      (p.addListener f role).map fun r => (r.1.withHandles hs, r.2) := by
  unfold addListener
  rw [fails_withHandles]
  cases p.fails .addSubmitListener <;> rfl

theorem listen_withHandles (f : FormId) :
    (p.withHandles hs).listen c f = (p.listen c f).map (·.withHandles hs) := by
  unfold listen
  rw [addListener_withHandles]
  cases p.addListener f (.component c) <;> rfl

theorem attach_withHandles :
    (p.withHandles hs).attach c = (p.attach c).map (·.withHandles hs) := by
  unfold attach
  rw [component?_withHandles]
  cases p.component? c with
  | none => rfl
  | some k =>
    dsimp only
    split
    · rfl
    split
    · rfl
    rw [queryForm_withHandles]
    cases p.queryForm k.host with
    | none => rfl
    | some f =>
      dsimp only
      rw [listen_withHandles]
      cases p.listen c f <;> rfl

theorem noteResolved_withHandles (r : Config.Resolved) :
    (p.withHandles hs).noteResolved r = (p.noteResolved r).withHandles hs := by
  unfold noteResolved
  cases r.ignoredDelay <;> rfl

theorem mount_withHandles (h : HostId) :
    (p.withHandles hs).mount h = ((p.mount h).1.withHandles hs, (p.mount h).2) := by
  unfold mount
  have hattributes : (p.withHandles hs).getAttribute h = p.getAttribute h := rfl
  rw [hattributes]
  cases Config.ofAttributes (p.getAttribute h) with
  | error e => rfl
  | ok r =>
    have hcreate (q : Page) : (q.withHandles hs).createWith h r.config =
        ((q.createWith h r.config).1.withHandles hs, (q.createWith h r.config).2) := rfl
    dsimp only
    rw [noteResolved_withHandles, hcreate, attach_withHandles]
    cases ((p.noteResolved r).createWith h r.config).1.attach
      ((p.noteResolved r).createWith h r.config).2 <;> rfl

theorem adopt_withHandles (l : List HostId) :
    adopt c (p.withHandles hs) l = (adopt c p l).withHandles hs := by
  induction l generalizing p with
  | nil => rfl
  | cons h rest ih =>
    unfold adopt
    rw [mount_withHandles]
    cases p.mount h with
    | mk q result =>
      cases result with
      | ok r => exact ih (q.modifyComponent c _)
      | error e => exact ih (q.note _)

theorem readContent_withHandles (markup : String) :
    (p.withHandles hs).readContent markup =
      ((p.readContent markup).1.withHandles hs, (p.readContent markup).2) := by
  unfold readContent
  cases readForm? markup.toList <;> rfl

theorem addFragments_withHandles (d : DocumentId) (l : List Fragment) :
    addFragments d (p.withHandles hs) l =
      ((addFragments d p l).1.withHandles hs, (addFragments d p l).2) := by
  induction l generalizing p with
  | nil => rfl
  | cons fragment rest ih =>
    cases fragment with
    | text s =>
      simp only [addFragments]
      rw [ih]
    | host tag inner closed =>
      have hadd (q : Page) (host : Host) : (q.withHandles hs).addHost host =
          ((q.addHost host).1.withHandles hs, (q.addHost host).2) := rfl
      simp only [addFragments]
      rw [readContent_withHandles]
      dsimp only
      rw [hadd]
      dsimp only
      rw [ih]

theorem setInnerHtml_withHandles (h : HostId) (markup : String) :
    (p.withHandles hs).setInnerHtml h markup =
      (p.setInnerHtml h markup).map (·.withHandles hs) := by
  unfold setInnerHtml
  rw [fails_withHandles, readContent_withHandles]
  cases p.fails .setInnerHtml <;> rfl

theorem setOuterHtml_withHandles (h : HostId) (markup : String) :
    (p.withHandles hs).setOuterHtml h markup =
      (p.setOuterHtml h markup).map fun r => { r with page := r.page.withHandles hs } := by
  unfold setOuterHtml
  rw [fails_withHandles, withHandles_hosts]
  cases p.fails .setOuterHtml with
  | true => rfl
  | false =>
    cases (p.hosts[h]?).bind (·.parent) with
    | none => rfl
    | some d =>
      dsimp only
      rw [document?_withHandles]
      cases p.document? d with
      | none => rfl
      | some doc =>
        dsimp only
        rw [addFragments_withHandles]
        cases doc.children.contains (.host h) <;> rfl

theorem dispatchHost_withHandles (h : HostId) (n : Notification) :
    (p.withHandles hs).dispatchHost h n = (p.dispatchHost h n).map (·.withHandles hs) := by
  unfold dispatchHost
  rw [withHandles_hosts]
  cases p.hosts[h]? with
  | none => rfl
  | some host =>
    dsimp only
    cases host.rejecting with
    | true => rfl
    | false => cases host.parent <;> rfl

theorem rebind_withHandles (h : HostId) :
    (p.withHandles hs).rebind c h = (p.rebind c h).withHandles hs := by
  unfold rebind
  dsimp only
  rw [releaseForm_withHandles, queryForm_withHandles]
  cases (p.releaseForm c).queryForm h with
  | none => rfl
  | some f =>
    dsimp only
    rw [listen_withHandles]
    cases (p.releaseForm c).listen c f <;> rfl

theorem swapOuter_withHandles (h : HostId) (body : String) (n : Notification) :
    (p.withHandles hs).swapOuter c h body n =
      (p.swapOuter c h body n).map (·.withHandles hs) := by
  unfold swapOuter
  rw [setOuterHtml_withHandles]
  cases p.setOuterHtml h body with
  | error e => rfl
  | ok r =>
    simp only [Except.map]
    rw [modifyComponent_withHandles, releaseForm_withHandles, adopt_withHandles]
    rfl

theorem swapInner_withHandles (h : HostId) (body : String) (n : Notification) :
    (p.withHandles hs).swapInner c h body n =
      (p.swapInner c h body n).map (·.withHandles hs) := by
  unfold swapInner
  rw [setInnerHtml_withHandles]
  cases p.setInnerHtml h body with
  | error e => rfl
  | ok q =>
    simp only [Except.map]
    rw [rebind_withHandles, dispatchHost_withHandles]
    cases (q.rebind c h).dispatchHost h n <;> rfl

theorem applyResponse_withHandles (body : String) (n : Notification) :
    (p.withHandles hs).applyResponse c body n =
      (p.applyResponse c body n).map (·.withHandles hs) := by
  unfold applyResponse
  rw [component?_withHandles]
  cases p.component? c with
  | none => rfl
  | some k =>
    dsimp only
    rw [withHandles_hosts, swapOuter_withHandles, swapInner_withHandles]
    cases ((p.hosts[k.host]?).map Host.connected).getD false with
    | false => rfl
    | true =>
      cases k.config.swap with
      | outer => cases p.swapOuter c k.host body n <;> rfl
      | inner => cases p.swapInner c k.host body n <;> rfl

theorem settle_withHandles (sleep : Sleep) :
    (p.withHandles hs).settle s c sleep = (p.settle s c sleep).withHandles hs := by
  unfold settle
  rw [withHandles_clock]
  cases p.clock.poll sleep (some s) with
  | mk clock rest =>
    obtain ⟨sleep', isOver⟩ := rest
    cases isOver with
    | false => rfl
    | true =>
      exact congrArg (·.setStage s .finished) (leaveSubmitting_withHandles { p with clock } hs c)

theorem conclude_withHandles (result : Except SubmitError Nat) :
    (p.withHandles hs).conclude s c result = (p.conclude s c result).withHandles hs :=
  settle_withHandles (p.note (resultNotice result)) hs c s _

/-- `x.withHandles hs` is the exchange on a page with other handles. -/
def Exchange.withHandles (hs : List (Option ComponentId)) : Exchange → Exchange
  | .waiting p call payload => .waiting (p.withHandles hs) call payload
  | .ended p result => .ended (p.withHandles hs) result

theorem resume_withHandles (x : Exchange) :
    (x.withHandles hs).resume s c = (x.resume s c).withHandles hs := by
  cases x with
  | waiting q call payload => rfl
  | ended q result => exact conclude_withHandles q hs c s result

theorem receive_withHandles (payload : Payload) (outcome : Outcome) :
    (p.withHandles hs).receive c payload outcome =
      (p.receive c payload outcome).withHandles hs := by
  unfold receive
  cases outcome with
  | error e => rfl
  | ok response =>
    dsimp only
    cases response.accept with
    | error e => rfl
    | ok response =>
      dsimp only
      rw [applyResponse_withHandles]
      cases p.applyResponse c response.body ⟨payload.encode⟩ <;> rfl

theorem pollCall_withHandles (call : Call) (payload : Payload) :
    (p.withHandles hs).pollCall c call payload =
      (p.pollCall c call payload).withHandles hs := by
  unfold pollCall
  rw [withHandles_transport]
  cases p.transport.poll call with
  | mk transport progress =>
    cases progress with
    | waiting call => rfl
    | finished outcome => exact receive_withHandles { p with transport } hs c payload outcome

theorem firstExchange_withHandles (f : FormId) (payload : Except SubmitError Payload) :
    (p.withHandles hs).firstExchange c f payload =
      (p.firstExchange c f payload).withHandles hs := by
  unfold firstExchange
  cases payload with
  | error e => rfl
  | ok payload =>
    have hrequest : (p.withHandles hs).requestOf f payload = p.requestOf f payload := rfl
    dsimp only
    rw [hrequest]
    cases p.requestOf f payload with
    | error e => rfl
    | ok request => exact pollCall_withHandles p hs c _ payload

theorem poll_withHandles : (p.withHandles hs).poll s = (p.poll s).withHandles hs := by
  unfold poll
  rw [withHandles_pipelines]
  cases p.pipelines[s]? with
  | none => rfl
  | some pipe =>
    dsimp only
    cases pipe.aborted with
    | true => cases pipe.stage <;> rfl
    | false =>
      rw [if_neg Bool.false_ne_true, if_neg Bool.false_ne_true]
      cases pipe.stage with
      | accepted f payload =>
        dsimp only
        rw [firstExchange_withHandles, resume_withHandles]
      | awaiting call payload =>
        dsimp only
        rw [pollCall_withHandles, resume_withHandles]
      | settling sleep => exact settle_withHandles p hs pipe.owner s sleep
      | finished => rfl

/-- `foldl` commutes with `withHandles` if each step does. -/
theorem foldl_withHandles {α : Type} {step : Page → α → Page}
    (hstep : ∀ q a, step (q.withHandles hs) a = (step q a).withHandles hs) (l : List α) :
    l.foldl step (p.withHandles hs) = (l.foldl step p).withHandles hs := by
  induction l generalizing p with
  | nil => rfl
  | cons a rest ih => rw [List.foldl_cons, List.foldl_cons, hstep, ih]

theorem run_withHandles : (p.withHandles hs).run = p.run.withHandles hs :=
  foldl_withHandles { p with woken := [], spawned := [] } hs
    (fun q t => poll_withHandles q hs t) _

theorem wake_withHandles : (p.withHandles hs).wake s = (p.wake s).withHandles hs := by
  have hwoken : (p.withHandles hs).woken = p.woken := rfl
  unfold wake
  rw [hwoken]
  split <;> rfl

theorem settleDeferred_withHandles (d : DeferredId) (status : Deferred) :
    (p.withHandles hs).settleDeferred d status = (p.settleDeferred d status).withHandles hs := by
  unfold settleDeferred
  dsimp only
  rw [withHandles_pipelines]
  split
  · exact wake_withHandles { p with transport := p.transport.settle d status } hs _
  · rfl

theorem abortInFlight_withHandles :
    (p.withHandles hs).abortInFlight c = (p.abortInFlight c).withHandles hs := by
  unfold abortInFlight
  rw [component?_withHandles]
  cases (p.component? c).bind (·.inFlight) with
  | none => rfl
  | some t =>
    unfold abort
    dsimp only [modifyComponent, modifyPipeline, withHandles]
    split
    · rfl
    · exact wake_withHandles { p with
        components := p.components.modify c (Option.map fun k => { k with inFlight := none })
        pipelines := p.pipelines.modify t fun pipe => { pipe with aborted := true } } hs t

theorem disconnect_withHandles :
    (p.withHandles hs).disconnect c = (p.disconnect c).withHandles hs := by
  unfold disconnect
  rw [component?_withHandles]
  cases p.component? c with
  | none => rfl
  | some k =>
    dsimp only
    rw [modifyComponent_withHandles, releaseForm_withHandles, abortInFlight_withHandles]
    split
    · exact leaveSubmitting_withHandles _ hs c
    · rfl

theorem detachWithin_withHandles (n : Nat) :
    detachWithin n (p.withHandles hs) c = (detachWithin n p c).withHandles hs := by
  induction n generalizing p c with
  | zero => rfl
  | succ n ih =>
    unfold detachWithin
    rw [component?_withHandles]
    cases p.component? c with
    | none => rfl
    | some k =>
      dsimp only
      rw [disconnect_withHandles, foldl_withHandles _ hs fun q d => ih q d]
      split <;> rfl

theorem handleSubmit_withHandles (e : SubmitEvent) :
    (p.withHandles hs).handleSubmit c e =
      ((p.handleSubmit c e).1.withHandles hs, (p.handleSubmit c e).2) := by
  unfold handleSubmit
  rw [component?_withHandles]
  cases p.component? c with
  | none => rfl
  | some k =>
    dsimp only
    split
    · rfl
    · cases k.form with
      | none => rfl
      | some f =>
        have hnote : ((p.enterSubmitting c).withHandles hs).note .notScheduled =
            ((p.enterSubmitting c).note .notScheduled).withHandles hs := rfl
        dsimp only
        rw [enterSubmitting_withHandles, fails_withHandles, hnote, leaveSubmitting_withHandles]
        cases (p.enterSubmitting c).fails .spawn <;> rfl

end Blind

theorem sweepOne_eq (p : Page) (d : ComponentId) :
    ∃ forms components, p.sweepOne d = { p with forms, components } := by
  unfold sweepOne dropComponent releaseForm
  split
  · exact ⟨_, _, rfl⟩
  · dsimp only
    split <;> exact ⟨_, _, rfl⟩

/-! ## Pages that differ in handles of one component -/

/-- `FewerHandles c a b`: `a` is `b` without some handles of `c`. -/
structure FewerHandles (c : ComponentId) (a b : Page) : Prop where
  same : a = b.withHandles a.handles
  length : a.handles.length = b.handles.length
  slots : ∀ i : Nat, a.handles[i]? = b.handles[i]? ∨
    a.handles[i]? = some none ∧ b.handles[i]? = some (some c)

namespace FewerHandles

variable {a b : Page} {c : ComponentId}

theorem refl (c : ComponentId) (p : Page) : FewerHandles c p p :=
  ⟨rfl, rfl, fun _ => .inl rfl⟩

/-- `FewerHandles` is preserved by an operation that commutes with `withHandles`. -/
theorem of_blind (h : FewerHandles c a b) {f : Page → Page}
    (hf : ∀ p hs, f (p.withHandles hs) = (f p).withHandles hs) : FewerHandles c (f a) (f b) := by
  have hfirst : f a = (f b).withHandles a.handles := by
    rw [← hf, ← h.same]
  have hsame : f b = (f b).withHandles b.handles := hf b b.handles
  have hhandles : (f b).handles = b.handles := by
    rw [hsame]
    rfl
  rw [hfirst]
  refine ⟨rfl, ?_, fun i => ?_⟩
  · rw [hhandles]
    exact h.length
  · rw [hhandles]
    exact h.slots i

/-- `FewerHandles` is preserved if one handle is set on both pages. -/
theorem set (h : FewerHandles c a b) (i : Nat) (slot : Option ComponentId) :
    FewerHandles c (a.withHandles (a.handles.set i slot))
      (b.withHandles (b.handles.set i slot)) where
  same := by
    rw [h.same]
    rfl
  length := by
    simpa [withHandles] using h.length
  slots j := by
    simp only [withHandles, List.getElem?_set, h.length]
    split
    · exact .inl rfl
    · exact h.slots j

theorem append (h : FewerHandles c a b) (new : List (Option ComponentId)) :
    FewerHandles c (a.withHandles (a.handles ++ new)) (b.withHandles (b.handles ++ new)) where
  same := by
    rw [h.same]
    rfl
  length := by
    simpa [withHandles] using h.length
  slots j := by
    simp only [withHandles, List.getElem?_append, h.length]
    split
    · exact h.slots j
    · exact .inl rfl

/-- `FewerHandles` is preserved if `b` drops a handle that `a` has dropped. -/
theorem drop (h : FewerHandles c a b) {i : Nat} (hi : a.handle? i = none) :
    FewerHandles c a (b.dropHandle i) where
  same := h.same
  length := by
    simpa [dropHandle] using h.length
  slots j := by
    simp only [dropHandle, List.getElem?_set]
    split
    · rename_i hij
      subst hij
      split
      · rename_i hlt
        rw [← h.length] at hlt
        rw [handle?, List.getElem?_eq_getElem hlt] at hi
        rw [List.getElem?_eq_getElem hlt]
        exact .inl (congrArg some hi)
      · rename_i hge
        rw [← h.length] at hge
        exact .inl (List.getElem?_eq_none (Nat.le_of_not_lt hge))
    · exact h.slots j

/-- `FewerHandles` preserves `heldByHandle` of other components. -/
theorem heldByHandle_eq (h : FewerHandles c a b) {d : ComponentId} (hd : d ≠ c) :
    a.heldByHandle d = b.heldByHandle d := by
  rw [heldByHandle, heldByHandle, Bool.eq_iff_iff, List.contains_iff_mem, List.contains_iff_mem,
    List.mem_iff_getElem?, List.mem_iff_getElem?]
  refine exists_congr fun i => ?_
  rcases h.slots i with heq | ⟨hnone, hsome⟩
  · rw [heq]
  · rw [hnone, hsome]
    simp [Ne.symm hd]

theorem heldByPipeline_eq (h : FewerHandles c a b) (d : ComponentId) :
    a.heldByPipeline d = b.heldByPipeline d := by
  rw [h.same]
  rfl

theorem listenersOf_eq (h : FewerHandles c a b) (f : FormId) :
    a.listenersOf f = b.listenersOf f := by
  rw [h.same]
  rfl

/-- `sweepOne` preserves `FewerHandles` if `c` has an open pipeline. -/
theorem sweepOne (h : FewerHandles c a b) (hw : b.heldByPipeline c = true) (d : ComponentId) :
    FewerHandles c (a.sweepOne d) (b.sweepOne d) := by
  by_cases hd : d = c
  · -- its open pipeline keeps the component, whatever handles there are
    subst hd
    have hb : b.held d = true := by simp [held, hw]
    have ha : a.held d = true := by simp [held, h.heldByPipeline_eq, hw]
    unfold Page.sweepOne
    rw [if_pos ha, if_pos hb]
    exact h
  · have hheld : a.held d = b.held d := by
      unfold held
      rw [h.heldByHandle_eq hd, h.same]
      rfl
    unfold Page.sweepOne
    rw [hheld]
    split
    · exact h
    · refine h.of_blind (f := fun p => p.dropComponent d) fun p hs => ?_
      unfold dropComponent
      rw [releaseForm_withHandles]
      rfl

theorem sweep (h : FewerHandles c a b) (hw : b.heldByPipeline c = true) :
    FewerHandles c a.sweep b.sweep := by
  have hlength : a.components.length = b.components.length := by
    rw [h.same]
    rfl
  unfold Page.sweep
  rw [hlength]
  generalize List.range b.components.length = l
  clear hlength
  induction l generalizing a b with
  | nil => exact h
  | cons d rest ih =>
    refine ih (h.sweepOne hw d) ?_
    obtain ⟨_, _, hone⟩ := b.sweepOne_eq d
    rw [hone]
    exact hw

end FewerHandles

/-! ## Submit events -/

/-- `FewerHandlesAt c x y`: `FewerHandles` of two pages on which `c` has an open pipeline, with the
same event. -/
structure FewerHandlesAt (c : ComponentId) (x y : Page × SubmitEvent) : Prop where
  fewerHandles : FewerHandles c x.1 y.1
  works : y.1.heldByPipeline c = true
  event : x.2 = y.2

section Submits

variable {a b : Page} {c : ComponentId} {fire : Firing}

/-- A course without `finish` and `dropAborted` moves preserves `heldByPipeline`. -/
theorem Course.heldByPipeline {S : Kind → Prop} {p q : Page} (h : Course S p q)
    (hS : ∀ s, ¬ S (.finish s) ∧ ¬ S (.dropAborted s)) (hc : p.heldByPipeline c = true) :
    q.heldByPipeline c = true := by
  refine h.keeps (I := fun r => r.heldByPipeline c = true) (fun kind r r' hkind move ih => ?_) hc
  obtain ⟨s, pipe, hpipe, hopen, hown⟩ := heldByPipeline_iff.mp ih
  have hmodify (t : PipelineId) (change : Pipeline → Pipeline)
      (hr' : r'.pipelines = r.pipelines.modify t change)
      (hchange : (change pipe).isOpen = true ∧ (change pipe).owner = pipe.owner) :
      r'.heldByPipeline c = true := by
    refine heldByPipeline_iff.mpr ⟨s, if t = s then change pipe else pipe, ?_, ?_⟩
    · rw [hr', List.getElem?_modify, hpipe]
      rfl
    · split
      · exact ⟨hchange.1, hchange.2.trans hown⟩
      · exact ⟨hopen, hown⟩
  cases move with
  | tree e =>
    obtain ⟨_, _, _, rfl⟩ := e.kept.only
    exact ih
  | @disconnect _ _ k =>
    cases hf : k.inFlight with
    | none => exact ih
    | some t =>
      have hoff : r.pipelinesAborting k.inFlight =
          r.pipelines.modify t Pipeline.abort := by
        rw [hf]
        rfl
      rw [← hf]
      exact hmodify t Pipeline.abort hoff ⟨hopen, rfl⟩
  | start =>
    refine heldByPipeline_iff.mpr ⟨s, pipe, ?_, hopen, hown⟩
    rw [List.getElem?_append_left (List.getElem?_eq_some_iff.mp hpipe).1]
    exact hpipe
  | await | sleep => exact hmodify _ (Pipeline.at _) rfl ⟨rfl, rfl⟩
  | finish | finishGone => exact absurd hkind (hS _).1
  | dropAborted => exact absurd hkind (hS _).2
  | mark | create | bind | unbind | rebind | replace | adopt | drop | refuse | ask | clear | wake
  | advance | pollSleep | dropSleep | fault | mend | note | other => exact ih

/-- `foldl` preserves `FewerHandlesAt` if each step does. -/
theorem FewerHandlesAt.foldl {α : Type} {step : Page × SubmitEvent → α → Page × SubmitEvent}
    (hstep : ∀ x y i, FewerHandlesAt c x y → FewerHandlesAt c (step x i) (step y i)) (l : List α)
    {x y : Page × SubmitEvent} (h : FewerHandlesAt c x y) :
    FewerHandlesAt c (l.foldl step x) (l.foldl step y) := by
  induction l generalizing x y with
  | nil => exact h
  | cons i rest ih => exact ih (hstep x y i h)

variable (hfire : ∀ a b f submitter, FewerHandles c a b → b.heldByPipeline c = true →
  FewerHandles c (fire a f submitter) (fire b f submitter) ∧
    (fire b f submitter).heldByPipeline c = true)

include hfire

theorem react_fewerHandlesAt {x y : Page × SubmitEvent} (r : Reaction) (h : FewerHandlesAt c x y) :
    FewerHandlesAt c (react fire x r) (react fire y r) := by
  obtain ⟨a, e⟩ := x
  obtain ⟨b, e'⟩ := y
  obtain ⟨hfewer, hworks, rfl⟩ := h
  dsimp only at hfewer hworks
  cases r with
  | prevent => exact ⟨hfewer, hworks, rfl⟩
  | detach d =>
    refine ⟨hfewer.of_blind (f := fun p => p.detach d) fun p hs => ?_,
      (detachWithin_course _ b d).heldByPipeline (fun _ => ⟨id, id⟩) hworks, rfl⟩
    exact detachWithin_withHandles p hs d _
  | resubmit d =>
    refine ⟨hfewer.of_blind (f := fun p => (p.handleSubmit d e).1) fun p hs => ?_,
      (handleSubmit_course b d e).heldByPipeline (fun _ => ⟨id, id⟩) hworks, ?_⟩
    · rw [handleSubmit_withHandles]
    · have hsame := handleSubmit_withHandles b a.handles d e
      rw [← hfewer.same] at hsame
      exact congrArg (·.2.1) hsame
  | dropHandle i =>
    refine ⟨(hfewer.set i none).sweep hworks, ?_, rfl⟩
    exact (sweep_course _).heldByPipeline (fun _ => ⟨id, id⟩) hworks
  | submit f submitter =>
    obtain ⟨hfired, hstill⟩ := hfire a b f submitter hfewer hworks
    exact ⟨hfired, hstill, rfl⟩

theorem notify_fewerHandlesAt {x y : Page × SubmitEvent} (l : Listener) (h : FewerHandlesAt c x y) :
    FewerHandlesAt c (notify fire x l) (notify fire y l) := by
  obtain ⟨id, role⟩ := l
  cases role with
  | observer label reactions =>
    refine FewerHandlesAt.foldl (fun x y r => react_fewerHandlesAt hfire r) reactions ?_
    obtain ⟨hfewer, hworks, hevent⟩ := h
    refine ⟨?_, hworks, hevent⟩
    rw [hevent]
    exact hfewer.of_blind (f := fun p => { p with
      heard := p.heard ++ [⟨label, y.2.submitter, y.2.prevented⟩] }) fun _ _ => rfl
  | component d =>
    obtain ⟨a, e⟩ := x
    obtain ⟨b, e'⟩ := y
    obtain ⟨hfewer, hworks, rfl⟩ := h
    dsimp only at hfewer hworks
    have hsame : a.component? d = b.component? d := by
      rw [hfewer.same]
      rfl
    simp only [notify]
    rw [hsame]
    cases b.component? d with
    | none => exact ⟨hfewer, hworks, rfl⟩
    | some k =>
      -- a component's listener acts as an observer that resubmits the event to it
      exact react_fewerHandlesAt hfire (.resubmit d) (x := (a, e.prevent)) (y := (b, e.prevent))
        ⟨hfewer, hworks, rfl⟩

omit hfire

/-- `submitWithin` preserves `FewerHandlesAt`. -/
theorem submitWithin_fewerHandlesAt (n : Nat) (f : FormId) (submitter : Option Submitter)
    (h : FewerHandles c a b) (hw : b.heldByPipeline c = true) :
    FewerHandlesAt c (submitWithin n a f submitter) (submitWithin n b f submitter) := by
  induction n generalizing a b f submitter with
  | zero =>
    unfold submitWithin
    rw [h.listenersOf_eq]
    exact FewerHandlesAt.foldl
      (fun x y l => notify_fewerHandlesAt (fun _ _ _ _ h hw => ⟨h, hw⟩) l) _ ⟨h, hw, rfl⟩
  | succ n ih =>
    unfold submitWithin
    rw [h.listenersOf_eq]
    refine FewerHandlesAt.foldl
      (fun x y l => notify_fewerHandlesAt (fun a b f submitter h hw => ?_) l) _ ⟨h, hw, rfl⟩
    have hboth := ih f submitter h hw
    exact ⟨hboth.fewerHandles, hboth.works⟩

end Submits

end FormSwap.Page

namespace FormSwap

/-! ## Actions -/

/-- `a.handlesHandles`: the action may add or drop handles. -/
def Action.handlesHandles : Action → Bool
  | .create _ | .createWith _ _ | .retain _ | .dropHandle _ | .submit _ _ _ => true
  | _ => false

namespace Page

variable {a b : Page} {c : ComponentId} {x : Action}

theorem act_withHandles (p : Page) (hs : List (Option ComponentId))
    (hx : x.handlesHandles = false) :
    (p.withHandles hs).act x = ((p.act x).1.withHandles hs, (p.act x).2) := by
  cases x with
  | create | createWith | retain | dropHandle | submit => cases hx
  | appendMarkup d markup =>
    simp only [act, appendMarkup]
    rw [addFragments_withHandles]
    rfl
  | newHost attributes form markup rejecting =>
    simp only [act, newHost]
    cases markup with
    | some markup =>
      dsimp only
      rw [readContent_withHandles]
      rfl
    | none => cases form <;> rfl
  | setAttribute h name value =>
    simp only [act, setAttribute_withHandles]
    cases p.setAttribute h name value <;> rfl
  | removeAttribute h name =>
    simp only [act, removeAttribute_withHandles]
    cases p.removeAttribute h name <;> rfl
  | setInnerHtml h markup =>
    simp only [act, setInnerHtml_withHandles]
    cases p.setInnerHtml h markup <;> rfl
  | setOuterHtml h markup =>
    simp only [act, setOuterHtml_withHandles]
    cases p.setOuterHtml h markup <;> rfl
  | dispatchHost h n =>
    simp only [act, dispatchHost_withHandles]
    cases p.dispatchHost h n <;> rfl
  | listen f label reactions =>
    simp only [act, addListener_withHandles]
    cases p.addListener f (.observer label reactions) <;> rfl
  | attach c =>
    simp only [act, attach_withHandles]
    cases p.attach c <;> rfl
  | detach c => exact congrArg (·, Result.done) (detachWithin_withHandles p hs c _)
  | handleSubmit c submitter =>
    simp only [act, handleSubmit_withHandles]
  | deliver d outcome => exact congrArg (·, Result.done) (settleDeferred_withHandles p hs d _)
  | dropDeferred d => exact congrArg (·, Result.done) (settleDeferred_withHandles p hs d _)
  | advance span =>
    exact congrArg (·, Result.done) (foldl_withHandles
      { p with clock := (p.clock.advance span).1 } hs (fun q s => wake_withHandles q hs s) _)
  | pollCall k =>
    have hcalls : (p.withHandles hs).calls = p.calls := rfl
    simp only [act, pollUserCall, hcalls, withHandles_transport]
    split
    · rfl
    · split <;> rfl
  | pollSleep n =>
    simp only [act, pollUserSleep, withHandles_sleeps, withHandles_clock]
    split
    · rfl
    · split <;> rfl
  | dropSleep n =>
    simp only [act, dropUserSleep, withHandles_sleeps]
    split <;> rfl
  | run => exact congrArg (·, Result.done) (run_withHandles p hs)
  | _ => rfl

namespace FewerHandles

/-- `createWith` and a new handle preserve `FewerHandles`. -/
theorem createWith (h : FewerHandles c a b) (i : HostId) (config : Config) :
    FewerHandles c (a.act (.createWith i config)).1 (b.act (.createWith i config)).1 ∧
      (a.act (.createWith i config)).2 = (b.act (.createWith i config)).2 := by
  have hplace : a.components.length = b.components.length := by
    rw [h.same]
    rfl
  have hnew : FewerHandles c (a.createWith i config).1 (b.createWith i config).1 :=
    h.of_blind (f := fun p => (p.createWith i config).1) fun _ _ => rfl
  have hsame : (a.createWith i config).1.component? = (b.createWith i config).1.component? := by
    rw [hnew.same]
    rfl
  refine ⟨?_, ?_⟩
  · simp only [Page.act, giveHandle, addHandle, Page.createWith, hplace]
    exact hnew.append [some b.components.length]
  · simp only [Page.act, giveHandle, hsame, hnew.length]
    simp only [Page.createWith, hplace]

/-- `act` preserves `FewerHandles` and has the same result on both pages. -/
theorem act (h : FewerHandles c a b) (hw : b.heldByPipeline c = true) (x : Action) :
    FewerHandles c (a.act x).1 (b.act x).1 ∧ (a.act x).2 = (b.act x).2 := by
  have hblind (hx : x.handlesHandles = false) :
      FewerHandles c (a.act x).1 (b.act x).1 ∧ (a.act x).2 = (b.act x).2 := by
    have hact := act_withHandles b a.handles hx
    rw [← h.same] at hact
    refine ⟨h.of_blind (f := fun p => (p.act x).1) fun p hs => ?_, ?_⟩
    · rw [act_withHandles p hs hx]
    · rw [hact]
  cases x with
  | create i =>
    have hattributes : a.getAttribute i = b.getAttribute i := by
      rw [h.same]
      rfl
    simp only [Page.act, create]
    rw [hattributes]
    cases Config.ofAttributes (b.getAttribute i) with
    | error e => exact ⟨h, rfl⟩
    | ok r =>
      exact (h.of_blind (f := fun p => p.noteResolved r)
        fun p hs => noteResolved_withHandles p hs r).createWith i r.config
  | createWith i config => exact h.createWith i config
  | retain cs =>
    have hsame : a.component? = b.component? := by
      rw [h.same]
      rfl
    refine ⟨h.append (cs.map some), ?_⟩
    simp only [Page.act, giveHandles, h.length, hsame]
  | dropHandle i => exact ⟨h.set i none, rfl⟩
  | submit f submitter depth =>
    have hboth := submitWithin_fewerHandlesAt depth f submitter h hw
    refine ⟨hboth.fewerHandles, ?_⟩
    simp only [Page.act, hboth.event]
  | _ => exact hblind rfl

theorem component?_eq (h : FewerHandles c a b) (d : ComponentId) :
    a.component? d = b.component? d := by
  rw [h.same]
  rfl

/-- `releaseConflicts` is the same on both pages. -/
theorem releaseConflicts_eq (h : FewerHandles c a b) (hw : b.heldByPipeline c = true)
    (l : ListenerRef) : a.releaseConflicts l = b.releaseConflicts l := by
  have hlength : a.components.length = b.components.length := by
    rw [h.same]
    rfl
  have hreleased : FewerHandles c (a.removeListener l) (b.removeListener l) :=
    h.of_blind (f := fun p => p.removeListener l) fun _ _ => rfl
  unfold releaseConflicts
  simp only [hlength, h.component?_eq, (hreleased.sweep hw).component?_eq]

theorem hasObserver_eq (h : FewerHandles c a b) (l : ListenerRef) :
    a.hasObserver l = b.hasObserver l := by
  rw [h.same]
  rfl

theorem offers_eq (h : FewerHandles c a b) (hw : b.heldByPipeline c = true)
    (hx : ∀ i, x ≠ .dropHandle i) : a.offers x = b.offers x := by
  cases x with
  | dropHandle i => exact absurd rfl (hx i)
  | unlisten l => simp only [offers, h.hasObserver_eq, h.releaseConflicts_eq hw]
  | _ =>
    rw [h.same]
    rfl

end FewerHandles

/-- `sweep` does not change a reachable page. -/
theorem Reachable.sweep_eq_self {p : Page} (hp : p.Reachable) : p.sweep = p := by
  have hswept (n : Nat) : SweptTo p p n :=
    ⟨fun d k => ⟨fun hk => ⟨hk, fun _ => hp.kept (by rw [hk]; rfl)⟩, And.left⟩, rfl, rfl,
      fun _ => rfl⟩
  -- `SweptTo` holds for every index, so every present component is held
  have hone (d : ComponentId) : p.sweepOne d = p := by
    unfold sweepOne
    split
    · rfl
    · rename_i hheld
      refine dropComponent_of_none (Option.not_isSome_iff_eq_none.mp fun hd => hheld ?_)
      exact ((hswept d).held_iff hp.visited.ordered).mpr (hp.kept hd)
  unfold sweep
  generalize List.range p.components.length = l
  induction l with
  | nil => rfl
  | cons d rest ih => rw [List.foldl_cons, hone, ih]

theorem perform_pipelines (p : Page) (x : Action) :
    (p.perform x).1.pipelines =
      if p.offers x then (p.act x).1.pipelines else p.pipelines := by
  unfold perform
  split
  · exact sweep_pipelines _
  · rfl

namespace FewerHandles

/-- `Kept` on the page with fewer handles implies `Kept` on the other one. -/
theorem kept (h : FewerHandles c a b) {d : ComponentId} (hd : a.Kept d) : b.Kept d := by
  obtain ⟨e, he, hdescends⟩ := hd
  refine ⟨e, ?_, ?_⟩
  · have hhandle : a.heldByHandle e = true → b.heldByHandle e = true := by
      simp only [heldByHandle, List.contains_iff_mem, List.mem_iff_getElem?]
      rintro ⟨i, hi⟩
      refine ⟨i, ?_⟩
      rcases h.slots i with hsame | ⟨hnone, -⟩
      · rw [← hsame, hi]
      · rw [hnone] at hi
        cases hi
    have hlistener : a.heldByListener e = b.heldByListener e := by
      rw [h.same]
      rfl
    rw [hlistener, h.heldByPipeline_eq] at he
    simp only [Bool.or_eq_true] at he ⊢
    exact he.imp_left (Or.imp_left hhandle)
  · rw [h.same] at hdescends
    exact hdescends

/-- `FewerHandles` after a handle is dropped on the first page only. -/
theorem dropHandle (h : FewerHandles c a b) {i : Nat} (hi : b.handle? i = some c) :
    FewerHandles c (a.dropHandle i) b := by
  have hb : b.handles[i]? = some (some c) := Option.join_eq_some_iff.mp hi
  refine ⟨?_, ?_, fun j => ?_⟩
  · rw [Page.dropHandle, h.same]
    rfl
  · rw [Page.dropHandle, List.length_set]
    exact h.length
  · rw [Page.dropHandle, List.getElem?_set]
    split
    · rename_i hij
      subst hij
      have hlt : i < a.handles.length := h.length ▸ (List.getElem?_eq_some_iff.mp hb).1
      rw [if_pos hlt]
      exact .inr ⟨rfl, hb⟩
    · exact h.slots j

theorem performDropHandle (h : FewerHandles c a b) (ha : a.Reachable)
    (hw : b.heldByPipeline c = true) (i : Nat) :
    FewerHandles c (a.perform (.dropHandle i)).1 (b.perform (.dropHandle i)).1 := by
  have hoffers (p : Page) : p.offers (.dropHandle i) = (p.handle? i).isSome := rfl
  unfold Page.perform
  rw [hoffers, hoffers]
  cases hi : a.handle? i with
  | some d =>
    -- a handle of the first page is one of the second
    have hsame : a.handles[i]? = b.handles[i]? := by
      rcases h.slots i with hsame | ⟨hnone, -⟩
      · exact hsame
      · rw [handle?, hnone] at hi
        cases hi
    have hb : b.handle? i = some d := by
      rw [handle?, ← hsame]
      exact hi
    rw [hb]
    exact (h.set i none).sweep hw
  | none =>
    -- the first page dropped it before, and has nothing to sweep
    rw [if_neg (by simp)]
    split
    · have hswept := (h.drop hi).sweep hw
      rwa [ha.sweep_eq_self] at hswept
    · exact h

/-- `perform` preserves `FewerHandles` as long as `c` has an open pipeline. -/
theorem perform (h : FewerHandles c a b) (ha : a.Reachable) (hw : b.heldByPipeline c = true)
    (hw' : (b.perform x).1.heldByPipeline c = true) :
    FewerHandles c (a.perform x).1 (b.perform x).1 := by
  -- only `dropHandle` can be offered on one page and not on the other
  by_cases hdrop : ∃ i, x = .dropHandle i
  · obtain ⟨i, rfl⟩ := hdrop
    exact h.performDropHandle ha hw i
  · have hoffers := h.offers_eq hw fun i hi => hdrop ⟨i, hi⟩
    rw [heldByPipeline, perform_pipelines] at hw'
    unfold Page.perform
    rw [hoffers]
    split
    · rename_i hb
      rw [if_pos hb] at hw'
      exact (h.act hw x).1.sweep hw'
    · exact h

end FewerHandles

/-! ## Runs -/

/-- `performAll` preserves `FewerHandles` as long as a pipeline of `c` is open. -/
theorem FewerHandles.performAll (h : FewerHandles c a b) (ha : a.Reachable) (hb : b.Reachable)
    {s : PipelineId} {pipe : Pipeline} (actions : List Action)
    (hs : s < b.pipelines.length) (hpipe : (b.performAll actions).pipelines[s]? = some pipe)
    (hopen : pipe.isOpen = true) (hown : pipe.owner = c) :
    FewerHandles c (a.performAll actions) (b.performAll actions) := by
  -- a pipeline that is open at the end was open all the time
  have hworks {q : Page} (more : List Action) (hlt : s < q.pipelines.length)
      (hend : (q.performAll more).pipelines[s]? = some pipe) : q.heldByPipeline c = true := by
    have hq := List.getElem?_eq_getElem hlt
    obtain ⟨hstill, hsame⟩ := (performAll_course q more).isOpen hq hend hopen
    exact heldByPipeline_iff.mpr ⟨s, _, hq, hstill, hsame.trans hown⟩
  induction actions generalizing a b with
  | nil => exact h
  | cons x rest ih =>
    have hlt : s < (b.perform x).1.pipelines.length := by
      obtain ⟨pipe', hpipe', -⟩ :=
        (perform_course b x).pipelineKept s _ (List.getElem?_eq_getElem hs)
      exact (List.getElem?_eq_some_iff.mp hpipe').1
    refine ih (h.perform ha (hworks (x :: rest) hs hpipe) (hworks rest hlt hpipe)) (ha.perform x)
      (hb.perform x) hlt hpipe

end Page

end FormSwap
