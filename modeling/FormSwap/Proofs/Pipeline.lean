import FormSwap.Proofs.Place

/-!
# Courses of components and pipelines

The operations of components and pipelines are courses: `handleSubmit`, `detachWithin`, `attach`,
the swaps and `poll`. Each comes with the kinds of moves that it makes and the objects these are
about.

Main results:

- `handleSubmit_course`: `handleSubmit` changes its component only
- `detachWithin_course`: `detachWithin` changes the component and its replacements
- `poll_course`: `poll` changes the pipeline, its owner and the components that it mounts
-/

namespace FormSwap

/-- A call that is pending was sent. -/
theorem MockTransport.poll_waiting {v v' : MockTransport} {call call' : Call}
    (h : v.poll call = (v', .waiting call')) : ∃ reply, call' = .awaiting reply := by
  have hawait (w : MockTransport) (reply : DeferredId) (hw : w.await reply = .waiting call') :
      ∃ reply, call' = .awaiting reply := by
    unfold await at hw
    split at hw
    · cases hw
    · cases hw
    · cases hw
      exact ⟨reply, rfl⟩
  cases call with
  | awaiting reply =>
    obtain ⟨-, hw⟩ := Prod.mk.inj h
    exact hawait v reply hw
  | unsent request =>
    simp only [poll, send] at h
    split at h
    · cases h
    · obtain ⟨-, hw⟩ := Prod.mk.inj h
      cases hw
    · rename_i reply rest hq
      obtain ⟨-, hw⟩ := Prod.mk.inj h
      exact hawait v reply hw

/-- `poll` of an unsent call logs its request. -/
theorem MockTransport.requests_unsent (v : MockTransport) (request : FormRequest) :
    (v.poll (.unsent request)).1.requests = v.requests ++ [request] := by
  simp only [poll, send]
  split <;> rfl

/-- `poll` logs at most the request of its call. -/
theorem MockTransport.requests_poll (v : MockTransport) (call : Call) :
    v.requests <+: (v.poll call).1.requests := by
  cases call with
  | awaiting => exact List.prefix_rfl
  | unsent request =>
    rw [requests_unsent]
    exact List.prefix_append _ _

namespace Page

/-! ## Submits -/

/-- `note` is a course. -/
theorem note_course {S : Kind → Prop} (hS : S .note) (p : Page) (n : Notice) :
    Course S p (p.note n) :=
  .move (.note p (p.notices ++ [n])) hS

/-- `HandleScope c` has the kinds of moves of `handleSubmit`. -/
def HandleScope (c : ComponentId) : Kind → Prop
  | .start d | .refuse d => d = c
  | .note => True
  | _ => False

/-- `handleSubmit` starts a pipeline, or tries to. -/
theorem handleSubmit_course (p : Page) (c : ComponentId) (e : SubmitEvent) :
    Course (HandleScope c) p (p.handleSubmit c e).1 := by
  obtain ⟨-, hhandled⟩ := handleSubmit_handled p c e
  generalize p.handleSubmit c e = answer at hhandled ⊢
  obtain ⟨q, e', d⟩ := answer
  cases hhandled with
  | gone => exact .refl _
  | busy | unattached => exact note_course trivial _ _
  | refused hk hi hf hs notices => exact .move (.refuse hk hi hf hs notices) rfl
  | started hk hi hf hs notices => exact .move (.start hk hi hf hs _ notices) rfl

/-! ## Detachment -/

/-- `DetachScope` has the kinds of moves of a detachment. -/
def DetachScope : Kind → Prop
  | .disconnect _ | .note => True
  | _ => False

theorem disconnect_course (p : Page) (c : ComponentId) :
    Course DetachScope p (p.disconnect c) := by
  cases hk : p.component? c with
  | none =>
    rw [disconnect_of_none hk]
    exact .refl p
  | some k =>
    obtain ⟨notices, heq⟩ := disconnect_eq hk
    rw [heq]
    exact .move (.disconnect hk notices) trivial

/-- `detachWithin` is a course. -/
theorem detachWithin_course (n : Nat) (p : Page) (c : ComponentId) :
    Course DetachScope p (detachWithin n p c) := by
  induction n generalizing p c with
  | zero => exact .refl p
  | succ n ih =>
    unfold detachWithin
    split
    · exact .refl p
    · rename_i k hk
      have hcascade : Course DetachScope p
          (k.replacements.foldl (detachWithin n) (p.disconnect c)) :=
        (disconnect_course p c).trans (.foldl (fun q r _ => ih q r) _)
      dsimp only
      split
      · exact hcascade
      · exact hcascade.trans (note_course trivial _ _)

/-! ## Attachment and mounting -/

/-- `attach` binds a component to a form, unless it has one. -/
theorem attach_course {p q : Page} {c : ComponentId} (hq : p.attach c = .ok q) :
    Course (fun k => k = .bind c ∨ k = .note) p q := by
  cases hk : p.component? c with
  | none => simp [attach, hk] at hq
  | some k =>
    cases hl : k.listener with
    | none =>
      obtain ⟨hd, f, hf, rfl⟩ := attach_eq hk hl hq
      exact (Course.move (.bind hk hd hl hf) (.inl rfl)).trans
        (note_course (.inr rfl) _ (.attached k.config))
    | some l =>
      have hsame : p.attach c = .ok p ∨ p.attach c = .error .detached := by
        unfold attach
        rw [hk]
        cases k.detached <;> simp [hl]
      rcases hsame with hok | herr
      · rw [hok] at hq
        cases hq
        exact .refl p
      · rw [herr] at hq
        cases hq

/-- `mount` creates a component and binds it to a form. -/
theorem mount_course {p q : Page} {h : HostId} {r : ComponentId} (hh : h < p.hosts.length)
    (hq : p.mount h = (q, .ok r)) :
    Course (fun k => k = .create h ∨ k = .bind r ∨ k = .note) p q := by
  obtain ⟨rfl, f, config, notices, hf, rfl⟩ := mount_eq hq
  have hreport : Course (fun k => k = .create h ∨ k = .bind p.components.length ∨ k = .note) p
      { p with notices } :=
    .move (.note p notices) (.inr (.inr rfl))
  have hcreate := Move.create { p with notices } h config hh
  have hbind := Move.bind
    (p := { p with components := p.components ++ [some { host := h, config }], notices })
    (c := p.components.length) (f := f) (k := { host := h, config })
    (by rw [component?_of_append (p := p) rfl, if_pos rfl]) rfl rfl hf
  dsimp only at hbind
  rw [modify_last] at hbind
  exact (hreport.trans (.move hcreate (.inl rfl))).trans (.move hbind (.inr (.inl rfl)))

/-! ## Swapping -/

/-- `SwapScope hosts components c` has the kinds of moves of a swap by `c`, if the hosts from
`hosts` on and the components from `components` on are new. -/
def SwapScope (hosts components : Nat) (c : ComponentId) : Kind → Prop
  | .tree watch => watch = false
  | .note => True
  | .create h => hosts ≤ h
  | .bind d => d = c ∨ components ≤ d
  | .unbind d | .replace d => d = c
  | .adopt d r => d = c ∧ components ≤ r
  | _ => False

/-- `adopt` on new hosts is a course. -/
theorem adopt_course {p : Page} {c : ComponentId} {k : Component} {s : PipelineId} {n m : Nat}
    {l : List HostId} (hk : p.component? c = some k) (hs : p.Exchanging c s)
    (hc : k.config.swap = .outer) (hd : k.detached = true)
    (hl : ∀ h ∈ l, n ≤ h ∧ h < p.hosts.length) (hm : m ≤ p.components.length) :
    Course (SwapScope n m c) p (adopt c p l) := by
  induction l generalizing p k with
  | nil => exact .refl p
  | cons h rest ih =>
    obtain ⟨hn, hh⟩ := hl h (by simp)
    have hrest : ∀ h' ∈ rest, n ≤ h' ∧ h' < p.hosts.length := fun h' hm => hl h' (by simp [hm])
    unfold adopt
    split
    · rename_i q r hmount
      have hcourse := mount_course hh hmount
      obtain ⟨rfl, f, config, notices, hf, rfl⟩ := mount_eq hmount
      have hlt : c < p.components.length := lt_of_component? hk
      have hkept : ({ p with
          forms := p.formsWith f ⟨p.nextListener f, .component p.components.length⟩
          components := p.components ++
            [some (Component.bound f ⟨f, p.nextListener f⟩ { host := h, config })]
          notices } : Page).component? c = some k := by
        rw [component?_of_append (p := p) rfl, if_neg (Nat.ne_of_lt hlt), hk]
      -- the new component is last, so it has a larger index than its owner
      have hadopt := Move.adopt (r := p.components.length) hkept hs hc hd hlt (by simp)
      have hstep := Course.move (S := SwapScope n m c) hadopt ⟨rfl, hm⟩
      refine (hcourse.mono ?_).trans (hstep.trans ?_)
      · rintro kind (rfl | rfl | rfl)
        · exact hn
        · exact .inr hm
        · trivial
      · refine ih (k := k.replacedBy p.components.length) ?_ hs hc hd hrest ?_
        · rw [component?_of_modify (p := { p with
            components := p.components ++
              [some (Component.bound f ⟨f, p.nextListener f⟩ { host := h, config })] }) rfl,
            if_pos rfl, component?_of_append (p := p) rfl, if_neg (Nat.ne_of_lt hlt), hk]
          rfl
        · simp only [List.length_modify, List.length_append, List.length_singleton]
          omega
    · rename_i q e hmount
      obtain ⟨notices, rfl⟩ := mount_error_eq hmount
      refine .trans (.move (.note p (notices ++ [.notMounted e])) trivial) ?_
      exact ih hk hs hc hd hrest hm

theorem TreeKept.component? {p q : Page} (h : TreeKept p q) (c : ComponentId) :
    q.component? c = p.component? c := by
  obtain ⟨_, _, _, rfl⟩ := h.only
  rfl

theorem TreeKept.exchanging {p q : Page} (h : TreeKept p q) {c : ComponentId}
    {s : PipelineId} (hs : p.Exchanging c s) : q.Exchanging c s := by
  obtain ⟨_, _, _, rfl⟩ := h.only
  exact hs

theorem TreeKept.components {p q : Page} (h : TreeKept p q) : q.components = p.components := by
  obtain ⟨_, _, _, rfl⟩ := h.only
  rfl

/-- `swapOuter` retires the component and mounts others on the new hosts. -/
theorem swapOuter_course {p q : Page} {c : ComponentId} {k : Component} {s : PipelineId}
    {h : HostId} {body : String} {n : Notification} (hk : p.component? c = some k)
    (hs : p.Exchanging c s) (hc : k.config.swap = .outer)
    (hq : p.swapOuter c h body n = .ok q) :
    Course (SwapScope p.hosts.length p.components.length c) p q := by
  unfold swapOuter at hq
  split at hq
  · cases hq
  rename_i r hr
  cases hq
  obtain ⟨hkept, hnew⟩ := setOuterHtml_kept hr
  have hk' : r.page.component? c = some k := (hkept.component? c).trans hk
  have hs' := hkept.exchanging hs
  rw [retire_eq hk']
  refine .trans (.move (.tree (.setOuterHtml hr)) rfl)
    (.trans (.move (.replace hk' hs' hc) rfl) ?_)
  refine .trans (adopt_course (k := k.retired) ?_ hs' hc rfl hnew ?_)
    (.move (.tree (.dispatchDocument _ _ _)) rfl)
  · rw [component?_of_modify (p := r.page) rfl, if_pos rfl, hk']
    rfl
  · simp [hkept.components]

/-- `rebind` releases the form before it binds another one. -/
theorem rebind_course {p : Page} {c : ComponentId} {k : Component} {s : PipelineId}
    (n m : Nat) (hk : p.component? c = some k) (hs : p.Exchanging c s)
    (hc : k.config.swap = .inner) : Course (SwapScope n m c) p (p.rebind c k.host) := by
  unfold rebind
  rw [releaseForm_eq hk]
  have hunbind : Course (SwapScope n m c) p _ := .move (.unbind hk hs hc) rfl
  refine hunbind.trans ?_
  have hk' : ({ p with
      forms := p.formsWithout k.listener
      components := p.components.modify c (Option.map Component.unbound) } : Page).component? c =
        some k.unbound := by
    rw [component?_of_modify (p := p) rfl, if_pos rfl, hk]
    rfl
  dsimp only
  split
  · exact note_course trivial _ _
  · rename_i f hf
    split
    · rename_i q hq
      rw [listen_eq hq]
      exact .move (.rebind hk' hs hc rfl hf) (.inl rfl)
    · exact note_course trivial _ _

/-- `swapInner` binds the component to the form in the new contents. -/
theorem swapInner_course {p q : Page} {c : ComponentId} {k : Component} {s : PipelineId}
    {body : String} {n : Notification} (hk : p.component? c = some k) (hs : p.Exchanging c s)
    (hc : k.config.swap = .inner) (hq : p.swapInner c k.host body n = .ok q) (a b : Nat) :
    Course (SwapScope a b c) p q := by
  unfold swapInner at hq
  split at hq
  · cases hq
  rename_i q₁ hset
  have hkept := setInnerHtml_kept hset
  have hrebind := rebind_course a b ((hkept.component? c).trans hk) (hkept.exchanging hs) hc
  have hcourse : Course (SwapScope a b c) p (q₁.rebind c k.host) :=
    .trans (.move (.tree (.setInnerHtml hset)) rfl) hrebind
  dsimp only at hq
  split at hq
  · rename_i hdispatch
    cases hq
    exact hcourse.trans (.move (.tree (.dispatchHost hdispatch)) rfl)
  · cases hq
    exact hcourse.trans (note_course trivial _ _)

/-- `applyResponse` is a course. -/
theorem applyResponse_course {p q : Page} {c : ComponentId} {s : PipelineId} {body : String}
    {n : Notification} (hs : p.Exchanging c s) (hq : p.applyResponse c body n = .ok q) :
    Course (SwapScope p.hosts.length p.components.length c) p q := by
  unfold applyResponse at hq
  split at hq
  · cases hq
  rename_i k hk
  split at hq
  · dsimp only at hq
    split at hq
    · rename_i hswap
      cases hq
      split at hswap
      · rename_i hc
        exact swapOuter_course hk hs hc hswap
      · rename_i hc
        exact swapInner_course hk hs hc hswap _ _
    · cases hq
  · cases hq

/-! ## Polls -/

/-- `PollScope hosts components c s` has the kinds of moves of a poll of `s`. -/
def PollScope (hosts components : Nat) (c : ComponentId) (s : PipelineId) : Kind → Prop
  | .progress t | .finish t | .dropAborted t => t = s
  | k => SwapScope hosts components c k

theorem SwapScope.pollScope {n m : Nat} {c : ComponentId} {s : PipelineId} {k : Kind}
    (h : SwapScope n m c k) : PollScope n m c s k := by
  cases k <;> first | exact h | exact h.elim

/-- A swap preserves the pipelines. -/
theorem Course.pipelines_eq {n m : Nat} {c : ComponentId} {p q : Page}
    (h : Course (SwapScope n m c) p q) : q.pipelines = p.pipelines := by
  refine h.keeps (I := fun r => r.pipelines = p.pipelines) (fun k r r' hk move ih => ?_) rfl
  cases move with
  | tree e =>
    obtain ⟨_, _, _, rfl⟩ := e.kept.only
    exact ih
  | create | bind | unbind | rebind | replace | adopt | note => exact ih
  | mark | disconnect | drop | start | refuse | ask | await | sleep | finish | finishGone
  | dropAborted | clear | wake | advance | pollSleep | dropSleep | fault | mend | other =>
    exact hk.elim

/-- A swap preserves the transport. -/
theorem Course.transport_eq {n m : Nat} {c : ComponentId} {p q : Page}
    (h : Course (SwapScope n m c) p q) : q.transport = p.transport := by
  refine h.keeps (I := fun r => r.transport = p.transport) (fun k r r' hk move ih => ?_) rfl
  cases move with
  | tree e =>
    obtain ⟨_, _, _, rfl⟩ := e.kept.only
    exact ih
  | create | bind | unbind | rebind | replace | adopt | note => exact ih
  | mark | disconnect | drop | start | refuse | ask | await | sleep | finish | finishGone
  | dropAborted | clear | wake | advance | pollSleep | dropSleep | fault | mend | other =>
    exact hk.elim

/-- `settle` of a live pipeline progresses or ends it. -/
theorem settle_progress {p : Page} {s : PipelineId} {pipe : Pipeline} {sleep : Sleep}
    (hpipe : p.pipelines[s]? = some pipe) (hlive : pipe.isLive = true)
    (hsleep : pipe.stage = .settling sleep ∨ pipe.stage.isExchange = true ∧ sleep.id = none) :
    Course (fun k => k = .progress s ∨ k = .finish s) p (p.settle s pipe.owner sleep) := by
  unfold settle
  split
  · rename_i clock _ hpoll
    have hnow : (p.clock.poll sleep (some s)).2.2 = true := by rw [hpoll]
    have hclock : (p.clock.poll sleep (some s)).1 = clock := by rw [hpoll]
    cases hk : p.component? pipe.owner with
    | none =>
      have hfinish := Move.finishGone hpipe rfl hlive hsleep hk hnow
      rw [hclock] at hfinish
      rw [leaveSubmitting_of_none (p := { p with clock }) hk]
      exact .move hfinish (.inr rfl)
    | some k =>
      obtain ⟨notices, hleave⟩ := leaveSubmitting_eq (p := { p with clock }) hk
      have hfinish := Move.finish hpipe rfl hlive hsleep hk hnow notices
      rw [hclock] at hfinish
      rw [hleave]
      exact .move hfinish (.inr rfl)
  · rename_i clock sleep' hpoll
    have hwait := Move.sleep hpipe rfl hlive hsleep (by rw [hpoll])
    rw [hpoll] at hwait
    exact .move hwait (.inl rfl)

/-- `settle` of a live pipeline is a course. -/
theorem settle_course {p : Page} {s : PipelineId} {pipe : Pipeline} {sleep : Sleep} (n m : Nat)
    (hpipe : p.pipelines[s]? = some pipe) (hlive : pipe.isLive = true)
    (hsleep : pipe.stage = .settling sleep ∨ pipe.stage.isExchange = true ∧ sleep.id = none) :
    Course (PollScope n m pipe.owner s) p (p.settle s pipe.owner sleep) := by
  refine (settle_progress hpipe hlive hsleep).mono ?_
  rintro k (rfl | rfl) <;> rfl

/-- `conclude` is a course. -/
theorem conclude_course {p : Page} {s : PipelineId} {pipe : Pipeline} (n m : Nat)
    (hpipe : p.pipelines[s]? = some pipe) (hlive : pipe.isLive = true)
    (hstage : pipe.stage.isExchange = true) (result : Except SubmitError Nat) :
    Course (PollScope n m pipe.owner s) p (p.conclude s pipe.owner result) := by
  unfold conclude
  exact (note_course trivial p _).trans (settle_course n m hpipe hlive (.inr ⟨hstage, rfl⟩))

section Exchanges

variable {p : Page} {s : PipelineId} {pipe : Pipeline}

/-- `receive` is a course. -/
theorem receive_course (hpipe : p.pipelines[s]? = some pipe) (hlive : pipe.isLive = true)
    (hstage : pipe.stage.isExchange = true) (payload : Payload) (outcome : Outcome) :
    Course (PollScope p.hosts.length p.components.length pipe.owner s) p
      ((p.receive pipe.owner payload outcome).resume s pipe.owner) := by
  have hs : p.Exchanging pipe.owner s :=
    ⟨pipe, hpipe, rfl, (Pipeline.isLive_iff.mp hlive).2, hstage⟩
  unfold receive
  split
  · exact conclude_course _ _ hpipe hlive hstage _
  · split
    · exact conclude_course _ _ hpipe hlive hstage _
    · split
      · exact conclude_course _ _ hpipe hlive hstage _
      · rename_i q hq
        -- the swap preserves the pipeline, so it can still go to the settle delay
        have hswap := applyResponse_course hs hq
        refine (hswap.mono fun k hk => hk.pollScope).trans (conclude_course _ _ ?_ hlive hstage _)
        rw [hswap.pipelines_eq, hpipe]

/-- `pollCall` is a course. -/
theorem pollCall_course (hpipe : p.pipelines[s]? = some pipe) (hlive : pipe.isLive = true)
    (hstage : pipe.stage.isExchange = true) (call : Call) (payload : Payload) :
    Course (PollScope p.hosts.length p.components.length pipe.owner s) p
      ((p.pollCall pipe.owner call payload).resume s pipe.owner) := by
  have hs : p.Exchanging pipe.owner s :=
    ⟨pipe, hpipe, rfl, (Pipeline.isLive_iff.mp hlive).2, hstage⟩
  have hask := Move.ask hs call
  unfold pollCall
  split
  · rename_i transport call' hpoll
    obtain ⟨reply, rfl⟩ := MockTransport.poll_waiting hpoll
    rw [hpoll] at hask
    exact .trans (.move hask rfl) (.move (.await (p := { p with transport }) hs reply payload) rfl)
  · rename_i transport outcome hpoll
    rw [hpoll] at hask
    exact .trans (.move hask rfl)
      (receive_course (p := { p with transport }) hpipe hlive hstage payload outcome)

/-- `firstExchange` is a course. -/
theorem firstExchange_course (hpipe : p.pipelines[s]? = some pipe) (hlive : pipe.isLive = true)
    (hstage : pipe.stage.isExchange = true) (f : FormId) (payload : Except SubmitError Payload) :
    Course (PollScope p.hosts.length p.components.length pipe.owner s) p
      ((p.firstExchange pipe.owner f payload).resume s pipe.owner) := by
  unfold firstExchange
  split
  · exact conclude_course _ _ hpipe hlive hstage _
  · split
    · exact conclude_course _ _ hpipe hlive hstage _
    · exact pollCall_course hpipe hlive hstage _ _

end Exchanges

theorem poll_of_none {p : Page} {s : PipelineId} (hpipe : p.pipelines[s]? = none) :
    p.poll s = p := by
  unfold poll
  rw [hpipe]

/-- `poll` changes the pipeline, its owner and what is new. -/
theorem poll_course {p : Page} {s : PipelineId} {pipe : Pipeline}
    (hpipe : p.pipelines[s]? = some pipe) :
    Course (PollScope p.hosts.length p.components.length pipe.owner s) p (p.poll s) := by
  unfold poll
  rw [hpipe]
  dsimp only
  split
  · rename_i ha
    have hgo := Move.dropAborted hpipe ha
    refine .move (k := .dropAborted s) ?_ rfl
    unfold dropAborted
    unfold clockDropping at hgo
    cases hstage : pipe.stage <;> rw [hstage] at hgo <;> exact hgo
  · rename_i ha
    split
    · rename_i f payload hstage
      have hlive : pipe.isLive = true := by
        simpa [Pipeline.isLive, Pipeline.isOpen, hstage] using ha
      exact firstExchange_course hpipe hlive (by rw [hstage]; rfl) f payload
    · rename_i call payload hstage
      have hlive : pipe.isLive = true := by
        simpa [Pipeline.isLive, Pipeline.isOpen, hstage] using ha
      exact pollCall_course hpipe hlive (by rw [hstage]; rfl) call payload
    · rename_i sleep hstage
      have hlive : pipe.isLive = true := by
        simpa [Pipeline.isLive, Pipeline.isOpen, hstage] using ha
      exact settle_course _ _ hpipe hlive (.inl hstage)
    · exact .refl p

end Page

end FormSwap
