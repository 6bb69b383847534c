import FormSwap.Proofs.Binding
import FormSwap.Proofs.Exchange
import FormSwap.Proofs.Trace
import Mathlib.Data.List.Infix

/-!
# A failed submission changes nothing else

A submission that fails sets and removes the attribute of its host, and changes nothing else on the
page. Its component is attached as before, so the same submit can be repeated and makes the same
request.

Main results:

- `Handled.untouched`, `PlainPoll.untouched`: accepting a submit, and a poll without success, change
  the attribute only
- `failure_changes_nothing_else`: no step of a failed submission changes anything else
-/

namespace FormSwap

/-- `k.SameBinding k'`: `k` and `k'` have the same form and the same replacements. -/
structure Component.SameBinding (k k' : Component) : Prop where
  form : k'.form = k.form
  listener : k'.listener = k.listener
  detached : k'.detached = k.detached
  replacements : k'.replacements = k.replacements

namespace Page

private theorem filter_setIn (name value : String) (attributes : List (String × String)) :
    (setIn name value attributes).filter (fun a => a.1 != name) =
      attributes.filter fun a => a.1 != name := by
  induction attributes with
  | nil => simp [setIn]
  | cons a rest ih =>
    unfold setIn
    split
    · rename_i ha
      simp [ha]
    · simp [List.filter_cons, ih]

end Page

theorem Host.unmark_mark (h : Host) : h.mark.unmark = h.unmark := by
  simp [Host.unmark, Host.mark, Page.filter_setIn]

theorem Host.unmark_unmark (h : Host) : h.unmark.unmark = h.unmark := by
  simp [Host.unmark]

namespace Page

/-! ## Pages that differ in an attribute -/

/-- `Untouched c p q`: `q` is `p` up to the state of `c` and the attribute of its host. -/
structure Untouched (c : ComponentId) (p q : Page) : Prop where
  documents : q.documents = p.documents
  forms : q.forms = p.forms
  hosts : q.hosts.map Host.unmark = p.hosts.map Host.unmark
  elsewhere : ∀ h, (∀ k, p.component? c = some k → k.host ≠ h) → q.hosts[h]? = p.hosts[h]?
  own : ∀ k, p.component? c = some k →
    ∃ k', q.component? c = some k' ∧ k.SameMount k' ∧ k.SameBinding k'
  others : ∀ d, d ≠ c → q.component? d = p.component? d

section Untouched

variable {p q : Page} {c : ComponentId}

private theorem Untouched.of_same (hd : q.documents = p.documents) (hf : q.forms = p.forms)
    (hh : q.hosts = p.hosts) (hc : q.components = p.components) : Untouched c p q where
  documents := hd
  forms := hf
  hosts := by rw [hh]
  elsewhere h _ := by rw [hh]
  own k hk := ⟨k, by rw [← hk]; unfold component?; rw [hc], ⟨rfl, rfl⟩, ⟨rfl, rfl, rfl, rfl⟩⟩
  others d _ := by
    unfold component?
    rw [hc]

/-- `Untouched` if a component changes its state, and the attribute of its host is set or
removed. -/
private theorem Untouched.of_marked {k : Component} (hk : p.component? c = some k)
    {change : Component → Component} (hd : q.documents = p.documents) (hf : q.forms = p.forms)
    (hc : q.components = p.components.modify c (Option.map change))
    (hh : q.hosts.map Host.unmark = p.hosts.map Host.unmark)
    (helse : ∀ h, k.host ≠ h → q.hosts[h]? = p.hosts[h]?)
    (hchange : ∀ k : Component, k.SameMount (change k) ∧ k.SameBinding (change k)) :
    Untouched c p q where
  documents := hd
  forms := hf
  hosts := hh
  elsewhere h hne := helse h (hne k hk)
  own k' hk' := by
    refine ⟨change k', ?_, hchange k'⟩
    rw [component?_of_modify hc, if_pos rfl, hk']
    rfl
  others d hdc := by rw [component?_of_modify hc, if_neg (Ne.symm hdc)]

private theorem getElem?_hostsMarking {h h' : HostId} (hne : h ≠ h') :
    (p.hostsMarking h)[h']? = p.hosts[h']? := by
  unfold hostsMarking
  split
  · rfl
  · exact List.getElem?_modify_ne _ _ hne

theorem getElem?_hostsUnmarking {h h' : HostId} (hne : h ≠ h') :
    (p.hostsUnmarking h)[h']? = p.hosts[h']? := by
  unfold hostsUnmarking
  split
  · rfl
  · exact List.getElem?_modify_ne _ _ hne

/-- `handleSubmit` changes the attribute only. -/
theorem Handled.untouched {e : SubmitEvent} {d : Disposition} (h : Handled p c e q d) :
    Untouched c p q := by
  cases h with
  | gone => exact .of_same rfl rfl rfl rfl
  | busy | unattached => exact .of_same rfl rfl rfl rfl
  | @refused k _ hk =>
    refine .of_marked hk rfl rfl rfl ?_ (fun h hne => ?_) fun _ => ⟨⟨rfl, rfl⟩, rfl, rfl, rfl, rfl⟩
    · exact (map_hostsUnmarking _ _ Host.unmark_unmark).trans
        (map_hostsMarking _ _ Host.unmark_mark)
    · exact (getElem?_hostsUnmarking hne).trans (getElem?_hostsMarking hne)
  | started hk =>
    exact .of_marked hk rfl rfl rfl (map_hostsMarking _ _ Host.unmark_mark)
      (fun _ => getElem?_hostsMarking) fun _ => ⟨⟨rfl, rfl⟩, rfl, rfl, rfl, rfl⟩

/-- `handleSubmit` sets the attribute when it accepts a submit, unless that fails. -/
theorem Handled.marked {e : SubmitEvent} (h : Handled p c e q .started) (hknown : p.HostsKnown)
    {k : Component} (hk : p.component? c = some k) (hworks : p.fails .setAttribute = false) :
    q.marked k.host = true := by
  cases h with
  | started hk' =>
    rw [hk] at hk'
    cases hk'
    rw [marked_of_marking (hknown c k hk) hworks rfl, if_pos rfl]

/-- A poll without success changes the attribute only. -/
theorem PlainPoll.untouched {s : PipelineId} (h : PlainPoll p s c q) : Untouched c p q := by
  cases h with
  | same => exact .of_same rfl rfl rfl rfl
  | dropAborted | awaits => exact .of_same rfl rfl rfl rfl
  | settles hlive transport notices hsettled =>
    cases hsettled with
    | sleeps | endsGone => exact .of_same rfl rfl rfl rfl
    | ends hk =>
      exact .of_marked (p := p) hk rfl rfl rfl (map_hostsUnmarking _ _ Host.unmark_unmark)
        (fun _ => getElem?_hostsUnmarking) fun _ => ⟨⟨rfl, rfl⟩, rfl, rfl, rfl, rfl⟩

/-- A poll without success preserves the hosts unless it makes the component idle; then it removes
the attribute, unless that fails. -/
theorem PlainPoll.mark {s : PipelineId} (h : PlainPoll p s c q) (hp : p.InStep)
    (hknown : p.HostsKnown) {k k' : Component} (hk : p.component? c = some k)
    (hk' : q.component? c = some k') :
    (k'.state = k.state → q.hosts = p.hosts) ∧
    (k'.state ≠ k.state → k'.state = .idle ∧
      (p.fails .removeAttribute = false → q.marked k.host = false)) := by
  have hsame (hc : q.components = p.components) (hh : q.hosts = p.hosts) :
      (k'.state = k.state → q.hosts = p.hosts) ∧
      (k'.state ≠ k.state → k'.state = .idle ∧
        (p.fails .removeAttribute = false → q.marked k.host = false)) := by
    have hkk : q.component? c = some k := by
      rw [← hk]
      unfold component?
      rw [hc]
    rw [hkk] at hk'
    cases hk'
    exact ⟨fun _ => hh, fun hne => absurd rfl hne⟩
  cases h with
  | same => exact hsame rfl rfl
  | dropAborted | awaits => exact hsame rfl rfl
  | settles hlive transport notices hsettled =>
    cases hsettled with
    | sleeps | endsGone => exact hsame rfl rfl
    | ends hk₀ =>
      -- the pipeline is live, so its component is submitting
      have hbusy : k.state = .submitting :=
        (hp.busy c k hk).mpr (by rw [(hp.flight c k hk s).mpr hlive]; rfl)
      rw [show p.component? c = some _ from hk₀] at hk
      cases hk
      rw [component?_of_modify (p := p) rfl, if_pos rfl,
        show p.component? c = some _ from hk₀] at hk'
      cases hk'
      refine ⟨fun hstate => ?_, fun _ => ⟨rfl, fun hworks => ?_⟩⟩
      · rw [hbusy] at hstate
        cases hstate
      · rw [marked_of_unmarking (p := p) (hknown c k hk₀) hworks rfl, if_pos rfl]

end Untouched

/-! ## Verdicts in a run -/

section Runs

variable {p q : Page} {l : List Moment} {c : ComponentId} {s : PipelineId}

/-- A pipeline has one verdict in a run. -/
theorem Along.verdict_unique (h : Along p l q) {m n : Moment} (hm : m ∈ l) (hn : n ∈ l)
    (hmt : m.event = .poll s) (hnt : n.event = .poll s) {x y : Except SubmitError Nat}
    (hx : m.page.verdict s = some x) (hy : n.page.verdict s = some y) : x = y := by
  obtain ⟨before, after, rfl⟩ := List.append_of_mem hn
  obtain ⟨hbefore, hafter⟩ := h.split
  rw [hnt] at hafter
  rcases List.mem_append.mp hm with hearlier | hlater
  · -- after the first verdict there is none at the second moment
    obtain ⟨before', between, rfl⟩ := List.append_of_mem hearlier
    have hbetween := hbefore.split.2
    rw [hmt] at hbetween
    have hnone := ((poll_reached hx).course hbetween.course).verdict
    rw [hnone] at hy
    cases hy
  · rcases List.mem_cons.mp hlater with rfl | hlater
    · rw [hx] at hy
      exact Option.some.inj hy
    · -- the other way round
      have hnone := ((poll_reached hy).course (hafter.course_of_mem hlater)).verdict
      rw [hnone] at hx
      cases hx

/-- A pipeline that is not live has no verdict. -/
theorem verdict_of_not_live {pipe : Pipeline} (hpipe : p.pipelines[s]? = some pipe)
    (hnot : ¬ p.LiveAt pipe.owner s) : p.verdict s = none := by
  unfold verdict
  rw [hpipe]
  dsimp only
  split
  · rfl
  · rename_i ha
    cases hstage : pipe.stage with
    | settling | finished => rfl
    | accepted | awaiting =>
      refine absurd ⟨pipe, hpipe, rfl, ?_⟩ hnot
      simp [Pipeline.isLive, Pipeline.isOpen, hstage, ha]

/-- A poll without success preserves `BoundTo`. -/
theorem PlainPoll.boundTo {f : FormId} (h : PlainPoll p s c q) (hb : p.BoundTo c f) :
    q.BoundTo c f := by
  cases h with
  | same => exact hb
  | dropAborted | awaits => exact ⟨hb.placed, hb.bound⟩
  | settles _ _ _ hsettled =>
    cases hsettled with
    | sleeps | endsGone => exact ⟨hb.placed, hb.bound⟩
    | ends => exact hb.of_modify rfl fun hcc k hk hd => hb.bound k hk hd

/-- An event preserves `BoundTo`, unless a pipeline of the component succeeds. -/
theorem BoundTo.effect {f : FormId} (hb : p.BoundTo c f) (e : Event)
    (hplain : ∀ t pipe, e = .poll t → p.pipelines[t]? = some pipe → pipe.owner = c →
      ∀ n, p.verdict t ≠ some (.ok n)) : (e.effect p).BoundTo c f := by
  have hcourse {S : Kind → Prop} {r : Page} (hpr : Course S p r) (hS : ¬ S (.unbind c)) :
      r.BoundTo c f :=
    hpr.keeps (fun kind _ _ hkind move => move.boundTo fun heq => hS (heq ▸ hkind)) hb
  cases e with
  | attach d =>
    simp only [Event.effect]
    cases hq : p.attach d with
    | error e => exact hb
    | ok r => exact hcourse (attach_course hq) (by simp)
  | handle d e => exact hcourse (handleSubmit_course p d e) id
  | disconnect d => exact hcourse (disconnect_course p d) id
  | poll t =>
    simp only [Event.effect]
    cases hpipe : p.pipelines[t]? with
    | none =>
      rw [poll_of_none hpipe]
      exact hb
    | some pipe =>
      -- a poll of another component's pipeline does not change this one
      by_cases hown : pipe.owner = c
      · have hpolled := poll_plain hpipe (hplain t pipe rfl hpipe hown)
        rw [hown] at hpolled
        exact hpolled.boundTo hb
      · exact hcourse (poll_course hpipe) fun h => hown (Eq.symm h)
  | detached | done => exact hb

/-- `BoundTo` is preserved as long as no pipeline of the component succeeds. -/
theorem Along.boundTo {f : FormId} (h : Along p l q) (hb : p.BoundTo c f)
    (hplain : ∀ n ∈ l, ∀ t pipe, n.event = .poll t → n.page.pipelines[t]? = some pipe →
      pipe.owner = c → ∀ x, n.page.verdict t ≠ some (.ok x)) : q.BoundTo c f :=
  h.keeps (fun _ _ _ hkind move => move.boundTo fun heq => by rw [heq] at hkind; exact hkind)
    (fun n hn hb => hb.effect n.event (hplain n hn)) hb

/-- An idle component has no live pipeline. -/
theorem InStep.not_live_of_idle (h : p.InStep) {k : Component} (hk : p.component? c = some k)
    (hi : k.state = .idle) (t : PipelineId) : ¬ p.LiveAt c t := by
  intro hlive
  have hsome := (h.flight c k hk t).mpr hlive
  rw [h.inFlight_of_idle hk hi] at hsome
  cases hsome

/-- If an idle component has accepted one submit and nothing since, no other pipeline of it has a
verdict. -/
private theorem verdict_of_last {S : Kind → Prop} {x y : Page} (hp : p.InStep) {k : Component}
    (hk : p.component? c = some k) (hi : k.state = .idle) (hpx : Course S p x)
    (hxy : Course S x y) (hlast : ∀ t pipe, p.pipelines.length < t →
      y.pipelines[t]? = some pipe → pipe.owner ≠ c) {t : PipelineId} {pipe : Pipeline}
    (hpipe : x.pipelines[t]? = some pipe) (hown : pipe.owner = c)
    (hne : t ≠ p.pipelines.length) : x.verdict t = none := by
  -- an earlier pipeline had ended when the component was idle, and there is no later one
  rcases Nat.lt_or_gt_of_ne hne with hearlier | hlater
  · refine verdict_of_not_live hpipe fun hlive => ?_
    rw [hown] at hlive
    exact hp.not_live_of_idle hk hi t (hpx.liveAt hearlier hlive)
  · obtain ⟨pipe', hpipe', hown', -⟩ := hxy.pipelineKept t pipe hpipe
    exact absurd (hown'.trans hown) (hlast t pipe' hlater hpipe')

/-- After a component has accepted a submit, `BoundTo` is preserved as long as this pipeline does
not succeed and no other submit is accepted. -/
theorem Along.boundTo_of_failed {x y : Page} {f : FormId} (h : Along x l y) (hp : p.Visited)
    {k : Component} (hk : p.component? c = some k) (hi : k.state = .idle) (hf : k.form = some f)
    (hpx : Course (fun _ => True) p x) (hbound : Untouched c p x)
    (hfailed : ∀ n ∈ l, n.event = .poll p.pipelines.length →
      ∀ m, n.page.verdict p.pipelines.length ≠ some (.ok m))
    (hlast : ∀ t pipe, p.pipelines.length < t → y.pipelines[t]? = some pipe → pipe.owner ≠ c) :
    y.BoundTo c f := by
  obtain ⟨k', hk', -, hsame⟩ := hbound.own k hk
  refine h.boundTo ⟨lt_of_component? hk', fun k₁ hk₁ _ => ?_⟩ fun n hn t pipe ht hpipe hown => ?_
  · -- it had the form before
    rw [hk'] at hk₁
    cases hk₁
    have hpaired := hp.formsInOrder.paired c k hk
    rw [hf] at hpaired
    exact ⟨hsame.form.trans hf, by rw [hsame.listener, ← hpaired]; rfl⟩
  · -- no pipeline of the component succeeds in the meantime
    by_cases hts : t = p.pipelines.length
    · subst hts
      exact hfailed n hn ht
    · have hnone := verdict_of_last hp.inStep hk hi (hpx.trans (h.course_of_mem hn))
        (h.course_from_mem hn) hlast hpipe hown hts
      rw [hnone]
      nofun

/-- `handleSubmit` of an idle component with a form accepts a submit, if `spawn` does not fail. -/
theorem BoundTo.handleSubmit {f : FormId} (hb : p.BoundTo c f) {k : Component}
    (hk : p.component? c = some k) (hi : k.state = .idle) (hd : k.detached = false)
    (hspawn : p.fails .spawn = false) (e : SubmitEvent) :
    (p.handleSubmit c e).2.2 = .started ∧
      (p.handleSubmit c e).1.pipelines[p.pipelines.length]? =
        some { owner := c, stage := .accepted f (p.collectPayload f e.submitter) } := by
  have hform := (hb.bound k hk hd).1
  have h := (handleSubmit_handled p c e).2
  generalize p.handleSubmit c e = answer at h ⊢
  obtain ⟨q, e', d⟩ := answer
  cases h with
  | gone hnone =>
    rw [hk] at hnone
    cases hnone
  | busy hk' hs =>
    rw [hk] at hk'
    cases hk'
    rw [hi] at hs
    cases hs
  | unattached hk' _ hf =>
    rw [hk] at hk'
    cases hk'
    rw [hform] at hf
    cases hf
  | refused _ _ _ hs =>
    rw [hspawn] at hs
    cases hs
  | started hk' _ hf =>
    rw [hk] at hk'
    cases hk'
    rw [hform] at hf
    cases hf
    exact ⟨rfl, by simp⟩

end Runs

/-- A submission that fails changes nothing but the attribute of its component's host, when it is
accepted and in each of its polls: the attribute is set from then on, unless setting it fails, until
the poll that makes the component idle and removes it, unless that fails. If the component was not
detached after that, has accepted nothing else, finds the same fields, and `spawn` does not fail,
then the next submit with the same submitter is accepted with the same form and payload, and these
make the same request at any time. -/
theorem failure_changes_nothing_else {actions : List Action} {before after : List Moment}
    {m n : Moment} {c : ComponentId} {e : SubmitEvent} {s : PipelineId} {err : SubmitError}
    (hrun : trace {} actions = before ++ m :: after) (hm : m.event = .handle c e)
    (hstarted : (m.page.handleSubmit c e).2.2 = .started) (hs : s = m.page.pipelines.length)
    (hn : n ∈ after) (hpolled : n.event = .poll s) (herr : n.page.verdict s = some (.error err)) :
    ∃ k f payload, m.page.component? c = some k ∧
      (m.event.effect m.page).pipelines[s]? =
        some { owner := c, stage := .accepted f payload } ∧
      -- the submit is accepted
      (Untouched c m.page (m.event.effect m.page) ∧
        (m.page.fails .setAttribute = false →
          (m.event.effect m.page).marked k.host = true)) ∧
      -- the pipeline is polled
      (∀ r ∈ after, r.event = .poll s →
        Untouched c r.page (r.event.effect r.page) ∧
        ∀ k₁ k₂, r.page.component? c = some k₁ → (r.event.effect r.page).component? c = some k₂ →
          (k₂.state = k₁.state → (r.event.effect r.page).hosts = r.page.hosts) ∧
          (k₂.state ≠ k₁.state → k₂.state = .idle ∧ (r.page.fails .removeAttribute = false →
            (r.event.effect r.page).marked k₁.host = false))) ∧
      -- the next submit is handled
      (∀ r ∈ after, ∀ e' k', r.event = .handle c e' → e'.submitter = e.submitter →
        r.page.component? c = some k' → k'.state = .idle → k'.detached = false →
        (∀ t pipe, s < t → r.page.pipelines[t]? = some pipe → pipe.owner ≠ c) →
        r.page.entries f = m.page.entries f → r.page.fails .spawn = false →
        (r.page.handleSubmit c e').2.2 = .started ∧
        (r.event.effect r.page).pipelines[r.page.pipelines.length]? =
          some { owner := c, stage := .accepted f payload }) ∧
      ∀ sent, ∀ r ∈ after, r.page.requestOf f sent = m.page.requestOf f sent := by
  have hvisited : ∀ r ∈ m :: after, r.page.Visited := fun r hr =>
    visited_of_mem (hrun ▸ List.mem_append_right _ hr)
  have hm_visited := hvisited m (List.mem_cons_self ..)
  have halong := trace_along {} actions
  rw [hrun] at halong
  have hafter := halong.split.2
  -- the only verdict of the pipeline is a failure
  have hfailed : ∀ r ∈ after, r.event = .poll s → ∀ x, r.page.verdict s ≠ some (.ok x) :=
    fun r hr hrt x hx => by cases hafter.verdict_unique hr hn hrt hpolled hx herr
  obtain ⟨k, f, hk, hi, hf, hnew⟩ := handleSubmit_started hstarted
  have hhandled := (handleSubmit_handled m.page c e).2
  rw [hstarted] at hhandled
  have hgo := effect_course m.page m.event
  rw [show m.event.effect m.page = (m.page.handleSubmit c e).1 by rw [hm]; rfl] at hafter hgo ⊢
  have hcourse : ∀ r ∈ after, Course (fun _ => True) (m.page.handleSubmit c e).1 r.page :=
    fun r hr => hafter.course_of_mem hr
  have hpipe : (m.page.handleSubmit c e).1.pipelines[s]? =
      some { owner := c, stage := .accepted f (m.page.collectPayload f e.submitter) } := by
    rw [hnew, hs]
    simp
  refine ⟨k, f, m.page.collectPayload f e.submitter, hk, hpipe,
    ⟨hhandled.untouched, hhandled.marked hm_visited.hostsKnown hk⟩, fun r hr hrt => ?_,
    fun r hr e' k' hre hsame hk' hi' hd' hlast hentries hspawn => ?_, fun sent r hr => ?_⟩
  · obtain ⟨pipe, hpipe', hown, -⟩ := (hcourse r hr).pipelineKept s _ hpipe
    have hplain := poll_plain hpipe' (hfailed r hr hrt)
    rw [hown] at hplain
    have hr_visited := hvisited r (List.mem_cons_of_mem _ hr)
    rw [hrt]
    exact ⟨hplain.untouched, fun k₁ k₂ hk₁ hk₂ =>
      hplain.mark hr_visited.inStep hr_visited.hostsKnown hk₁ hk₂⟩
  · -- the component keeps its form up to the next submit
    obtain ⟨between, later, rfl⟩ := List.append_of_mem hr
    subst hs
    have hbound : r.page.BoundTo c f :=
      hafter.split.1.boundTo_of_failed hm_visited hk hi hf hgo hhandled.untouched
        (fun n hn => hfailed n (List.mem_append_left _ hn)) hlast
    have hnext := hbound.handleSubmit hk' hi' hd' hspawn e'
    rw [hre]
    unfold collectPayload at hnext ⊢
    rw [hentries, hsame] at hnext
    exact hnext
  · exact (hgo.trans (hcourse r hr)).requestOf (hm_visited.formsInOrder.known c k f hk hf) sent

/-- A request without a reply fails. -/
theorem failure_changes_nothing_else_unanswered :
    let run := trace {} [.newForm { action := "/save", method := "post" },
      .newHost [] (some 0) none false, .append 0 0, .createWith 0 {}, .attach 0,
      .handleSubmit 0 none, .run]
    ∃ before m after e n, run = before ++ m :: after ∧ m.event = .handle 0 e ∧
      (m.page.handleSubmit 0 e).2.2 = .started ∧ n ∈ after ∧ n.event = .poll 0 ∧
      n.page.verdict 0 = some (.error (.transport .noReply)) ∧
      Untouched 0 n.page (n.event.effect n.page) := by
  intro run
  have hany : (run.tails.any fun l => l.head?.any fun m =>
      m.starts 0 && m.page.pipelines.length == 0 && l.tail.any fun n =>
        n.event.isPoll 0 && n.page.verdict 0 == some (.error (.transport .noReply))) = true := by
    decide +kernel
  obtain ⟨l, hl, hfound⟩ := List.any_eq_true.mp hany
  obtain ⟨before, hrun⟩ := (List.mem_tails _ _).mp hl
  cases l with
  | nil => cases hfound
  | cons m after =>
    simp only [List.head?_cons, Option.any_some, List.tail_cons, Bool.and_eq_true,
      List.any_eq_true, beq_iff_eq] at hfound
    obtain ⟨⟨hstarts, hfirst⟩, n, hn, hpolled, hverdict⟩ := hfound
    obtain ⟨e, hm, hstarted⟩ := Moment.starts_iff.mp hstarts
    have hpolled := Event.isPoll_iff.mp hpolled
    obtain ⟨-, -, -, -, -, -, hpolls, -⟩ := failure_changes_nothing_else hrun.symm hm hstarted
      hfirst.symm hn hpolled hverdict
    exact ⟨before, m, after, e, n, hrun.symm, hm, hstarted, hn, hpolled, hverdict,
      (hpolls n hn hpolled).1⟩

/-- If removing the attribute is set to fail, the attribute stays after a failed submission. -/
theorem mark_stays_on_unless_removable :
    let p := performAll {} [.newForm { action := "/save", method := "post" },
      .newHost [] (some 0) none false, .append 0 0, .createWith 0 {}, .attach 0,
      .setFault .removeAttribute true]
    let q := (p.perform (.handleSubmit 0 none)).1
    let r := (q.perform .run).1
    p.marked 0 = false ∧ (p.handleSubmit 0 { submitter := none }).2.2 = .started ∧
      q.verdict 0 = some (.error (.transport .noReply)) ∧
      (r.component? 0).map (·.state) = some .idle ∧ r.marked 0 = true := by
  decide +kernel

end Page

end FormSwap
