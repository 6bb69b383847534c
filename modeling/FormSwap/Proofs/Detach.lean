import FormSwap.Proofs.Queue
import FormSwap.Proofs.Trace

/-!
# Detachment is final

`detach` ends a component with all its replacements: none of them is ever submitting or attached
again, or changes anything outside. Their pipelines are aborted wherever they are, and the sleeps of
these are dropped in the next run.

Main results:

- `Move.inert`: every move preserves `Inert`
- `detach_inert`: `detach` makes a component and its replacements `Inert`
- `detached_for_good`: a component that was detached in a run stays so to its end
-/

namespace FormSwap

/-- `k.Spent replacements`: `k` is idle and detached, without a form, and has these replacements. -/
structure Component.Spent (k : Component) (replacements : List ComponentId) : Prop where
  idle : k.state = .idle
  formless : k.form = none
  listenerless : k.listener = none
  detached : k.detached = true
  replacements : k.replacements = replacements

namespace Page

/-! ## Replacements -/

/-- `p.Descendant c x`: `x` is `c`, or a replacement of a descendant of `c`. -/
def Descendant (p : Page) : ComponentId → ComponentId → Prop :=
  Relation.ReflTransGen fun c r => ∃ k, p.component? c = some k ∧ r ∈ k.replacements

/-- `p.Ordered`: a replacement has a larger index than its owner. -/
def Ordered (p : Page) : Prop :=
  ∀ (c : ComponentId) (k : Component), p.component? c = some k →
    ∀ r ∈ k.replacements, c < r ∧ r < p.components.length

section Ordered

variable {p q : Page}

private theorem Ordered.of_modify (h : p.Ordered) {c : ComponentId}
    {change : Component → Component}
    (hc : q.components = p.components.modify c (Option.map change))
    (hnew : ∀ k, p.component? c = some k → ∀ r ∈ (change k).replacements,
      r ∈ k.replacements ∨ c < r ∧ r < p.components.length) : q.Ordered := by
  intro d k' hk' r hr
  rw [hc, List.length_modify]
  rw [component?_of_modify hc] at hk'
  split at hk'
  · rename_i hcd
    subst hcd
    obtain ⟨k, hk, rfl⟩ := Option.map_eq_some_iff.mp hk'
    rcases hnew k hk r hr with hold | hnew
    · exact h c k hk r hold
    · exact hnew
  · exact h d k' hk' r hr

theorem Move.ordered {kind : Kind} (move : Move kind p q) (h : p.Ordered) : q.Ordered := by
  cases move with
  | tree e =>
    obtain ⟨_, _, _, rfl⟩ := e.kept.only
    exact h
  | mark | ask | await | sleep | finishGone | dropAborted | clear | wake | advance | pollSleep
  | dropSleep | fault | mend | note | other => exact h
  | bind | unbind | rebind | replace | disconnect | start | refuse | finish =>
    exact h.of_modify rfl fun _ _ r hr => .inl hr
  | adopt hk hs hc hd hcr hr =>
    refine h.of_modify rfl fun k _ r' hr' => ?_
    rcases List.mem_append.mp hr' with hold | hnew
    · exact .inl hold
    · rw [List.mem_singleton.mp hnew]
      exact .inr ⟨hcr, hr⟩
  | create _ h' config hh =>
    intro c k hk r hr
    rw [List.length_append]
    rw [component?_of_append (p := p) rfl] at hk
    split at hk
    · cases hk
      cases hr
    · obtain ⟨hcr, hlt⟩ := h c k hk r hr
      exact ⟨hcr, Nat.lt_succ_of_lt hlt⟩
  | drop =>
    intro c k hk r hr
    rw [List.length_set]
    rw [component?_of_set_none (p := p) rfl] at hk
    split at hk
    · cases hk
    · exact h c k hk r hr

/-- `Ordered` holds on every visited page. -/
theorem Visited.ordered (h : p.Visited) : p.Ordered :=
  h.keeps (fun c k hk => by cases hk) fun _ _ _ move => move.ordered

end Ordered

/-! ## Inert components -/

/-- `p.Inert x replacements`: unless it was dropped, `x` is idle and detached, and `replacements`
are all its replacements. -/
structure Inert (p : Page) (x : ComponentId) (replacements : List ComponentId) : Prop where
  placed : x < p.components.length
  spent : ∀ k, p.component? x = some k → k.Spent replacements

section Inert

variable {p q : Page} {x : ComponentId} {replacements : List ComponentId}

/-- An `Inert` component has no live pipeline. -/
theorem Inert.not_live (h : p.Inert x replacements) (hp : p.InStep) (s : PipelineId) :
    ¬ p.LiveAt x s := by
  rintro ⟨pipe, hpipe, rfl, hlive⟩
  obtain ⟨k, hk⟩ :=
    Option.isSome_iff_exists.mp (hp.owned s pipe hpipe (Pipeline.isLive_iff.mp hlive).1)
  have hnone := hp.inFlight_of_idle hk (h.spent k hk).idle
  have hsome := (hp.flight _ k hk s).mpr ⟨pipe, hpipe, rfl, hlive⟩
  rw [hnone] at hsome
  cases hsome

private theorem Inert.of_modify (h : p.Inert x replacements) {c : ComponentId}
    {change : Component → Component}
    (hc : q.components = p.components.modify c (Option.map change))
    (hchange : ∀ k, c = x → p.component? c = some k → (change k).Spent replacements) :
    q.Inert x replacements where
  placed := by
    rw [hc, List.length_modify]
    exact h.placed
  spent k' hk' := by
    rw [component?_of_modify hc] at hk'
    split at hk'
    · rename_i hcx
      subst hcx
      obtain ⟨k, hk, rfl⟩ := Option.map_eq_some_iff.mp hk'
      exact hchange k rfl hk
    · exact h.spent k' hk'

/-- `Inert` is preserved by every move. -/
theorem Move.inert {kind : Kind} (move : Move kind p q) (hp : p.InStep)
    (h : p.Inert x replacements) :
    q.Inert x replacements := by
  cases move with
  | tree e =>
    obtain ⟨_, _, _, rfl⟩ := e.kept.only
    exact ⟨h.placed, h.spent⟩
  | mark | ask | await | sleep | finishGone | dropAborted | clear | wake | advance | pollSleep
  | dropSleep | fault | mend | note | other => exact ⟨h.placed, h.spent⟩
  | bind hk hd =>
    -- it is detached, so `bind` does not apply
    refine h.of_modify rfl fun k hcx _ => ?_
    subst hcx
    rw [(h.spent _ hk).detached] at hd
    cases hd
  | unbind hk hs | rebind hk hs | replace hk hs | adopt hk hs =>
    -- it has no exchange, so it swaps nothing
    refine h.of_modify rfl fun k hcx _ => ?_
    subst hcx
    exact absurd hs.liveAt (h.not_live hp _)
  | disconnect hk =>
    refine h.of_modify rfl fun k hcx hk' => ?_
    subst hcx
    exact ⟨rfl, rfl, rfl, rfl, (h.spent k hk').replacements⟩
  | start hk _ hf | refuse hk _ hf =>
    -- it has no form, so it starts nothing
    refine h.of_modify rfl fun k hcx _ => ?_
    subst hcx
    rw [(h.spent _ hk).formless] at hf
    cases hf
  | finish hpipe hown hlive =>
    refine h.of_modify rfl fun k hcx _ => ?_
    subst hcx
    exact absurd ⟨_, hpipe, hown, hlive⟩ (h.not_live hp _)
  | create =>
    refine ⟨by rw [List.length_append]; exact Nat.lt_succ_of_lt h.placed, fun k hk => ?_⟩
    rw [component?_of_append (p := p) rfl, if_neg (Nat.ne_of_lt h.placed)] at hk
    exact h.spent k hk
  | drop =>
    refine ⟨by rw [List.length_set]; exact h.placed, fun k hk => ?_⟩
    rw [component?_of_set_none (p := p) rfl] at hk
    split at hk
    · cases hk
    · exact h.spent k hk

theorem Inert.course {S : Kind → Prop} (h : p.Inert x replacements) (hp : p.InStep)
    (hpq : Course S p q) : q.Inert x replacements :=
  (hpq.keeps (I := fun r => r.InStep ∧ r.Inert x replacements)
    (fun _ _ _ _ move ih => ⟨move.inStep ih.1, move.inert ih.1 ih.2⟩) ⟨hp, h⟩).2

end Inert

/-! ## Detaching -/

/-- `p.replacementsOf x` lists the replacements of `x`. -/
def replacementsOf (p : Page) (x : ComponentId) : List ComponentId :=
  ((p.component? x).map (·.replacements)).getD []

/-- `p.SameReplacements q`: the same components are present, with the same replacements. -/
structure SameReplacements (p q : Page) : Prop where
  length : q.components.length = p.components.length
  replacements : ∀ d, (q.component? d).map (·.replacements) = (p.component? d).map (·.replacements)

section Detaching

variable {p q : Page} {c x : ComponentId}

/-- `detach` preserves the replacements. -/
theorem Course.sameReplacements (h : Course DetachScope p q) : p.SameReplacements q := by
  refine h.keeps (I := p.SameReplacements) (fun kind r r' hkind move ih => ?_) ⟨rfl, fun _ => rfl⟩
  cases move with
  | note => exact ⟨ih.length, ih.replacements⟩
  | disconnect hk =>
    refine ⟨(List.length_modify ..).trans ih.length, fun d => ?_⟩
    rw [← ih.replacements d, component?_of_modify (p := r) rfl]
    split
    · rw [Option.map_map]
      rfl
    · rfl
  | tree | mark | create | bind | unbind | rebind | replace | adopt | drop | start | refuse | ask
  | await | sleep | finish | finishGone | dropAborted | clear | wake | advance | pollSleep
  | dropSleep | fault | mend | other => exact hkind.elim

theorem SameReplacements.replacementsOf (h : p.SameReplacements q) (x : ComponentId) :
    q.replacementsOf x = p.replacementsOf x := by
  unfold Page.replacementsOf
  rw [h.replacements]

theorem SameReplacements.symm (h : p.SameReplacements q) : q.SameReplacements p :=
  ⟨h.length.symm, fun d => (h.replacements d).symm⟩

theorem SameReplacements.replacement (h : p.SameReplacements q) (hx : p.Descendant c x) :
    q.Descendant c x := by
  refine Relation.ReflTransGen.mono (fun d r hd => ?_) _ _ hx
  obtain ⟨k, hk, hr⟩ := hd
  have hd := h.replacements d
  rw [hk] at hd
  obtain ⟨k', hk', hsame⟩ := Option.map_eq_some_iff.mp hd
  exact ⟨k', hk', by rwa [hsame]⟩

/-- `disconnect` makes a component `Inert`. -/
private theorem disconnect_inert (hc : c < p.components.length) :
    (p.disconnect c).Inert c (p.replacementsOf c) := by
  cases hk : p.component? c with
  | none =>
    rw [disconnect_of_none hk]
    refine ⟨hc, fun k hk' => ?_⟩
    rw [hk] at hk'
    cases hk'
  | some k =>
    obtain ⟨notices, heq⟩ := disconnect_eq hk
    rw [heq]
    refine ⟨by rw [List.length_modify]; exact hc, fun k' hk' => ?_⟩
    rw [component?_of_modify (p := p) rfl, if_pos rfl, hk] at hk'
    cases hk'
    exact ⟨rfl, rfl, rfl, rfl,
      by simp [Page.replacementsOf, hk, Component.madeIdle, Component.retired]⟩

/-- `Inert` holds after detaching several components if it does after one of them. -/
private theorem foldl_inert {n : Nat} {l : List ComponentId} {r : ComponentId}
    {replacements : List ComponentId} (hr : r ∈ l) (hp : p.InStep)
    (hdone : ∀ q, Course DetachScope p q → (detachWithin n q r).Inert x replacements) :
    (l.foldl (detachWithin n) p).Inert x replacements := by
  induction l generalizing p with
  | nil => cases hr
  | cons d rest ih =>
    have hstep : Course DetachScope p (detachWithin n p d) := detachWithin_course n p d
    rcases List.mem_cons.mp hr with rfl | hrest
    · -- `Inert` after this step, and the later detachments preserve it
      exact (hdone p (.refl p)).course (hp.course hstep)
        (.foldl (S := DetachScope) (fun q d _ => detachWithin_course n q d) _)
    · exact ih hrest (hp.course hstep) fun q hq => hdone q (hstep.trans hq)

/-- `detachWithin` makes all descendants `Inert` if it goes as many levels deep as there are later
components. -/
theorem detachWithin_inert {n : Nat} (hp : p.InStep) (ho : p.Ordered)
    (hc : c < p.components.length) (hn : p.components.length ≤ n + c) (hx : p.Descendant c x) :
    (detachWithin n p c).Inert x (p.replacementsOf x) := by
  induction n generalizing p c with
  | zero => exact absurd hc (Nat.not_lt.mpr (by simpa using hn))
  | succ n ih =>
    rw [detachWithin]
    cases hk : p.component? c with
    | none =>
      -- a component that is not present has no descendants but itself
      have hxc : x = c := by
        rcases Relation.ReflTransGen.cases_head hx with rfl | ⟨r, ⟨k, hk', -⟩, -⟩
        · rfl
        · rw [hk] at hk'
          cases hk'
      subst hxc
      refine ⟨hc, fun k hk' => ?_⟩
      rw [hk] at hk'
      cases hk'
    | some k =>
      have hgone := disconnect_course p c
      have hp' := hp.course hgone
      have hcascade : Course DetachScope (p.disconnect c)
          (k.replacements.foldl (detachWithin n) (p.disconnect c)) :=
        .foldl (fun q r _ => detachWithin_course n q r) _
      have hfold : (k.replacements.foldl (detachWithin n) (p.disconnect c)).Inert x
          (p.replacementsOf x) := by
        rcases Relation.ReflTransGen.cases_head hx with rfl | ⟨r, ⟨k', hk', hr⟩, hrx⟩
        · exact (disconnect_inert hc).course hp' hcascade
        · rw [hk] at hk'
          cases hk'
          -- the replacement has a larger index than its owner, so one level less suffices
          obtain ⟨hcr, hrl⟩ := ho c k hk r hr
          refine foldl_inert hr hp' fun q hq => ?_
          have hpq := hgone.trans hq
          have hsame := hpq.sameReplacements
          refine hsame.replacementsOf x ▸ ih (hp.course hpq)
            (hpq.keeps (I := Ordered) (fun _ _ _ _ move => move.ordered) ho)
            (by rw [hsame.length]; exact hrl) ?_ (hsame.replacement hrx)
          rw [hsame.length]
          refine Nat.le_trans hn ?_
          rw [Nat.add_right_comm]
          exact Nat.add_le_add_left hcr n
      dsimp only
      split
      · exact hfold
      · exact hfold.course ((hp'.course hcascade)) (note_course (S := DetachScope) trivial _ _)

/-- `detach` makes all descendants `Inert`. -/
theorem detach_inert (hp : p.InStep) (ho : p.Ordered) (hc : c < p.components.length)
    (hx : p.Descendant c x) : (p.detach c).Inert x (p.replacementsOf x) :=
  detachWithin_inert hp ho hc (Nat.le_add_right _ _) hx

end Detaching

/-! ## Inert components do nothing -/

section Silence

variable {p q : Page} {x : ComponentId} {replacements : List ComponentId}

/-- `attach` of an `Inert` component fails. -/
theorem Inert.attach (h : p.Inert x replacements) : p.attach x = .error .detached := by
  unfold Page.attach
  cases hk : p.component? x with
  | none => rfl
  | some k => simp [(h.spent k hk).detached]

/-- An event of an `Inert` component preserves documents, hosts and the transport. -/
theorem Inert.effect (h : p.Inert x replacements) (hp : p.InStep) {e : Event}
    (ha : e.actor p = some x) :
    (e.effect p).documents = p.documents ∧ (e.effect p).hosts = p.hosts ∧
      (e.effect p).transport = p.transport := by
  cases e with
  | attach c =>
    cases ha
    simp [Event.effect, h.attach]
  | handle c e =>
    cases ha
    cases hk : p.component? x with
    | none => simp [Event.effect, handleSubmit, hk]
    | some k =>
      obtain ⟨hidle, hform, -⟩ := h.spent k hk
      simp [Event.effect, handleSubmit, hk, hidle, hform, note]
  | disconnect c =>
    cases ha
    simp only [Event.effect]
    cases hk : p.component? x with
    | none => simp [disconnect, hk]
    | some k =>
      obtain ⟨notices, heq⟩ := disconnect_eq hk
      rw [heq]
      simp [(h.spent k hk).idle]
  | poll s =>
    simp only [Event.effect]
    obtain ⟨pipe, hpipe, hown⟩ := Option.map_eq_some_iff.mp ha
    unfold poll
    rw [hpipe]
    dsimp only
    split
    · unfold dropAborted
      cases pipe.stage <;> exact ⟨rfl, rfl, rfl⟩
    · -- a pipeline that was not aborted has ended
      rename_i hnot
      have hfinished : pipe.stage = .finished := by
        cases hstage : pipe.stage with
        | finished => rfl
        | _ =>
          refine absurd ⟨pipe, hpipe, hown, ?_⟩ (h.not_live hp s)
          simp [Pipeline.isLive, Pipeline.isOpen, hstage, hnot]
      rw [hfinished]
      exact ⟨rfl, rfl, rfl⟩
  | detached | done => cases ha

/-- `p.Silent x`: all pipelines of `x` have ended. -/
def Silent (p : Page) (x : ComponentId) : Prop :=
  ∀ (s : PipelineId) (pipe : Pipeline), p.pipelines[s]? = some pipe → pipe.owner = x →
    pipe.isOpen = false

private theorem Silent.of_modify (h : p.Silent x) {s : PipelineId}
    {change : Pipeline → Pipeline} (hs : q.pipelines = p.pipelines.modify s change)
    (howner : ∀ pipe, (change pipe).owner = pipe.owner)
    (hopen : ∀ pipe, p.pipelines[s]? = some pipe → pipe.isOpen = false →
      (change pipe).isOpen = false) : q.Silent x := by
  intro t pipe hpipe hown
  rw [hs, List.getElem?_modify] at hpipe
  obtain ⟨old, hold, rfl⟩ := Option.map_eq_some_iff.mp hpipe
  by_cases hst : s = t
  · subst hst
    simp only [if_true, howner] at hown ⊢
    exact hopen old hold (h s old hold hown)
  · simp only [hst, if_false] at hown ⊢
    exact h t old hold hown

/-- `Silent` is preserved by every move, for an `Inert` component. -/
theorem Move.silent {kind : Kind} (move : Move kind p q) (hi : p.Inert x replacements)
    (h : p.Silent x) : q.Silent x := by
  cases move with
  | tree e =>
    obtain ⟨_, _, _, rfl⟩ := e.kept.only
    exact h
  | mark | create | bind | unbind | rebind | replace | adopt | drop | refuse | ask | clear | wake
  | advance | pollSleep | dropSleep | fault | mend | note | other => exact h
  | @disconnect _ _ k =>
    cases hf : k.inFlight with
    | none => exact h
    | some t => exact h.of_modify rfl (fun _ => rfl) fun _ _ ho => ho
  | start hk _ hf =>
    intro s pipe hpipe hown
    simp only [List.getElem?_append] at hpipe
    split at hpipe
    · exact h s pipe hpipe hown
    · -- it has no form, so it starts nothing
      cases List.mem_singleton.mp (List.mem_of_getElem? hpipe)
      cases hown
      rw [(hi.spent _ hk).formless] at hf
      cases hf
  | await hs =>
    obtain ⟨pipe, hpipe, -, hlive⟩ := hs.liveAt
    refine h.of_modify rfl (fun _ => rfl) fun pipe' hpipe' ho => ?_
    rw [hpipe] at hpipe'
    cases hpipe'
    simp [Pipeline.isLive, ho] at hlive
  | sleep hpipe _ hlive =>
    refine h.of_modify rfl (fun _ => rfl) fun pipe' hpipe' ho => ?_
    rw [hpipe] at hpipe'
    cases hpipe'
    simp [Pipeline.isLive, ho] at hlive
  | finish | finishGone | dropAborted => exact h.of_modify rfl (fun _ => rfl) fun _ _ _ => rfl

theorem Silent.course {S : Kind → Prop} (h : p.Silent x) (hi : p.Inert x replacements)
    (hp : p.InStep)
    (hpq : Course S p q) : q.Silent x :=
  (hpq.keeps (I := fun r => r.InStep ∧ r.Inert x replacements ∧ r.Silent x)
    (fun _ _ _ _ move ih => ⟨move.inStep ih.1, move.inert ih.1 ih.2.1, move.silent ih.2.1 ih.2.2⟩)
    ⟨hp, hi, h⟩).2.2

/-- A `Silent` component has no pending sleep. -/
theorem Silent.not_sleeping (h : p.Silent x) (hp : p.WakersKnown) {w : Waiter}
    (hw : w ∈ p.clock.waiters) {s : PipelineId} (hs : w.waker = some s) {pipe : Pipeline}
    (hpipe : p.pipelines[s]? = some pipe) : pipe.owner ≠ x := by
  intro hown
  obtain ⟨pipe', sleep, hpipe', hstage, -⟩ := hp w hw s hs
  rw [hpipe] at hpipe'
  cases hpipe'
  have hover := h s pipe hpipe hown
  simp [Pipeline.isOpen, hstage] at hover

/-- After a run an `Inert` component is `Silent`. -/
theorem Inert.silent_of_run (h : (p.perform .run).1.Inert x replacements) (hp : p.Reachable) :
    (p.perform .run).1.Silent x := by
  intro s pipe hpipe hown
  refine Bool.eq_false_iff.mpr fun hopen => ?_
  have hdue := perform_run_due hp.dueQueued hpipe
  refine h.not_live (hp.perform .run).visited.inStep s ⟨pipe, hpipe, hown, ?_⟩
  simp only [Pipeline.isDue, hopen, Bool.true_and, Bool.or_eq_false_iff] at hdue
  simp [Pipeline.isLive, hopen, hdue.1]

end Silence

/-! ## Detachment in a run -/

/-- A component that was detached in a run stays idle and unattached to the end of the run, and
cannot be attached; so do all its descendants. None of them gets a further replacement, and no event
of theirs changes a document, a host or the transport. After the next run none of them has a pending
sleep. This holds at whatever stage its pipeline was when it was detached. -/
theorem detached_for_good {actions : List Action} {before after : List Moment} {m : Moment}
    {c x : ComponentId} (hrun : trace {} actions = before ++ m :: after)
    (hm : m.event = .detached c) (hthere : (m.page.component? c).isSome = true)
    (hx : m.page.Descendant c x) :
    (∀ n ∈ after,
      (∀ k, n.page.component? x = some k → k.state = .idle ∧ k.form = none ∧
        k.listener = none ∧ k.replacements = m.page.replacementsOf x) ∧
      n.page.attach x = .error .detached ∧
      (n.event.actor n.page = some x →
        (n.event.effect n.page).documents = n.page.documents ∧
        (n.event.effect n.page).hosts = n.page.hosts ∧
        (n.event.effect n.page).transport = n.page.transport)) ∧
    ∀ between r later, after = between ++ r :: later → r.event = .done .run →
      ∀ n ∈ r :: later, ∀ w ∈ n.page.clock.waiters, ∀ s pipe, w.waker = some s →
        n.page.pipelines[s]? = some pipe → pipe.owner ≠ x := by
  have hmem : ∀ n ∈ m :: after, n ∈ trace {} actions := fun n hn => by
    rw [hrun]
    exact List.mem_append_right _ hn
  have hstep : ∀ n ∈ m :: after, n.page.InStep := fun n hn =>
    (visited_of_mem (hmem n hn)).inStep
  have hafter : ∀ n ∈ after, Course (fun _ => True) m.page n.page := fun n hn => by
    have hcourse := course_of_trace hrun hn
    rwa [hm] at hcourse
  -- the descendants are those before the detachment, which adds none
  have hinert : m.page.Inert x (m.page.replacementsOf x) := by
    obtain ⟨q, hq, hpage⟩ := detached_of_mem (hmem m (by simp)) hm
    have hsame : q.SameReplacements m.page := hpage ▸ (detachWithin_course _ q c).sameReplacements
    obtain ⟨k, hk⟩ := Option.isSome_iff_exists.mp hthere
    have hplaced : c < q.components.length := hsame.length ▸ lt_of_component? hk
    have hdone := detach_inert (Visited.inStep hq) (Visited.ordered hq) hplaced
      (hsame.symm.replacement hx)
    rwa [← hpage, ← hsame.replacementsOf] at hdone
  have hlater : ∀ n ∈ after, n.page.Inert x (m.page.replacementsOf x) := fun n hn =>
    hinert.course (hstep m (by simp)) (hafter n hn)
  refine ⟨fun n hn => ⟨fun k hk => ?_, (hlater n hn).attach, ?_⟩, ?_⟩
  · obtain ⟨hidle, hform, hlistener, -, hreplacements⟩ := (hlater n hn).spent k hk
    exact ⟨hidle, hform, hlistener, hreplacements⟩
  · exact (hlater n hn).effect (hstep n (by simp [hn]))
  · rintro between r later rfl hr n hn w hw s pipe hs hpipe
    have hr_mem : r ∈ between ++ r :: later := List.mem_append_right _ (by simp)
    have hn_mem : n ∈ between ++ r :: later := List.mem_append_right _ hn
    -- the run has ended all its pipelines, and an `Inert` component starts no other one
    have hsilent : r.page.Silent x := by
      obtain ⟨earlier, hpage⟩ := done_of_mem (hmem r (List.mem_cons_of_mem _ hr_mem)) hr
      have hthen := hlater r hr_mem
      rw [hpage] at hthen ⊢
      exact hthen.silent_of_run ⟨earlier, rfl⟩
    have hfrom : Course (fun _ => True) r.page n.page := by
      rcases List.mem_cons.mp hn with rfl | hn
      · exact .refl _
      · have hrun' : trace {} actions = (before ++ m :: between) ++ r :: later := by simp [hrun]
        have hcourse := course_of_trace hrun' hn
        rwa [hr] at hcourse
    have hknown : n.page.WakersKnown :=
      (visited_of_mem (hmem n (List.mem_cons_of_mem _ hn_mem))).wakersKnown
    exact (hsilent.course (hlater r hr_mem)
      (hstep r (List.mem_cons_of_mem _ hr_mem)) hfrom).not_sleeping hknown hw hs hpipe

/-- A component that is detached while its pipeline is pending on the response does nothing when the
response is delivered. -/
theorem detached_for_good_awaiting :
    let run := trace {} [.defer, .newForm { action := "/save", method := "post" },
      .newHost [] (some 0) none false, .append 0 0, .createWith 0 {}, .attach 0,
      .handleSubmit 0 none, .run, .detach 0, .deliver 0 (.ok ⟨.ok, "<p>Saved</p>"⟩), .run]
    ∃ before m after, run = before ++ m :: after ∧ m.event = .detached 0 ∧
      ∀ n ∈ after, n.page.attach 0 = .error .detached ∧
        (n.event.actor n.page = some 0 → (n.event.effect n.page).hosts = n.page.hosts) := by
  intro run
  have hany : run.any (fun m => match m.event with
      | .detached c => c == 0 && (m.page.component? 0).isSome
      | _ => false) = true := by decide +kernel
  obtain ⟨m, hm, hmatch⟩ := List.any_eq_true.mp hany
  obtain ⟨before, after, hrun⟩ := List.append_of_mem hm
  split at hmatch
  · rename_i c hc
    obtain ⟨h0, hthere⟩ := Bool.and_eq_true_iff.mp hmatch
    rw [beq_iff_eq] at h0
    subst h0
    refine ⟨before, m, after, hrun, hc, fun n hn => ?_⟩
    obtain ⟨-, hattach, hquiet⟩ := (detached_for_good hrun hc hthere .refl).1 n hn
    exact ⟨hattach, fun ha => (hquiet ha).2.1⟩
  · cases hmatch

end Page

end FormSwap
