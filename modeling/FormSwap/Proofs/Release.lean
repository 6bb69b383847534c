import FormSwap.Proofs.Detach
import FormSwap.Proofs.Failure

/-!
# Released components

A component is released when it is detached, or when a response replaces its host. In the second
case its pipeline goes on to the end of the settle delay. A released component has no form, gets
none any more, and so swaps nothing.

Main results:

- `Move.changed`: the possible changes of a component by a move
- `Move.flagsInStep`: a released component has no form, and no pipeline that could bind one
- `Move.swappedOut`: a component whose host was replaced does not change any more
- `released_for_good`: the host of a component is replaced at most once
-/

namespace FormSwap

/-- `k.FlagInStep`: the `detached` flag of `k` agrees with its other fields. -/
structure Component.FlagInStep (k : Component) : Prop where
  formless : k.detached = true → k.form = none
  listenerless : k.detached = true → k.listener = none
  /-- Only an inner swap could bind it to a form again. -/
  unswapped : k.detached = true → k.config.swap = .inner → k.inFlight = none
  unreplaced : k.detached = false → k.replacements = []

namespace Page

/-! ## Changes of a component -/

/-- `Changed kind p c k k'`: a move of the kind on `p` may change the component `c` from `k` to
`k'`. -/
inductive Changed (kind : Kind) (p : Page) (c : ComponentId) (k : Component) :
    Component → Prop where
  | same : Changed kind p c k k
  | bound (f : FormId) (l : ListenerRef) (hd : k.detached = false) :
    Changed kind p c k (k.bound f l)
  | unbound : Changed kind p c k k.unbound
  | rebound {s : PipelineId} (f : FormId) (l : ListenerRef) (hs : p.Exchanging c s)
      (hc : k.config.swap = .inner) : Changed kind p c k (k.bound f l)
  | retired (hc : k.config.swap = .outer) : Changed kind p c k k.retired
  | replacedBy {s : PipelineId} (r : ComponentId) (hkind : kind = .adopt c r)
      (hs : p.Exchanging c s) (hc : k.config.swap = .outer) (hd : k.detached = true) :
    Changed kind p c k (k.replacedBy r)
  | disconnected : Changed kind p c k k.retired.madeIdle
  | busy {f : FormId} (s : PipelineId) (hf : k.form = some f) : Changed kind p c k (k.busy s)
  | madeIdle : Changed kind p c k k.madeIdle

section Changed

variable {kind : Kind} {p q : Page} {c d : ComponentId} {k k' : Component}

private theorem changed_of_modify {change : Component → Component}
    (hc : q.components = p.components.modify c (Option.map change))
    (hchange : ∀ k, p.component? c = some k → Changed kind p c k (change k))
    (hk' : q.component? d = some k') :
    ∃ k, p.component? d = some k ∧ Changed kind p d k k' := by
  rw [component?_of_modify hc] at hk'
  split at hk'
  · rename_i hcd
    subst hcd
    obtain ⟨k, hk, rfl⟩ := Option.map_eq_some_iff.mp hk'
    exact ⟨k, hk, hchange k hk⟩
  · exact ⟨k', hk', .same⟩

/-- A component after a move was present before and has `Changed`, or is new. -/
theorem Move.changed (move : Move kind p q) (hk' : q.component? d = some k') :
    (∃ k, p.component? d = some k ∧ Changed kind p d k k') ∨
      d = p.components.length ∧ ∃ h config, k' = { host := h, config } := by
  cases move with
  | tree e =>
    rw [e.kept.component?] at hk'
    exact .inl ⟨k', hk', .same⟩
  | mark | ask | await | sleep | finishGone | dropAborted | clear | wake | advance | pollSleep
  | dropSleep | fault | mend | note | other => exact .inl ⟨k', hk', .same⟩
  | create _ h config =>
    rw [component?_of_append (p := p) rfl] at hk'
    split at hk'
    · rename_i hd
      cases hk'
      exact .inr ⟨hd, h, config, rfl⟩
    · exact .inl ⟨k', hk', .same⟩
  | drop =>
    rw [component?_of_set_none (p := p) rfl] at hk'
    split at hk'
    · cases hk'
    · exact .inl ⟨k', hk', .same⟩
  | bind hk hd =>
    refine .inl (changed_of_modify rfl (fun k₀ hk₀ => ?_) hk')
    rw [hk] at hk₀
    cases hk₀
    exact .bound _ _ hd
  | unbind => exact .inl (changed_of_modify rfl (fun _ _ => .unbound) hk')
  | rebind hk hs hc =>
    refine .inl (changed_of_modify rfl (fun k₀ hk₀ => ?_) hk')
    rw [hk] at hk₀
    cases hk₀
    exact .rebound _ _ hs hc
  | replace hk _ hc =>
    refine .inl (changed_of_modify rfl (fun k₀ hk₀ => ?_) hk')
    rw [hk] at hk₀
    cases hk₀
    exact .retired hc
  | adopt hk hs hc hd =>
    refine .inl (changed_of_modify rfl (fun k₀ hk₀ => ?_) hk')
    rw [hk] at hk₀
    cases hk₀
    exact .replacedBy _ rfl hs hc hd
  | disconnect => exact .inl (changed_of_modify rfl (fun _ _ => .disconnected) hk')
  | start hk _ hf =>
    refine .inl (changed_of_modify rfl (fun k₀ hk₀ => ?_) hk')
    rw [hk] at hk₀
    cases hk₀
    exact .busy _ hf
  | refuse | finish => exact .inl (changed_of_modify rfl (fun _ _ => .madeIdle) hk')

end Changed

/-! ## The detached flag -/

/-- `p.FlagsInStep`: `FlagInStep` of every component. -/
def FlagsInStep (p : Page) : Prop :=
  ∀ (c : ComponentId) (k : Component), p.component? c = some k → k.FlagInStep

section Flags

variable {kind : Kind} {p q : Page} {c : ComponentId} {k k' : Component}

/-- A component with the inner swap mode that is `Exchanging` is not detached. -/
theorem InStep.attachable (hp : p.InStep) (hk : p.component? c = some k) (h : k.FlagInStep)
    {s : PipelineId} (hs : p.Exchanging c s) (hc : k.config.swap = .inner) :
    k.detached = false := by
  refine Bool.eq_false_iff.mpr fun hd => ?_
  have hsome := (hp.flight c k hk s).mpr hs.liveAt
  rw [h.unswapped hd hc] at hsome
  cases hsome

theorem Changed.flagInStep (h : Changed kind p c k k') (hp : p.InStep)
    (hk : p.component? c = some k) (hflag : k.FlagInStep) : k'.FlagInStep := by
  -- a change that keeps `detached` false has nothing to show
  have hdown (hd : k.detached = false) (hd' : k'.detached = k.detached)
      (hr : k'.replacements = k.replacements) : k'.FlagInStep := by
    rw [hd] at hd'
    have hnot : k'.detached ≠ true := by simp [hd']
    exact ⟨fun h => absurd h hnot, fun h => absurd h hnot, fun h => absurd h hnot,
      fun _ => hr.trans (hflag.unreplaced hd)⟩
  cases h with
  | same => exact hflag
  | bound f l hd => exact hdown hd rfl rfl
  | unbound => exact ⟨fun _ => rfl, fun _ => rfl, hflag.unswapped, hflag.unreplaced⟩
  | rebound f l hs hc => exact hdown (hp.attachable hk hflag hs hc) rfl rfl
  | retired hc =>
    refine ⟨fun _ => rfl, fun _ => rfl, fun _ hinner => ?_, nofun⟩
    rw [show k.retired.config.swap = .outer from hc] at hinner
    cases hinner
  | replacedBy r _ _ _ hd =>
    refine ⟨hflag.formless, hflag.listenerless, hflag.unswapped, fun hd' => ?_⟩
    rw [show (k.replacedBy r).detached = true from hd] at hd'
    cases hd'
  | disconnected => exact ⟨fun _ => rfl, fun _ => rfl, fun _ _ => rfl, nofun⟩
  | busy s hf =>
    -- it has a form, so it was not released
    refine hdown (Bool.eq_false_iff.mpr fun hd => ?_) rfl rfl
    rw [hflag.formless hd] at hf
    cases hf
  | madeIdle => exact ⟨hflag.formless, hflag.listenerless, fun _ _ => rfl, hflag.unreplaced⟩

/-- `FlagsInStep` is preserved by every move. -/
theorem Move.flagsInStep (move : Move kind p q) (hp : p.InStep) (h : p.FlagsInStep) :
    q.FlagsInStep := by
  intro c k' hk'
  rcases move.changed hk' with ⟨k, hk, hchanged⟩ | ⟨-, _, _, rfl⟩
  · exact hchanged.flagInStep hp hk (h c k hk)
  · exact ⟨nofun, nofun, nofun, fun _ => rfl⟩

/-- `FlagsInStep` holds on every visited page. -/
theorem Visited.flagsInStep (h : p.Visited) : p.FlagsInStep :=
  (h.keeps (I := fun q => q.InStep ∧ q.FlagsInStep)
    ⟨Visited.inStep (.refl _), fun c k hk => by cases hk⟩
    fun _ _ _ move ih => ⟨move.inStep ih.1, move.flagsInStep ih.1 ih.2⟩).2

/-- `p.Released c`: unless it was dropped, `c` is detached. -/
structure Released (p : Page) (c : ComponentId) : Prop where
  placed : c < p.components.length
  flag : ∀ k, p.component? c = some k → k.detached = true

/-- `Released` is preserved by every move. -/
theorem Move.released (move : Move kind p q) (h : p.Released c) : q.Released c where
  placed := Nat.lt_of_lt_of_le h.placed move.components_le
  flag k' hk' := by
    rcases move.changed hk' with ⟨k, hk, hchanged⟩ | ⟨hnew, -⟩
    · have hd := h.flag k hk
      cases hchanged with
      | same | unbound | replacedBy | busy | madeIdle => exact hd
      | bound | rebound => exact hd
      | retired | disconnected => rfl
    · exact absurd hnew (Nat.ne_of_lt h.placed)

theorem Released.course {S : Kind → Prop} (h : p.Released c) (hpq : Course S p q) :
    q.Released c :=
  hpq.keeps (fun _ _ _ _ move => move.released) h

/-- `attach` of a released component fails. -/
theorem Released.attach (h : p.Released c) : p.attach c = .error .detached := by
  unfold Page.attach
  cases hk : p.component? c with
  | none => rfl
  | some k => simp [h.flag k hk]

/-- `handleSubmit` of a released component ignores the event. -/
theorem Released.handleSubmit (h : p.Released c) (hp : p.FlagsInStep) (e : SubmitEvent) :
    (p.handleSubmit c e).2.2 = .ignored := by
  by_contra hstarted
  have hstarted : (p.handleSubmit c e).2.2 = .started := by
    cases hd : (p.handleSubmit c e).2.2 with
    | started => rfl
    | ignored => exact absurd hd hstarted
  obtain ⟨k, f, hk, -, hf, -⟩ := handleSubmit_started hstarted
  rw [(hp c k hk).formless (h.flag k hk)] at hf
  cases hf

end Flags

/-! ## Replaced hosts -/

/-- `p.SwappedOut c replacements`: `c` is released with these replacements, and has no `Exchanging`
pipeline. -/
structure SwappedOut (p : Page) (c : ComponentId) (replacements : List ComponentId) : Prop
    extends Released p c where
  replacements : ∀ k, p.component? c = some k → k.replacements = replacements
  quiet : ∀ s, ¬ p.Exchanging c s

section SwappedOut

variable {kind : Kind} {p q : Page} {c : ComponentId} {replacements : List ComponentId}
  {s : PipelineId}

/-- An old pipeline that is `Exchanging` after a move was so before. -/
theorem Move.exchanging_of_lt (move : Move kind p q) (hs : s < p.pipelines.length)
    (h : q.Exchanging c s) : p.Exchanging c s := by
  obtain ⟨pipe', hpipe', hown, ha, hstage⟩ := h
  obtain ⟨sub'', hsub'', honward⟩ := move.pipelineKept s _ (List.getElem?_eq_getElem hs)
  rw [hpipe'] at hsub''
  cases hsub''
  have hlive' : pipe'.isLive = true := by
    obtain ⟨pipe, hpipe, -, hlive⟩ := Exchanging.liveAt ⟨pipe', hpipe', hown, ha, hstage⟩
    rw [hpipe'] at hpipe
    cases hpipe
    exact hlive
  have hlive := honward.live hlive'
  refine ⟨p.pipelines[s], List.getElem?_eq_getElem hs, honward.owner.symm.trans hown, ?_, ?_⟩
  · exact (Pipeline.isLive_iff.mp hlive).2
  · exact Stage.isExchange_iff.mpr (Nat.le_trans honward.rank (Stage.isExchange_iff.mp hstage))

/-- A new `Exchanging` pipeline belongs to a component with a form. -/
theorem Move.exchanging (move : Move kind p q) (h : q.Exchanging c s) :
    p.Exchanging c s ∨ ∃ k f, p.component? c = some k ∧ k.form = some f := by
  by_cases hs : s < p.pipelines.length
  · exact .inl (move.exchanging_of_lt hs h)
  · have hlt : s < q.pipelines.length := by
      obtain ⟨pipe, hpipe, -⟩ := h
      exact (List.getElem?_eq_some_iff.mp hpipe).1
    have hsame (hl : q.pipelines.length = p.pipelines.length) : False := hs (hl ▸ hlt)
    cases move with
    | tree e =>
      obtain ⟨_, _, _, rfl⟩ := e.kept.only
      exact (hsame rfl).elim
    | mark | create | bind | unbind | rebind | replace | adopt | drop | refuse | ask | clear
    | wake | advance | pollSleep | dropSleep | fault | mend | note | other => exact (hsame rfl).elim
    | await | sleep | finish | finishGone | dropAborted =>
      exact (hsame (List.length_modify ..)).elim
    | @disconnect _ _ k =>
      refine (hsame ?_).elim
      cases hf : k.inFlight with
      | none => rfl
      | some t => exact List.length_modify ..
    | start hk _ hf =>
      obtain ⟨pipe, hpipe, hown, -⟩ := h
      simp only [List.getElem?_append, if_neg hs] at hpipe
      cases List.mem_singleton.mp (List.mem_of_getElem? hpipe)
      cases hown
      exact .inr ⟨_, _, hk, hf⟩

/-- `SwappedOut` is preserved by every move. -/
theorem Move.swappedOut (move : Move kind p q) (hp : p.FlagsInStep)
    (h : p.SwappedOut c replacements) :
    q.SwappedOut c replacements where
  toReleased := move.released h.toReleased
  replacements k' hk' := by
    rcases move.changed hk' with ⟨k, hk, hchanged⟩ | ⟨hnew, -⟩
    · have hreplacements := h.replacements k hk
      cases hchanged with
      | same | unbound | retired | disconnected | busy | madeIdle => exact hreplacements
      | bound | rebound => exact hreplacements
      | replacedBy _ _ hs => exact absurd hs (h.quiet _)
    · exact absurd hnew (Nat.ne_of_lt h.placed)
  quiet s hs := by
    rcases move.exchanging hs with hbefore | ⟨k, f, hk, hf⟩
    · exact h.quiet s hbefore
    · rw [(hp c k hk).formless (h.flag k hk)] at hf
      cases hf

theorem SwappedOut.course {S : Kind → Prop} (h : p.SwappedOut c replacements) (hp : p.Visited)
    (hpq : Course S p q) : q.SwappedOut c replacements :=
  (hpq.keeps (I := fun r => (r.InStep ∧ r.FlagsInStep) ∧ r.SwappedOut c replacements)
    (fun _ _ _ _ move ih => ⟨⟨move.inStep ih.1.1, move.flagsInStep ih.1.1 ih.1.2⟩,
      move.swappedOut ih.1.2 ih.2⟩) ⟨⟨hp.inStep, hp.flagsInStep⟩, h⟩).2

/-- `swapOuter` releases its component. -/
theorem swapOuter_released {k : Component} {h : HostId} {body : String} {n : Notification}
    (hk : p.component? c = some k) (hs : p.Exchanging c s) (hc : k.config.swap = .outer)
    (hq : p.swapOuter c h body n = .ok q) : q.Released c := by
  unfold swapOuter at hq
  split at hq
  · cases hq
  rename_i r hr
  cases hq
  obtain ⟨hkept, hnew⟩ := setOuterHtml_kept hr
  have hk' : r.page.component? c = some k := (hkept.component? c).trans hk
  rw [retire_eq hk']
  -- the component is released first; the later steps preserve that
  have hcomponent : ({ r.page with
      forms := r.page.formsWithout k.listener
      components := r.page.components.modify c (Option.map Component.retired) } : Page).component?
        c = some k.retired := by
    rw [component?_of_modify (p := r.page) rfl, if_pos rfl, hk']
    rfl
  have hreleased : ({ r.page with
      forms := r.page.formsWithout k.listener
      components := r.page.components.modify c (Option.map Component.retired) } : Page).Released
        c := by
    refine ⟨lt_of_component? hcomponent, fun k₁ hk₁ => ?_⟩
    rw [hcomponent] at hk₁
    cases hk₁
    rfl
  have hadopt := adopt_course (m := 0) hcomponent (hkept.exchanging hs) hc rfl hnew
    (Nat.zero_le _)
  exact (hreleased.course hadopt).course (S := fun _ => True)
    (.move (.tree (.dispatchDocument _ _ _)) trivial)

/-- A poll that replaces the host of a component releases the component. -/
theorem poll_released {pipe : Pipeline} {k : Component} {n : Nat}
    (hpipe : p.pipelines[s]? = some pipe) (hk : p.component? pipe.owner = some k)
    (hc : k.config.swap = .outer) (hok : p.verdict s = some (.ok n)) :
    (p.poll s).Released pipe.owner := by
  obtain ⟨payload, response, transport, q, h⟩ := poll_succeeds hpipe hok
  have hs := h.exchanging
  obtain ⟨pipe', hpipe', -, ha, hstage⟩ := hs
  rw [hpipe] at hpipe'
  cases hpipe'
  have hq := h.applied
  -- the swap preserves the pipeline
  have hkept : q.pipelines[s]? = some pipe := by
    rw [(applyResponse_course (p := { p with transport }) h.exchanging hq).pipelines_eq]
    exact hpipe
  have hlive : pipe.isLive = true := by
    obtain ⟨pipe', hpipe', -, hlive⟩ := h.exchanging.liveAt
    rw [hpipe] at hpipe'
    cases hpipe'
    exact hlive
  have hreleased : q.Released pipe.owner := by
    unfold applyResponse at hq
    rw [show ({ p with transport } : Page).component? pipe.owner = some k from hk] at hq
    dsimp only at hq
    rw [hc] at hq
    split at hq
    · split at hq
      · rename_i hswap
        cases hq
        exact swapOuter_released (p := { p with transport }) hk h.exchanging hc hswap
      · cases hq
    · cases hq
  rw [h.polled]
  exact hreleased.course (conclude_course 0 0 hkept hlive hstage _)

/-- After the verdict of a pipeline, its component has no `Exchanging` pipeline. -/
theorem poll_quiet {pipe : Pipeline} {n : Nat} (hp : p.InStep)
    (hpipe : p.pipelines[s]? = some pipe) (hok : p.verdict s = some (.ok n)) (t : PipelineId) :
    ¬ (p.poll s).Exchanging pipe.owner t := by
  rintro ⟨pipe', hpipe', hown, ha, hstage⟩
  by_cases hts : t = s
  · -- it is past its exchange
    subst hts
    obtain ⟨sub'', hsub'', hrank⟩ := poll_reached hok
    rw [hpipe'] at hsub''
    cases hsub''
    have hle := Stage.isExchange_iff.mp hstage
    omega
  · -- it was present before, when the other one was live
    rw [(poll_polledAt p s).others t hts] at hpipe'
    exact hts (hp.live_unique (Exchanging.liveAt ⟨pipe', hpipe', hown, ha, hstage⟩)
      (exchanging_of_verdict hpipe hok).liveAt)

end SwappedOut

/-! ## Swaps in a run -/

/-- `m.swapsOut c`: a response replaces the host of `c` at the moment `m`. -/
def Moment.swapsOut (c : ComponentId) (m : Moment) : Bool :=
  match m.event with
  | .poll s => m.event.actor m.page == some c &&
      (m.page.component? c).any (fun k => k.config.swap == .outer) &&
      (m.page.verdict s).any (·.isOk)
  | _ => false

theorem Moment.swapsOut_iff {c : ComponentId} {m : Moment} :
    m.swapsOut c = true ↔ ∃ s pipe k n, m.event = .poll s ∧ m.page.pipelines[s]? = some pipe ∧
      pipe.owner = c ∧ m.page.component? c = some k ∧ k.config.swap = .outer ∧
      m.page.verdict s = some (.ok n) := by
  obtain ⟨p, event⟩ := m
  cases event with
  | poll s =>
    simp only [swapsOut, Event.actor, Bool.and_eq_true, beq_iff_eq, Option.any_eq_true,
      Option.map_eq_some_iff, Event.poll.injEq]
    refine ⟨?_, ?_⟩
    · rintro ⟨⟨⟨pipe, hpipe, hown⟩, k, hk, hc⟩, x, hx, hok⟩
      cases x with
      | error e => cases hok
      | ok n => exact ⟨s, pipe, k, n, rfl, hpipe, hown, hk, hc, hx⟩
    · rintro ⟨t, pipe, k, n, rfl, hpipe, hown, hk, hc, hx⟩
      exact ⟨⟨⟨pipe, hpipe, hown⟩, k, hk, hc⟩, _, hx, rfl⟩
  | _ => simp [swapsOut]

section Runs

variable {p q : Page} {m : Moment} {l : List Moment} {c : ComponentId}

/-- A component is `SwappedOut` after its host is replaced. -/
theorem Moment.swappedOut (hm : m.page.Visited) (h : m.swapsOut c = true) :
    (m.event.effect m.page).SwappedOut c ((m.event.effect m.page).replacementsOf c) := by
  obtain ⟨s, pipe, k, n, hpolled, hpipe, rfl, hk, hc, hok⟩ := Moment.swapsOut_iff.mp h
  rw [hpolled]
  refine ⟨poll_released hpipe hk hc hok, fun k' hk' => ?_, poll_quiet hm.inStep hpipe hok⟩
  simp [replacementsOf, hk']

/-- The host of a `SwappedOut` component is not replaced. -/
theorem SwappedOut.swapsOut {replacements : List ComponentId}
    (h : m.page.SwappedOut c replacements) :
    m.swapsOut c = false := by
  refine Bool.eq_false_iff.mpr fun hswaps => ?_
  obtain ⟨s, pipe, k, n, -, hpipe, rfl, -, -, hok⟩ := Moment.swapsOut_iff.mp hswaps
  exact h.quiet s (exchanging_of_verdict hpipe hok)

/-- The host of a component is replaced at most once. -/
theorem Along.swapsOut_le_one (h : Along p l q) (hl : ∀ n ∈ l, n.page.Visited) :
    l.countP (·.swapsOut c) ≤ 1 := by
  induction h with
  | nil => simp
  | @cons _ _ m rest _ hrest ih =>
    have hrest_visited : ∀ n ∈ rest, n.page.Visited := fun n hn => hl n (List.mem_cons_of_mem _ hn)
    rw [List.countP_cons]
    split
    · -- after this moment there is no other
      rename_i hswaps
      have hm := hl m (List.mem_cons_self ..)
      have hnone : rest.countP (·.swapsOut c) = 0 := by
        refine List.countP_eq_zero.mpr fun n hn => ?_
        have hout := (Moment.swappedOut hm hswaps).course (hm.trans (effect_course _ _))
          (hrest.course_of_mem hn)
        simp [hout.swapsOut]
      omega
    · exact ih hrest_visited

/-- `p.Unreplaced c`: `c` has no replacements. -/
def Unreplaced (p : Page) (c : ComponentId) : Prop :=
  ∀ k, p.component? c = some k → k.replacements = []

theorem Move.unreplaced {kind : Kind} (move : Move kind p q) (hkind : ∀ r, kind ≠ .adopt c r)
    (h : p.Unreplaced c) : q.Unreplaced c := by
  intro k' hk'
  rcases move.changed hk' with ⟨k, hk, hchanged⟩ | ⟨-, _, _, rfl⟩
  · have hnone := h k hk
    cases hchanged with
    | same | unbound | retired | disconnected | busy | madeIdle => exact hnone
    | bound | rebound => exact hnone
    | replacedBy r hadopt => exact absurd hadopt (hkind r)
  · rfl

/-- A poll without success preserves `Unreplaced`. -/
private theorem PlainPoll.unreplaced {s : PipelineId} {d : ComponentId} (h : PlainPoll p s d q)
    (hp : p.Unreplaced c) : q.Unreplaced c := by
  cases h with
  | same => exact hp
  | dropAborted | awaits => exact hp
  | settles _ _ _ hsettled =>
    cases hsettled with
    | sleeps | endsGone => exact hp
    | ends =>
      intro k' hk'
      rw [component?_of_modify (p := p) rfl] at hk'
      split at hk'
      · obtain ⟨k, hk, rfl⟩ := Option.map_eq_some_iff.mp hk'
        exact hp k hk
      · exact hp k' hk'

/-- `Unreplaced` is preserved for a component with the inner swap mode. -/
private theorem Course.unreplaced_of_inner {S : Kind → Prop} {k : Component} (h : Course S p q)
    (hk : p.component? c = some k) (hc : k.config.swap = .inner) (hp : p.Unreplaced c) :
    q.Unreplaced c := by
  have hkept : c < q.components.length ∧ ∀ k, q.component? c = some k →
      k.config.swap = .inner ∧ k.replacements = [] := by
    refine h.keeps (I := fun r => c < r.components.length ∧ ∀ k, r.component? c = some k →
      k.config.swap = .inner ∧ k.replacements = []) (fun _ r r' _ move ih => ?_)
      ⟨lt_of_component? hk, fun k' hk' => ?_⟩
    · refine ⟨Nat.lt_of_lt_of_le ih.1 move.components_le, fun k' hk' => ?_⟩
      rcases move.changed hk' with ⟨k, hk, hchanged⟩ | ⟨hnew, -⟩
      · have hinner := ih.2 k hk
        cases hchanged with
        | same | unbound | retired | disconnected | busy | madeIdle => exact hinner
        | bound | rebound => exact hinner
        | replacedBy _ _ _ houter =>
          rw [hinner.1] at houter
          cases houter
      · exact absurd hnew (Nat.ne_of_lt ih.1)
    · have hnone := hp k' hk'
      rw [hk] at hk'
      cases hk'
      exact ⟨hc, hnone⟩
  exact fun k hk => (hkept.2 k hk).2

/-- `Unreplaced` is preserved by every moment at which the host is not replaced. -/
theorem Moment.unreplaced (hm : m.page.Visited) (hnot : m.swapsOut c = false)
    (h : m.page.Unreplaced c) : (m.event.effect m.page).Unreplaced c := by
  have hcourse {S : Kind → Prop} {r : Page} (hpr : Course S m.page r) (hS : ∀ d, ¬ S (.adopt c d)) :
      r.Unreplaced c :=
    hpr.keeps (fun kind _ _ hkind move => move.unreplaced fun d heq => hS d (heq ▸ hkind)) h
  obtain ⟨p, e⟩ := m
  cases e with
  | attach d =>
    simp only [Event.effect]
    cases hq : p.attach d with
    | error e => exact h
    | ok r => exact hcourse (attach_course hq) (by simp)
  | handle d e => exact hcourse (handleSubmit_course p d e) fun _ => id
  | disconnect d => exact hcourse (disconnect_course p d) fun _ => id
  | detached | done => exact h
  | poll t =>
    simp only [Event.effect]
    cases hpipe : p.pipelines[t]? with
    | none =>
      rw [poll_of_none hpipe]
      exact h
    | some pipe =>
      by_cases hown : pipe.owner = c
      · by_cases hok : ∃ n, p.verdict t = some (.ok n)
        · obtain ⟨n, hok⟩ := hok
          -- the component is present, and it is not its host that was replaced
          obtain ⟨pipe', hpipe', -, hlive⟩ := (exchanging_of_verdict hpipe hok).liveAt
          rw [hpipe] at hpipe'
          cases hpipe'
          obtain ⟨k, hk⟩ := Option.isSome_iff_exists.mp
            (hm.inStep.owned t pipe hpipe (Pipeline.isLive_iff.mp hlive).1)
          rw [hown] at hk
          have hinner : k.config.swap = .inner := by
            cases hc : k.config.swap with
            | inner => rfl
            | outer =>
              have hswaps : Moment.swapsOut c ⟨p, .poll t⟩ = true :=
                Moment.swapsOut_iff.mpr ⟨t, pipe, k, n, rfl, hpipe, hown, hk, hc, hok⟩
              rw [hswaps] at hnot
              cases hnot
          exact (poll_course hpipe).unreplaced_of_inner hk hinner h
        · exact (poll_plain hpipe fun n hn => hok ⟨n, hn⟩).unreplaced h
      · exact hcourse (poll_course hpipe) fun _ h => hown (Eq.symm h.1)

/-- `Unreplaced` is preserved by a run in which the host is not replaced. -/
theorem Along.unreplaced (h : Along p l q) (hl : ∀ n ∈ l, n.page.Visited)
    (hnone : ∀ n ∈ l, n.swapsOut c = false) (hp : p.Unreplaced c) : q.Unreplaced c :=
  h.keeps (fun _ _ _ hkind move => move.unreplaced fun _ heq => by rw [heq] at hkind; exact hkind)
    (fun n hn => Moment.unreplaced (hl n hn) (hnone n hn)) hp

end Runs

/-- If a test holds at most once in a list and at `m`, it fails before `m`. -/
theorem eq_false_of_countP_le_one {before after : List Moment} {m n : Moment}
    {test : Moment → Bool} (hcount : (before ++ m :: after).countP test ≤ 1) (hm : test m = true)
    (hn : n ∈ before) : test n = false := by
  rw [Bool.eq_false_iff]
  intro hearlier
  have hpos : 0 < before.countP test := List.countP_pos_iff.mpr ⟨n, hn, hearlier⟩
  rw [List.countP_append, List.countP_cons, if_pos hm] at hcount
  omega

/-- At every moment of a run, a released component has no form and no listener, and it is released
at all later moments. Its host is replaced at most once. It has no replacements before that, and the
same ones ever after. From then on it ignores every submit and cannot be attached, even during the
settle delay of its last pipeline. -/
theorem released_for_good (actions : List Action) (c : ComponentId) :
    (trace {} actions).countP (·.swapsOut c) ≤ 1 ∧
    ∀ before m after, trace {} actions = before ++ m :: after →
      (∀ k, m.page.component? c = some k → k.detached = true →
        k.form = none ∧ k.listener = none ∧
        ∀ n ∈ after, ∀ k', n.page.component? c = some k' → k'.detached = true) ∧
      ((∀ n ∈ before, n.swapsOut c = false) →
        ∀ k, m.page.component? c = some k → k.replacements = []) ∧
      (m.swapsOut c = true →
        (∀ n ∈ before, n.swapsOut c = false) ∧
        ∀ n ∈ after,
          (∀ k, n.page.component? c = some k → k.detached = true ∧
            k.replacements = (m.event.effect m.page).replacementsOf c) ∧
          (∀ e, (n.page.handleSubmit c e).2.2 = .ignored) ∧
          n.page.attach c = .error .detached) := by
  have halong := trace_along {} actions
  have hvisited : ∀ n ∈ trace {} actions, n.page.Visited := fun n hn => visited_of_mem hn
  have hcount := halong.swapsOut_le_one (c := c) hvisited
  refine ⟨hcount, fun before m after hrun => ?_⟩
  rw [hrun] at hcount hvisited halong
  obtain ⟨hbefore, hafter⟩ := halong.split
  have hm : m.page.Visited := hvisited m (by simp)
  refine ⟨fun k hk hd => ?_, fun hnone => ?_, fun hswaps => ⟨fun n hn => ?_, fun n hn => ?_⟩⟩
  · have hflag := hm.flagsInStep c k hk
    have hreleased : m.page.Released c := by
      refine ⟨lt_of_component? hk, fun k' hk' => ?_⟩
      rw [hk] at hk'
      cases hk'
      exact hd
    refine ⟨hflag.formless hd, hflag.listenerless hd, fun n hn => ?_⟩
    exact ((hreleased.course (effect_course _ _)).course (hafter.course_of_mem hn)).flag
  · exact hbefore.unreplaced (fun n hn => hvisited n (by simp [hn])) hnone fun k hk => by cases hk
  · -- this is the only moment at which the host is replaced
    exact eq_false_of_countP_le_one hcount hswaps hn
  · have hout := (Moment.swappedOut hm hswaps).course (hm.trans (effect_course _ _))
      (hafter.course_of_mem hn)
    have hn_visited : n.page.Visited := hvisited n (by simp [hn])
    exact ⟨fun k hk => ⟨hout.flag k hk, hout.replacements k hk⟩,
      hout.toReleased.handleSubmit hn_visited.flagsInStep, hout.toReleased.attach⟩

/-- A component whose host was replaced, and that has a replacement, can neither be attached nor
accept a submit while it settles. -/
theorem released_for_good_settling :
    let run := trace {} [.newForm { action := "/save", method := "post" },
      .newHost [] (some 0) none false, .append 0 0,
      .createWith 0 { swap := .outer, delay := .ofMillis 10 }, .attach 0,
      .reply (.ok ⟨.ok, "<ajax-form><form action='/next' method='post'></form></ajax-form>"⟩),
      .handleSubmit 0 none, .run, .attach 0, .handleSubmit 0 none]
    run.countP (·.swapsOut 0) ≤ 1 ∧
    ∃ before m after n k, run = before ++ m :: after ∧ m.swapsOut 0 = true ∧ n ∈ after ∧
      n.page.component? 0 = some k ∧ k.state = .submitting ∧ k.detached = true ∧
      k.replacements = [1] ∧ (∀ e, (n.page.handleSubmit 0 e).2.2 = .ignored) ∧
      n.page.attach 0 = .error .detached := by
  intro run
  obtain ⟨hcount, hmoments⟩ := released_for_good [.newForm { action := "/save", method := "post" },
    .newHost [] (some 0) none false, .append 0 0,
    .createWith 0 { swap := .outer, delay := .ofMillis 10 }, .attach 0,
    .reply (.ok ⟨.ok, "<ajax-form><form action='/next' method='post'></form></ajax-form>"⟩),
    .handleSubmit 0 none, .run, .attach 0, .handleSubmit 0 none] 0
  refine ⟨hcount, ?_⟩
  have hany : (run.tails.any fun l => l.head?.any fun m => m.swapsOut 0 && l.tail.any fun n =>
      (n.page.component? 0).any fun k => k.state == .submitting && k.replacements == [1]) =
        true := by decide +kernel
  obtain ⟨l, hl, hfound⟩ := List.any_eq_true.mp hany
  obtain ⟨before, hrun⟩ := (List.mem_tails _ _).mp hl
  cases l with
  | nil => cases hfound
  | cons m after =>
    simp only [List.head?_cons, Option.any_some, List.tail_cons, Bool.and_eq_true,
      List.any_eq_true, Option.any_eq_true, beq_iff_eq] at hfound
    obtain ⟨hswaps, n, hn, k, hk, hbusy, hreplacements⟩ := hfound
    obtain ⟨-, hlater⟩ := (hmoments before m after hrun.symm).2.2 hswaps
    obtain ⟨hreleased, hignores, hattach⟩ := hlater n hn
    exact ⟨before, m, after, n, k, hrun.symm, hswaps, hn, hk, hbusy, (hreleased k hk).1,
      hreplacements, hignores, hattach⟩

end Page

end FormSwap
