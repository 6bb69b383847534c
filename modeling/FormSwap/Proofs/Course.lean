import FormSwap.Proofs.Pipeline

/-!
# Every action is a course

`perform_course` decomposes every action into moves, and `Action.Allows` lists the kinds of moves
for each action.

Main results:

- `submitWithin_course`: a submit event starts and detaches, but creates nothing
- `run_course`: a run starts and detaches nothing, and creates on new hosts only
- `perform_course`: an action makes only moves of the kinds that `Action.Allows` lists for it
-/

namespace FormSwap

namespace Page

/-! ## Ownership -/

/-- `SweepScope` has the kinds of moves of a sweep. -/
def SweepScope : Kind → Prop
  | .drop _ => True
  | _ => False

theorem sweepOne_course (p : Page) (c : ComponentId) : Course SweepScope p (p.sweepOne c) := by
  unfold sweepOne
  split
  · exact .refl p
  rename_i hheld
  cases hk : p.component? c with
  | none =>
    rw [dropComponent_of_none hk]
    exact .refl p
  | some k =>
    rw [dropComponent_eq hk]
    exact .move (.drop hk (by simpa using hheld)) trivial

theorem sweep_course (p : Page) : Course SweepScope p p.sweep :=
  .foldl (fun q c _ => sweepOne_course q c) p

/-- `sweep` changes components and forms only. -/
theorem sweep_eq (p : Page) : ∃ forms components, p.sweep = { p with forms, components } := by
  refine (sweep_course p).keeps (I := fun q => ∃ forms components,
    q = { p with forms, components }) (fun kind q r hkind move ih => ?_) ⟨_, _, rfl⟩
  obtain ⟨_, _, rfl⟩ := ih
  cases move with
  | drop => exact ⟨_, _, rfl⟩
  | _ => exact hkind.elim

theorem sweep_pipelines (p : Page) : p.sweep.pipelines = p.pipelines := by
  obtain ⟨_, _, hsweep⟩ := p.sweep_eq
  rw [hsweep]

/-! ## Submit events -/

/-- `SubmitScope` has the kinds of moves of a submit event with all its reactions. -/
def SubmitScope : Kind → Prop
  | .start _ | .refuse _ | .disconnect _ | .drop _ | .note | .other => True
  | _ => False

theorem HandleScope.submitScope {c : ComponentId} {k : Kind} (h : HandleScope c k) :
    SubmitScope k := by
  cases k <;> trivial

theorem DetachScope.submitScope {k : Kind} (h : DetachScope k) : SubmitScope k := by
  cases k <;> trivial

theorem SweepScope.submitScope {k : Kind} (h : SweepScope k) : SubmitScope k := by
  cases k <;> trivial

/-- `react` is a course. -/
theorem react_course {fire : Firing}
    (hfire : ∀ p f submitter, Course SubmitScope p (fire p f submitter))
    (pe : Page × SubmitEvent) (r : Reaction) :
    Course SubmitScope pe.1 (react fire pe r).1 := by
  obtain ⟨p, e⟩ := pe
  cases r with
  | prevent => exact .refl p
  | detach c => exact (detachWithin_course _ p c).mono fun _ h => h.submitScope
  | resubmit c => exact (handleSubmit_course p c e).mono fun _ h => h.submitScope
  | dropHandle handle =>
    refine .trans (.move (.other p (p.handles.set handle none) p.transport p.sleeps p.calls p.heard
      List.prefix_rfl) trivial) ((sweep_course _).mono fun _ h => h.submitScope)
  | submit f submitter => exact hfire p f submitter

/-- `notify` is a course. -/
theorem notify_course {fire : Firing}
    (hfire : ∀ p f submitter, Course SubmitScope p (fire p f submitter))
    (pe : Page × SubmitEvent) (l : Listener) :
    Course SubmitScope pe.1 (notify fire pe l).1 := by
  obtain ⟨p, e⟩ := pe
  obtain ⟨id, role⟩ := l
  cases role with
  | component c =>
    simp only [notify]
    split
    · exact (handleSubmit_course p c e.prevent).mono fun _ h => h.submitScope
    · exact .refl p
  | observer label reactions =>
    refine .trans (.move (.other p p.handles p.transport p.sleeps p.calls
      (p.heard ++ [⟨label, e.submitter, e.prevented⟩]) List.prefix_rfl) trivial) ?_
    exact .foldl_view Prod.fst (fun x r _ => react_course hfire x r) (_, e)

/-- `submitWithin` starts pipelines and detaches components, but creates nothing. -/
theorem submitWithin_course (n : Nat) (p : Page) (f : FormId) (submitter : Option Submitter) :
    Course SubmitScope p (submitWithin n p f submitter).1 := by
  induction n generalizing p f submitter with
  | zero =>
    exact .foldl_view Prod.fst (fun x l _ => notify_course (fun q _ _ => .refl q) x l) (p, _)
  | succ n ih => exact .foldl_view Prod.fst (fun x l _ => notify_course ih x l) (p, _)

/-! ## Runs -/

/-- `RunScope hosts` has the kinds of moves of a run in which the hosts from `hosts` on are new. -/
def RunScope (hosts : Nat) : Kind → Prop
  | .create h => hosts ≤ h
  | .tree watch => watch = false
  | .bind _ | .unbind _ | .replace _ | .adopt _ _ | .progress _ | .finish _
  | .dropAborted _ | .clear | .note => True
  | _ => False

theorem PollScope.runScope {n n' m : Nat} {c : ComponentId} {s : PipelineId} {k : Kind}
    (hn : n ≤ n') (h : PollScope n' m c s k) : RunScope n k := by
  cases k with
  | create h' => exact Nat.le_trans hn h
  | _ => trivial

/-- The polls of a run are a course. -/
theorem polls_course {n : Nat} (l : List PipelineId) {p : Page} (hn : n ≤ p.hosts.length) :
    Course (RunScope n) p (l.foldl poll p) := by
  induction l generalizing p with
  | nil => exact .refl p
  | cons s rest ih =>
    have hpolled : Course (RunScope n) p (p.poll s) := by
      cases hpipe : p.pipelines[s]? with
      | none =>
        rw [poll_of_none hpipe]
        exact .refl p
      | some pipe => exact (poll_course hpipe).mono fun _ h => h.runScope hn
    exact hpolled.trans (ih (Nat.le_trans hn hpolled.hosts_le))

theorem run_course (p : Page) : Course (RunScope p.hosts.length) p p.run :=
  .trans (.move (.clear p) trivial) (polls_course _ (Nat.le_refl _))

end Page

/-! ## Actions -/

/-- `a.Allows p` has the kinds of moves that `a` makes on `p`. -/
def Action.Allows (p : Page) (a : Action) : Kind → Prop
  | .tree _ | .drop _ | .clock | .note | .other => True
  | .mark h =>
    (∃ value, a = .setAttribute h submittingAttribute value) ∨
      a = .removeAttribute h submittingAttribute
  | .create h =>
    a = .create h ∨ (∃ config, a = .createWith h config) ∨ a = .run ∧ p.hosts.length ≤ h
  | .bind c => a = .attach c ∨ a = .run
  | .unbind _ | .replace _ | .adopt _ _ | .progress _ | .finish _ | .dropAborted _ | .clear =>
    a = .run
  | .wake =>
    (∃ d outcome, a = .deliver d outcome) ∨ (∃ d, a = .dropDeferred d) ∨ ∃ span, a = .advance span
  | .disconnect _ =>
    (∃ c, a = .detach c) ∨ ∃ f submitter depth, a = .submit f submitter depth
  | .start c | .refuse c =>
    (∃ submitter, a = .handleSubmit c submitter) ∨
      ∃ f submitter depth, a = .submit f submitter depth
  | .fault f => a = .setFault f true

namespace Page

/-- A change of the user's handles, transport, sleeps, calls and records is a course. -/
private theorem other_course {S : Kind → Prop} (hS : S .other) (p : Page)
    (handles : List (Option ComponentId)) (transport : MockTransport) (sleeps : List (Option Sleep))
    (calls : List (Option Call)) (heard : List Heard)
    (hlog : p.transport.requests <+: transport.requests) :
    Course S p { p with handles, transport, sleeps, calls, heard } :=
  .move (.other p handles transport sleeps calls heard hlog) hS

private theorem wake_course {S : Kind → Prop} (hS : S .wake) (p : Page) (s : PipelineId) :
    Course S p (p.wake s) := by
  unfold wake
  split
  · exact .refl p
  · exact .move (.wake p _ fun _ hs => List.mem_append_left _ hs) hS

private theorem wakes_course {S : Kind → Prop} (hS : S .wake) (p : Page)
    (l : List PipelineId) : Course S p (l.foldl wake p) :=
  .foldl (fun q s _ => wake_course hS q s) p

/-- `wake` changes the queue only. -/
theorem wakes_eq (p : Page) (l : List PipelineId) :
    ∃ woken, l.foldl wake p = { p with woken } := by
  induction l generalizing p with
  | nil => exact ⟨p.woken, rfl⟩
  | cons s rest ih =>
    obtain ⟨woken, hrest⟩ := ih (p.wake s)
    refine ⟨woken, hrest.trans ?_⟩
    unfold wake
    split <;> rfl

theorem advance_eq (p : Page) (span : Duration) :
    ∃ woken, p.advance span = { p with clock := (p.clock.advance span).1, woken } :=
  wakes_eq _ _

theorem settleDeferred_eq (p : Page) (d : DeferredId) (status : Deferred) :
    ∃ woken, p.settleDeferred d status =
      { p with transport := p.transport.settle d status, woken } := by
  unfold settleDeferred
  dsimp only
  split
  · exact wakes_eq _ [_]
  · exact ⟨p.woken, rfl⟩

/-- `advance` is a course of `clock` and `wake` moves. -/
theorem advance_course (p : Page) (span : Duration) :
    Course (fun k => k = .clock ∨ k = .wake) p (p.advance span) :=
  .trans (.move (.advance p span) (.inl rfl)) (wakes_course (.inr rfl) _ _)

/-- `setAttribute` is a course. -/
private theorem setAttribute_course {p q : Page} {h : HostId} {name value : String}
    (hq : p.setAttribute h name value = .ok q) :
    Course ((Action.setAttribute h name value).Allows p) p q := by
  by_cases hn : name = submittingAttribute
  · subst hn
    unfold setAttribute at hq
    split at hq
    · cases hq
    · cases hq
      exact .move (.mark p h (setIn submittingAttribute value)) (.inl ⟨value, rfl⟩)
  · exact .move (.tree (.setAttribute hn hq)) trivial

/-- `removeAttribute` is a course. -/
private theorem removeAttribute_course {p q : Page} {h : HostId} {name : String}
    (hq : p.removeAttribute h name = .ok q) :
    Course ((Action.removeAttribute h name).Allows p) p q := by
  by_cases hn : name = submittingAttribute
  · subst hn
    unfold removeAttribute at hq
    split at hq
    · cases hq
    · cases hq
      exact .move (.mark p h (List.filter fun a => a.1 != submittingAttribute)) (.inr rfl)
  · exact .move (.tree (.removeAttribute hn hq)) trivial

/-- `createWith` and a new handle are a course. -/
private theorem createWith_course {S : Kind → Prop} {p : Page} {h : HostId}
    (hh : h < p.hosts.length) (config : Config) (notices : List Notice) (hc : S (.create h))
    (hn : S .note) (ho : S .other) :
    Course S p (({ p with notices }.createWith h config).1.giveHandle p.components.length).1 := by
  refine .trans (.move (.note p notices) hn) ?_
  refine .trans (.move (.create { p with notices } h config hh) hc) ?_
  exact other_course ho _ _ _ _ _ _ List.prefix_rfl

/-- `settleDeferred` is a course. -/
private theorem settleDeferred_course {S : Kind → Prop} (ho : S .other) (hw : S .wake) (p : Page)
    (d : DeferredId) (status : Deferred) : Course S p (p.settleDeferred d status) := by
  have htransport : Course S p { p with transport := p.transport.settle d status } :=
    other_course ho p _ _ _ _ _ List.prefix_rfl
  unfold settleDeferred
  dsimp only
  split
  · exact htransport.trans (wake_course hw _ _)
  · exact htransport

/-- `pollUserCall` is a course. -/
private theorem pollUserCall_course {S : Kind → Prop} (ho : S .other) (p : Page) (k : Nat) :
    Course S p (p.pollUserCall k).1 := by
  unfold pollUserCall
  split
  · exact .refl p
  · rename_i call _
    have hlog := p.transport.requests_poll call
    split
    · rename_i hpoll
      rw [hpoll] at hlog
      exact other_course ho p _ _ _ _ _ hlog
    · rename_i hpoll
      rw [hpoll] at hlog
      exact other_course ho p _ _ _ _ _ hlog

/-- `pollUserSleep` is a course. -/
private theorem pollUserSleep_course {S : Kind → Prop} (ho : S .other) (hc : S .clock) (p : Page)
    (n : Nat) : Course S p (p.pollUserSleep n).1 := by
  unfold pollUserSleep
  split
  · exact .refl p
  · rename_i sleep _
    have hclock := Course.move (Move.pollSleep p sleep) hc
    split
    · rename_i clock _ hpoll
      rw [hpoll] at hclock
      exact hclock.trans (other_course ho _ _ _ _ _ _ List.prefix_rfl)
    · rename_i clock _ hpoll
      rw [hpoll] at hclock
      exact hclock.trans (other_course ho _ _ _ _ _ _ List.prefix_rfl)

theorem SubmitScope.allows {k : Kind} (h : SubmitScope k) {p : Page} {f : FormId}
    {submitter : Option Submitter} {depth : Nat} :
    (Action.submit f submitter depth).Allows p k := by
  cases k with
  | start | refuse | disconnect => exact .inr ⟨f, submitter, depth, rfl⟩
  | _ => trivial

/-- `offers` allows to release observers only. -/
theorem hasObserver_of_offers {p : Page} {l : ListenerRef}
    (h : p.offers (.unlisten l) = true) : p.hasObserver l = true :=
  (Bool.and_eq_true_iff.mp h).1

/-- `act` is a course of the kinds that `Allows` lists. -/
theorem act_course {p : Page} {a : Action} (ha : p.offers a = true) :
    Course (a.Allows p) p (p.act a).1 := by
  cases a with
  | newDocument => exact .move (.tree (.addDocument p)) trivial
  | dropDocument d => exact .move (.tree (.dropDocument p d)) trivial
  | append d h =>
    have hh : h < p.hosts.length := by simp_all [offers]
    exact .move (.tree (.append p d h hh)) trivial
  | remove d h => exact .move (.tree (.remove p d h)) trivial
  | appendMarkup d markup => exact .move (.tree (.appendMarkup p d markup)) trivial
  | dispatchDocument d n => exact .move (.tree (.dispatchDocument p d n)) trivial
  | newHost attributes form markup rejecting =>
    refine .move (.tree (.newHost p attributes form markup rejecting fun f hf => ?_)) trivial
    subst hf
    simpa [offers] using ha
  | setAttribute h name value =>
    simp only [act, edited]
    cases hq : p.setAttribute h name value with
    | ok q => exact setAttribute_course hq
    | error e => exact .refl p
  | removeAttribute h name =>
    simp only [act, edited]
    cases hq : p.removeAttribute h name with
    | ok q => exact removeAttribute_course hq
    | error e => exact .refl p
  | setInnerHtml h markup =>
    simp only [act, edited]
    cases hq : p.setInnerHtml h markup with
    | ok q => exact .move (.tree (.setInnerHtml hq)) trivial
    | error e => exact .refl p
  | setOuterHtml h markup =>
    simp only [act]
    cases hr : p.setOuterHtml h markup with
    | ok r => exact .move (.tree (.setOuterHtml hr)) trivial
    | error e => exact .refl p
  | dispatchHost h n =>
    simp only [act]
    cases hq : p.dispatchHost h n with
    | ok q => exact .move (.tree (.dispatchHost hq)) trivial
    | error e => exact .refl p
  | newForm data => exact .move (.tree (.addForm p data)) trivial
  | addField f name value => exact .move (.tree (.addField p f name value)) trivial
  | setField f name value => exact .move (.tree (.setField p f name value)) trivial
  | submit f submitter depth =>
    exact (submitWithin_course depth p f submitter).mono fun k hk => hk.allows
  | listen f label reactions =>
    simp only [act]
    cases hq : p.addListener f (.observer label reactions) with
    | ok q => exact .move (.tree (.observe hq)) trivial
    | error e => exact .refl p
  | unlisten l => exact .move (.tree (.unobserve p l (hasObserver_of_offers ha))) trivial
  | takeHeard => exact other_course trivial p _ _ _ _ _ List.prefix_rfl
  | create h =>
    simp only [act]
    cases hq : p.create h with
    | error e => exact .refl p
    | ok qc =>
      unfold Page.create at hq
      split at hq
      · cases hq
      rename_i resolved _
      obtain ⟨notices, hnote⟩ := noteResolved_eq p resolved
      rw [hnote] at hq
      cases hq
      exact createWith_course (by simpa [offers] using ha) _ notices (.inl rfl) trivial trivial
  | createWith h config =>
    exact createWith_course (by simpa [offers] using ha) config p.notices
      (.inr (.inl ⟨config, rfl⟩)) trivial trivial
  | attach c =>
    simp only [act]
    cases hq : p.attach c with
    | error e => exact .refl p
    | ok q =>
      refine (attach_course hq).mono ?_
      rintro k (rfl | rfl)
      · exact .inl rfl
      · trivial
  | detach c =>
    refine (detachWithin_course _ p c).mono fun k hk => ?_
    cases k with
    | disconnect d => exact .inl ⟨c, rfl⟩
    | _ => trivial
  | handleSubmit c submitter =>
    refine (handleSubmit_course p c { submitter }).mono fun k hk => ?_
    cases k with
    | start d | refuse d => exact .inl ⟨submitter, by rw [show d = c from hk]⟩
    | _ => trivial
  | retain cs => exact other_course trivial p _ _ _ _ _ List.prefix_rfl
  | dropHandle handle => exact other_course trivial p _ _ _ _ _ List.prefix_rfl
  | reply outcome => exact other_course trivial p _ _ _ _ _ List.prefix_rfl
  | defer => exact other_course trivial p _ _ _ _ _ List.prefix_rfl
  | deliver d outcome => exact settleDeferred_course trivial (.inl ⟨d, outcome, rfl⟩) p d _
  | dropDeferred d => exact settleDeferred_course trivial (.inr (.inl ⟨d, rfl⟩)) p d _
  | newCall request => exact other_course trivial p _ _ _ _ _ List.prefix_rfl
  | pollCall k => exact pollUserCall_course trivial p k
  | advance span =>
    refine (advance_course p span).mono ?_
    rintro k (rfl | rfl)
    · trivial
    · exact .inr (.inr ⟨span, rfl⟩)
  | newSleep length => exact other_course trivial p _ _ _ _ _ List.prefix_rfl
  | pollSleep n => exact pollUserSleep_course trivial trivial p n
  | dropSleep n =>
    simp only [act, dropUserSleep]
    split
    · exact .refl p
    · rename_i sleep _
      refine .trans (.move (.dropSleep p sleep) trivial) ?_
      exact other_course trivial _ _ _ _ _ _ List.prefix_rfl
  | run =>
    refine (run_course p).mono fun k hk => ?_
    cases k with
    | create h => exact .inr (.inr ⟨rfl, hk⟩)
    | bind c => exact .inr rfl
    | unbind | replace | adopt | progress | finish | dropAborted | clear => rfl
    | _ => trivial
  | setFault f on =>
    cases on with
    | true => exact .move (.fault p f) rfl
    | false => exact .move (.mend p f) trivial

theorem perform_of_offers {p : Page} {a : Action} (ha : p.offers a = true) :
    (p.perform a).1 = (p.act a).1.sweep := by
  unfold perform
  rw [if_pos ha]

/-- `perform` is a course of the kinds that `Allows` lists. -/
theorem perform_course (p : Page) (a : Action) :
    Course (a.Allows p) p (p.perform a).1 := by
  unfold perform
  split
  · rename_i ha
    refine (act_course ha).trans ((sweep_course _).mono fun k hk => ?_)
    cases k <;> trivial
  · exact .refl p

/-! ## Visited and reachable pages -/

/-- `performAll` is a course. -/
theorem performAll_course (p : Page) (actions : List Action) :
    Course (fun _ => True) p (p.performAll actions) :=
  .foldl (fun q a _ => (perform_course q a).mono fun _ _ => trivial) p

theorem performAll_append (p : Page) (actions more : List Action) :
    p.performAll (actions ++ more) = (p.performAll actions).performAll more :=
  List.foldl_append

/-- `p.Visited`: `p` occurs between two actions, or within one. -/
def Visited (p : Page) : Prop :=
  Course (fun _ => True) {} p

/-- An invariant of every move holds on every visited page. -/
theorem Visited.keeps {I : Page → Prop} {p : Page} (h : p.Visited) (hempty : I {})
    (hmove : ∀ k p q, Move k p q → I p → I q) : I p :=
  Course.keeps (fun k p q _ => hmove k p q) h hempty

theorem Visited.act {p : Page} {a : Action} (h : p.Visited) (ha : p.offers a = true) :
    (p.act a).1.Visited :=
  h.trans ((act_course ha).mono fun _ _ => trivial)

theorem Visited.hostsKnown {p : Page} (h : p.Visited) : p.HostsKnown :=
  h.keeps (fun c k hk => by cases hk) fun _ _ _ move => move.hostsKnown

theorem Visited.childrenKnown {p : Page} (h : p.Visited) : p.ChildrenKnown := by
  refine h.keeps (fun d doc hdoc h' hh' => ?_) fun _ _ _ move => move.childrenKnown
  -- the initial document is empty
  have hmem := List.mem_of_getElem? (Option.join_eq_some_iff.mp hdoc)
  cases List.mem_singleton.mp hmem
  cases hh'

namespace Reachable

variable {p : Page}

theorem visited (h : p.Reachable) : p.Visited := by
  obtain ⟨actions, rfl⟩ := h
  exact performAll_course {} actions

theorem performAll (h : p.Reachable) (actions : List Action) :
    (p.performAll actions).Reachable := by
  obtain ⟨before, rfl⟩ := h
  exact ⟨before ++ actions, (performAll_append _ _ _).symm⟩

theorem perform (h : p.Reachable) (a : Action) : (p.perform a).1.Reachable :=
  h.performAll [a]

/-- An invariant of every action holds on every reachable page. -/
theorem keeps {I : Page → Prop} (h : p.Reachable) (hempty : I {})
    (hperform : ∀ (q : Page) (a : Action), q.Reachable → I q → I (q.perform a).1) : I p := by
  obtain ⟨actions, rfl⟩ := h
  suffices hall : ∀ q : Page, q.Reachable → I q → I (q.performAll actions) from
    hall {} ⟨[], rfl⟩ hempty
  induction actions with
  | nil => exact fun _ _ hq => hq
  | cons a rest ih => exact fun q hq hI => ih _ (hq.perform a) (hperform q a hq hI)

end Reachable

end Page

end FormSwap
