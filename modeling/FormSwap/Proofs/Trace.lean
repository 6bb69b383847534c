import FormSwap.Proofs.Course

/-!
# Traces of component events

An action of the user may make components attach, handle a submit event or be detached, and may poll
their pipelines. A `Moment` is such an event together with the page just before it. `Page.trace`
lists the moments of a run of actions in order. Everything that a component does is done at a
moment, so that "the component sends no request" is "no moment of it does".

Main results:

- `trace_along`: between two moments of a run only moves outside the components are made
- `detached_of_mem`: at a `detached` event, the component was detached with all its replacements
- `done_of_mem`: at a `done` event, the page is the one after the action
-/

namespace FormSwap

/-- `a.calls`: the action makes components act. -/
def Action.calls : Action → Bool
  | .attach _ | .detach _ | .handleSubmit _ _ | .submit _ _ _ | .run => true
  | _ => false

namespace Page

/-- `Event` is something that a component or a pipeline does. -/
inductive Event where
  | attach (c : ComponentId)
  /-- A component handles a submit event. -/
  | handle (c : ComponentId) (e : SubmitEvent)
  /-- A component is detached, without its replacements. -/
  | disconnect (c : ComponentId)
  /-- A pipeline is polled. -/
  | poll (s : PipelineId)
  /-- A component was detached with all its replacements. -/
  | detached (c : ComponentId)
  /-- An action of the user has ended. -/
  | done (a : Action)

namespace Event

/-- `e.effect p` is the page after the event. -/
def effect (p : Page) : Event → Page
  | .attach c =>
    match p.attach c with
    | .ok q => q
    | .error _ => p
  | .handle c e => (p.handleSubmit c e).1
  | .disconnect c => p.disconnect c
  | .poll s => p.poll s
  | .detached _ | .done _ => p

/-- `e.actor p` is the component of the event. -/
def actor (p : Page) : Event → Option ComponentId
  | .attach c | .handle c _ | .disconnect c => some c
  | .poll s => (p.pipelines[s]?).map (·.owner)
  | .detached _ | .done _ => none

/-- `e.isPoll s`: the event is a poll of `s`. -/
def isPoll (s : PipelineId) : Event → Bool
  | .poll t => t == s
  | _ => false

theorem isPoll_iff {s : PipelineId} {e : Event} : e.isPoll s = true ↔ e = .poll s := by
  cases e <;> simp [isPoll]

end Event

/-- `Moment` is an event with the page just before it. -/
structure Moment where
  page : Page
  event : Event

/-- `m.starts c`: `c` accepts a submit at `m`. -/
def Moment.starts (c : ComponentId) (m : Moment) : Bool :=
  match m.event with
  | .handle d e => d == c && (m.page.handleSubmit d e).2.2 == .started
  | _ => false

theorem Moment.starts_iff {c : ComponentId} {m : Moment} :
    m.starts c = true ↔
      ∃ e, m.event = .handle c e ∧ (m.page.handleSubmit c e).2.2 = .started := by
  obtain ⟨p, event⟩ := m
  cases event with
  | handle d e =>
    simp only [starts, Bool.and_eq_true, beq_iff_eq, Event.handle.injEq]
    refine ⟨?_, ?_⟩
    · rintro ⟨rfl, hstarted⟩
      exact ⟨e, ⟨rfl, rfl⟩, hstarted⟩
    · rintro ⟨e', ⟨rfl, rfl⟩, hstarted⟩
      exact ⟨rfl, hstarted⟩
  | _ => simp [starts]

/-! ## The moments of an action -/

/-- `foldMoments step moments x l` lists the moments of a fold. -/
def foldMoments {σ α : Type} (step : σ → α → σ) (moments : σ → α → List Moment) :
    σ → List α → List Moment
  | _, [] => []
  | x, a :: rest => moments x a ++ foldMoments step moments (step x a) rest

/-- `disconnections n p c` lists the moments of `detachWithin`. -/
def disconnections : Nat → Page → ComponentId → List Moment
  | 0, _, _ => []
  | n + 1, p, c =>
    match p.component? c with
    | none => []
    | some comp =>
      ⟨p, .disconnect c⟩ ::
        foldMoments (detachWithin n) (disconnections n) (p.disconnect c) comp.replacements

/-- `p.detachMoments c` lists the moments of `detach`. -/
def detachMoments (p : Page) (c : ComponentId) : List Moment :=
  disconnections p.components.length p c ++ [⟨p.detach c, .detached c⟩]

/-- `FiringMoments` is the type of the moments of a nested submit event. -/
abbrev FiringMoments := Page → FormId → Option Submitter → List Moment

/-- `reactMoments fired pe r` lists the moments of a reaction. -/
def reactMoments (fired : FiringMoments) : Page × SubmitEvent → Reaction → List Moment
  | (p, _), .detach c => p.detachMoments c
  | (p, e), .resubmit c => [⟨p, .handle c e⟩]
  | (p, _), .submit f submitter => fired p f submitter
  | _, .prevent | _, .dropHandle _ => []

/-- `notifyMoments fire fired pe l` lists the moments of a listener. -/
def notifyMoments (fire : Firing) (fired : FiringMoments) :
    Page × SubmitEvent → Listener → List Moment
  | (p, e), l =>
    match l.role with
    | .component c =>
      match p.component? c with
      | some _ => [⟨p, .handle c e.prevent⟩]
      | none => []
    | .observer label reactions =>
      let p := { p with heard := p.heard ++ [⟨label, e.submitter, e.prevented⟩] }
      foldMoments (react fire) (reactMoments fired) (p, e) reactions

/-- `submitMoments n p f submitter` lists the moments of a submit event. -/
def submitMoments : Nat → FiringMoments
  | 0, p, f, submitter =>
    foldMoments (notify fun p _ _ => p) (notifyMoments (fun p _ _ => p) fun _ _ _ => [])
      (p, { submitter }) (p.listenersOf f)
  | n + 1, p, f, submitter =>
    foldMoments (notify fun p f submitter => (submitWithin n p f submitter).1)
      (notifyMoments (fun p f submitter => (submitWithin n p f submitter).1) (submitMoments n))
      (p, { submitter }) (p.listenersOf f)

/-- `p.runMoments` lists the moments of a run: a poll for every queued pipeline. -/
def runMoments (p : Page) : List Moment :=
  foldMoments poll (fun q s => [⟨q, .poll s⟩]) { p with woken := [], spawned := [] }
    (p.woken ++ p.spawned)

/-- `p.actMoments a` lists the moments of an action. -/
def actMoments (p : Page) : Action → List Moment
  | .attach c => [⟨p, .attach c⟩]
  | .detach c => p.detachMoments c
  | .handleSubmit c submitter => [⟨p, .handle c { submitter }⟩]
  | .submit f submitter depth => submitMoments depth p f submitter
  | .run => p.runMoments
  | _ => []

/-- `p.moments a` lists the moments of an action, with its end. -/
def moments (p : Page) (a : Action) : List Moment :=
  (if p.offers a then p.actMoments a else []) ++ [⟨(p.perform a).1, .done a⟩]

/-- `p.trace actions` lists the moments of a run of actions. -/
def trace : Page → List Action → List Moment
  | _, [] => []
  | p, a :: rest => p.moments a ++ trace (p.perform a).1 rest

/-! ## Between the moments -/

/-- `Outside` has the kinds of moves outside the components. -/
def Outside : Kind → Prop
  | .tree _ | .mark _ | .create _ | .drop _ | .clear | .wake | .clock | .fault _ | .note
  | .other => True
  | _ => False

/-- `Along p l q`: the events of `l` lead from `p` to `q`, with moves outside the components between
them. -/
inductive Along : Page → List Moment → Page → Prop where
  | nil {p q : Page} (h : Course Outside p q) : Along p [] q
  | cons {p q : Page} {m : Moment} {l : List Moment} (h : Course Outside p m.page)
      (rest : Along (m.event.effect m.page) l q) : Along p (m :: l) q

namespace Along

variable {p q r : Page} {m : Moment} {l l' : List Moment}

theorem prepend (h : Course Outside p q) (hl : Along q l r) : Along p l r := by
  cases hl with
  | nil h' => exact .nil (h.trans h')
  | cons h' rest => exact .cons (h.trans h') rest

theorem append (h : Along p l q) (h' : Along q l' r) : Along p (l ++ l') r := by
  induction h with
  | nil h => exact h'.prepend h
  | cons h _ ih => exact .cons h (ih h')

theorem single (p : Page) (e : Event) : Along p [⟨p, e⟩] (e.effect p) :=
  .cons (.refl p) (.nil (.refl _))

/-- `Along` splits at a moment. -/
theorem split (h : Along p (l ++ m :: l') r) :
    Along p l m.page ∧ Along (m.event.effect m.page) l' r := by
  induction l generalizing p with
  | nil =>
    cases h with
    | cons h rest => exact ⟨.nil h, rest⟩
  | cons n l ih =>
    cases h with
    | cons h rest => exact ⟨.cons h (ih rest).1, (ih rest).2⟩

/-- `Along` holds of a fold if it holds of each step. -/
theorem fold {σ α : Type} (view : σ → Page) (step : σ → α → σ) (moments : σ → α → List Moment)
    (hstep : ∀ x a, Along (view x) (moments x a) (view (step x a))) (x : σ) (as : List α) :
    Along (view x) (foldMoments step moments x as) (view (as.foldl step x)) := by
  induction as generalizing x with
  | nil => exact .nil (.refl _)
  | cons a rest ih => exact (hstep x a).append (ih (step x a))

end Along

theorem disconnections_along (n : Nat) (p : Page) (c : ComponentId) :
    Along p (disconnections n p c) (detachWithin n p c) := by
  induction n generalizing p c with
  | zero => exact .nil (.refl p)
  | succ n ih =>
    rw [disconnections, detachWithin]
    cases p.component? c with
    | none => exact .nil (.refl p)
    | some k =>
      -- the component itself, then each of its replacements one level less deep
      have hcascade := Along.fold id (detachWithin n) (disconnections n) ih (p.disconnect c)
        k.replacements
      have hnote := hcascade.append (.nil (note_course (S := Outside) trivial _ .detached))
      rw [List.append_nil] at hnote
      refine .cons (.refl p) ?_
      dsimp only
      split
      · exact hcascade
      · exact hnote

theorem detachMoments_along (p : Page) (c : ComponentId) :
    Along p (p.detachMoments c) (p.detach c) :=
  (disconnections_along _ p c).append (.single _ (.detached c))

section Submits

variable {fire : Firing} {fired : FiringMoments}

theorem reactMoments_along (hfire : ∀ p f submitter, Along p (fired p f submitter)
    (fire p f submitter)) (pe : Page × SubmitEvent) (r : Reaction) :
    Along pe.1 (reactMoments fired pe r) (react fire pe r).1 := by
  obtain ⟨p, e⟩ := pe
  cases r with
  | prevent => exact .nil (.refl p)
  | detach c => exact detachMoments_along p c
  | resubmit c => exact .single p (.handle c e)
  | dropHandle handle =>
    refine .nil (.trans (.move (.other p (p.handles.set handle none) p.transport p.sleeps p.calls
      p.heard List.prefix_rfl) trivial) ((sweep_course _).mono fun k hk => ?_))
    cases k <;> trivial
  | submit f submitter => exact hfire p f submitter

theorem notifyMoments_along (hfire : ∀ p f submitter, Along p (fired p f submitter)
    (fire p f submitter)) (pe : Page × SubmitEvent) (l : Listener) :
    Along pe.1 (notifyMoments fire fired pe l) (notify fire pe l).1 := by
  obtain ⟨p, e⟩ := pe
  obtain ⟨id, role⟩ := l
  cases role with
  | component c =>
    simp only [notifyMoments, notify]
    cases p.component? c with
    | some _ => exact .single p (.handle c e.prevent)
    | none => exact .nil (.refl p)
  | observer label reactions =>
    refine .prepend (.move (.other p p.handles p.transport p.sleeps p.calls
      (p.heard ++ [⟨label, e.submitter, e.prevented⟩]) List.prefix_rfl) trivial) ?_
    exact .fold Prod.fst _ _ (reactMoments_along hfire) (_, e) reactions

end Submits

theorem submitMoments_along (n : Nat) (p : Page) (f : FormId) (submitter : Option Submitter) :
    Along p (submitMoments n p f submitter) (submitWithin n p f submitter).1 := by
  induction n generalizing p f submitter with
  | zero =>
    exact .fold Prod.fst _ _ (notifyMoments_along fun q _ _ => .nil (.refl q)) (p, _) _
  | succ n ih => exact .fold Prod.fst _ _ (notifyMoments_along ih) (p, _) _

theorem runMoments_along (p : Page) : Along p p.runMoments p.run :=
  .prepend (.move (.clear p) trivial) (.fold id _ _ (fun q s => .single q (.poll s)) _ _)

/-- An action without component events makes moves outside the components only. -/
private theorem outside_of_allows {p : Page} {a : Action} {k : Kind} (h : a.Allows p k)
    (ha : a.calls = false) : Outside k := by
  cases k with
  | bind => rcases h with rfl | rfl <;> cases ha
  | unbind | replace | adopt | progress | finish | dropAborted =>
    rw [show a = .run from h] at ha
    cases ha
  | disconnect => rcases h with ⟨_, rfl⟩ | ⟨_, _, _, rfl⟩ <;> cases ha
  | start | refuse => rcases h with ⟨_, rfl⟩ | ⟨_, _, _, rfl⟩ <;> cases ha
  | _ => trivial

theorem actMoments_along {p : Page} {a : Action} (ha : p.offers a = true) :
    Along p (p.actMoments a) (p.act a).1 := by
  by_cases hcalls : a.calls = true
  · cases a with
    | attach c =>
      have hsame : (p.act (.attach c)).1 = Event.effect p (.attach c) := by
        simp only [act, Event.effect]
        cases p.attach c <;> rfl
      rw [hsame]
      exact .single p _
    | detach c => exact detachMoments_along p c
    | handleSubmit c submitter => exact .single p _
    | submit f submitter depth => exact submitMoments_along depth p f submitter
    | run => exact runMoments_along p
    | _ => cases hcalls
  · -- without component events all moves are `Outside`
    have hnone : p.actMoments a = [] := by
      cases a <;> first | rfl | exact absurd rfl hcalls
    rw [hnone]
    exact .nil ((act_course ha).mono fun k hk => outside_of_allows hk (by simpa using hcalls))

theorem moments_along (p : Page) (a : Action) : Along p (p.moments a) (p.perform a).1 := by
  refine .append ?_ (.single _ (.done a))
  unfold perform
  split
  · rename_i ha
    have hsweep : Along (p.act a).1 [] (p.act a).1.sweep :=
      .nil ((sweep_course _).mono fun k hk => by cases k <;> trivial)
    simpa using (actMoments_along ha).append hsweep
  · exact .nil (.refl p)

/-- `trace` of two lists of actions. -/
theorem trace_append (p : Page) (actions more : List Action) :
    trace p (actions ++ more) = trace p actions ++ trace (p.performAll actions) more := by
  induction actions generalizing p with
  | nil => rfl
  | cons a rest ih =>
    rw [List.cons_append, trace, trace, ih, List.append_assoc]
    rfl

/-- `trace` of a `handleSubmit` action and further actions. -/
theorem trace_handleSubmit {p : Page} {c : ComponentId} {submitter : Option Submitter}
    (ha : p.offers (.handleSubmit c submitter) = true) (more : List Action) :
    trace p (.handleSubmit c submitter :: more) = ⟨p, .handle c { submitter }⟩ ::
      ⟨(p.perform (.handleSubmit c submitter)).1, .done (.handleSubmit c submitter)⟩ ::
        trace (p.perform (.handleSubmit c submitter)).1 more := by
  rw [trace, moments, if_pos ha]
  rfl

/-- `Along` holds of every `trace`. -/
theorem trace_along (p : Page) (actions : List Action) :
    Along p (p.trace actions) (p.performAll actions) := by
  induction actions generalizing p with
  | nil => exact .nil (.refl p)
  | cons a rest ih => exact (moments_along p a).append (ih _)

/-- An event is a course. -/
theorem effect_course (p : Page) (e : Event) : Course (fun _ => True) p (e.effect p) := by
  cases e with
  | attach c =>
    simp only [Event.effect]
    cases hq : p.attach c with
    | ok q => exact (attach_course hq).mono fun _ _ => trivial
    | error e => exact .refl p
  | handle c e => exact (handleSubmit_course p c e).mono fun _ _ => trivial
  | disconnect c => exact (disconnect_course p c).mono fun _ _ => trivial
  | poll s =>
    simp only [Event.effect]
    cases hpipe : p.pipelines[s]? with
    | none =>
      rw [poll_of_none hpipe]
      exact .refl p
    | some pipe => exact (poll_course hpipe).mono fun _ _ => trivial
  | detached | done => exact .refl p

theorem Along.course {p q : Page} {l : List Moment} (h : Along p l q) :
    Course (fun _ => True) p q := by
  induction h with
  | nil h => exact h.mono fun _ _ => trivial
  | cons h _ ih => exact ((h.mono fun _ _ => trivial).trans (effect_course _ _)).trans ih

/-- An invariant of the moves outside the components and of the events holds along a run. -/
theorem Along.keeps {I : Page → Prop}
    (hout : ∀ k p q, Outside k → Move k p q → I p → I q) {p q : Page} {l : List Moment}
    (h : Along p l q) (hevent : ∀ m ∈ l, I m.page → I (m.event.effect m.page)) (hp : I p) :
    I q := by
  induction h with
  | nil h => exact h.keeps hout hp
  | cons h _ ih =>
    exact ih (fun m hm => hevent m (List.mem_cons_of_mem _ hm))
      (hevent _ (List.mem_cons_self ..) (h.keeps hout hp))

/-- A course leads to every moment. -/
theorem Along.course_of_mem {p q : Page} {l : List Moment} (h : Along p l q) {m : Moment}
    (hm : m ∈ l) : Course (fun _ => True) p m.page := by
  obtain ⟨before, after, rfl⟩ := List.append_of_mem hm
  exact h.split.1.course

/-- A course leads from every moment to the end. -/
theorem Along.course_from_mem {p q : Page} {l : List Moment} (h : Along p l q) {m : Moment}
    (hm : m ∈ l) : Course (fun _ => True) m.page q := by
  obtain ⟨before, after, rfl⟩ := List.append_of_mem hm
  exact (effect_course _ _).trans h.split.2.course

/-- The page of every moment is visited. -/
theorem visited_of_mem {actions : List Action} {m : Moment} (hm : m ∈ trace {} actions) :
    m.page.Visited :=
  (trace_along {} actions).course_of_mem hm

/-- A course leads from the effect of a moment to every later one. -/
theorem course_of_trace {p : Page} {actions : List Action} {before after : List Moment}
    {m n : Moment} (hrun : p.trace actions = before ++ m :: after) (hn : n ∈ after) :
    Course (fun _ => True) (m.event.effect m.page) n.page := by
  have halong := trace_along p actions
  rw [hrun] at halong
  exact halong.split.2.course_of_mem hn

/-! ## Detachments in a run -/

/-- Every moment of a fold is one of a step, which starts at a state of the fold. -/
theorem mem_foldMoments {σ α : Type} {step : σ → α → σ} {moments : σ → α → List Moment}
    {P : σ → Prop} (hP : ∀ x a, P x → P (step x a)) {x : σ} (hx : P x) {as : List α} {m : Moment}
    (hm : m ∈ foldMoments step moments x as) : ∃ y a, P y ∧ m ∈ moments y a := by
  induction as generalizing x with
  | nil => cases hm
  | cons a rest ih =>
    rcases List.mem_append.mp hm with hhere | hlater
    · exact ⟨x, a, hx, hhere⟩
    · exact ih (hP x a hx) hlater

/-- The moments of `disconnections` are `disconnect` events of present components. -/
theorem disconnections_event {n : Nat} {p : Page} {c : ComponentId} {m : Moment}
    (hm : m ∈ disconnections n p c) :
    ∃ d k, m.event = .disconnect d ∧ m.page.component? d = some k := by
  induction n generalizing p c with
  | zero => cases hm
  | succ n ih =>
    rw [disconnections] at hm
    cases hk : p.component? c with
    | none =>
      rw [hk] at hm
      cases hm
    | some k =>
      rw [hk] at hm
      rcases List.mem_cons.mp hm with rfl | hcascade
      · exact ⟨c, k, rfl, hk⟩
      · obtain ⟨q, r, -, hr⟩ :=
          mem_foldMoments (P := fun _ => True) (fun _ _ _ => trivial) trivial hcascade
        exact ih hr

/-- `m.Within p`: `m` is not the end of an action, and at a `detached` event its page is one after
`p` from which the component was detached. -/
structure Moment.Within (p : Page) (m : Moment) : Prop where
  detached : ∀ c, m.event = .detached c →
    ∃ q, Course (fun _ => True) p q ∧ m.page = q.detach c
  inner : ∀ a, m.event ≠ .done a

theorem Moment.Within.of_course {p q : Page} {m : Moment} (h : Course (fun _ => True) p q)
    (hm : m.Within q) : m.Within p where
  detached c hc := by
    obtain ⟨r, hr, hpage⟩ := hm.detached c hc
    exact ⟨r, h.trans hr, hpage⟩
  inner := hm.inner

theorem detachMoments_within {p : Page} {c : ComponentId} {m : Moment}
    (hm : m ∈ p.detachMoments c) : m.Within p := by
  rcases List.mem_append.mp hm with hgoing | hgone
  · obtain ⟨r, -, hr, -⟩ := disconnections_event hgoing
    exact ⟨fun d hd => by simp [hr] at hd, fun a ha => by simp [hr] at ha⟩
  · cases List.mem_singleton.mp hgone
    refine ⟨fun d hd => ?_, nofun⟩
    cases hd
    exact ⟨p, .refl p, rfl⟩

section Submits

variable {fire : Firing} {fired : FiringMoments}

theorem reactMoments_within (hfired : ∀ p f submitter, ∀ m ∈ fired p f submitter, m.Within p)
    {pe : Page × SubmitEvent} {r : Reaction} {m : Moment} (hm : m ∈ reactMoments fired pe r) :
    m.Within pe.1 := by
  obtain ⟨p, e⟩ := pe
  cases r with
  | prevent | dropHandle => cases hm
  | detach c => exact detachMoments_within hm
  | resubmit c =>
    cases List.mem_singleton.mp hm
    exact ⟨nofun, nofun⟩
  | submit f submitter => exact hfired p f submitter m hm

theorem notifyMoments_within
    (hfire : ∀ p f submitter, Course SubmitScope p (fire p f submitter))
    (hfired : ∀ p f submitter, ∀ m ∈ fired p f submitter, m.Within p) {pe : Page × SubmitEvent}
    {l : Listener} {m : Moment} (hm : m ∈ notifyMoments fire fired pe l) : m.Within pe.1 := by
  obtain ⟨p, e⟩ := pe
  obtain ⟨id, role⟩ := l
  cases role with
  | component c =>
    simp only [notifyMoments] at hm
    cases hk : p.component? c with
    | none =>
      rw [hk] at hm
      cases hm
    | some k =>
      rw [hk] at hm
      cases List.mem_singleton.mp hm
      exact ⟨nofun, nofun⟩
  | observer label reactions =>
    have hheard : Course (fun _ => True) p
        { p with heard := p.heard ++ [⟨label, e.submitter, e.prevented⟩] } :=
      .move (.other p p.handles p.transport p.sleeps p.calls _ List.prefix_rfl) trivial
    obtain ⟨y, r, hy, hr⟩ := mem_foldMoments (P := fun y => Course (fun _ => True) p y.1)
      (fun y r hy => hy.trans ((react_course hfire y r).mono fun _ _ => trivial)) hheard hm
    exact (reactMoments_within hfired hr).of_course hy

end Submits

theorem submitMoments_within {n : Nat} {p : Page} {f : FormId} {submitter : Option Submitter}
    {m : Moment} (hm : m ∈ submitMoments n p f submitter) : m.Within p := by
  induction n generalizing p f submitter m with
  | zero =>
    have hfire (p : Page) (_ : FormId) (_ : Option Submitter) : Course SubmitScope p p := .refl p
    obtain ⟨y, l, hy, hl⟩ := mem_foldMoments (P := fun y => Course (fun _ => True) p y.1)
      (fun y l hy => hy.trans ((notify_course hfire y l).mono fun _ _ => trivial)) (.refl p) hm
    exact (notifyMoments_within hfire (fun _ _ _ _ hm => by cases hm) hl).of_course hy
  | succ n ih =>
    obtain ⟨y, l, hy, hl⟩ := mem_foldMoments (P := fun y => Course (fun _ => True) p y.1)
      (fun y l hy => hy.trans
        ((notify_course (submitWithin_course n) y l).mono fun _ _ => trivial)) (.refl p) hm
    exact (notifyMoments_within (submitWithin_course n) (fun _ _ _ _ hm => ih hm) hl).of_course hy

theorem actMoments_within {p : Page} {a : Action} {m : Moment} (hm : m ∈ p.actMoments a) :
    m.Within p := by
  cases a with
  | attach | handleSubmit =>
    cases List.mem_singleton.mp hm
    exact ⟨nofun, nofun⟩
  | detach c => exact detachMoments_within hm
  | submit f submitter depth => exact submitMoments_within hm
  | run =>
    obtain ⟨q, s, -, hs⟩ :=
      mem_foldMoments (P := fun _ => True) (fun _ _ _ => trivial) trivial hm
    cases List.mem_singleton.mp hs
    exact ⟨nofun, nofun⟩
  | _ => cases hm

/-- A moment of an action is `Within` it, or its end. -/
theorem mem_moments {p : Page} {a : Action} {m : Moment} (hm : m ∈ p.moments a) :
    m.Within p ∨ m = ⟨(p.perform a).1, .done a⟩ := by
  rcases List.mem_append.mp hm with hact | hover
  · split at hact
    · exact .inl (actMoments_within hact)
    · cases hact
  · exact .inr (List.mem_singleton.mp hover)

/-- At a `detached` event of a run, the page is one after `detach`. -/
theorem detached_of_mem {p : Page} {actions : List Action} {m : Moment} {c : ComponentId}
    (hm : m ∈ p.trace actions) (hc : m.event = .detached c) :
    ∃ q, Course (fun _ => True) p q ∧ m.page = q.detach c := by
  induction actions generalizing p with
  | nil => cases hm
  | cons a rest ih =>
    rcases List.mem_append.mp hm with hhere | hlater
    · rcases mem_moments hhere with hwithin | rfl
      · exact hwithin.detached c hc
      · cases hc
    · obtain ⟨q, hq, hpage⟩ := ih hlater
      exact ⟨q, ((perform_course p a).mono fun _ _ => trivial).trans hq, hpage⟩

/-- At a `done` event of a run, the page is the one after the action. -/
theorem done_of_mem {p : Page} {actions : List Action} {m : Moment} {a : Action}
    (hm : m ∈ p.trace actions) (ha : m.event = .done a) :
    ∃ earlier, m.page = ((p.performAll earlier).perform a).1 := by
  induction actions generalizing p with
  | nil => cases hm
  | cons b rest ih =>
    rcases List.mem_append.mp hm with hhere | hlater
    · rcases mem_moments hhere with hwithin | rfl
      · exact absurd ha (hwithin.inner a)
      · cases ha
        exact ⟨[], rfl⟩
    · obtain ⟨earlier, hpage⟩ := ih hlater
      exact ⟨b :: earlier, hpage⟩

end Page

end FormSwap
