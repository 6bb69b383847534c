import FormSwap.Proofs.Release
import FormSwap.Proofs.Requests

/-!
# Submit events with many listeners

`submitWithin` calls the listeners that the form had when the event was fired. The reactions may
detach components, drop handles, and fire further events, also on the same form. The event is
prevented exactly if one of the listeners prevents it, whatever the others do to the page.

A component that has accepted a submit is submitting until it is polled, and one that was detached
has no form until it is attached. Neither happens before the event is over, so such a component is
`Spent`: it accepts no further submit while events are fired.

Main definitions:

- `Listener.prevents`: a listener that prevents the default of every event
- `Page.Spent`: a component that accepts no submit before its next poll or attachment

Main results:

- `Page.prevented_submitWithin`: when an event is prevented
- `Page.submitMoments_inDispatch`: the moments of a submit event
- `Page.Along.not_starts_of_spent`, `Page.Along.starts_le_one`: a component accepts at most one
  submit
- `Page.dispatch_prevents_and_starts_once`: both about one submit event
-/

namespace FormSwap

/-! ## Listeners that prevent the default -/

/-- `r.prevents`: the reaction prevents the default, itself or through a component. -/
def Reaction.prevents : Reaction → Bool
  | .prevent | .resubmit _ => true
  | .detach _ | .dropHandle _ | .submit _ _ => false

/-- `l.prevents`: `l` is the listener of a component, or one of its reactions prevents the
default. -/
def Listener.prevents (l : Listener) : Bool :=
  match l.role with
  | .component _ => true
  | .observer _ reactions => reactions.any Reaction.prevents

namespace Page

section Prevention

variable {fire : Firing}

theorem prevented_react (x : Page × SubmitEvent) (r : Reaction) :
    (react fire x r).2.prevented = (x.2.prevented || r.prevents) := by
  obtain ⟨p, e⟩ := x
  cases r with
  | prevent => exact (Bool.or_true _).symm
  | detach c => exact (Bool.or_false _).symm
  | resubmit c =>
    show (p.handleSubmit c e).2.1.prevented = (e.prevented || true)
    rw [(handleSubmit_handled p c e).1, Bool.or_true]
    rfl
  | dropHandle handle => exact (Bool.or_false _).symm
  | submit f submitter => exact (Bool.or_false _).symm

/-- A fold prevents the event if one of its steps does. -/
theorem prevented_foldl {α : Type} {step : Page × SubmitEvent → α → Page × SubmitEvent}
    {prevents : α → Bool}
    (hstep : ∀ x a, (step x a).2.prevented = (x.2.prevented || prevents a)) (as : List α)
    (x : Page × SubmitEvent) :
    (as.foldl step x).2.prevented = (x.2.prevented || as.any prevents) := by
  induction as generalizing x with
  | nil => exact (Bool.or_false _).symm
  | cons a rest ih => rw [List.foldl_cons, ih, hstep, List.any_cons, Bool.or_assoc]

theorem prevented_notify (x : Page × SubmitEvent) (l : Listener) :
    (notify fire x l).2.prevented = (x.2.prevented || l.prevents) := by
  obtain ⟨p, e⟩ := x
  obtain ⟨id, role⟩ := l
  cases role with
  | component c =>
    show _ = (e.prevented || true)
    rw [Bool.or_true]
    simp only [notify]
    cases p.component? c with
    | none => rfl
    | some k =>
      show (p.handleSubmit c e.prevent).2.1.prevented = true
      rw [(handleSubmit_handled p c e.prevent).1]
      rfl
  | observer label reactions => exact prevented_foldl prevented_react reactions (_, e)

/-- `submitWithin` prevents the event exactly if one of the listeners that the form had prevents
it. -/
theorem prevented_submitWithin (n : Nat) (p : Page) (f : FormId) (submitter : Option Submitter) :
    (submitWithin n p f submitter).2.prevented = (p.listenersOf f).any Listener.prevents := by
  cases n with
  | zero => exact prevented_foldl prevented_notify _ (p, { submitter })
  | succ n => exact prevented_foldl prevented_notify _ (p, { submitter })

end Prevention

/-! ## Moments of a submit event -/

/-- `m.InDispatch`: at `m` a component handles an event, or is detached. -/
def Moment.InDispatch (m : Moment) : Prop :=
  match m.event with
  | .handle _ _ | .detached _ => True
  | .disconnect c => ∃ k, m.page.component? c = some k
  | .attach _ | .poll _ | .done _ => False

section Submits

variable {fire : Firing} {fired : FiringMoments} {m : Moment}

theorem detachMoments_inDispatch {p : Page} {c : ComponentId} (hm : m ∈ p.detachMoments c) :
    m.InDispatch := by
  rcases List.mem_append.1 hm with hgoing | hgone
  · obtain ⟨d, k, hevent, hk⟩ := disconnections_event hgoing
    rw [Moment.InDispatch, hevent]
    exact ⟨k, hk⟩
  · rw [List.mem_singleton.1 hgone]
    trivial

theorem reactMoments_inDispatch
    (hfired : ∀ p f submitter, ∀ m ∈ fired p f submitter, m.InDispatch)
    {x : Page × SubmitEvent} {r : Reaction} (hm : m ∈ reactMoments fired x r) :
    m.InDispatch := by
  obtain ⟨p, e⟩ := x
  cases r with
  | prevent | dropHandle => cases hm
  | detach c => exact detachMoments_inDispatch hm
  | resubmit c =>
    rw [List.mem_singleton.1 hm]
    trivial
  | submit f submitter => exact hfired p f submitter m hm

theorem notifyMoments_inDispatch
    (hfired : ∀ p f submitter, ∀ m ∈ fired p f submitter, m.InDispatch)
    {x : Page × SubmitEvent} {l : Listener} (hm : m ∈ notifyMoments fire fired x l) :
    m.InDispatch := by
  obtain ⟨p, e⟩ := x
  obtain ⟨id, role⟩ := l
  cases role with
  | component c =>
    simp only [notifyMoments] at hm
    split at hm
    · rw [List.mem_singleton.1 hm]
      trivial
    · cases hm
  | observer label reactions =>
    obtain ⟨y, r, -, hr⟩ :=
      mem_foldMoments (P := fun _ => True) (fun _ _ _ => trivial) trivial hm
    exact reactMoments_inDispatch hfired hr

/-- `submitMoments` are `InDispatch`. -/
theorem submitMoments_inDispatch {n : Nat} {p : Page} {f : FormId} {submitter : Option Submitter}
    (hm : m ∈ submitMoments n p f submitter) : m.InDispatch := by
  induction n generalizing p f submitter m with
  | zero =>
    obtain ⟨y, l, -, hl⟩ :=
      mem_foldMoments (P := fun _ => True) (fun _ _ _ => trivial) trivial hm
    exact notifyMoments_inDispatch (fun _ _ _ _ h => by cases h) hl
  | succ n ih =>
    obtain ⟨y, l, -, hl⟩ :=
      mem_foldMoments (P := fun _ => True) (fun _ _ _ => trivial) trivial hm
    exact notifyMoments_inDispatch (fun _ _ _ _ h => ih h) hl

end Submits

/-! ## Spent components -/

/-- `p.Spent c`: unless it was dropped, `c` is submitting or has no form. -/
structure Spent (p : Page) (c : ComponentId) : Prop where
  placed : c < p.components.length
  unready : ∀ k, p.component? c = some k → k.state = .submitting ∨ k.form = none

section Spent

variable {p q : Page} {c d : ComponentId} {k : Component} {kind : Kind} {m : Moment}
  {l : List Moment}

/-- An idle component with a form is not `Spent`. -/
theorem not_spent_of_ready {f : FormId} (hk : p.component? c = some k) (hidle : k.state = .idle)
    (hform : k.form = some f) : ¬ p.Spent c := by
  intro h
  rcases h.unready k hk with hbusy | hnone
  · rw [hidle] at hbusy
    cases hbusy
  · rw [hform] at hnone
    cases hnone

/-- A `Spent` component starts no pipeline. -/
theorem Spent.not_starts (h : m.page.Spent c) : m.starts c = false := by
  rw [Bool.eq_false_iff]
  intro hstarts
  obtain ⟨e, -, hstarted⟩ := Moment.starts_iff.1 hstarts
  obtain ⟨k, f, hk, hidle, hform, -⟩ := handleSubmit_started hstarted
  exact not_spent_of_ready hk hidle hform h

/-- `Spent` is preserved by a change of one component that leaves it submitting or without a
form. -/
theorem Spent.of_modify (h : p.Spent c) {change : Component → Component}
    (hq : q.components = p.components.modify d (Option.map change))
    (hchange : d = c → ∀ k, (change k).state = .submitting ∨ (change k).form = none) :
    q.Spent c where
  placed := by
    rw [hq, List.length_modify]
    exact h.placed
  unready k' hk' := by
    rw [component?_of_modify hq] at hk'
    split at hk'
    · next hdc =>
      obtain ⟨k, -, rfl⟩ := Option.map_eq_some_iff.1 hk'
      exact hchange hdc k
    · exact h.unready k' hk'

/-- `Spent` is preserved by moves outside the components. -/
theorem Spent.outside (h : p.Spent c) (hkind : Outside kind) (move : Move kind p q) :
    q.Spent c where
  placed := Nat.lt_of_lt_of_le h.placed move.components_le
  unready k' hk' := by
    cases move with
    | tree e =>
      rw [e.kept.component?] at hk'
      exact h.unready k' hk'
    | create =>
      rw [component?_of_append (p := p) rfl, if_neg (Nat.ne_of_lt h.placed)] at hk'
      exact h.unready k' hk'
    | drop =>
      rw [component?_of_set_none (p := p) rfl] at hk'
      split at hk'
      · cases hk'
      · exact h.unready k' hk'
    | mark | clear | wake | advance | pollSleep | dropSleep | fault | mend | note | other =>
      exact h.unready k' hk'
    | bind | unbind | rebind | replace | adopt | disconnect | start | refuse | ask | await | sleep
    | finish | finishGone | dropAborted => exact hkind.elim

/-- A component is `Spent` after a change that leaves it submitting or without a form. -/
theorem spent_of_modify (hk : p.component? c = some k) {change : Component → Component}
    (hq : q.components = p.components.modify c (Option.map change))
    (hchange : (change k).state = .submitting ∨ (change k).form = none) : q.Spent c where
  placed := by
    rw [hq, List.length_modify]
    exact lt_of_component? hk
  unready k' hk' := by
    rw [component?_of_modify hq, if_pos rfl, hk] at hk'
    cases hk'
    exact hchange

/-- A component that starts a pipeline is `Spent`. -/
theorem spent_of_starts (hm : m.starts c = true) : (m.event.effect m.page).Spent c := by
  obtain ⟨e, hevent, hstarted⟩ := Moment.starts_iff.1 hm
  have hhandled := (handleSubmit_handled m.page c e).2
  rw [hstarted] at hhandled
  rw [hevent]
  show (m.page.handleSubmit c e).1.Spent c
  generalize (m.page.handleSubmit c e).1 = q at hhandled ⊢
  cases hhandled with
  | started hk => exact spent_of_modify hk rfl (.inl rfl)

/-- `disconnect` makes a component `Spent`. -/
theorem spent_disconnect (hk : p.component? c = some k) : (p.disconnect c).Spent c := by
  obtain ⟨notices, heq⟩ := disconnect_eq hk
  rw [heq]
  exact spent_of_modify hk rfl (.inr rfl)

/-- `Spent` is preserved by `handleSubmit` of any component. -/
theorem Spent.handled {e : SubmitEvent} {answer : Disposition} (h : p.Spent c)
    (hq : Handled p d e q answer) : q.Spent c := by
  -- the component that changes is idle with a form, so it is another one
  have hother {k : Component} {f : FormId} (hk : p.component? d = some k)
      (hidle : k.state = .idle) (hform : k.form = some f) : d ≠ c := by
    rintro rfl
    exact not_spent_of_ready hk hidle hform h
  cases hq with
  | gone => exact h
  | busy | unattached => exact ⟨h.placed, h.unready⟩
  | refused hk hidle hform => exact h.of_modify rfl fun heq => absurd heq (hother hk hidle hform)
  | started hk hidle hform => exact h.of_modify rfl fun heq => absurd heq (hother hk hidle hform)

/-- `Spent` is preserved by every moment of a submit event. -/
theorem Spent.effect (h : m.page.Spent c) (hm : m.InDispatch) :
    (m.event.effect m.page).Spent c := by
  obtain ⟨p, event⟩ := m
  cases event with
  | handle d e => exact h.handled (handleSubmit_handled p d e).2
  | disconnect d =>
    obtain ⟨k, hk⟩ := hm
    obtain ⟨notices, heq⟩ := disconnect_eq hk
    show (p.disconnect d).Spent c
    rw [heq]
    exact h.of_modify rfl fun _ _ => .inr rfl
  | detached d => exact h
  | attach | poll | done => cases hm

/-- A `Spent` component starts no pipeline during submit events. -/
theorem Along.not_starts_of_spent (h : Along p l q) (hl : ∀ m ∈ l, m.InDispatch)
    (hp : p.Spent c) (hm : m ∈ l) : m.starts c = false := by
  obtain ⟨before, after, rfl⟩ := List.append_of_mem hm
  apply Spent.not_starts
  apply h.split.1.keeps (I := fun r => r.Spent c)
    (fun _ _ _ hkind move hspent => hspent.outside hkind move) _ hp
  intro n hn hspent
  exact hspent.effect (hl n (List.mem_append_left _ hn))

/-- A component starts at most one pipeline during submit events. -/
theorem Along.starts_le_one (h : Along p l q) (hl : ∀ m ∈ l, m.InDispatch) :
    l.countP (·.starts c) ≤ 1 := by
  induction h with
  | nil => exact Nat.zero_le 1
  | @cons _ _ m rest _ hrest ih =>
    have hlater : ∀ n ∈ rest, n.InDispatch :=
      fun n hn => hl n (List.mem_cons_of_mem _ hn)
    rw [List.countP_cons]
    split
    · next hstarts =>
      have hnone : rest.countP (·.starts c) = 0 := by
        rw [List.countP_eq_zero]
        intro n hn
        rw [hrest.not_starts_of_spent hlater (spent_of_starts hstarts) hn]
        exact Bool.false_ne_true
      omega
    · exact ih hlater

end Spent

/-! ## Pipelines of a component -/

/-- `p.startedBy c` is the number of pipelines that `c` has started. -/
def startedBy (p : Page) (c : ComponentId) : Nat :=
  p.pipelines.countP (·.owner == c)

section Started

variable {p q : Page} {c d : ComponentId} {k : Component} {m : Moment} {l : List Moment}

/-- `disconnect` preserves `startedBy`. -/
theorem startedBy_disconnect (hk : p.component? d = some k) :
    (p.disconnect d).startedBy c = p.startedBy c := by
  obtain ⟨notices, heq⟩ := disconnect_eq hk
  rw [heq]
  show (p.pipelinesAborting k.inFlight).countP (·.owner == c) = p.startedBy c
  cases k.inFlight with
  | none => rfl
  | some s =>
    have howners : (p.pipelines.modify s Pipeline.abort).map (·.owner) =
        p.pipelines.map (·.owner) := map_modify_of_eq _ s fun _ => rfl
    have hcount (pipes : List Pipeline) :
        pipes.countP (·.owner == c) = (pipes.map (·.owner)).countP (· == c) := by
      rw [List.countP_map]
      rfl
    rw [pipelinesAborting, startedBy, hcount, howners, ← hcount]

/-- `startedBy` grows by one for each submit that is accepted. -/
theorem startedBy_effect (hm : m.InDispatch) :
    (m.event.effect m.page).startedBy c =
      m.page.startedBy c + if m.starts c then 1 else 0 := by
  obtain ⟨p, event⟩ := m
  cases event with
  | handle d e =>
    show (p.handleSubmit d e).1.pipelines.countP (·.owner == c) = p.startedBy c +
      if d == c && (p.handleSubmit d e).2.2 == .started then 1 else 0
    rcases (handleSubmit_handled p d e).2.pipelines with
      ⟨hignored, hsame⟩ | ⟨hstarted, f, payload, hnew⟩
    · rw [hsame, hignored, startedBy]
      simp
    · rw [hnew, hstarted, List.countP_append, List.countP_singleton, startedBy]
      simp
  | disconnect d =>
    obtain ⟨k, hk⟩ := hm
    exact startedBy_disconnect hk
  | detached d => rfl
  | attach | poll | done => cases hm

theorem Along.startedBy (h : Along p l q) (hl : ∀ m ∈ l, m.InDispatch) :
    q.startedBy c = p.startedBy c + l.countP (·.starts c) := by
  induction h with
  | nil h =>
    rw [Page.startedBy, h.pipelines_of_outside]
    rfl
  | @cons p _ m rest h _ ih =>
    have hsame : m.page.startedBy c = p.startedBy c := by
      rw [Page.startedBy, h.pipelines_of_outside]
      rfl
    rw [ih fun n hn => hl n (List.mem_cons_of_mem _ hn),
      startedBy_effect (hl m List.mem_cons_self), hsame, List.countP_cons]
    omega

end Started

/-- On every page, a submit event is prevented exactly if the form had, when it was fired, the
listener of a component or another one that prevents the default. During the event and all events
fired within it, a component accepts at most one submit, and `startedBy` grows accordingly. It
accepts none after it was detached during the event. On a reachable page it accepts none either if
it was detached before. -/
theorem dispatch_prevents_and_starts_once (n : Nat) (p : Page) (f : FormId)
    (submitter : Option Submitter) :
    (submitWithin n p f submitter).2.prevented = (p.listenersOf f).any Listener.prevents ∧
    ∀ c, ((submitMoments n p f submitter).countP (·.starts c) ≤ 1 ∧
        (submitWithin n p f submitter).1.startedBy c =
          p.startedBy c + (submitMoments n p f submitter).countP (·.starts c)) ∧
      (∀ before m after, submitMoments n p f submitter = before ++ m :: after →
        m.event = .disconnect c → ∀ later ∈ after, later.starts c = false) ∧
      (p.Reachable → ∀ m ∈ submitMoments n p f submitter, ∀ k, m.page.component? c = some k →
        k.detached = true → m.starts c = false) := by
  have halong := submitMoments_along n p f submitter
  have hin : ∀ m ∈ submitMoments n p f submitter, m.InDispatch :=
    fun m hm => submitMoments_inDispatch hm
  refine ⟨prevented_submitWithin n p f submitter, fun c => ⟨⟨halong.starts_le_one hin,
    halong.startedBy hin⟩, ?_, ?_⟩⟩
  · intro before m after hrun hevent later hlater
    rw [hrun] at halong hin
    apply halong.split.2.not_starts_of_spent (fun n hn => hin n (by simp [hn])) _ hlater
    have hthere := hin m (by simp)
    rw [Moment.InDispatch, hevent] at hthere
    obtain ⟨k, hk⟩ := hthere
    rw [hevent]
    exact spent_disconnect hk
  · intro hp m hm k hk hdetached
    have hvisited : m.page.Visited := hp.visited.trans (halong.course_of_mem hm)
    apply Spent.not_starts
    refine ⟨lt_of_component? hk, ?_⟩
    intro k' hk'
    rw [hk] at hk'
    cases hk'
    exact .inr ((hvisited.flagsInStep c k hk).formless hdetached)

/-- A form with an observer and three components. The observer fires the event again, detaches the
first component and drops the second; the third one handles both events. -/
theorem dispatch_prevents_and_starts_once_nested :
    let p := performAll {} [.newForm { action := "/save", method := "post" },
      .newHost [] (some 0) none false, .append 0 0, .createWith 0 {}, .createWith 0 {},
      .createWith 0 {}, .listen 0 "again" [.submit 0 none, .detach 0, .dropHandle 1],
      .attach 0, .attach 1, .attach 2]
    (submitWithin 1 p 0 none).2.prevented = true ∧
      (submitWithin 1 p 0 none).1.startedBy 2 = 1 ∧
      ∃ before m after, submitMoments 1 p 0 none = before ++ m :: after ∧
        m.event = .disconnect 0 ∧ (∀ later ∈ after, later.starts 0 = false) ∧
        ∃ later ∈ after, ∃ k, later.page.component? 0 = some k ∧ k.detached = true ∧
          (∃ e, later.event = .handle 0 e) ∧ later.starts 0 = false := by
  intro p
  obtain ⟨hprevented, hcomponents⟩ := dispatch_prevents_and_starts_once 1 p 0 none
  refine ⟨?_, ?_, ?_⟩
  · rw [hprevented]
    decide +kernel
  · rw [(hcomponents 2).1.2]
    decide +kernel
  · have hany : ((submitMoments 1 p 0 none).tails.any fun l =>
        l.head?.any (fun m => m.event.isDisconnect 0) &&
        l.tail.any fun n => (n.page.component? 0).any (·.detached) &&
          n.event.actor n.page == some 0 && !n.event.isDisconnect 0) = true := by decide +kernel
    obtain ⟨l, hl, hfound⟩ := List.any_eq_true.1 hany
    obtain ⟨before, hrun⟩ := (List.mem_tails _ _).1 hl
    cases l with
    | nil => cases hfound
    | cons m after =>
      simp only [List.head?_cons, Option.any_some, List.tail_cons, Bool.and_eq_true,
        List.any_eq_true, Option.any_eq_true, beq_iff_eq, Bool.not_eq_true'] at hfound
      obtain ⟨hgoes, later, hlater, ⟨⟨k', hk', hdetached⟩, hactor⟩, hstays⟩ := hfound
      have hevent := Event.isDisconnect_iff.1 hgoes
      have hmem : later ∈ submitMoments 1 p 0 none := by
        rw [← hrun]
        simp [hlater]
      -- the component handles the event: the other `InDispatch` case is no `handle`
      have hmeets : ∃ e, later.event = .handle 0 e := by
        have hin := submitMoments_inDispatch hmem
        unfold Moment.InDispatch at hin
        generalize later.event = event at hactor hstays hin ⊢
        cases event with
        | handle d e =>
          obtain rfl := Option.some.inj hactor
          exact ⟨e, rfl⟩
        | disconnect d =>
          obtain rfl := Option.some.inj hactor
          cases hstays
        | detached d => cases hactor
        | attach | poll | done => cases hin
      exact ⟨before, m, after, hrun.symm, hevent,
        (hcomponents 0).2.1 before m after hrun.symm hevent, later, hlater, k', hk', hdetached,
        hmeets, (hcomponents 0).2.2 ⟨_, rfl⟩ later hmem k' hk' hdetached⟩

end Page

end FormSwap
