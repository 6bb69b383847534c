import FormSwap.Proofs.DepictPipeline
import FormSwap.Proofs.Kept
import FormSwap.Proofs.Stall

/-!
# Responses commute

Two components on different hosts have pipelines that are pending on deferred replies. The replies
can be delivered in either order, and a run between them makes no difference. The ids of the hosts,
forms and components that come with the responses may differ, and the order of the events that reach
a document.

There is one exception. A pipeline that was never polled is polled in the next run, after the woken
ones. If its component shares the host of the component whose reply is delivered last, then after a
run between the replies it comes first.

Main results:

- `Reachable.pendingUnqueued`: a pipeline that is pending on a deferred reply is not queued
- `View.polls_swap`, `View.polls_split`: the polls of two schedules lead to the same view
- `responses_commute`: the pages after the schedules are `Alike`
-/

namespace FormSwap

open FormSwap.Markup

namespace Page

/-! ## Queued pipelines -/

/-- `p.Unqueued s`: the pipeline `s` is neither spawned nor woken. -/
def Unqueued (p : Page) (s : PipelineId) : Prop :=
  s ∉ p.woken ∧ s ∉ p.spawned

/-- `p.PendingUnqueued`: a pipeline that is pending on a deferred reply is not queued, unless it was
aborted. -/
def PendingUnqueued (p : Page) : Prop :=
  ∀ s d, p.replyOf s = some d → p.isAborted s = false → p.transport.isPending d = true →
    p.Unqueued s

section Queued

variable {p q : Page} {s : PipelineId} {d : DeferredId} {a : Action}

theorem lt_of_replyOf (hd : p.replyOf s = some d) : s < p.pipelines.length := by
  obtain ⟨pipe, hpipe, -⟩ := Option.bind_eq_some_iff.mp hd
  exact (List.getElem?_eq_some_iff.mp hpipe).1

/-- A move queues no old pipeline, unless it wakes or aborts it. -/
theorem Move.unqueued {kind : Kind} (move : Move kind p q) (hkind : kind ≠ .wake)
    (hs : s < p.pipelines.length) (hlive : q.isAborted s = false) (h : p.Unqueued s) :
    q.Unqueued s := by
  cases move with
  | tree e =>
    obtain ⟨_, _, _, rfl⟩ := e.kept.only
    exact h
  | @disconnect _ _ k hk notices =>
    refine ⟨fun hwoken => ?_, h.2⟩
    cases hf : k.inFlight with
    | none =>
      simp only [hf, wokenAborting] at hwoken
      exact h.1 hwoken
    | some t =>
      simp only [hf, wokenAborting] at hwoken
      have hst : s = t := by
        split at hwoken
        · exact absurd hwoken h.1
        split at hwoken
        · exact absurd hwoken h.1
        · simpa [h.1] using hwoken
      -- otherwise it would have been aborted
      subst hst
      simp [isAborted, hf, pipelinesAborting, Pipeline.abort, hs] at hlive
  | start =>
    refine ⟨h.1, fun hspawned => ?_⟩
    rcases List.mem_append.mp hspawned with hold | hnew
    · exact h.2 hold
    · exact absurd (List.mem_singleton.mp hnew) (Nat.ne_of_lt hs)
  | clear => exact ⟨List.not_mem_nil, List.not_mem_nil⟩
  | wake => exact absurd rfl hkind
  | mark | create | bind | unbind | rebind | replace | adopt | drop | refuse | ask | await | sleep
  | finish | finishGone | dropAborted | advance | pollSleep | dropSleep | fault | mend | note
  | other =>
    exact h

/-- An action that wakes nothing queues no pipeline that is pending on a reply. -/
theorem act_unqueued (ha : p.offers a = true) (hrun : a ≠ .run) (hwake : ¬ a.Allows p .wake)
    (hd : p.replyOf s = some d) (hlive : (p.act a).1.isAborted s = false)
    (h : p.Unqueued s) : (p.act a).1.Unqueued s := by
  have hall : (p.act a).1.replyOf s = some d ∧
      ((p.act a).1.isAborted s = false → (p.act a).1.Unqueued s) := by
    refine (act_course ha).keeps (I := fun r => r.replyOf s = some d ∧
      (r.isAborted s = false → r.Unqueued s)) (fun kind r r' hkind move ih => ?_)
      ⟨hd, fun _ => h⟩
    have hneeds := move.sameNeeds (keepsStages_of_allows hkind hrun)
    have hnoWake : kind ≠ .wake := by
      rintro rfl
      exact hwake hkind
    refine ⟨(hneeds.reply s).trans ih.1, fun hlive' => ?_⟩
    exact move.unqueued hnoWake (lt_of_replyOf ih.1) hlive' (ih.2 (hneeds.live hlive'))
  exact hall.2 hlive

/-- `settleDeferred` settles its own reply only. -/
theorem isPending_of_settle {status : Deferred} (hstatus : status ≠ .pending) {e : DeferredId}
    (hpending : (p.settleDeferred e status).transport.isPending d = true) :
    d ≠ e ∧ p.transport.isPending d = true := by
  obtain ⟨_, hsettle⟩ := settleDeferred_eq p e status
  rw [hsettle] at hpending
  dsimp only at hpending
  have hne : d ≠ e := by
    rintro rfl
    rw [MockTransport.isPending_iff] at hpending
    simp only [MockTransport.settle, List.getElem?_set_self', Option.map_eq_map,
      Option.map_eq_some_iff] at hpending
    obtain ⟨_, -, hsame⟩ := hpending
    exact hstatus hsame
  exact ⟨hne, by rwa [MockTransport.isPending_settle_of_ne status hne] at hpending⟩

/-- An action does not make a settled reply pending again. -/
theorem isPending_of_act (ha : p.offers a = true) (hrun : a ≠ .run)
    (hd : d < p.transport.deferred.length) (hpending : (p.act a).1.transport.isPending d = true) :
    p.transport.isPending d = true := by
  by_cases hquiet : a.isQuiet = true
  · -- most actions preserve the transport
    have htransport : (p.act a).1.transport = p.transport :=
      congrArg (fun x => x.2.1) (act_surroundings ha hquiet)
    rwa [htransport] at hpending
  cases a with
  | run => exact absurd rfl hrun
  | newSleep | reply => exact hpending
  | pollSleep n =>
    simp only [act, pollUserSleep] at hpending
    split at hpending
    · exact hpending
    · split at hpending <;> exact hpending
  | dropSleep n =>
    simp only [act, dropUserSleep] at hpending
    split at hpending <;> exact hpending
  | advance span =>
    obtain ⟨_, hadvance⟩ := advance_eq p span
    simp only [act, hadvance] at hpending
    exact hpending
  | defer =>
    rw [MockTransport.isPending_iff] at hpending ⊢
    simp only [act, MockTransport.defer, List.getElem?_append_left hd] at hpending
    exact hpending
  | deliver e outcome => exact (isPending_of_settle Deferred.noConfusion hpending).2
  | dropDeferred e => exact (isPending_of_settle Deferred.noConfusion hpending).2
  | pollCall k =>
    simp only [act, pollUserCall] at hpending
    split at hpending
    · exact hpending
    · rename_i call _
      have hsame := p.transport.isPending_poll call d
      split at hpending <;> rename_i hpoll <;> rw [hpoll] at hsame <;> exact hsame ▸ hpending
  | _ => exact absurd rfl hquiet

/-- `settleDeferred` wakes no pipeline that is pending on another reply. -/
theorem settleDeferred_unqueued {e : DeferredId} {status : Deferred} (hd : p.replyOf s = some d)
    (hne : d ≠ e) (h : p.Unqueued s) : (p.settleDeferred e status).Unqueued s := by
  unfold settleDeferred
  dsimp only
  split
  · rename_i t hfind
    obtain ⟨hlt, hawaits, -⟩ := List.findIdx?_eq_some_iff_getElem.mp hfind
    have ht : p.replyOf t = some e :=
      Option.bind_eq_some_iff.mpr ⟨_, List.getElem?_eq_getElem hlt, awaits_iff.mp hawaits⟩
    have hst : s ≠ t := by
      rintro rfl
      rw [hd] at ht
      cases ht
      exact hne rfl
    unfold wake
    split
    · exact h
    · exact ⟨by simpa [hst] using h.1, h.2⟩
  · exact h

/-- `advance` wakes no pipeline that is pending on a reply. -/
theorem advance_unqueued (hp : p.Visited) (hd : p.replyOf s = some d) (span : Duration)
    (h : p.Unqueued s) : (p.advance span).Unqueued s := by
  refine ⟨fun hwoken => ?_, ?_⟩
  · rcases woken_of_wakes hwoken with hold | hdue
    · exact h.1 hold
    · obtain ⟨w, hw, hwaker⟩ := List.mem_filterMap.mp hdue
      obtain ⟨pipe, sleep, hpipe, hstage, -⟩ :=
        hp.wakersKnown w (List.mem_filter.mp hw).1 s hwaker
      simp [replyOf, hpipe, hstage, Stage.reply?] at hd
  · obtain ⟨_, hadvance⟩ := advance_eq p span
    rw [hadvance]
    exact h.2

theorem perform_pendingUnqueued (hp : p.Reachable) (h : p.PendingUnqueued) (a : Action) :
    (p.perform a).1.PendingUnqueued := by
  by_cases hrun : a = .run
  · subst hrun
    obtain ⟨hwoken, hspawned⟩ := perform_run_queues p
    intro s d _ _ _
    simp [Unqueued, hwoken, hspawned]
  unfold perform
  split
  · rename_i ha
    intro s d hd hlive hpending
    obtain ⟨forms, components, hsweep⟩ := sweep_eq (p.act a).1
    dsimp only at hd hlive hpending ⊢
    rw [hsweep] at hd hlive hpending ⊢
    have hneeds := act_needs ha hrun
    have hd' : p.replyOf s = some d := (hneeds.reply s).symm.trans hd
    have hpending' := isPending_of_act ha hrun (hp.waits.replies.taken s d hd').2 hpending
    have hbefore := h s d hd' (hneeds.live hlive) hpending'
    by_cases hwake : a.Allows p .wake
    · -- a woken pipeline was pending on the reply that is settled, or on a sleep
      rcases hwake with ⟨e, outcome, rfl⟩ | ⟨e, rfl⟩ | ⟨span, rfl⟩
      · have hne := (isPending_of_settle Deferred.noConfusion hpending).1
        exact settleDeferred_unqueued hd' hne hbefore
      · have hne := (isPending_of_settle Deferred.noConfusion hpending).1
        exact settleDeferred_unqueued hd' hne hbefore
      · exact advance_unqueued hp.visited hd' span hbefore
    · exact act_unqueued ha hrun hwake hd' hlive hbefore
  · exact h

/-- `PendingUnqueued` holds on every reachable page. -/
theorem Reachable.pendingUnqueued (hp : p.Reachable) : p.PendingUnqueued :=
  hp.keeps (fun s d hd => by cases hd) fun _ a hq ih => perform_pendingUnqueued hq ih a

end Queued

end Page

/-! ## Two schedules of polls -/

namespace View

section Schedules

variable {w : View} {s s' t : PipelineId} {c c' : ComponentId} {h h' : HostId}
  {d d' : DeferredId} {l rest : List PipelineId}

theorem deliver_comm (hne : d ≠ d') (outcome outcome' : Outcome) :
    (w.deliver d outcome).deliver d' outcome' = (w.deliver d' outcome').deliver d outcome := by
  simp only [deliver, MockTransport.settle, List.set_comm _ _ hne]

theorem Awaits.polls (hs : w.Awaits s c h d) (hl : s ∉ l) :
    (l.foldl View.poll w).Awaits s c h d := by
  induction l generalizing w with
  | nil => exact hs
  | cons t rest ih =>
    simp only [List.mem_cons, not_or] at hl
    exact ih (hs.poll hl.1) hl.2

theorem Apart.polls (ht : w.Apart c h t) (l : List PipelineId) :
    (l.foldl View.poll w).Apart c h t := by
  induction l generalizing w with
  | nil => exact ht
  | cons u rest ih => exact ih (ht.poll u)

/-- Polls settle no deferred reply. -/
theorem isPending_polls (w : View) (l : List PipelineId) (d : DeferredId) :
    (l.foldl View.poll w).transport.isPending d = w.transport.isPending d := by
  induction l generalizing w with
  | nil => rfl
  | cons s rest ih =>
    refine (ih (w.poll s)).trans ?_
    cases hpipe : w.pipeline s with
    | none => rw [poll_of_none hpipe]
    | some pipe =>
      rw [poll_of_some hpipe, put_transport]
      simp only [MockTransport.isPending, PipelineView.deferred_ask]

theorem Closed.polls {n m : Nat} (hw : w.Closed n m) (l : List PipelineId) :
    (l.foldl View.poll w).Closed n m := by
  induction l generalizing w with
  | nil => exact hw
  | cons s rest ih => exact ih (hw.poll s)

/-- Pipelines of components on different hosts are `Apart`. -/
theorem Awaits.apart (hs : w.Awaits s c h d) (hh : h ≠ h') (hc : (w.component c').host = h') :
    w.Apart c' h' s := by
  obtain ⟨rfl, payload, hpipe⟩ := hs
  intro pipe hpipe'
  rw [hpipe] at hpipe'
  cases hpipe'
  refine .inr ⟨?_, hh⟩
  rintro rfl
  exact hh hc

/-- Two pending pipelines on different hosts can be polled in either order. -/
theorem polls_swap (hs : w.Awaits s c h d) (hs' : w.Awaits s' c' h' d') (hh : h ≠ h')
    (hne : s ≠ s') (hl : s ∉ l) (hl' : s' ∉ l) (rest : List PipelineId) :
    (l ++ s :: s' :: rest).foldl View.poll w = (l ++ s' :: s :: rest).foldl View.poll w := by
  have hw := hs.polls hl
  have hw' := hs'.polls hl'
  simp only [List.foldl_append, List.foldl_cons]
  rw [poll_comm hw hne (hw'.apart (Ne.symm hh) hw.1)]

/-- A reply can be delivered after polls that are `Apart` from its pipeline, and so can the poll
that it causes. -/
theorem polls_split (hs : w.Awaits s c h d) (hd : w.Reserved s d) (hl : s ∉ l)
    (hrest : s ∉ rest) (hapart : ∀ t ∈ rest, w.Apart c h t) (outcome : Outcome) :
    (((l ++ rest).foldl View.poll w).deliver d outcome).poll s =
      (l ++ s :: rest).foldl View.poll (w.deliver d outcome) := by
  have hboth : s ∉ l ++ rest := by simp [hl, hrest]
  have hw : (l.foldl View.poll (w.deliver d outcome)).Awaits s c h d :=
    Awaits.polls (w := w.deliver d outcome) hs hl
  have hothers : ∀ t ∈ rest,
      s ≠ t ∧ (l.foldl View.poll (w.deliver d outcome)).Apart c h t := fun t ht =>
    ⟨fun heq => hrest (heq ▸ ht), Apart.polls (w := w.deliver d outcome) (hapart t ht) l⟩
  rw [← polls_deliver hd hboth, List.foldl_append, List.foldl_append, List.foldl_cons,
    polls_comm hw hothers]

end Schedules

/-! ## Two schedules on a page -/

namespace Depicts

open Page

variable {w : View} {n m : Nat} {p : Page} {s s' : PipelineId} {c c' : ComponentId}
  {h h' : HostId} {d d' : DeferredId}

/-- `Awaits` in a view that depicts the page holds on the page. -/
theorem awaits (hw : w.Depicts n m p) (hs : w.Awaits s c h d) :
    p.replyOf s = some d ∧ p.isAborted s = false := by
  obtain ⟨-, payload, hview⟩ := hs
  rw [hw.pipeline] at hview
  obtain ⟨pipe, hpipe, hsame⟩ := Option.map_eq_some_iff.mp hview
  simp only [pipelineView, PipelineView.mk.injEq] at hsame
  obtain ⟨-, hstage, ha⟩ := hsame
  refine ⟨?_, by simp [isAborted, hpipe, ha]⟩
  rw [replyOf, hpipe, Option.bind_some]
  cases hcase : pipe.stage <;> rw [hcase, stageView] at hstage <;> cases hstage
  rfl

/-- `deliver` of a reply that a pipeline awaits. -/
theorem perform_deliver (hw : w.Depicts n m p) (hp : p.Reachable) (hs : w.Awaits s c h d)
    (hd : w.transport.isPending d = true) (outcome : Outcome) :
    (w.deliver d outcome).Depicts n m (p.perform (.deliver d outcome)).1 ∧
      (p.perform (.deliver d outcome)).1.woken = p.woken ++ [s] ∧
      (p.perform (.deliver d outcome)).1.spawned = p.spawned := by
  obtain ⟨hreply, hlive⟩ := hw.awaits hs
  have hpending : p.transport.isPending d = true := by rwa [← hw.transport]
  have hperform : (p.perform (.deliver d outcome)).1 =
      (p.settleDeferred d (.delivered outcome)).sweep := by
    unfold perform
    rw [if_pos (show p.offers (.deliver d outcome) = true from hpending)]
    rfl
  have hunqueued := hp.pendingUnqueued s d hreply hlive hpending
  have hsettle : p.settleDeferred d (.delivered outcome) =
      { p with
        transport := p.transport.settle d (.delivered outcome)
        woken := p.woken ++ [s] } := by
    unfold settleDeferred
    simp only [findIdx?_awaits hp.waits.replies hreply]
    unfold wake
    rw [if_neg (by simpa using hunqueued.1)]
  obtain ⟨_, _, hsweep⟩ := sweep_eq (p.settleDeferred d (.delivered outcome))
  refine ⟨?_, ?_, ?_⟩
  · rw [hperform]
    exact (hw.deliver d outcome).sweep
  · rw [hperform, hsweep, hsettle]
  · rw [hperform, hsweep, hsettle]

theorem perform_run (hw : w.Depicts n m p) (hp : p.Reachable) (hclosed : w.Closed n m) :
    ((p.woken ++ p.spawned).foldl View.poll w).Depicts n m (p.perform .run).1 :=
  (hw.run hclosed hp.visited).sweep

/-- A run after both replies were delivered. -/
theorem run_after_both (hw : w.Depicts n m p) (hp : p.Reachable) (hclosed : w.Closed n m)
    (hs : w.Awaits s c h d) (hs' : w.Awaits s' c' h' d') (hne : d ≠ d')
    (hd : w.transport.isPending d = true) (hd' : w.transport.isPending d' = true)
    (outcome outcome' : Outcome) :
    ((p.woken ++ s :: s' :: p.spawned).foldl View.poll
      ((w.deliver d outcome).deliver d' outcome')).Depicts n m
      (p.performAll [.deliver d outcome, .deliver d' outcome', .run]) := by
  obtain ⟨hw₁, hwoken₁, hspawned₁⟩ := hw.perform_deliver hp hs hd outcome
  have hpending : (w.deliver d outcome).transport.isPending d' = true := by
    rwa [View.deliver, MockTransport.isPending_settle_of_ne _ hne.symm]
  obtain ⟨hw₂, hwoken₂, hspawned₂⟩ :=
    hw₁.perform_deliver (hp.perform _) (s := s') hs' hpending outcome'
  have hrun := hw₂.perform_run ((hp.perform _).perform _) hclosed
  rw [hwoken₂, hspawned₂, hwoken₁, hspawned₁, List.append_assoc, List.append_assoc] at hrun
  exact hrun

/-- A run after each of the two replies. -/
theorem run_after_each (hw : w.Depicts n m p) (hp : p.Reachable) (hclosed : w.Closed n m)
    (hs : w.Awaits s c h d) (hs' : w.Awaits s' c' h' d') (hne : d ≠ d')
    (hd : w.transport.isPending d = true) (hd' : w.transport.isPending d' = true)
    (hqueue : s' ∉ p.woken ++ s :: p.spawned) (outcome outcome' : Outcome) :
    ((((p.woken ++ s :: p.spawned).foldl View.poll (w.deliver d outcome)).deliver d' outcome').poll
      s').Depicts n m
      (p.performAll [.deliver d outcome, .run, .deliver d' outcome', .run]) := by
  obtain ⟨hw₁, hwoken₁, hspawned₁⟩ := hw.perform_deliver hp hs hd outcome
  have hw₂ := hw₁.perform_run (hp.perform _) hclosed
  rw [hwoken₁, hspawned₁, List.append_assoc, List.singleton_append] at hw₂
  have hawaits : ((p.woken ++ s :: p.spawned).foldl View.poll (w.deliver d outcome)).Awaits s' c'
      h' d' := Awaits.polls (w := w.deliver d outcome) hs' hqueue
  have hpending : ((p.woken ++ s :: p.spawned).foldl View.poll
      (w.deliver d outcome)).transport.isPending d' = true := by
    rwa [isPending_polls, View.deliver, MockTransport.isPending_settle_of_ne _ hne.symm]
  obtain ⟨hw₃, hwoken₃, hspawned₃⟩ :=
    hw₂.perform_deliver ((hp.perform _).perform _) hawaits hpending outcome'
  obtain ⟨hwoken₂, hspawned₂⟩ := perform_run_queues (p.perform (.deliver d outcome)).1
  have hrun := hw₃.perform_run (((hp.perform _).perform _).perform _)
    (Closed.polls (w := w.deliver d outcome) hclosed _)
  rw [hwoken₃, hspawned₃, hwoken₂, hspawned₂] at hrun
  exact hrun

end Depicts

end View

/-! ## Alike pages -/

/-- `w.pieceHtml piece` is a piece of a document as markup. -/
def View.pieceHtml (w : View) : Piece → String
  | .markup html => html
  | .host h => hostHtml (w.host h).attributes (w.host h).contents.html
  | .fresh attributes contents => hostHtml attributes contents.html

namespace Page

/-- `p.eventsOf d` lists the events that reached the document `d`. -/
def eventsOf (p : Page) (d : DocumentId) : List Notification :=
  ((p.document? d).map (·.events)).getD []

/-- `p.pieces n d` lists the children of the document `d`, with the first `n` hosts by their ids and
the others by their attributes, their contents and their form. -/
def pieces (p : Page) (n : Nat) (d : DocumentId) : Option (List Piece) :=
  (p.document? d).map fun doc => doc.children.map (p.piece n)

/-- `Alike n m q r`: `q` and `r` agree on the first `n` hosts and `m` components. -/
structure Alike (n m : Nat) (q r : Page) : Prop where
  html : ∀ d, q.html d = r.html d
  children : ∀ d, q.pieces n d = r.pieces n d
  events : ∀ d, (q.eventsOf d).Perm (r.eventsOf d)
  /-- The hosts have the same attributes and contents, are connected to the same documents and had
  the same events dispatched. -/
  hosts : ∀ h : HostId, h < n → (q.hosts[h]?).map q.hostView = (r.hosts[h]?).map r.hostView
  /-- The same components are present, with the same state, configuration and number of
  replacements, and attached or not alike. -/
  components : ∀ c : ComponentId, c < m →
    (q.component? c).map Component.view = (r.component? c).map Component.view
  requests : q.transport.requests = r.transport.requests

end Page

namespace View.Depicts

open Page

variable {w : View} {n m : Nat} {p q r : Page}

/-- `html` of a document, from a view of the page. -/
theorem html_eq (hw : w.Depicts n m p) (d : DocumentId) :
    p.html d = String.join ((((w.document d).map (·.pieces)).getD []).map w.pieceHtml) := by
  rw [hw.document, html]
  cases hdoc : p.document? d with
  | none => rfl
  | some doc =>
    simp only [Option.map_some, Option.getD_some, documentView, List.map_map]
    congr 1
    refine List.map_congr_left fun child hchild => ?_
    cases child with
    | markup html => rfl
    | host h =>
      have hh := hw.childrenKnown d doc hdoc h hchild
      have hhost := List.getElem?_eq_getElem hh
      have hinner : p.innerHtml h = (p.contents p.hosts[h].content).html := by
        simp only [innerHtml, hhost, Option.map_some]
        cases p.hosts[h].content <;> rfl
      simp only [childHtml, outerHtml, hinner, hhost, Option.map_some, Option.getD_some,
        Function.comp_apply, piece]
      split
      · rename_i hn
        simp only [pieceHtml, hw.host h _ hn hhost, hostView]
      · rfl

/-- `heldByPipeline`, from a view of the page. -/
theorem heldByPipeline_iff (hw : w.Depicts n m p) (c : ComponentId) :
    p.heldByPipeline c = true ↔
      ∃ s pipe, w.pipeline s = some pipe ∧ pipe.stage ≠ .finished ∧ pipe.owner = c := by
  rw [Page.heldByPipeline_iff]
  constructor
  · rintro ⟨s, pipe, hpipe, hopen, hown⟩
    have hview : w.pipeline s = some (p.pipelineView pipe) := by
      rw [hw.pipeline, hpipe]
      rfl
    exact ⟨s, p.pipelineView pipe, hview, (p.isOpen_iff pipe).mp hopen, hown⟩
  · rintro ⟨s, pipe', hpipe', hstage, rfl⟩
    rw [hw.pipeline] at hpipe'
    obtain ⟨pipe, hpipe, rfl⟩ := Option.map_eq_some_iff.mp hpipe'
    exact ⟨s, pipe, hpipe, (p.isOpen_iff pipe).mpr hstage, rfl⟩

/-- Two pages with the same view are `Alike`, if the same components are present. -/
theorem alike (hq : w.Depicts n m q) (hr : w.Depicts n m r)
    (hthere : ∀ c, c < m → (q.component? c).isSome = (r.component? c).isSome) :
    Alike n m q r where
  html d := by rw [hq.html_eq, hr.html_eq]
  children d := by
    have hsame := congrArg (Option.map DocumentView.pieces)
      ((hq.document d).symm.trans (hr.document d))
    rwa [Option.map_map, Option.map_map] at hsame
  events d := by
    have hsame := congrArg (Option.map DocumentView.events)
      ((hq.document d).symm.trans (hr.document d))
    rw [Option.map_map, Option.map_map] at hsame
    unfold eventsOf
    cases hdoc : q.document? d with
    | none =>
      cases hdoc' : r.document? d with
      | none => exact .refl _
      | some doc' =>
        rw [hdoc, hdoc'] at hsame
        cases hsame
    | some doc =>
      cases hdoc' : r.document? d with
      | none =>
        rw [hdoc, hdoc'] at hsame
        cases hsame
      | some doc' =>
        rw [hdoc, hdoc'] at hsame
        exact Multiset.coe_eq_coe.mp (Option.some.inj hsame)
  hosts h hh := by
    obtain ⟨host, hget, hview⟩ := hq.exists_host hh
    obtain ⟨host', hget', hview'⟩ := hr.exists_host hh
    rw [hget, hget', Option.map_some, Option.map_some, ← hview, ← hview']
  components c hc := by
    have hsame := hthere c hc
    cases hk : q.component? c with
    | none =>
      cases hk' : r.component? c with
      | none => rfl
      | some k' =>
        rw [hk, hk'] at hsame
        cases hsame
    | some k =>
      cases hk' : r.component? c with
      | none =>
        rw [hk, hk'] at hsame
        cases hsame
      | some k' =>
        rw [Option.map_some, Option.map_some, ← hq.component c k hc hk,
          ← hr.component c k' hc hk']
  requests := by rw [← hq.transport, ← hr.transport]

end View.Depicts

namespace Page

/-- `p.AwaitsReply c d`: the pipeline in flight of `c` is pending on the deferred reply `d`. -/
def AwaitsReply (p : Page) (c : ComponentId) (d : DeferredId) : Prop :=
  p.transport.isPending d = true ∧ ∃ s, p.LiveAt c s ∧ p.replyOf s = some d

instance (p : Page) (c : ComponentId) (d : DeferredId) : Decidable (p.AwaitsReply c d) :=
  decidable_of_iff (p.transport.isPending d = true ∧ ∃ pipe ∈ p.pipelines,
      (pipe.owner = c ∧ pipe.isLive = true) ∧ pipe.stage.reply? = some d) <| by
    simp only [AwaitsReply, LiveAt, replyOf, List.mem_iff_getElem?, Option.bind_eq_some_iff]
    refine and_congr_right fun _ => ⟨?_, ?_⟩
    · rintro ⟨pipe, ⟨s, hs⟩, ⟨hown, hlive⟩, hd⟩
      exact ⟨s, ⟨pipe, hs, hown, hlive⟩, pipe, hs, hd⟩
    · rintro ⟨s, ⟨pipe, hs, hown, hlive⟩, pipe', hs', hd⟩
      rw [hs] at hs'
      cases hs'
      exact ⟨pipe, ⟨s, hs⟩, ⟨hown, hlive⟩, hd⟩

/-- `p.StartedOn h`: a component on `h` has a pipeline that was never polled. -/
def StartedOn (p : Page) (h : HostId) : Prop :=
  ∃ s ∈ p.spawned, ∃ c k, p.LiveAt c s ∧ p.component? c = some k ∧ k.host = h

instance (p : Page) (h : HostId) : Decidable (p.StartedOn h) :=
  decidable_of_iff (∃ s ∈ p.spawned, ((p.pipelines[s]?).any fun pipe =>
      pipe.isLive && (p.component? pipe.owner).any fun k => k.host == h) = true) <| by
    simp only [StartedOn, LiveAt, Option.any_eq_true, Bool.and_eq_true, beq_iff_eq]
    refine exists_congr fun s => and_congr_right fun _ => ⟨?_, ?_⟩
    · rintro ⟨pipe, hpipe, hlive, k, hk, hh⟩
      exact ⟨pipe.owner, k, ⟨pipe, hpipe, rfl, hlive⟩, hk, hh⟩
    · rintro ⟨_, k, ⟨pipe, hpipe, rfl, hlive⟩, hk, hh⟩
      exact ⟨pipe, hpipe, hlive, k, hk, hh⟩

section Alike

variable {p : Page} {s : PipelineId} {c : ComponentId} {k : Component} {d : DeferredId}

/-- Two runs of sparing actions that end in the same view end in `Alike` pages. -/
theorem alike_of_depicts (hp : p.Reachable) {w : View} {one two : List Action}
    (hone : ∀ a ∈ one, a.isSparing = true) (htwo : ∀ a ∈ two, a.isSparing = true)
    (hw : w.Depicts p.hosts.length p.components.length (p.performAll one))
    (hw' : w.Depicts p.hosts.length p.components.length (p.performAll two)) :
    Alike p.hosts.length p.components.length (p.performAll one) (p.performAll two) := by
  refine hw.alike hw' fun c hc => ?_
  have hworks : (p.performAll one).heldByPipeline = (p.performAll two).heldByPipeline := by
    funext d
    rw [Bool.eq_iff_iff, hw.heldByPipeline_iff, hw'.heldByPipeline_iff]
  rw [Bool.eq_iff_iff, isSome_performAll_iff hp hone hc, isSome_performAll_iff hp htwo hc, hworks]

theorem view_awaits (hs : p.LiveAt c s) (hd : p.replyOf s = some d)
    (hk : p.component? c = some k) : p.view.Awaits s c k.host d := by
  obtain ⟨pipe, hpipe, rfl, hlive⟩ := hs
  have ha : pipe.aborted = false := (Pipeline.isLive_iff.mp hlive).2
  rw [replyOf, hpipe, Option.bind_some] at hd
  refine ⟨by simp [view, hk, Component.view], ?_⟩
  cases hstage : pipe.stage with
  | awaiting call payload =>
    rw [hstage] at hd
    cases call with
    | unsent => cases hd
    | awaiting e =>
      cases hd
      exact ⟨payload, by simp [view, hpipe, pipelineView, hstage, stageView, ha]⟩
  | accepted | settling | finished =>
    rw [hstage] at hd
    cases hd

/-- The reply that a pipeline is pending on is `Reserved` for it. -/
theorem Reachable.view_reserved (hp : p.Reachable) (hd : p.replyOf s = some d) :
    p.view.Reserved s d := by
  refine ⟨(hp.waits.replies.taken s d hd).1, fun t pipe' hpipe' hreply => ?_⟩
  obtain ⟨pipe, hpipe, rfl⟩ := Option.map_eq_some_iff.mp hpipe'
  refine hp.waits.replies.distinct t s d ?_ hd
  rw [replyOf, hpipe, Option.bind_some, ← hreply]
  simp only [pipelineView]
  cases pipe.stage with
  | awaiting call => cases call <;> rfl
  | accepted | settling | finished => rfl

/-- Pipelines that were never polled are `Apart` from a host on which none of them was started. -/
theorem Visited.view_apart (hp : p.Visited) (hk : p.component? c = some k)
    (hnone : ¬ p.StartedOn k.host) {t : PipelineId} (ht : t ∈ p.spawned) :
    p.view.Apart c k.host t := by
  intro pipe' hpipe'
  obtain ⟨pipe, hpipe, rfl⟩ := Option.map_eq_some_iff.mp hpipe'
  by_cases hlive : pipe.isLive = true
  · -- it belongs to a component on another host
    right
    have hopen := (Pipeline.isLive_iff.mp hlive).1
    obtain ⟨k', hk'⟩ := Option.isSome_iff_exists.mp (hp.inStep.owned t pipe hpipe hopen)
    have hne : k'.host ≠ k.host := fun heq =>
      hnone ⟨t, ht, pipe.owner, k', ⟨pipe, hpipe, rfl, hlive⟩, hk', heq⟩
    refine ⟨fun heq => ?_, by simpa [view, pipelineView, hk', Component.view] using hne⟩
    have heq : pipe.owner = c := heq
    rw [heq, hk] at hk'
    cases hk'
    exact hne rfl
  · -- it was aborted or has ended
    left
    by_cases ha : pipe.aborted = true
    · exact .inl ha
    · right
      by_contra hstage
      have hopen : pipe.isOpen = true := (p.isOpen_iff pipe).mpr hstage
      exact hlive (by simp [Pipeline.isLive, hopen, ha])

/-- A run between the two replies leads to the same view. -/
theorem Reachable.depicts_split (hp : p.Reachable) {s' : PipelineId} {c' : ComponentId}
    {k' : Component} {d' : DeferredId} (hk : p.component? c = some k)
    (hk' : p.component? c' = some k') (hs : p.LiveAt c s) (hs' : p.LiveAt c' s')
    (hd : p.replyOf s = some d) (hd' : p.replyOf s' = some d') (hne : d ≠ d')
    (hpending : p.transport.isPending d = true) (hpending' : p.transport.isPending d' = true)
    (hnone : ¬ p.StartedOn k'.host) (outcome outcome' : Outcome) :
    ((p.woken ++ s :: s' :: p.spawned).foldl View.poll
      ((p.view.deliver d outcome).deliver d' outcome')).Depicts p.hosts.length
      p.components.length
      (p.performAll [.deliver d outcome, .run, .deliver d' outcome', .run]) := by
  have hw := hp.visited.depicts
  have hawaits := view_awaits hs hd hk
  have hawaits' := view_awaits hs' hd' hk'
  have hunqueued := hp.pendingUnqueued s' d' hd' (hw.awaits hawaits').2 hpending'
  have hss : s' ≠ s := by
    rintro rfl
    rw [hd] at hd'
    exact hne (Option.some.inj hd')
  have hbefore : s' ∉ p.woken ++ [s] := by simp [hunqueued.1, hss]
  have hqueue : s' ∉ p.woken ++ s :: p.spawned := by simp [hunqueued.1, hunqueued.2, hss]
  have heach := hw.run_after_each hp hp.visited.closed hawaits hawaits' hne hpending hpending'
    hqueue outcome outcome'
  -- in the run between the replies the new pipelines are polled, none of them on the host
  have hapart : ∀ t ∈ p.spawned, (p.view.deliver d outcome).Apart c' k'.host t := fun t ht =>
    hp.visited.view_apart hk' hnone ht
  have hsplit := View.polls_split (w := p.view.deliver d outcome) (l := p.woken ++ [s]) hawaits'
    (hp.view_reserved hd') hbefore hunqueued.2 hapart outcome'
  rw [List.append_assoc, List.append_assoc, List.singleton_append, List.singleton_append] at hsplit
  rwa [hsplit] at heach

end Alike

/-- The replies that two components on different hosts are pending on can be delivered in either
order. After a run the two pages are `Alike` in all hosts and components that existed before. A run
between the replies makes no difference either, if no pipeline that was never polled was started on
the host of the component whose reply is delivered last. -/
theorem responses_commute {p : Page} (hp : p.Reachable) {c c' : ComponentId} {k k' : Component}
    {d d' : DeferredId} (hk : p.component? c = some k) (hk' : p.component? c' = some k')
    (hhost : k.host ≠ k'.host) (hc : p.AwaitsReply c d) (hc' : p.AwaitsReply c' d')
    (hne : d ≠ d') (outcome outcome' : Outcome) :
    let together := p.performAll [.deliver d outcome, .deliver d' outcome', .run]
    Alike p.hosts.length p.components.length together
        (p.performAll [.deliver d' outcome', .deliver d outcome, .run]) ∧
      (¬ p.StartedOn k'.host → Alike p.hosts.length p.components.length together
        (p.performAll [.deliver d outcome, .run, .deliver d' outcome', .run])) ∧
      (¬ p.StartedOn k.host → Alike p.hosts.length p.components.length together
        (p.performAll [.deliver d' outcome', .run, .deliver d outcome, .run])) := by
  obtain ⟨hpending, s, hs, hd⟩ := hc
  obtain ⟨hpending', s', hs', hd'⟩ := hc'
  have hw := hp.visited.depicts
  have hclosed := hp.visited.closed
  have hawaits := view_awaits hs hd hk
  have hawaits' := view_awaits hs' hd' hk'
  have hss : s ≠ s' := by
    rintro rfl
    rw [hd] at hd'
    exact hne (Option.some.inj hd')
  have hboth := hw.run_after_both hp hclosed hawaits hawaits' hne hpending hpending' outcome
    outcome'
  -- the polls of the two pipelines commute, and so do the deliveries
  have hswap := View.polls_swap (w := (p.view.deliver d outcome).deliver d' outcome')
    hawaits hawaits' hhost hss (hp.pendingUnqueued s d hd (hw.awaits hawaits).2 hpending).1
    (hp.pendingUnqueued s' d' hd' (hw.awaits hawaits').2 hpending').1 p.spawned
  rw [View.deliver_comm hne] at hswap
  have halike {actions : List Action} (ha : ∀ a ∈ actions, a.isSparing = true) :=
    alike_of_depicts hp (by simp [Action.isSparing]) ha hboth
  refine ⟨halike (by simp [Action.isSparing]) ?_,
    fun hnone => halike (by simp [Action.isSparing]) ?_,
    fun hnone => halike (by simp [Action.isSparing]) ?_⟩
  · rw [View.deliver_comm hne, hswap]
    exact hw.run_after_both hp hclosed hawaits' hawaits hne.symm hpending' hpending outcome'
      outcome
  · exact hp.depicts_split hk hk' hs hs' hd hd' hne hpending hpending' hnone outcome outcome'
  · rw [View.deliver_comm hne, hswap]
    exact hp.depicts_split hk' hk hs' hs hd' hd hne.symm hpending' hpending hnone outcome' outcome

/-- The first component's host is replaced by a new one, on which a replacement is mounted; the
second one gets new contents. A third one has just started a pipeline, on a third host. -/
theorem responses_commute_mounting :
    let p := performAll {} [.newForm { action := "/first", method := "post" },
      .newHost [] (some 0) none false, .append 0 0, .createWith 0 {}, .attach 0,
      .newForm { action := "/second", method := "post" }, .newHost [] (some 1) none false,
      .append 0 1, .createWith 1 { swap := .inner, delay := .ofMillis 5 }, .attach 1,
      .newForm { action := "/third", method := "post" }, .newHost [] (some 2) none false,
      .append 0 2, .createWith 2 { swap := .inner }, .attach 2,
      .defer, .defer, .handleSubmit 0 none, .handleSubmit 1 none, .run,
      .reply (.ok ⟨.ok, "<p>Third</p>"⟩), .handleSubmit 2 none]
    let first : Outcome := .ok
      ⟨.ok, "<ajax-form><form action=\"/next\" method=\"post\"></form></ajax-form>"⟩
    let second : Outcome := .ok ⟨.ok, "<p>Second</p>"⟩
    let together := p.performAll [.deliver 0 first, .deliver 1 second, .run]
    p.AwaitsReply 0 0 ∧ p.AwaitsReply 1 1 ∧ p.StartedOn 2 ∧
      Alike 3 3 together (p.performAll [.deliver 1 second, .deliver 0 first, .run]) ∧
      Alike 3 3 together (p.performAll [.deliver 0 first, .run, .deliver 1 second, .run]) ∧
      Alike 3 3 together (p.performAll [.deliver 1 second, .run, .deliver 0 first, .run]) := by
  intro p first second together
  have hany : ((p.component? 0).any fun k => k.host == 0) = true := by decide +kernel
  have hany' : ((p.component? 1).any fun k => k.host == 1) = true := by decide +kernel
  obtain ⟨k, hk, hhost⟩ := (Option.any_eq_true _ _).mp hany
  obtain ⟨k', hk', hhost'⟩ := (Option.any_eq_true _ _).mp hany'
  rw [beq_iff_eq] at hhost hhost'
  have hc : p.AwaitsReply 0 0 := by decide +kernel
  have hc' : p.AwaitsReply 1 1 := by decide +kernel
  obtain ⟨hswap, hsplit, hsplit'⟩ := responses_commute (p := p) ⟨_, rfl⟩ hk hk'
    (by rw [hhost, hhost']; decide) hc hc' (by decide) first second
  have hsizes : p.hosts.length = 3 ∧ p.components.length = 3 := by decide +kernel
  rw [hsizes.1, hsizes.2] at hswap hsplit hsplit'
  exact ⟨hc, hc', by decide +kernel, hswap, hsplit (by rw [hhost']; decide +kernel),
    hsplit' (by rw [hhost]; decide +kernel)⟩

/-- A third component shares the host of the second one and has just started a pipeline. With a run
between the replies, its response is swapped in before that of the second component, and after it
otherwise. -/
theorem run_between_responses_matters :
    let p := performAll {} [.newForm { action := "/first", method := "post" },
      .newHost [] (some 0) none false, .append 0 0, .createWith 0 { swap := .inner }, .attach 0,
      .newForm { action := "/second", method := "post" }, .newHost [] (some 1) none false,
      .append 0 1, .createWith 1 { swap := .inner }, .attach 1,
      .createWith 1 { swap := .inner }, .attach 2,
      .defer, .defer, .handleSubmit 0 none, .handleSubmit 1 none, .run,
      .reply (.ok ⟨.ok, "<p>Third</p>"⟩), .handleSubmit 2 none]
    let first : Outcome := .ok ⟨.ok, "<p>First</p>"⟩
    let second : Outcome := .ok ⟨.ok, "<p>Second</p>"⟩
    (p.component? 0).map (·.host) = some 0 ∧ (p.component? 1).map (·.host) = some 1 ∧
      p.AwaitsReply 0 0 ∧ p.AwaitsReply 1 1 ∧
      (p.performAll [.deliver 0 first, .deliver 1 second, .run]).html 0 ≠
        (p.performAll [.deliver 0 first, .run, .deliver 1 second, .run]).html 0 := by
  decide +kernel

end Page

end FormSwap
